import DemandPaging.Proofs.Habits
import DemandPaging.Proofs.HeldBytes
import DemandPaging.Proofs.SamePins

/-! Copies to and from user memory are exact, and all or nothing. A copy that succeeds has written, or read,
just the bytes of its range; one that fails has written nothing. Either way all pins are as before. Bytes that
the kernel wrote to pages of files through their frames are an exception: they may be lost meanwhile. -/
namespace DemandPaging
open Architecture (Lawful)

section
variable [Architecture]

namespace Kernel

/-- Fills a buffer from pieces, one behind another. -/
def fillFromPieces (space : SpaceId) : List Piece → Nat → Bytes → Kernel Bytes
  | [], _, buffer => return buffer
  | piece :: rest, place, buffer => do
      let part ← readPiece space piece
      fillFromPieces space rest (place + piece.length) (buffer.patch place part)

def fillBuffer (others : Interference) (space : SpaceId) (source : VirtualAddress) (buffer : Bytes) :
    Kernel (Except FaultError Unit × Bytes) := do
  match ← (pinRange others space source buffer.length .read).run with
  | .error error => return (.error error, buffer)
  | .ok guard =>
      let filled ← fillFromPieces space (guard.pieces source buffer.length) 0 buffer
      dropGuard guard
      return (.ok (), filled)

end Kernel

/-- A copy to user memory was exact: either its range holds just what was copied, and what other addresses
held they hold still, or else nothing has changed. -/
structure Machine.CopiedTo (machine : Machine) (space : SpaceId) (target : VirtualAddress) (bytes : Bytes)
    (result : Except FaultError Unit) (next : Machine) : Prop where
  exact : result = .ok () → ∀ place < bytes.length,
    next.heldByte? space (target.offset place) = bytes[place]?
  kept : ∀ {owner addr byte}, machine.heldByte? owner addr = some byte →
    ¬(result = .ok () ∧ owner = space ∧ target.value ≤ addr.value ∧
      addr.value < target.value + bytes.length) →
    next.heldByte? owner addr = some byte ∨ machine.Forgets next owner addr
  pins : machine.SamePins next

/-- A copy from user memory was exact: either what was copied is what the range holds, and fills the buffer,
or else the buffer is as it was. Nothing that pages hold has changed. -/
structure Machine.CopiedFrom (machine : Machine) (others : Interference) (space : SpaceId)
    (source : VirtualAddress) (buffer : Bytes) (result : Except FaultError Bytes) (next : Machine) :
    Prop where
  exact : ∀ {bytes}, result = .ok bytes → bytes.length = buffer.length ∧ ∀ place < buffer.length,
    ∃ byte, bytes[place]? = some byte ∧ next.heldByte? space (source.offset place) = some byte
  filled : Kernel.fillBuffer others space source buffer machine = .ok (match result with
    | .ok bytes => (.ok (), bytes)
    | .error error => (.error error, buffer)) next
  kept : ∀ {owner addr byte}, machine.heldByte? owner addr = some byte →
    next.heldByte? owner addr = some byte ∨ machine.Forgets next owner addr
  pins : machine.SamePins next

theorem Machine.Forgets.of_spaces {machine mid next : Machine} {space : SpaceId} {addr : VirtualAddress}
    (forgets : machine.Forgets mid space addr) (spaces : next.spaces = mid.spaces) :
    machine.Forgets next space addr := by
  obtain ⟨page, after, found, there, rest⟩ := forgets
  exact ⟨page, after, found, by rwa [Machine.registry, Machine.space, spaces], rest⟩

/-! After a range was pinned. -/

/-- Pages are where they were, with the bytes they held, but they may be marked otherwise. -/
structure Machine.Unmoved (machine next : Machine) : Prop where
  memory : next.memory = machine.memory
  swap : next.swap = machine.swap
  files : next.files = machine.files
  pages : ∀ {space addr page}, (machine.registry space).pages.get? addr = some page →
    ∃ pinned, (next.registry space).pages.get? addr = some { page with pinned }

namespace Machine.Unmoved
variable {a b c : Machine} {space : SpaceId} {addr : VirtualAddress} {byte : UInt8}

theorem trans (first : a.Unmoved b) (second : b.Unmoved c) : a.Unmoved c where
  memory := second.memory.trans first.memory
  swap := second.swap.trans first.swap
  files := second.files.trans first.files
  pages found := by
    obtain ⟨_, there⟩ := first.pages found
    obtain ⟨pinned, after⟩ := second.pages there
    exact ⟨pinned, after⟩

theorem held (unmoved : a.Unmoved b) (held : a.heldByte? space addr = some byte) :
    b.heldByte? space addr = some byte := by
  obtain ⟨page, found, here⟩ := Option.bind_eq_some_iff.1 held
  obtain ⟨pinned, there⟩ := unmoved.pages found
  refine Option.bind_eq_some_iff.2 ⟨_, there, ?_⟩
  have same : b.heldAt { page with pinned } addr.pageOffset = a.heldAt page addr.pageOffset := by
    unfold Machine.heldAt Machine.originalByte Machine.file
    rw [unmoved.memory, unmoved.swap, unmoved.files]
  exact same.trans here

theorem forgets {machine : Machine} (unmoved : a.Unmoved b) (forgets : machine.Forgets a space addr) :
    machine.Forgets b space addr := by
  obtain ⟨page, after, found, there, exposed, older⟩ := forgets
  obtain ⟨_, moved⟩ := unmoved.pages there
  exact ⟨page, _, found, moved, exposed, older⟩

end Machine.Unmoved

namespace Kernel
variable {space : SpaceId} {pieces : List Piece} {machine next : Machine}

theorem run_last_ok {f : Kernel α} {result : Except FaultError α} :
    (liftM f : Faulting α).run machine = .ok result next ↔ ∃ a, result = .ok a ∧ f machine = .ok a next := by
  change (ExceptT.lift f : Faulting α).run machine = .ok result next ↔ _
  rw [ExceptT.run_lift, ← bind_pure_comp, bind_ok]
  constructor
  · rintro ⟨a, mid, ran, ended⟩
    obtain ⟨rfl, rfl⟩ := pure_ok.1 ended
    exact ⟨a, rfl, ran⟩
  · rintro ⟨a, rfl, ran⟩
    exact ⟨a, next, ran, rfl⟩

theorem writePieces_same {bytes : Bytes} {u : Unit}
    (ran : writePieces space pieces bytes machine = .ok u next) :
    next.spaces = machine.spaces ∧ next.files = machine.files := by
  induction pieces generalizing bytes machine with
  | nil =>
    obtain ⟨_, rfl⟩ := pure_ok.1 ran
    exact ⟨rfl, rfl⟩
  | cons piece rest ih =>
    simp only [writePieces, bind_ok, writeFrame_ok, setAccessed, setDirty, modify_ok] at ran
    obtain ⟨_, _, ⟨memory, _, rfl⟩, _, _, rfl, _, _, rfl, ran⟩ := ran
    obtain ⟨spaces, files⟩ := ih ran
    exact ⟨spaces, files⟩

theorem readPiece_same {piece : Piece} {part : Bytes} (ran : readPiece space piece machine = .ok part next) :
    machine.Unmoved next := by
  simp only [readPiece, bind_ok, readFrame_ok, setAccessed, modify_ok, pure_ok] at ran
  obtain ⟨_, _, ⟨_, rfl⟩, _, _, rfl, _, rfl⟩ := ran
  exact ⟨rfl, rfl, rfl, fun {_ _ page} found => ⟨page.pinned, found⟩⟩

/-- Reading pieces moves no page, and the parts that are read fill a buffer. -/
theorem readPieces_fill {parts : List Bytes}
    (ran : (pieces.mapM fun piece => (readPiece space piece : Faulting Bytes)).run machine =
      .ok (.ok parts) next)
    (lengths : List.Forall₂ (fun piece part => part.length = piece.length) pieces parts)
    {place : Nat} {buffer : Bytes} (fits : place + parts.flatten.length ≤ buffer.length) :
    machine.Unmoved next ∧ fillFromPieces space pieces place buffer machine =
      .ok (buffer.patch place parts.flatten) next := by
  induction pieces generalizing machine parts place buffer with
  | nil =>
    rw [List.mapM_nil] at ran
    obtain ⟨same, rfl⟩ := run_pure_ok.1 ran
    cases same
    refine ⟨⟨rfl, rfl, rfl, fun {_ _ page} found => ⟨page.pinned, found⟩⟩, ?_⟩
    rw [List.flatten_nil, Bytes.patch, List.nil_append, List.length_nil, Nat.add_zero, List.take_append_drop]
    rfl
  | cons piece rest ih =>
    rw [List.mapM_cons] at ran
    obtain ⟨part, mid, here, ran⟩ := run_lift_ok.1 ran
    obtain ⟨later, _, others, ran⟩ := run_bind_ok.1 ran
    obtain ⟨same, rfl⟩ := run_pure_ok.1 ran
    cases same
    obtain ⟨long, lengths⟩ := List.forall₂_cons.1 lengths
    rw [List.flatten_cons, List.length_append] at fits
    have inside : place + part.length ≤ buffer.length := by omega
    have room : (place + piece.length) + later.flatten.length ≤ (buffer.patch place part).length := by
      rw [Bytes.length_patch inside, ← long]
      omega
    obtain ⟨unmoved, filled⟩ := ih others lengths room
    refine ⟨(readPiece_same here).trans unmoved, bind_ok.2 ⟨part, mid, here, ?_⟩⟩
    rw [List.flatten_cons, ← Bytes.patch_patch inside, long]
    exact filled

end Kernel

/-- A pin that is dropped clears the mark of a page at most. -/
theorem Machine.registry_unpin_cases (machine : Machine) (space other : SpaceId) (frame : FrameNumber) :
    (machine.unpin space frame).registry other = machine.registry other ∨
      (other = space ∧
        (machine.unpin space frame).registry other = (machine.registry space).unpinFrame frame) := by
  unfold unpin
  dsimp only
  split
  · split
    · exact .inl rfl
    · exact machine.registry_setRegistry_cases space other _
  · exact .inl rfl

variable [Lawful]

/-- Pins that are dropped move no page. -/
theorem Path.unmoved {start stop : Moment} (path : Path (· = .unpin) start stop)
    (consistent : Consistent start) : start.machine.Unmoved stop.machine := by
  let claim : Moment → Prop := fun now => Consistent now ∧ start.machine.Unmoved now.machine
  have kept : claim stop := path.keeps claim
    ⟨consistent, rfl, rfl, rfl, fun {_ _ page} found => ⟨page.pinned, found⟩⟩
    fun {act before after} only move ⟨consistent, unmoved⟩ => by
      refine ⟨consistent.move move, unmoved.trans ?_⟩
      subst only
      cases move with
      | @unpin flights pins machine pin =>
        refine ⟨machine.memory_unpin .., machine.swap_unpin .., machine.files_unpin ..,
          fun {space addr page} found => ?_⟩
        rcases machine.registry_unpin_cases pin.space space pin.frame with same | ⟨rfl, same⟩
        · rw [same]
          exact ⟨page.pinned, found⟩
        · rw [same]
          rcases Registry.get?_unpinFrame (consistent.sound pin.space) pin.frame addr with kept | cleared
          · exact ⟨page.pinned, kept.trans found⟩
          · obtain ⟨other, there, _, now⟩ := cleared
            cases found.symm.trans there
            exact ⟨false, now⟩
  exact kept.2

variable {exposed : Exposed} {written : Written} {machine next : Machine} {space : SpaceId}
  {guard : PinGuard} {others : Interference}

omit [Lawful] in
/-- Every address of a range is in one of its pieces. -/
theorem Tiles.covers {first : VirtualAddress} {length : Nat} {pieces : List Piece}
    (tiles : Tiles first length pieces) {place : Nat} (within : place < length) :
    ∃ piece ∈ pieces, ∃ inner < pageSize, first.offset place = piece.page.offset inner := by
  induction tiles generalizing place with
  | nil => exact absurd within (Nat.not_lt_zero place)
  | @cons piece rest length fits further ih =>
    rw [VirtualAddress.offset_offset]
    by_cases early : place < piece.length
    · exact ⟨piece, .head _, piece.offset + place, by omega, rfl⟩
    · obtain ⟨other, member, inner, near, same⟩ := ih (show place - piece.length < length by omega)
      refine ⟨other, .tail _ member, inner, near, ?_⟩
      rw [← same, VirtualAddress.offset_offset]
      exact congrArg piece.page.offset (by omega)

/-- The guard of a call is dropped: its pages stay where they are. -/
theorem Faithful.drops (faithful : Faithful exposed written ⟨{ pins := guard.pins + 0 }, machine⟩) {u : Unit}
    (ran : Kernel.dropGuard guard machine = .ok u next) : machine.Unmoved next := by
  have consistent : Consistent ⟨⟨[], guard.pins + 0⟩, machine⟩ := faithful.toConsistent
  obtain ⟨last, ended, path⟩ := Kernel.dropGuard_ends consistent
  cases ended.symm.trans ran
  exact path.unmoved consistent

/-- Bytes that are written into a range that was pinned are what it holds, and other addresses hold what they
held. -/
theorem Faithful.puts {target : VirtualAddress} {bytes : Bytes}
    (faithful : Faithful exposed written ⟨{ pins := guard.pins + 0 }, machine⟩)
    (tiles : Tiles target bytes.length (guard.pieces target bytes.length))
    (seated : ∀ piece ∈ guard.pieces target bytes.length, machine.Seats space piece) {u : Unit}
    (ran : Kernel.writePieces space (guard.pieces target bytes.length) bytes machine = .ok u next) :
    Faithful (machine.exposed machine.altered) (machine.altered.put space target bytes)
        ⟨{ pins := guard.pins + 0 }, next⟩ ∧
      (∀ place < bytes.length, next.heldByte? space (target.offset place) = bytes[place]?) ∧
      ∀ {owner addr byte}, machine.heldByte? owner addr = some byte →
        ¬(owner = space ∧ target.value ≤ addr.value ∧ addr.value < target.value + bytes.length) →
        next.heldByte? owner addr = some byte := by
  have stored := faithful.renewed.writes tiles seated ran
  obtain ⟨spaces, files⟩ := Kernel.writePieces_same ran
  have sound : ∀ space, (machine.registry space).Sound := faithful.sound
  have registry : ∀ owner, next.registry owner = machine.registry owner := fun owner => by
    rw [Machine.registry, Machine.registry, Machine.space, Machine.space, spaces]
  have original : ∀ backing place, next.originalByte backing place = machine.originalByte backing place :=
    fun backing place => by
      unfold Machine.originalByte Machine.file
      rw [files]
  -- A page that is registered is in a frame still if it was, so its bytes can be had.
  have holds : ∀ {owner addr page}, (machine.registry owner).lookup addr = some page →
      next.heldByte? owner addr =
        (machine.altered.put space target bytes owner addr).or
          (machine.originalByte page.backing addr.pageOffset) := by
    intro owner addr page found
    have there : (next.registry owner).lookup addr = some page := by
      rw [registry]
      exact found
    rw [stored.holds there (machine.spares_exposed sound found), Machine.byte?, there, ← original]
    rfl
  refine ⟨stored, fun place within => ?_, fun {owner addr byte} held outside => ?_⟩
  · obtain ⟨piece, member, inner, near, same⟩ := tiles.covers within
    obtain ⟨page, found, _⟩ := seated piece member
    have found : (machine.registry space).lookup (target.offset place) = some page := by
      rw [same, Registry.lookup, VirtualAddress.pageBase_offset ((sound space).aligned found) near]
      exact found
    have put : machine.altered.put space target bytes space (target.offset place) = bytes[place]? := by
      unfold Written.put VirtualAddress.offset
      rw [if_pos ⟨rfl, Nat.le_add_right _ _, Nat.add_lt_add_left within _⟩, Nat.add_sub_cancel_left]
    rw [holds found, put, List.getElem?_eq_getElem within]
    rfl
  · obtain ⟨page, found, _⟩ := Option.bind_eq_some_iff.1 held
    have put : machine.altered.put space target bytes owner addr = machine.altered owner addr := by
      unfold Written.put
      exact if_neg outside
    rw [holds found, put, ← held, faithful.renewed.holds found (machine.spares_exposed sound found),
      Machine.byte?, found]
    rfl

/-- Bytes that are read from a range that was pinned are what it holds. -/
theorem Faithful.gets {source : VirtualAddress} {buffer : Bytes} {result : Except FaultError (List Bytes)}
    (faithful : Faithful exposed written ⟨{ pins := guard.pins + 0 }, machine⟩)
    (tiles : Tiles source buffer.length (guard.pieces source buffer.length))
    (seated : ∀ piece ∈ guard.pieces source buffer.length, machine.Seats space piece)
    (ran : ((guard.pieces source buffer.length).mapM fun piece =>
      (Kernel.readPiece space piece : Faulting Bytes)).run machine = .ok result next) :
    ∃ parts, result = .ok parts ∧ machine.Unmoved next ∧ parts.flatten.length = buffer.length ∧
      (∀ place < buffer.length, ∃ byte, parts.flatten[place]? = some byte ∧
        machine.heldByte? space (source.offset place) = some byte) ∧
      Kernel.fillFromPieces space (guard.pieces source buffer.length) 0 buffer machine =
        .ok parts.flatten next := by
  obtain ⟨parts, rfl, each⟩ := Kernel.readPieces_ok ran
  have sound : ∀ space, (machine.registry space).Sound := faithful.sound
  have shows := faithful.renewed.shows_pieces tiles seated (machine.spares_exposed sound) each
  obtain ⟨long, told⟩ := tiles.reads shows
  obtain ⟨unmoved, filled⟩ := Kernel.readPieces_fill ran (shows.imp fun _ _ => And.left)
    (show 0 + parts.flatten.length ≤ buffer.length by omega)
  refine ⟨parts, rfl, unmoved, long, fun place within => ?_, ?_⟩
  · obtain ⟨byte, here, shown⟩ := told place within
    obtain ⟨page, found, _⟩ := Option.bind_eq_some_iff.1 shown
    exact ⟨byte, here, (faithful.renewed.holds found (machine.spares_exposed sound found)).trans shown⟩
  · rw [filled, Bytes.patch, long, List.take_zero, List.nil_append, Nat.zero_add, List.drop_length,
      List.append_nil]

/-! Copies. -/

def Scope.copying (machine : Machine) : Scope where
  may act := ¬act.Drops ∧ act ≠ .meddle
  spaces := machine.spaces.length
  files := machine.files.length
  trusting := True
  quiet := ⟨fun ⟨_, _, drops⟩ => drops.elim nofun nofun, nofun⟩
  trusts _ meddles := meddles.2 rfl
  kept _ := True
  keeps _ _ _ := trivial
  after _ := False
  onward _ _ := id

theorem Scope.copying_may {act : Act}
    (keeps : ∀ space addr, act ≠ .drop space addr ∧ act ≠ .expel space addr) (meddles : act ≠ .meddle) :
    (Scope.copying machine).may act :=
  ⟨fun ⟨space, addr, drops⟩ => drops.elim (keeps space addr).1 (keeps space addr).2, meddles⟩

theorem Interference.Failing.tames_copy (failing : others.Failing) :
    Tame (.copying machine) [] others others :=
  failing.tame (fun _ _ => Scope.copying_may (fun _ _ => ⟨nofun, nofun⟩) nofun)
    (Scope.copying_may (fun _ _ => ⟨nofun, nofun⟩) nofun)

omit [Lawful] in
theorem Interference.Failing.adopts (failing : others.Failing) : Kernel.Adopts .discreet others where
  file load file := fun {machine u next} ended => by
    obtain ⟨_, _, rfl⟩ := @failing (.file load file) machine next (by cases u; exact ended)
    rfl
  sector load := fun {machine u next} ended => by
    obtain ⟨_, _, rfl⟩ := @failing (.sector load) machine next (by cases u; exact ended)
    rfl

/-- A call that leaves alone what callers hold and unregisters nothing leaves all pins as they were. -/
theorem Faithful.same_pins {x : Kernel α} {a : α} (faithful : Faithful exposed written ⟨{}, machine⟩)
    (marked : machine.Marked)
    (follows : Follows (.copying machine) ⟨{}, machine⟩ x x fun _ now => now.ledger = {})
    (discreet : Kernel.Has .discreet x) (ran : x machine = .ok a next) : machine.SamePins next := by
  have ready : (Scope.copying machine).Ready ⟨{}, machine⟩ :=
    ⟨faithful.toConsistent, Nat.le_refl _, Nat.le_refl _, faithful.sectors, fun _ => faithful.mapped, trivial⟩
  obtain ⟨last, path, same⟩ := (follows ready).2 _ _ ran
  cases same
  exact path.same_pins (fun allowed => allowed.1) faithful.toConsistent marked (discreet ran)

theorem Managed.copies_to (managed : Managed machine) (failing : others.Failing)
    (present : space < machine.spaces.length) {target : VirtualAddress} {bytes : Bytes}
    {result : Except FaultError Unit}
    (ran : (Kernel.copyToUser others space target bytes).run machine = .ok result next) :
    machine.CopiedTo space target bytes result next := by
  obtain ⟨faithful, marked⟩ := managed.faithful
  have pins : machine.SamePins next := faithful.same_pins marked
    (Kernel.copyToUser_follows (Scope.copying_may (fun _ _ => ⟨nofun, nofun⟩) nofun)
      (Scope.copying_may (fun _ _ => ⟨nofun, nofun⟩) nofun) (absurd trivial) failing.tames_copy present rfl)
    (Kernel.copyToUser_has failing.adopts _ _ _) ran
  rcases Kernel.run_bind_ends.1 ran with ⟨guard, mid, pinning, ran⟩ | ⟨error, pinning, rfl⟩
  · obtain ⟨recording, tiles, seated⟩ := faithful.survey.pins failing present pinning
    obtain ⟨_, after, wrote, ran⟩ := Kernel.run_lift_ok.1 ran
    obtain ⟨_, rfl, dropped⟩ := Kernel.run_last_ok.1 ran
    obtain ⟨stored, exact, kept⟩ := recording.toFaithful.puts tiles seated wrote
    have unmoved := stored.drops dropped
    refine ⟨fun _ place within => ?_, fun {owner addr byte} held outside => ?_, pins⟩
    · have here := exact place within
      rw [List.getElem?_eq_getElem within] at here ⊢
      exact unmoved.held here
    · rcases recording.retains faithful held with held | forgets
      · exact .inl (unmoved.held (kept held fun inside => outside ⟨rfl, inside⟩))
      · exact .inr (unmoved.forgets (forgets.of_spaces (Kernel.writePieces_same wrote).1))
  · have recording := faithful.survey.unpinned failing present pinning
    exact ⟨nofun, fun held _ => recording.retains faithful held, pins⟩

theorem Managed.copies_from (managed : Managed machine) (failing : others.Failing)
    (present : space < machine.spaces.length) {source : VirtualAddress} {buffer : Bytes}
    {result : Except FaultError Bytes}
    (ran : (Kernel.copyFromUser others space source buffer.length).run machine = .ok result next) :
    machine.CopiedFrom others space source buffer result next := by
  obtain ⟨faithful, marked⟩ := managed.faithful
  have pins : machine.SamePins next := faithful.same_pins marked
    (Kernel.copyFromUser_follows (Scope.copying_may (fun _ _ => ⟨nofun, nofun⟩) nofun)
      failing.tames_copy present rfl)
    (Kernel.copyFromUser_has failing.adopts _ _ _) ran
  rcases Kernel.run_bind_ends.1 ran with ⟨guard, mid, pinning, ran⟩ | ⟨error, pinning, rfl⟩
  · obtain ⟨recording, tiles, seated⟩ := faithful.survey.pins failing present pinning
    rw [ExceptT.run_bind] at ran
    obtain ⟨parts, after, reading, ran⟩ := Kernel.bind_ok.1 ran
    obtain ⟨parts, rfl, unmoved, long, told, filled⟩ := recording.toFaithful.gets tiles seated reading
    obtain ⟨_, final, dropped, ran⟩ := Kernel.run_lift_ok.1 ran
    obtain ⟨rfl, rfl⟩ := Kernel.run_pure_ok.1 ran
    have pages : ∀ piece ∈ guard.pieces source buffer.length, piece.page.IsPage := fun piece member => by
      obtain ⟨page, found, _⟩ := seated piece member
      have sound : (mid.registry space).Sound := recording.sound space
      exact sound.isPage found
    obtain ⟨_, ⟨kept, _⟩, later⟩ := recording.ends (Kernel.readPieces_follows pages) reading
    cases kept
    have unmoved := unmoved.trans (later.toFaithful.drops dropped)
    refine ⟨fun same => ?_, ?_, fun {owner addr byte} held => ?_, pins⟩
    · cases same
      refine ⟨long, fun place within => ?_⟩
      obtain ⟨byte, here, held⟩ := told place within
      exact ⟨byte, here, unmoved.held held⟩
    · refine Kernel.bind_ok.2 ⟨_, mid, pinning, Kernel.bind_ok.2 ⟨_, after, filled, ?_⟩⟩
      exact Kernel.bind_ok.2 ⟨_, _, dropped, rfl⟩
    · rcases recording.retains faithful held with held | forgets
      · exact .inl (unmoved.held held)
      · exact .inr (unmoved.forgets forgets)
  · have recording := faithful.survey.unpinned failing present pinning
    exact ⟨nofun, Kernel.bind_ok.2 ⟨_, next, pinning, rfl⟩, fun held => recording.retains faithful held, pins⟩

/-- Copies to and from user memory are exact, and what pages hold elsewhere stays, but for what the kernel
wrote to pages of files through their frames: there is nothing to lose where it wrote nothing. -/
theorem Managed.copies_exact (managed : Managed machine) (failing : others.Failing)
    (present : space < machine.spaces.length) :
    (∀ {target : VirtualAddress} {bytes : Bytes} {result : Except FaultError Unit} {next : Machine},
      (Kernel.copyToUser others space target bytes).run machine = .ok result next →
      machine.CopiedTo space target bytes result next) ∧
    (∀ {source : VirtualAddress} {buffer : Bytes} {result : Except FaultError Bytes} {next : Machine},
      (Kernel.copyFromUser others space source buffer.length).run machine = .ok result next →
      machine.CopiedFrom others space source buffer result next) ∧
    ∀ {written : Written}, Recorded written machine → ∀ {next : Machine} {owner : SpaceId}
      {addr : VirtualAddress}, ¬machine.Forgets next owner addr :=
  ⟨managed.copies_to failing present, managed.copies_from failing present,
    fun recorded _ _ _ ⟨_, _, _, _, exposed, _⟩ => recorded.unexposed exposed⟩

omit [Lawful] in
theorem Managed.carried {ops : List Op} (managed : Managed machine)
    (carries : machine.Carries Machine.Serves ops) : Managed (ops.foldl Machine.undisturbed machine) := by
  induction ops generalizing machine with
  | nil => exact managed
  | cons op rest ih =>
    obtain ⟨serves, well, rest⟩ := carries
    obtain ⟨reply, ran⟩ := Kernel.ok_of_endsWell well
    exact ih (managed.run serves Interference.failing_none ran) rest

omit [Lawful] in
theorem Managed.stores {pin : Pin} {offset : Nat} {bytes : Bytes} (managed : Managed machine)
    (held : pin ∈ machine.callers.pins) (fits : offset + bytes.length ≤ pageSize)
    (well : (Kernel.writeFrame pin.frame offset bytes).endsWell machine = true) :
    Managed (machine.stored pin offset bytes) := by
  obtain ⟨_, ran⟩ := Kernel.ok_of_endsWell well
  exact managed.store held fits ran

end

section
attribute [local instance] Architecture.small

/-- A page of a file and a zero page, after the kernel wrote into their frames and let them go. -/
def releasedPair : Machine := [Op.unpin 0].foldl Machine.undisturbed storedPair

theorem releasedPair_managed : Managed releasedPair := by
  have booted : Machine.boot none (.ofFrames 2) (.mapped 4 2) ⟨4⟩ { sectorSize := 4, count := 8 } =
      .ok twoFrames := rfl
  have pinned : Managed pinnedPair :=
    (Managed.boot booted).carried (by decide +kernel : twoFrames.Carries _ pinnedPairOps)
  have first := pinned.stores (by decide +kernel : ⟨0, ⟨0x1000⟩, ⟨4⟩⟩ ∈ pinnedPair.callers.pins)
    (by decide : 4 + [(1 : UInt8), 2, 3].length ≤ _) (by decide +kernel)
  have second := first.stores
    (by decide +kernel : ⟨0, ⟨0x1010⟩, ⟨5⟩⟩ ∈ (pinnedPair.stored ⟨0, ⟨0x1000⟩, ⟨4⟩⟩ 4 [1, 2, 3]).callers.pins)
    (by decide : 0 + [(9 : UInt8)].length ≤ _) (by decide +kernel)
  exact second.carried (by decide +kernel : storedPair.Carries _ [.unpin 0])

/-- A copy to the end of the zero page and into a page that is not in a frame yet, and one from the page of
the file. -/
theorem releasedPair_copies : Managed releasedPair ∧ Interference.none.Failing ∧
    0 < releasedPair.spaces.length ∧
    (∃ next, (Kernel.copyToUser .none 0 ⟨0x101e⟩ [1, 2, 3, 4]).run releasedPair = .ok (.ok ()) next ∧
      releasedPair.CopiedTo 0 ⟨0x101e⟩ [1, 2, 3, 4] (.ok ()) next) ∧
    ∃ next, (Kernel.copyFromUser .none 0 ⟨0x1002⟩ 4).run releasedPair = .ok (.ok [119, 119, 1, 2]) next ∧
      releasedPair.CopiedFrom .none 0 ⟨0x1002⟩ [0, 0, 0, 0] (.ok [119, 119, 1, 2]) next := by
  have present : 0 < releasedPair.spaces.length := by decide +kernel
  obtain ⟨to_user, from_user, _⟩ := releasedPair_managed.copies_exact Interference.failing_none present
  have written : (Kernel.copyToUser .none 0 ⟨0x101e⟩ [1, 2, 3, 4]).run.answer? releasedPair =
      some (.ok ()) := by
    decide +kernel
  have read : (Kernel.copyFromUser .none 0 ⟨0x1002⟩ 4).run.answer? releasedPair =
      some (.ok [119, 119, 1, 2]) := by
    decide +kernel
  have stored := Kernel.ok_of_answer? written
  have loaded := Kernel.ok_of_answer? read
  exact ⟨releasedPair_managed, Interference.failing_none, present, ⟨_, stored, to_user stored⟩,
    ⟨_, loaded, from_user loaded⟩⟩

/-- A copy to another page has a page leave its frame that only the kernel wrote to. -/
theorem releasedPair_forgets :
    let copied := (Kernel.copyToUser .none 0 ⟨0x1020⟩ [5, 5, 5, 5]).run
    Managed releasedPair ∧ copied.answer? releasedPair = some (.ok ()) ∧
      releasedPair.heldByte? 0 ⟨0x1004⟩ = some 1 ∧
      (copied.leaves releasedPair).heldByte? 0 ⟨0x1004⟩ = some 119 := by
  exact ⟨releasedPair_managed, by decide +kernel, by decide +kernel, by decide +kernel⟩

end

end DemandPaging
