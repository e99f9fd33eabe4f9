import DemandPaging.Proofs.Calls
import DemandPaging.Proofs.Contents
import DemandPaging.Proofs.PinMarks

/-! Bytes that are stored and bytes that are read. What is stored into the frame of a page is what the page
has to show from then on, and what is read from there is what it has to show. A range is stored and read
piece by piece, and its pieces lie one behind another. -/
namespace DemandPaging
open Architecture (Lawful)

section
variable [Architecture]

namespace Machine
variable {machine : Machine} {exposed : Exposed} {written later : Written} {space : SpaceId}
  {addr : VirtualAddress} {page : Page} {bytes held : Bytes}

theorem Shows.long (shows : machine.Shows written space page bytes) : pageSize ≤ bytes.length := by
  have last := pageSize_pos
  obtain ⟨byte, here, _⟩ := shows (pageSize - 1) (by omega)
  have inside := (List.getElem?_eq_some_iff.1 here).1
  omega

theorem Shows.patch (shows : machine.Shows written space page held) {start : Nat}
    (fits : start + bytes.length ≤ pageSize) :
    machine.Shows (written.put space (page.addr.offset start) bytes) space page
      (held.patch start bytes) := by
  have long := shows.long
  intro place within
  rw [Bytes.getElem?_patch (by omega), Written.put_offset]
  split
  · rename_i inside
    have known : place - start < bytes.length := by omega
    exact ⟨_, List.getElem?_eq_getElem known, by rw [List.getElem?_eq_getElem known]; rfl⟩
  · exact shows place within

/-- What is known to be written to a page is all that counts for it. -/
theorem Recalls.congr (recalls : machine.Recalls exposed written space page)
    (same : ∀ place < pageSize, later space (page.addr.offset place) =
      written space (page.addr.offset place)) : machine.Recalls exposed later space page := by
  have shows : ∀ {bytes}, machine.Shows written space page bytes →
      machine.Shows later space page bytes := fun shows place within => by
    rw [same place within]
    exact shows place within
  have misses : written.Misses space page.addr → later.Misses space page.addr := fun misses place within => by
    rw [same place within]
    exact misses place within
  exact ⟨fun unloaded => misses (recalls.unloaded unloaded),
    fun resident => (recalls.resident resident).imp fun _ => And.imp_right shows,
    fun resident clean needless => (recalls.clean resident clean needless).imp_left misses,
    fun swapped => shows (recalls.swapped swapped)⟩

/-- What more is known to be exposed makes no difference to what can be had. -/
theorem Recalls.mono {more : Exposed} (recalls : machine.Recalls exposed written space page)
    (known : exposed space page.addr page.generation → more space page.addr page.generation) :
    machine.Recalls more written space page :=
  ⟨recalls.unloaded, recalls.resident,
    fun resident clean needless => (recalls.clean resident clean needless).imp_right known,
    recalls.swapped⟩

/-- Of a page that is to be saved, nothing is exposed. -/
theorem Recalls.of_kept {more : Exposed} (recalls : machine.Recalls exposed written space page)
    (kept : machine.isDirty space page.addr = true ∨ page.backing.alwaysSwaps = true) :
    machine.Recalls more written space page := by
  refine ⟨recalls.unloaded, recalls.resident, fun resident clean needless => ?_, recalls.swapped⟩
  rcases kept with dirty | always
  · cases dirty.symm.trans clean
  · cases always.symm.trans needless

theorem byte?_offset (found : (machine.registry space).pages.get? addr = some page)
    (aligned : addr.isPageAligned = true) {place : Nat} (within : place < pageSize) :
    machine.byte? written space (addr.offset place) =
      (written space (addr.offset place)).or (machine.originalByte page.backing place) := by
  rw [byte?, Registry.lookup, VirtualAddress.pageBase_offset aligned within, found,
    VirtualAddress.pageOffset_offset aligned within]
  rfl

theorem blank_retained : (machine.retained written).Blank machine := by
  intro space addr absent
  rw [retained, absent]
  rfl

end Machine

variable [Lawful]

/-- What was written where no page is registered any more can be forgotten. -/
theorem Faithful.retained {exposed : Exposed} {written : Written} {now : Moment}
    (faithful : Faithful exposed written now) : Faithful exposed (now.machine.retained written) now := by
  refine ⟨faithful.toSupplied, faithful.mapped, fun {space addr page} found spares =>
    (faithful.recalls found spares).congr fun place within => ?_⟩
  have keyed := (faithful.sound space).keyed found
  have aligned := (faithful.sound space).aligned found
  rw [Machine.retained, Registry.lookup, keyed, VirtualAddress.pageBase_offset aligned within, found]
  rfl

section
variable {exposed : Exposed} {written : Written} {ledger : Ledger} {machine after : Machine}
  {space : SpaceId} {page : Page} {frame : FrameNumber}

theorem Faithful.reads (faithful : Faithful exposed written ⟨ledger, machine⟩)
    (found : (machine.registry space).pages.get? page.addr = some page)
    (spares : exposed.Spares space page) (resident : page.state = .resident frame) {bytes : Bytes}
    (read : machine.memory.read frame = .ok bytes) {place : Nat} (within : place < pageSize) :
    ∃ byte, bytes[place]? = some byte ∧
      machine.byte? written space (page.addr.offset place) = some byte := by
  have recalls : machine.Recalls exposed written space page := faithful.recalls found spares
  have sound : (machine.registry space).Sound := faithful.sound space
  rw [Machine.byte?_offset found (sound.aligned found) within]
  obtain ⟨_, held, shown⟩ := recalls.resident resident
  cases held.symm.trans read
  exact shown place within

/-- Memory changes, but not in the frames of loads. -/
theorem Faithful.rewritten {later : Exposed} {record : Written} {memory : Memory}
    (faithful : Faithful exposed written ⟨ledger, machine⟩)
    (loading : ∀ flight ∈ ledger.flights,
      memory.read flight.load.frame = machine.memory.read flight.load.frame)
    (fills : ∀ {frame}, machine.Fills frame → Machine.Fills { machine with memory } frame)
    (recalls : ∀ {owner addr other}, (machine.registry owner).pages.get? addr = some other →
      later.Spares owner other → Machine.Recalls { machine with memory } later record owner other) :
    Faithful later record ⟨ledger, { machine with memory }⟩ := by
  have consistent : Consistent ⟨ledger, { machine with memory }⟩ :=
    faithful.toConsistent.of_tables rfl (Nat.le_refl _) faithful.held faithful.fair
  have owned : Owned machine := faithful.owned
  refine ⟨⟨consistent, faithful.sectors, faithful.traced,
    ⟨owned.occupied, owned.single⟩, faithful.backs, fun flight member => ?_,
    fun found resident => fills (faithful.filled found resident)⟩,
    faithful.mapped.of_tables rfl rfl, recalls⟩
  have carries := faithful.carries flight member
  have kept := loading flight member
  exact ⟨fun some => by rw [kept]; exact carries.holds some, fun there bytes read =>
    carries.known there (kept.symm.trans read)⟩

omit [Lawful] in
/-- A page in another frame than the one that is written to keeps its bytes. -/
theorem Machine.Recalls.elsewhere {memory : Memory} {target : FrameNumber} {start : Nat}
    {bytes : Bytes} (recalls : machine.Recalls exposed written space page)
    (wrote : machine.memory.write target start bytes = .ok memory)
    (apart : page.state ≠ .resident target) :
    Machine.Recalls { machine with memory } exposed written space page := by
  refine ⟨recalls.unloaded, fun {frame} resident => ?_, recalls.clean, recalls.swapped⟩
  have same := Memory.read_write_of_ne wrote fun same => apart (same ▸ resident)
  exact (recalls.resident resident).imp fun _ => And.imp_left same.trans

/-- Bytes are written into the frame of a page. From then on they are exposed, unless the page is to be
saved anyway. -/
theorem Faithful.patched {later : Exposed} (faithful : Faithful exposed written ⟨ledger, machine⟩)
    (found : (machine.registry space).pages.get? page.addr = some page)
    (resident : page.state = .resident frame) {start : Nat} {bytes : Bytes} {memory : Memory}
    (fits : start + bytes.length ≤ pageSize)
    (wrote : machine.memory.write frame start bytes = .ok memory)
    (more : ∀ {owner addr generation}, exposed owner addr generation → later owner addr generation)
    (known : machine.isDirty space page.addr = true ∨ page.backing.alwaysSwaps = true ∨
      later space page.addr page.generation) :
    Faithful later (written.put space (page.addr.offset start) bytes)
      ⟨ledger, { machine with memory }⟩ := by
  have placed : machine.placement space page.addr = some (frame, page.writable) :=
    Registry.placement_eq_some.2 ⟨page, found, resident, rfl⟩
  have sound : ∀ owner, (machine.registry owner).Sound := faithful.sound
  refine faithful.rewritten (fun flight member => ?_) (·.write wrote)
    fun {owner addr other} there spares => ?_
  · have keeps : (flight.load.space, flight.load.frame) ∈ ledger.keepers machine.callers :=
      Ledger.mem_keepers (List.mem_map_of_mem member)
    exact Memory.read_write_of_ne wrote (faithful.held.apart keeps placed).symm
  have recalls : machine.Recalls exposed written owner other := faithful.recalls there fun earlier =>
    spares (more earlier)
  have keyed := (sound owner).keyed there
  by_cases here : owner = space ∧ addr = page.addr
  · obtain ⟨rfl, rfl⟩ := here
    cases found.symm.trans there
    obtain ⟨held, before, read_back⟩ := Memory.read_write_self wrote
    obtain ⟨_, old, shown⟩ := recalls.resident resident
    cases old.symm.trans before
    refine .of_resident resident read_back (shown.patch fits) fun clean needless => ?_
    rcases known with dirty | always | known
    · cases dirty.symm.trans clean
    · cases always.symm.trans needless
    · exact .inr known
  · -- Other pages lie in other frames and at other addresses.
    have differ : ¬(owner = space ∧ other.addr = page.addr) := by
      rw [keyed]
      exact here
    have apart : ∀ place < pageSize, written.put space (page.addr.offset start) bytes owner
        (other.addr.offset place) = written owner (other.addr.offset place) := fun place within => by
      refine Written.put_apart ((sound space).aligned found) ?_ fits within differ
      rw [keyed]
      exact (sound owner).aligned there
    refine ((recalls.mono more).congr apart).elsewhere wrote fun rests => here ?_
    exact faithful.held.page_unique (Registry.placement_eq_some.2 ⟨other, there, rests, rfl⟩ :
      machine.placement owner addr = some (frame, other.writable)) placed

theorem Faithful.stored (faithful : Faithful exposed written ⟨ledger, machine⟩)
    (found : (machine.registry space).pages.get? page.addr = some page)
    (resident : page.state = .resident frame) {start : Nat} {bytes : Bytes} {memory : Memory}
    (fits : start + bytes.length ≤ pageSize)
    (wrote : machine.memory.write frame start bytes = .ok memory)
    (idle : Machine.Idle { machine with memory } after)
    (dirty : after.isDirty space page.addr = true) :
    Faithful exposed (written.put space (page.addr.offset start) bytes) ⟨ledger, after⟩ := by
  -- Until the page is marked as dirty, the bytes are exposed.
  let later : Exposed := fun owner addr generation => exposed owner addr generation ∨
    (owner = space ∧ addr = page.addr ∧ generation = page.generation)
  have patched : Faithful later _ ⟨ledger, { machine with memory }⟩ :=
    faithful.patched found resident fits wrote .inl (.inr (.inr (.inr ⟨rfl, rfl, rfl⟩)))
  have marked := patched.step (.idle idle) trivial (fun _ _ => ⟨nofun, nofun⟩)
    fun _ ⟨_, _, adds⟩ => adds.elim nofun nofun
  refine ⟨marked.toSupplied, marked.mapped, fun {owner addr other} now spares => ?_⟩
  have there : (machine.registry owner).pages.get? addr = some other := by
    have same : (after.registry owner).pages.get? addr = some other := now
    rw [idle.registries] at same
    exact same
  have sound : ∀ owner, (machine.registry owner).Sound := faithful.sound
  have keyed := (sound owner).keyed there
  by_cases here : owner = space ∧ addr = page.addr
  · obtain ⟨rfl, rfl⟩ := here
    cases found.symm.trans there
    refine (marked.recalls now ?_).of_kept (.inl dirty)
    rintro _ (known | ⟨_, _, rfl⟩)
    · exact spares known
    · exact Nat.le_refl _
  · have none_else : ∀ {generation}, later owner other.addr generation →
        exposed owner other.addr generation := by
      rintro generation (known | ⟨rfl, same, _⟩)
      · exact known
      · exact absurd ⟨rfl, keyed.symm.trans same⟩ here
    exact (marked.recalls now fun known => spares (none_else known)).mono none_else

end

end

/-! Ranges, piece by piece. -/

section

/-- Pieces lie one behind another from an address on and come to so many bytes. -/
inductive Tiles [Geometry] : VirtualAddress → Nat → List Piece → Prop
  | nil {first} : Tiles first 0 []
  | cons {piece : Piece} {rest length} (fits : piece.offset + piece.length ≤ pageSize)
      (further : Tiles (piece.page.offset (piece.offset + piece.length)) length rest) :
      Tiles (piece.page.offset piece.offset) (piece.length + length) (piece :: rest)

variable [Architecture]

/-- The pages of a row cut a range into pieces. -/
theorem Tiles.of_row {start : VirtualAddress} {length first count : Nat} {owner : SpaceId}
    {pages : List (VirtualAddress × FrameNumber)}
    (row : pages.map (·.1.value) = List.range' first count pageSize)
    (begins : 0 < count → start.value < first + pageSize)
    (short : 0 < count → first + count * pageSize < start.value + length + pageSize)
    (covers : start.value + length ≤ max start.value (first + count * pageSize)) :
    Tiles ⟨max start.value first⟩ (start.value + length - max start.value first)
      ((PinGuard.mk owner pages).pieces start length) := by
  induction pages generalizing first count with
  | nil =>
    have none : count = 0 := by
      have lengths := congrArg List.length row
      rw [List.length_range'] at lengths
      exact lengths.symm
    subst none
    rw [Nat.zero_mul, Nat.add_zero] at covers
    rw [Nat.sub_eq_zero_of_le covers]
    exact .nil
  | cons page rest ih =>
    obtain ⟨page, frame⟩ := page
    cases count with
    | zero => cases row
    | succ count =>
      rw [List.range'_succ, List.map_cons, List.cons.injEq] at row
      obtain ⟨here, row⟩ := row
      change page.value = first at here
      subst here
      have begins := begins (Nat.succ_pos _)
      have short := short (Nat.succ_pos _)
      rw [Nat.succ_mul] at short covers
      have last : count = 0 ∨ page.value + pageSize ≤ page.value + count * pageSize := by
        rcases Nat.eq_zero_or_pos count with none | some
        · exact .inl none
        · exact .inr (Nat.add_le_add_left (Nat.le_mul_of_pos_left _ some) _)
      have further := ih row (fun _ => by omega) (fun some => by omega) (by omega)
      -- The first piece goes to the end of its page, unless it is the only one.
      let piece : Piece := ⟨page, frame, max start.value page.value - page.value,
        min (start.value + length) (page.value + pageSize) - max start.value page.value⟩
      have from_piece : (⟨max start.value page.value⟩ : VirtualAddress) = piece.page.offset piece.offset :=
        congrArg VirtualAddress.mk (by dsimp only [piece]; omega)
      have lengths : start.value + length - max start.value page.value =
          piece.length + (start.value + length - max start.value (page.value + pageSize)) := by
        dsimp only [piece]
        omega
      rw [from_piece, lengths]
      refine @Tiles.cons _ piece _ _ (by dsimp only [piece]; omega) ?_
      rcases last with only | more
      · subst only
        cases List.map_eq_nil_iff.1 row
        rw [Nat.sub_eq_zero_of_le (by omega)]
        exact .nil
      · have next : piece.page.offset (piece.offset + piece.length) =
            ⟨max start.value (page.value + pageSize)⟩ :=
          congrArg VirtualAddress.mk (by dsimp only [piece]; omega)
        rw [next]
        exact further

/-- So do the pages of a guard that was made for it. -/
theorem Tiles.of_guard {start : VirtualAddress} {length : Nat} {guard : PinGuard}
    (row : guard.pages.map (·.1.value) = List.range' start.pageBase.value
      (if length = 0 then 0 else Kernel.pagesOver start length) pageSize) :
    Tiles start length (guard.pieces start length) := by
  have base : start.pageBase.value + start.pageOffset = start.value :=
    Nat.sub_add_cancel (Nat.mod_le _ _)
  have near : start.pageOffset < pageSize := Nat.mod_lt _ pageSize_pos
  have first : max start.value start.pageBase.value = start.value := by omega
  have tiles := @Tiles.of_row _ start length _ _ guard.owner guard.pages row
  rw [first, Nat.add_sub_cancel_left] at tiles
  split at tiles
  · rename_i none
    exact tiles (fun some => absurd some (Nat.lt_irrefl 0)) (fun some => absurd some (Nat.lt_irrefl 0))
      (by omega)
  · rename_i some
    have count : 0 < Kernel.pagesOver start length := by
      rw [Kernel.pagesOver]
      exact Nat.div_pos (by omega) pageSize_pos
    obtain ⟨last, succ⟩ := Nat.exists_eq_succ_of_ne_zero (Nat.ne_of_gt count)
    have short := (Kernel.page_overlaps (Nat.lt_of_lt_of_eq (Nat.lt_succ_self last) succ.symm)).2
    have covers := Nat.lt_mul_div_succ (start.pageOffset + length + pageSize - 1) pageSize_pos
    rw [Nat.mul_succ, Nat.mul_comm] at covers
    change _ < Kernel.pagesOver start length * pageSize + pageSize at covers
    refine tiles (fun _ => by omega) (fun _ => ?_) (by omega)
    rw [succ, Nat.succ_mul]
    omega

/-- What each piece shows, the range shows. -/
theorem Tiles.reads {shown : VirtualAddress → Option UInt8} {first : VirtualAddress} {length : Nat}
    {pieces : List Piece} {parts : List Bytes} (tiles : Tiles first length pieces)
    (each : List.Forall₂ (fun piece part => part.length = piece.length ∧ ∀ place < piece.length,
      ∃ byte, part[place]? = some byte ∧ shown (piece.page.offset (piece.offset + place)) = some byte)
      pieces parts) :
    parts.flatten.length = length ∧ ∀ place < length,
      ∃ byte, parts.flatten[place]? = some byte ∧ shown (first.offset place) = some byte := by
  induction tiles generalizing parts with
  | nil =>
    cases each
    exact ⟨rfl, fun _ within => absurd within (Nat.not_lt_zero _)⟩
  | @cons piece rest length fits further ih =>
    cases each with
    | cons here later =>
      rename_i part parts
      obtain ⟨long, told⟩ := here
      obtain ⟨lengths, after⟩ := ih later
      refine ⟨by rw [List.flatten_cons, List.length_append, long, lengths], fun place within => ?_⟩
      rw [List.flatten_cons, VirtualAddress.offset_offset]
      by_cases early : place < piece.length
      · rw [List.getElem?_append_left (by omega)]
        exact told place early
      · rw [List.getElem?_append_right (by omega), long]
        obtain ⟨byte, read, shows⟩ := after (place - piece.length) (by omega)
        refine ⟨byte, read, ?_⟩
        rw [VirtualAddress.offset_offset] at shows
        rw [← shows]
        exact congrArg (fun place => shown (piece.page.offset place)) (by omega)

end

/-! Copies. -/

section
variable [Architecture] [Lawful] {exposed : Exposed} {written : Written} {ledger : Ledger}
  {machine next : Machine} {space : SpaceId}

def Machine.Seats (machine : Machine) (space : SpaceId) (piece : Piece) : Prop :=
  ∃ page, (machine.registry space).pages.get? piece.page = some page ∧
    page.state = .resident piece.frame

/-- Bytes that are written piece by piece are stored one behind another. -/
theorem Faithful.writes {pieces : List Piece} {first : VirtualAddress} {bytes : Bytes} {u : Unit}
    (faithful : Faithful exposed written ⟨ledger, machine⟩) (tiles : Tiles first bytes.length pieces)
    (seated : ∀ piece ∈ pieces, machine.Seats space piece)
    (ran : Kernel.writePieces space pieces bytes machine = .ok u next) :
    Faithful exposed (written.put space first bytes) ⟨ledger, next⟩ := by
  induction pieces generalizing written machine first bytes with
  | nil =>
    obtain ⟨_, rfl⟩ := Kernel.pure_ok.1 ran
    generalize long : bytes.length = length at tiles
    cases tiles
    cases List.eq_nil_of_length_eq_zero long
    rw [Written.put_nil]
    exact faithful
  | cons piece rest ih =>
    generalize long : bytes.length = length at tiles
    cases tiles with
    | @cons piece rest length fits further =>
      have steps : Kernel.writePieces space (piece :: rest) bytes = (do
          Kernel.writePiece space piece (bytes.take piece.length)
          Kernel.writePieces space rest (bytes.drop piece.length)) := by
        simp only [Kernel.writePieces, Kernel.writePiece, bind_assoc]
      rw [steps] at ran
      obtain ⟨_, mid, wrote, ran⟩ := Kernel.bind_ok.1 ran
      obtain ⟨page, found, resident⟩ := seated piece List.mem_cons_self
      have sound : (machine.registry space).Sound := faithful.sound space
      have keyed := sound.keyed found
      have is_page := sound.isPage found
      obtain ⟨memory, stored, idle, dirty⟩ := Kernel.writePiece_ok is_page wrote
      have placed : machine.placement space piece.page = some (piece.frame, page.writable) :=
        Registry.placement_eq_some.2 ⟨page, found, resident, rfl⟩
      have dirty := dirty faithful.toConsistent faithful.mapped placed
      have taken : (bytes.take piece.length).length = piece.length := List.length_take_of_le (by omega)
      rw [← keyed] at found dirty
      have here := faithful.stored found resident (by rw [taken]; exact fits) stored idle dirty
      have left : (bytes.drop piece.length).length = length := by
        rw [List.length_drop]
        omega
      have after := ih here (left.symm ▸ further) (fun other member => ?_) ran
      · have joined := @Written.put_append written space (piece.page.offset piece.offset)
          (bytes.take piece.length) (bytes.drop piece.length)
        rw [taken, VirtualAddress.offset_offset, List.take_append_drop] at joined
        rw [keyed, joined] at after
        exact after
      · obtain ⟨page, found, resident⟩ := seated other (List.mem_cons_of_mem _ member)
        refine ⟨page, ?_, resident⟩
        rw [idle.registries]
        exact found

omit [Lawful] in
/-- Reading pieces changes nothing that is read. -/
theorem Kernel.readPieces_ok {pieces : List Piece} {result : Except FaultError (List Bytes)}
    (ran : (pieces.mapM fun piece => (Kernel.readPiece space piece : Faulting Bytes)).run machine =
      .ok result next) :
    ∃ parts, result = .ok parts ∧ List.Forall₂ (fun piece part => ∃ bytes,
      machine.memory.read piece.frame = .ok bytes ∧ part = bytes.slice piece.offset piece.length)
      pieces parts := by
  induction pieces generalizing machine next result with
  | nil =>
    obtain ⟨rfl, rfl⟩ := run_pure_ok.1 ran
    exact ⟨[], rfl, .nil⟩
  | cons piece rest ih =>
    rw [List.mapM_cons] at ran
    obtain ⟨part, mid, here, ran⟩ := run_lift_ok.1 ran
    simp only [readPiece, bind_ok, readFrame_ok, setAccessed, modify_ok, pure_ok] at here
    obtain ⟨bytes, _, ⟨read, rfl⟩, _, _, rfl, rfl, rfl⟩ := here
    rw [ExceptT.run_bind] at ran
    obtain ⟨later, _, others, ran⟩ := bind_ok.1 ran
    obtain ⟨parts, rfl, each⟩ := ih others
    obtain ⟨rfl, rfl⟩ := run_pure_ok.1 ran
    exact ⟨_, rfl, .cons ⟨bytes, read, rfl⟩ each⟩

theorem Faithful.shows_pieces {pieces : List Piece} {first : VirtualAddress} {length : Nat}
    {parts : List Bytes} (faithful : Faithful exposed written ⟨ledger, machine⟩)
    (tiles : Tiles first length pieces) (seated : ∀ piece ∈ pieces, machine.Seats space piece)
    (spares : machine.Spares exposed)
    (each : List.Forall₂ (fun piece part => ∃ bytes,
      machine.memory.read piece.frame = .ok bytes ∧ part = bytes.slice piece.offset piece.length)
      pieces parts) :
    List.Forall₂ (fun piece part => part.length = piece.length ∧ ∀ place < piece.length,
      ∃ byte, part[place]? = some byte ∧
        machine.byte? written space (piece.page.offset (piece.offset + place)) = some byte) pieces parts := by
  induction tiles generalizing parts with
  | nil =>
    cases each
    exact .nil
  | @cons piece rest length fits further ih =>
    cases each with
    | cons here later =>
      refine .cons ?_ (ih (fun other member => seated other (List.mem_cons_of_mem _ member)) later)
      obtain ⟨bytes, read, rfl⟩ := here
      obtain ⟨page, found, resident⟩ := seated piece List.mem_cons_self
      have sound : (machine.registry space).Sound := faithful.sound space
      have keyed := sound.keyed found
      rw [← keyed] at found
      have recalls : machine.Recalls exposed written space page := faithful.recalls found (spares found)
      obtain ⟨_, held, shown⟩ := recalls.resident resident
      cases held.symm.trans read
      have long := shown.long
      refine ⟨?_, fun place within => ?_⟩
      · rw [Bytes.slice, List.length_take, List.length_drop]
        omega
      · obtain ⟨byte, here, told⟩ :=
          faithful.reads found (spares found) resident read (show piece.offset + place < pageSize by omega)
        refine ⟨byte, ?_, by rw [← keyed]; exact told⟩
        rw [Bytes.slice, List.getElem?_take_of_lt within, List.getElem?_drop, here]

end

end DemandPaging
