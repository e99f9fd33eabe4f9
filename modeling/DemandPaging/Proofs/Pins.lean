import DemandPaging.Kernel.Pinning
import DemandPaging.Proofs.Faults

/-! Pinned access as moves: the pages of a range are pinned one after another, and a guard holds the
pins of all of them or none is held. -/
namespace DemandPaging
open Architecture (Lawful)

theorem PinGuard.pins_append (space : SpaceId) (pages : List (VirtualAddress × FrameNumber))
    (addr : VirtualAddress) (frame : FrameNumber) :
    (PinGuard.mk space (pages ++ [(addr, frame)])).pins =
      ⟨space, addr, frame⟩ ::ₘ (PinGuard.mk space pages).pins := by
  unfold pins
  dsimp only
  rw [List.map_append, ← Multiset.coe_add, Multiset.add_comm]
  rfl

theorem PinGuard.mem_pins {guard : PinGuard} {page : VirtualAddress} {frame : FrameNumber}
    (listed : (page, frame) ∈ guard.pages) : ⟨guard.owner, page, frame⟩ ∈ guard.pins :=
  Multiset.mem_coe.2 (List.mem_map.2 ⟨_, listed, rfl⟩)

theorem Callers.mem_pins {callers : Callers} {number : Nat} {guard : PinGuard} {pin : Pin}
    (held : callers.guards[number]? = some (some guard)) (member : pin ∈ guard.pins) :
    pin ∈ callers.pins := by
  have whole : callers.pins = guard.pins + _ := Consistent.sum_set held
  rw [whole]
  exact Multiset.mem_add.2 (.inl member)

variable [Architecture] [Lawful] {scope : Scope} {start : Moment} {others variant : Interference}
  {flights : List Flight} {pins : Multiset Pin}

namespace Kernel

theorem unpin_follows {pin : Pin} (letting : scope.may .unpin)
    (ledger : start.ledger = ⟨flights, pin ::ₘ pins⟩) :
    Follows scope start (unpin pin.frame pin.space) (unpin pin.frame pin.space)
      fun _ now => now.ledger = ⟨flights, pins⟩ := by
  obtain ⟨_, machine⟩ := start
  cases ledger
  refine .of_ok fun ready _ next ended => ?_
  have claim : pin ∈ pin ::ₘ pins + machine.callers.pins :=
    Multiset.mem_add.2 (.inl (Multiset.mem_cons_self pin pins))
  obtain ⟨index, named, owned, _⟩ := ready.held.claimed claim
  have place : pin.frame.value - machine.pool.base.value = index := by
    rw [named]
    exact FramePool.number_sub _ _
  have held := ready.held
  change Held _ (pin ::ₘ pins + machine.callers.pins) _ _ at held
  rw [Multiset.cons_add] at held
  have pinned : 0 < (machine.pool.entry index).pins :=
    Nat.lt_of_lt_of_eq (Nat.succ_pos _) (Held.claimed_pins named held).symm
  rw [unpin_ok (by rw [place]; exact owned) (by rw [place]; exact pinned) ended]
  exact ⟨_, .of_move letting .unpin, rfl⟩

theorem dropGuard_follows {guard : PinGuard} (letting : scope.may .unpin)
    (ledger : start.ledger = ⟨flights, guard.pins + pins⟩) :
    Follows scope start (dropGuard guard) (dropGuard guard)
      fun _ now => now.ledger = ⟨flights, pins⟩ := by
  obtain ⟨owner, pages⟩ := guard
  unfold dropGuard
  induction pages generalizing start with
  | nil => exact .ret (by rw [ledger]; simp [PinGuard.pins])
  | cons page rest ih =>
    obtain ⟨addr, frame⟩ := page
    have first : start.ledger =
        ⟨flights, ⟨owner, addr, frame⟩ ::ₘ ((PinGuard.mk owner rest).pins + pins)⟩ := by
      rw [ledger, ← Multiset.cons_add]
      rfl
    exact (unpin_follows letting first).bind fun _ _ left => ih left

theorem guarded_follows {guard : PinGuard} {f g : Kernel α} {post : α → Moment → Prop}
    (follows : Follows scope start f g post) :
    Follows scope start (guarded guard f) (guarded guard g) post := by
  intro ready
  have passes : ∀ {a next}, guarded guard f start.machine = .ok a next → f start.machine = .ok a next := by
    intro a next ended
    change EStateM.tryCatch f _ _ = _ at ended
    unfold EStateM.tryCatch at ended
    cases ran : f start.machine with
    | ok b mid =>
      rw [ran] at ended
      exact ended
    | error cause mid =>
      rw [ran] at ended
      obtain ⟨_, _, _, stopped⟩ := bind_ok.1 ended
      exact (throw_ok.1 stopped).elim
  obtain ⟨either, ends⟩ := follows ready
  refine ⟨either.imp (fun same => ?_) fun ⟨may, late⟩ => ⟨may, fun a next ended => late a next (passes ended)⟩,
    fun a next ended => ends a next (passes ended)⟩
  change EStateM.tryCatch f _ _ = EStateM.tryCatch g _ _
  unfold EStateM.tryCatch
  rw [same]

theorem pinPage_follows {space : SpaceId} {page : Nat} {access : Access}
    {pinned : List (VirtualAddress × FrameNumber)} {tries : Nat}
    (tame : Tame scope start.ledger.loads others variant) (present : space < scope.spaces)
    (owed : start.ledger.Owes ⟨space, pinned⟩) :
    Follows scope start (pinPage others space page access pinned tries).run
      (pinPage variant space page access pinned tries).run fun result now =>
        Brings start.ledger space (VirtualAddress.mk page).pageBase true (result.map some) now := by
  induction tries generalizing start with
  | zero => exact .stop
  | succ tries ih =>
    refine (resolve_follows tame present owed).run_bind (fun _ _ done => done) fun found now done => ?_
    cases found with
    | some frame => exact .ret done
    | none =>
      have ledger : now.ledger = start.ledger := done
      rw [← ledger] at tame owed ⊢
      exact ih tame owed

/-- A page was in its frame at some point of the way to a moment. -/
def Met (scope : Scope) (now : Moment) (space : SpaceId) (page : VirtualAddress × FrameNumber) : Prop :=
  ∃ earlier writable, scope.Ready earlier ∧ Path scope.may earlier now ∧
    earlier.machine.placement space page.1 = some (page.2, writable)

theorem Met.onward {now : Moment} {space : SpaceId} {page : VirtualAddress × FrameNumber}
    (met : Met scope start space page) (path : Path scope.may start now) : Met scope now space page := by
  obtain ⟨earlier, writable, ready, way, placed⟩ := met
  exact ⟨earlier, writable, ready, way.trans path, placed⟩

theorem Met.isPage {space : SpaceId} {page : VirtualAddress × FrameNumber}
    (met : Met scope start space page) : page.1.IsPage := by
  obtain ⟨earlier, writable, ready, _, placed⟩ := met
  obtain ⟨_, found, _⟩ := Registry.placement_eq_some.1 placed
  exact (ready.sound space).isPage found

/-- Either the guard holds a pin on each of `count` consecutive pages, or no pin is left. -/
def Guards (scope : Scope) (ledger : Ledger) (space : SpaceId) (first count : Nat) :
    Except FaultError PinGuard → Moment → Prop
  | .ok guard, now => guard.owner = space ∧
      guard.pages.map (·.1.value) = List.range' first count pageSize ∧
      (∀ page ∈ guard.pages, Met scope now space page) ∧
      now.ledger = { ledger with pins := guard.pins + ledger.pins }
  | .error _, now => now.ledger = ledger

theorem pinPages_follows {space : SpaceId} {access : Access} {first done count : Nat}
    {pinned : List (VirtualAddress × FrameNumber)} (letting : scope.may .unpin)
    (tame : Tame scope (flights.map (·.load)) others variant) (present : space < scope.spaces)
    (aligned : first % pageSize = 0)
    (row : pinned.map (·.1.value) = List.range' first done pageSize)
    (pages : ∀ page ∈ pinned, Met scope start space page)
    (balanced : (Ledger.mk flights pins).Balanced)
    (ledger : start.ledger = ⟨flights, (PinGuard.mk space pinned).pins + pins⟩) :
    Follows scope start (pinPages others space access (first + pageSize * done) pinned count).run
      (pinPages variant space access (first + pageSize * done) pinned count).run
      (Guards scope ⟨flights, pins⟩ space first (done + count)) := by
  induction count generalizing start done pinned with
  | zero => exact .ret ⟨rfl, row, pages, ledger⟩
  | succ count ih =>
    unfold pinPages
    rw [tame.patience]
    have loads : start.ledger.loads = flights.map (·.load) := by rw [ledger]; rfl
    have tame_here := tame
    rw [← loads] at tame_here
    have owed : start.ledger.Owes ⟨space, pinned⟩ := by
      unfold Ledger.Owes
      rw [ledger]
      exact congrArg (_ + ·) balanced
    refine .run_lift (guarded_follows (pinPage_follows tame_here present owed).along)
      fun result now ⟨brought, path⟩ => .of_ready fun ready => ?_
    cases result with
    | error error =>
      have same : now.ledger = start.ledger := brought
      refine .run_lift (dropGuard_follows letting (same.trans ledger)) fun _ _ left => ?_
      exact .ret left
    | ok frame =>
      obtain ⟨kept, writable, placed⟩ := brought
      have base : (VirtualAddress.mk (first + pageSize * done)).pageBase = ⟨first + pageSize * done⟩ := by
        rw [VirtualAddress.pageBase, Nat.add_mul_mod_self_left, aligned, Nat.sub_zero]
      rw [base] at kept placed
      rw [Nat.add_assoc, ← Nat.mul_succ, Nat.add_comm count 1, ← Nat.add_assoc]
      refine ih ?_ ?_ ?_
      · rw [List.map_append, row, List.range'_concat]
        rfl
      · intro other member
        rcases List.mem_append.1 member with member | member
        · exact (pages other member).onward path
        · cases List.mem_singleton.1 member
          exact ⟨now, writable, ready, .refl now, placed⟩
      · rw [kept, ledger, PinGuard.pins_append, Multiset.cons_add]
        rfl

/-- A row of pages is pinned by a call that has not pinned anything yet. -/
theorem pinRow_follows {space : SpaceId} {access : Access} {first count : Nat}
    (letting : scope.may .unpin) (tame : Tame scope start.ledger.loads others variant)
    (present : space < scope.spaces) (aligned : first % pageSize = 0) (balanced : start.ledger.Balanced) :
    Follows scope start (pinPages others space access first [] count).run
      (pinPages variant space access first [] count).run
      (Guards scope start.ledger space first count) := by
  have none : start.ledger = ⟨start.ledger.flights,
      (PinGuard.mk space []).pins + start.ledger.pins⟩ := by
    simp [PinGuard.pins]
  have follows := @pinPages_follows _ _ scope start others variant start.ledger.flights
    start.ledger.pins space access first 0 count [] letting tame present aligned rfl
    (fun _ member => absurd member List.not_mem_nil) balanced none
  rw [Nat.zero_add] at follows
  exact follows

theorem pinRange_follows {space : SpaceId} {addr : VirtualAddress} {length : Nat} {access : Access}
    (letting : scope.may .unpin) (tame : Tame scope start.ledger.loads others variant)
    (present : space < scope.spaces) (balanced : start.ledger.Balanced) :
    Follows scope start (pinRange others space addr length access).run
      (pinRange variant space addr length access).run (Guards scope start.ledger space
        addr.pageBase.value (if length = 0 then 0 else pagesOver addr length)) := by
  unfold pinRange
  dsimp only
  split
  · refine .ret ⟨rfl, rfl, fun _ member => absurd member List.not_mem_nil, ?_⟩
    simp [PinGuard.pins]
  · refine .run_look ?_
    split
    · exact .run_fail rfl
    · exact pinRow_follows letting tame present addr.pageBase_mod balanced

/-! Copies. -/

omit [Lawful] in
/-- The pieces of a range are in the pages of its guard. -/
theorem mem_pieces {guard : PinGuard} {target : VirtualAddress} {length : Nat} {piece : Piece}
    (member : piece ∈ guard.pieces target length) : (piece.page, piece.frame) ∈ guard.pages := by
  obtain ⟨⟨page, frame⟩, listed, rfl⟩ := List.mem_map.1 member
  exact listed

theorem setAccessed_follows {space : SpaceId} {page : VirtualAddress} {value : Bool}
    (is_page : page.IsPage) : Follows scope start (setAccessed space page value)
      (setAccessed space page value) fun _ now => now.ledger = start.ledger :=
  (Follows.idle (start.machine.idle_setAccessed space is_page.canonical)).imp
    fun _ _ same => by rw [same]

def writePiece (space : SpaceId) (piece : Piece) (bytes : Bytes) : Kernel Unit := do
  writeFrame piece.frame piece.offset bytes
  setAccessed space piece.page true
  setDirty space piece.page true

/-- Bytes are written into the frame of a piece, and its page counts as changed if it is there. -/
theorem writePiece_ok {space : SpaceId} {piece : Piece} {bytes : Bytes} {machine next : Machine}
    {u : Unit} (is_page : piece.page.IsPage) (ran : writePiece space piece bytes machine = .ok u next) :
    ∃ memory, machine.memory.write piece.frame piece.offset bytes = .ok memory ∧
      Machine.Idle { machine with memory } next ∧ ∀ {ledger writable}, Consistent ⟨ledger, machine⟩ →
        Mapped machine → machine.placement space piece.page = some (piece.frame, writable) →
          next.isDirty space piece.page = true := by
  simp only [writePiece, bind_ok, writeFrame_ok, setAccessed, setDirty, modify_ok] at ran
  obtain ⟨_, _, ⟨memory, written, rfl⟩, _, _, rfl, rfl⟩ := ran
  have accessed : Machine.Idle { machine with memory } (Machine.setDirectory _ space
      (Architecture.setAccessed _ piece.page true)) :=
    Machine.idle_setAccessed _ space is_page.canonical
  refine ⟨memory, written, accessed.trans (Machine.idle_setDirty _ space is_page),
    fun {ledger writable} consistent mapped placed => ?_⟩
  have kept : Mapped { machine with memory } := mapped.of_tables rfl rfl
  have stays : Consistent ⟨ledger, { machine with memory }⟩ :=
    consistent.of_tables rfl (Nat.le_refl _) consistent.held consistent.fair
  exact (kept.aside accessed.toAside).dirtied (stays.aside accessed.toAside)
    (show _ = some (piece.frame, writable) by rw [accessed.registries]; exact placed)

theorem writePiece_follows {space : SpaceId} {piece : Piece} {bytes : Bytes}
    (storing : scope.may .store) (straying : ¬scope.trusting → scope.may .stray)
    (is_page : piece.page.IsPage)
    (pinned : ⟨space, piece.page, piece.frame⟩ ∈ start.ledger.pins) :
    Follows scope start (writePiece space piece bytes) (writePiece space piece bytes)
      fun _ now => now.ledger = start.ledger := by
  refine .of_ok fun ready _ next ended => ?_
  obtain ⟨memory, written, idle, dirty⟩ := writePiece_ok is_page ended
  by_cases trusting : scope.trusting
  · have store : Move .store start ⟨start.ledger, next⟩ := .store (.inl pinned) written idle
      fun placed => dirty ready.toConsistent (ready.mapped trusting) placed
    exact ⟨_, .of_move storing store, rfl⟩
  · have stray : Move .stray start ⟨start.ledger, { start.machine with memory }⟩ :=
      .stray (start.machine.scribbled_memory memory)
    exact ⟨_, .next (straying trusting) stray (scope.idles _ idle), rfl⟩

theorem writePieces_follows {space : SpaceId} {pieces : List Piece} {bytes : Bytes}
    (storing : scope.may .store) (straying : ¬scope.trusting → scope.may .stray)
    (pages : ∀ piece ∈ pieces,
      piece.page.IsPage ∧ ⟨space, piece.page, piece.frame⟩ ∈ start.ledger.pins) :
    Follows scope start (writePieces space pieces bytes) (writePieces space pieces bytes)
      fun _ now => now.ledger = start.ledger := by
  induction pieces generalizing start bytes with
  | nil => exact .ret rfl
  | cons piece rest ih =>
    have steps : writePieces space (piece :: rest) bytes = (do
        writePiece space piece (bytes.take piece.length)
        writePieces space rest (bytes.drop piece.length)) := by
      simp only [writePieces, writePiece, bind_assoc]
    obtain ⟨is_page, pinned⟩ := pages piece List.mem_cons_self
    rw [steps]
    refine (writePiece_follows storing straying is_page pinned).bind fun _ now ledger => ?_
    rw [← ledger]
    refine ih fun other member => ?_
    rw [ledger]
    exact pages other (List.mem_cons_of_mem _ member)

theorem copyToUser_follows {space : SpaceId} {target : VirtualAddress} {bytes : Bytes}
    (letting : scope.may .unpin) (storing : scope.may .store)
    (straying : ¬scope.trusting → scope.may .stray)
    (tame : Tame scope start.ledger.loads others variant) (present : space < scope.spaces)
    (balanced : start.ledger.Balanced) :
    Follows scope start (copyToUser others space target bytes).run
      (copyToUser variant space target bytes).run fun _ now => now.ledger = start.ledger := by
  refine (pinRange_follows letting tame present balanced).run_bind (fun _ _ done => done)
    fun guard now ⟨owner, _, pages, ledger⟩ => ?_
  have pieces : ∀ piece ∈ guard.pieces target bytes.length,
      piece.page.IsPage ∧ ⟨space, piece.page, piece.frame⟩ ∈ now.ledger.pins := by
    intro piece member
    have listed := mem_pieces member
    refine ⟨(pages _ listed).isPage, ?_⟩
    rw [ledger, ← owner]
    exact Multiset.mem_add.2 (.inl (PinGuard.mem_pins listed))
  refine .run_lift (writePieces_follows storing straying pieces) fun _ next kept => ?_
  exact .run_last (dropGuard_follows letting (kept.trans ledger)) fun _ _ left => left

def readPiece (space : SpaceId) (piece : Piece) : Kernel Bytes := do
  let bytes ← readFrame piece.frame
  setAccessed space piece.page true
  return bytes.slice piece.offset piece.length

theorem readPiece_follows {space : SpaceId} {piece : Piece} (is_page : piece.page.IsPage) :
    Follows scope start (readPiece space piece) (readPiece space piece)
      fun _ now => now.ledger = start.ledger := by
  have read : Follows scope start (readFrame piece.frame) (readFrame piece.frame)
      fun _ now => start = now := .of_ok fun _ _ _ ended => by
    obtain ⟨_, rfl⟩ := readFrame_ok.1 ended
    exact ⟨_, .refl _, rfl⟩
  refine read.bind fun _ now same => ?_
  subst same
  exact (setAccessed_follows is_page).bind fun _ _ ledger => .ret ledger

theorem readPieces_follows {space : SpaceId} {pieces : List Piece}
    (pages : ∀ piece ∈ pieces, piece.page.IsPage) :
    Follows scope start (pieces.mapM fun piece => (readPiece space piece : Faulting Bytes)).run
      (pieces.mapM fun piece => (readPiece space piece : Faulting Bytes)).run
      fun result now => now.ledger = start.ledger ∧ ∃ parts, result = .ok parts := by
  induction pieces generalizing start with
  | nil => exact .ret ⟨rfl, _, rfl⟩
  | cons piece rest ih =>
    rw [List.mapM_cons]
    refine .run_lift (readPiece_follows (pages piece List.mem_cons_self)) fun _ now ledger => ?_
    rw [← ledger]
    exact (ih fun other member => pages other (List.mem_cons_of_mem _ member)).run_bind
      (fun _ _ ⟨_, _, wrong⟩ => nomatch wrong) fun _ _ ⟨done, _⟩ => .ret ⟨done, _, rfl⟩

theorem copyFromUser_follows {space : SpaceId} {source : VirtualAddress} {length : Nat}
    (letting : scope.may .unpin) (tame : Tame scope start.ledger.loads others variant)
    (present : space < scope.spaces) (balanced : start.ledger.Balanced) :
    Follows scope start (copyFromUser others space source length).run
      (copyFromUser variant space source length).run fun _ now => now.ledger = start.ledger := by
  refine (pinRange_follows letting tame present balanced).run_bind (fun _ _ done => done)
    fun guard now ⟨owner, _, pages, ledger⟩ => ?_
  refine (readPieces_follows fun piece member => (pages _ (mem_pieces member)).isPage).run_bind
    (fun _ _ ⟨_, _, wrong⟩ => nomatch wrong) fun parts next ⟨kept, _⟩ => ?_
  refine .run_lift (dropGuard_follows letting (kept.trans ledger)) fun _ _ left => .ret left

end Kernel

end DemandPaging
