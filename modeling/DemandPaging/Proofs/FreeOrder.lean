import DemandPaging.Proofs.Reclaiming

/-! The order in which free frames are assigned. A turnover of a run lists the frames that came back to the
pool and are free still, the latest first. They are assigned in that order, and the frames that were never
assigned after them, from the lowest on. Main statement: the lowest free frame is assigned next just if no
frame that came back earlier is lower than the one that came back last. -/
namespace DemandPaging

namespace FramePool
variable {before after pool : FramePool} {history : List Nat} {index other : Nat}

/-- At most one frame was taken off the free list or put on it. -/
structure Restocks (before after : FramePool) : Prop where
  capacity : after.capacity = before.capacity
  free : after.free = before.free ∨ (∃ index, before.free = index :: after.free) ∨
    ∃ index, after.free = index :: before.free

namespace Restocks

theorem refl (pool : FramePool) : Restocks pool pool := ⟨rfl, .inl rfl⟩

theorem giveBack (pool : FramePool) (index : Nat) : Restocks pool (pool.giveBack index) :=
  ⟨rfl, .inr (.inr ⟨index, rfl⟩)⟩

theorem withdraw_turned (pool : FramePool) (hand index : Nat) :
    Restocks pool (FramePool.withdraw { pool with hand } index) := by
  obtain ⟨_, same, _⟩ := FramePool.withdraw_eq { pool with hand } index
  rw [same]
  exact ⟨rfl, .inr (.inr ⟨index, rfl⟩)⟩

theorem withdraw (pool : FramePool) (index : Nat) : Restocks pool (pool.withdraw index) :=
  withdraw_turned pool pool.hand index

theorem retire (pool : FramePool) (index : Nat) : Restocks pool (pool.retire index) := by
  obtain ⟨_, same, _⟩ := pool.retire_eq index
  rw [same]
  exact ⟨rfl, .inl rfl⟩

theorem setEntry (pool : FramePool) (index : Nat) (entry : FrameEntry) :
    Restocks pool (pool.setEntry index entry) := ⟨rfl, .inl rfl⟩

theorem assign {rest : FramePool} (taken : pool.takeFree? = some (index, rest)) (owner : SpaceId) :
    Restocks pool (rest.assign index owner) := by
  have free := free_of_takeFree? taken
  obtain ⟨returned, fresh, rfl⟩ := takeFree?_eq taken
  exact ⟨rfl, .inr (.inl ⟨index, free⟩)⟩

end Restocks

def unused (pool : FramePool) (listed : List Nat) : List Nat :=
  (List.range pool.capacity).filter fun index => (pool.entry index).owner.isNone && index ∉ listed

theorem mem_unused : index ∈ pool.unused history ↔
    index < pool.capacity ∧ (pool.entry index).owner = none ∧ index ∉ history := by
  simp [unused]

theorem unused_ascending (pool : FramePool) (listed : List Nat) :
    (pool.unused listed).Pairwise (· < ·) :=
  List.pairwise_lt_range.sublist List.filter_sublist

/-- The free list begins with the frames that came back, and ends with those that were never assigned. -/
structure InTurn (pool : FramePool) (history : List Nat) : Prop where
  free : pool.free = history ++ pool.unused history
  /-- All frames above one that was never assigned were never assigned. -/
  above : ∀ {index other}, index ∈ pool.unused history → index ≤ other → other < pool.capacity →
    other ∈ pool.unused history

namespace InTurn

/-- A frame that was assigned at some time is below those that were not. -/
theorem below (inTurn : pool.InTurn history) (sound : pool.Sound) (listed : index ∈ history)
    (unused : other ∈ pool.unused history) : index < other := by
  by_contra reaches
  have free : index ∈ pool.free := by
    rw [inTurn.free]
    exact List.mem_append_left _ listed
  have again := inTurn.above unused (Nat.le_of_not_lt reaches) (sound.free.1 free).1
  exact (mem_unused.1 again).2.2 listed

/-- The free list is ascending just as far as the frames that came back are. -/
theorem ascending (inTurn : pool.InTurn history) (sound : pool.Sound) :
    pool.free.Pairwise (· < ·) ↔ history.Pairwise (· < ·) := by
  rw [inTurn.free, List.pairwise_append]
  constructor
  · intro sorted
    exact sorted.1
  · intro sorted
    exact ⟨sorted, unused_ascending _ _, fun _ listed _ => inTurn.below sound listed⟩

/-- The frame that is assigned next is the lowest free one just if it is the lowest of those that came
back. -/
theorem lowest (inTurn : pool.InTurn history) (sound : pool.Sound) {rest : List Nat}
    (next : pool.free = index :: rest) :
    (∀ other ∈ pool.free, index ≤ other) ↔ ∀ other ∈ history, index ≤ other := by
  have free := inTurn.free
  constructor
  · intro least other listed
    apply least
    rw [free]
    exact List.mem_append_left _ listed
  · intro least other member
    rw [free] at member
    rcases List.mem_append.1 member with listed | unused
    · exact least other listed
    · cases history with
      | nil =>
        rw [next, List.nil_append] at free
        have sorted := unused_ascending pool []
        rw [← free] at sorted unused
        rcases List.mem_cons.1 unused with same | later
        · exact Nat.le_of_eq same.symm
        · exact Nat.le_of_lt (List.rel_of_pairwise_cons sorted later)
      | cons first history =>
        rw [next] at free
        cases free
        exact Nat.le_of_lt (inTurn.below sound List.mem_cons_self unused)

end InTurn

theorem Sound.unowned_iff (sound : pool.Sound) (inside : index < pool.capacity) :
    (pool.entry index).owner = none ↔ index ∈ pool.free := by
  rw [sound.free]
  exact ⟨fun unowned => ⟨inside, unowned⟩, And.right⟩

theorem unused_eq {listed more : List Nat} (capacity : after.capacity = before.capacity)
    (same : ∀ index, index ∈ after.unused more ↔ index ∈ before.unused listed) :
    after.unused more = before.unused listed := by
  unfold unused at same ⊢
  rw [capacity] at same ⊢
  apply List.filter_congr
  intro index member
  have here := same index
  rw [List.mem_filter, List.mem_filter, and_iff_right member, and_iff_right member] at here
  exact Bool.eq_iff_iff.2 here

/-! What becomes of the free list, as told by the owner of one frame before and after. -/

namespace Restocks
variable (restocks : Restocks before after) (sound : before.Sound) (later : after.Sound)
include restocks sound later

theorem returned (owned : (before.entry index).owner.isSome = true)
    (unowned : (after.entry index).owner = none) : after.free = index :: before.free ∧ index ∉ before.free := by
  have there : index ∈ after.free := by
    apply (later.unowned_iff ?_).1 unowned
    rw [restocks.capacity]
    exact sound.within owned
  have away : index ∉ before.free := by
    intro free
    rw [(sound.free.1 free).2] at owned
    cases owned
  refine ⟨?_, away⟩
  rcases restocks.free with same | ⟨taken, shorter⟩ | ⟨freed, longer⟩
  · exact absurd (same ▸ there) away
  · rw [shorter] at away
    exact absurd (List.mem_cons_of_mem _ there) away
  · rw [longer] at there
    rcases List.mem_cons.1 there with same | old
    · rw [longer, same]
    · exact absurd old away

theorem taken (unowned : (before.entry index).owner = none)
    (owned : (after.entry index).owner.isSome = true) :
    before.free = index :: after.free ∧ index ∉ after.free := by
  have there : index ∈ before.free := by
    apply (sound.unowned_iff ?_).1 unowned
    rw [← restocks.capacity]
    exact later.within owned
  have away : index ∉ after.free := by
    intro free
    rw [(later.free.1 free).2] at owned
    cases owned
  refine ⟨?_, away⟩
  rcases restocks.free with same | ⟨taken, shorter⟩ | ⟨freed, longer⟩
  · exact absurd (same ▸ there) away
  · rw [shorter] at there
    rcases List.mem_cons.1 there with same | old
    · rw [shorter, same]
    · exact absurd old away
  · rw [longer] at away
    exact absurd (List.mem_cons_of_mem _ there) away

/-- All other frames are free just if they were. -/
theorem unowned_taken (free : before.free = index :: after.free) (away : index ∉ after.free)
    (within : other < before.capacity) :
    (after.entry other).owner = none ↔ (before.entry other).owner = none ∧ other ≠ index := by
  rw [later.unowned_iff (restocks.capacity ▸ within), sound.unowned_iff within, free, List.mem_cons]
  by_cases same : other = index
  · simp [same, away]
  · simp [same]

end Restocks

namespace InTurn
variable (sound : before.Sound) (later : after.Sound) (restocks : Restocks before after)
include sound later restocks

theorem returned (inTurn : before.InTurn history) (owned : (before.entry index).owner.isSome = true)
    (unowned : (after.entry index).owner = none) : after.InTurn (index :: history) := by
  have capacity := restocks.capacity
  obtain ⟨free, away⟩ := restocks.returned sound later owned unowned
  have unused : after.unused (index :: history) = before.unused history := by
    apply unused_eq capacity
    intro other
    rw [mem_unused, mem_unused, capacity]
    apply and_congr_right
    intro within
    rw [later.unowned_iff (capacity ▸ within), sound.unowned_iff within, free, List.mem_cons, List.mem_cons]
    by_cases same : other = index
    · simp [same, away]
    · simp [same]
  constructor
  · rw [free, unused, inTurn.free]
    rfl
  · rw [unused, capacity]
    exact inTurn.above

section
variable (free : before.free = index :: after.free) (away : index ∉ after.free)
include free away

theorem taken_listed (inTurn : before.InTurn (index :: history)) : after.InTurn history := by
  have capacity := restocks.capacity
  have unused : after.unused history = before.unused (index :: history) := by
    apply unused_eq capacity
    intro other
    rw [mem_unused, mem_unused, capacity, List.mem_cons, not_or]
    apply and_congr_right
    intro within
    rw [restocks.unowned_taken sound later free away within, and_assoc]
  have parts := inTurn.free
  rw [free] at parts
  constructor
  · rw [unused]
    exact (List.cons.inj parts).2
  · rw [unused, capacity]
    exact inTurn.above

/-- If none is listed, the lowest of those that were never assigned is. -/
theorem taken_lowest (inTurn : before.InTurn []) : after.InTurn [] := by
  have capacity := restocks.capacity
  have unowned_iff := fun other (within : other < before.capacity) =>
    restocks.unowned_taken sound later free away within
  have parts := inTurn.free
  rw [free, List.nil_append] at parts
  have sorted := unused_ascending before []
  rw [← parts] at sorted
  have rest : after.unused [] = after.free := by
    have fewer : after.unused [] = (before.unused []).filter (· != index) := by
      unfold unused
      rw [List.filter_filter, capacity]
      apply List.filter_congr
      intro other member
      have here := unowned_iff other (List.mem_range.1 member)
      rw [Bool.eq_iff_iff]
      simp [here, and_comm]
    rw [fewer, ← parts, List.filter_cons_of_neg (by simp), filter_absent away]
  constructor
  · rw [List.nil_append, rest]
  · intro lower other unused reach within
    obtain ⟨below, free_lower, _⟩ := mem_unused.1 unused
    have first : index < lower := by
      rw [rest] at unused
      exact List.rel_of_pairwise_cons sorted unused
    rw [capacity] at below within
    have before_lower : lower ∈ before.unused [] :=
      mem_unused.2 ⟨below, ((unowned_iff lower below).1 free_lower).1, List.not_mem_nil⟩
    obtain ⟨_, free_other, _⟩ := mem_unused.1 (inTurn.above before_lower reach within)
    have differ : other ≠ index := by omega
    exact mem_unused.2 ⟨capacity ▸ within, (unowned_iff other within).2 ⟨free_other, differ⟩, List.not_mem_nil⟩

end

/-- A frame that is assigned is the first of those listed, or else the lowest of the others. -/
theorem taken (inTurn : before.InTurn history) (unowned : (before.entry index).owner = none)
    (owned : (after.entry index).owner.isSome = true) : after.InTurn (history.erase index) := by
  obtain ⟨free, away⟩ := restocks.taken sound later unowned owned
  cases history with
  | cons first history =>
    have parts := inTurn.free
    rw [free] at parts
    obtain ⟨rfl, _⟩ := List.cons.inj parts
    rw [List.erase_cons_head]
    exact taken_listed sound later restocks free away inTurn
  | nil =>
    rw [List.erase_nil]
    exact taken_lowest sound later restocks free away inTurn

/-- Where all frames have the owners they had, those that are free are so in turn as they were. -/
theorem kept (inTurn : before.InTurn history)
    (owners : ∀ index, (after.entry index).owner.isSome = (before.entry index).owner.isSome) :
    after.InTurn history := by
  have capacity := restocks.capacity
  have same : ∀ {index}, index ∈ after.free ↔ index ∈ before.free := by
    intro index
    rw [later.free, sound.free, capacity, ← Option.not_isSome_iff_eq_none, ← Option.not_isSome_iff_eq_none,
      owners]
  have free : after.free = before.free := by
    rcases restocks.free with same | ⟨taken, shorter⟩ | ⟨freed, longer⟩
    · exact same
    · have distinct := sound.free_distinct
      rw [shorter] at distinct
      have missing := (List.nodup_cons.1 distinct).1
      rw [same, shorter] at missing
      exact absurd List.mem_cons_self missing
    · have distinct := later.free_distinct
      rw [longer] at distinct
      have missing := (List.nodup_cons.1 distinct).1
      rw [← same, longer] at missing
      exact absurd List.mem_cons_self missing
  have unused : after.unused history = before.unused history := by
    apply unused_eq capacity
    intro index
    rw [mem_unused, mem_unused, capacity, ← Option.not_isSome_iff_eq_none, ← Option.not_isSome_iff_eq_none,
      owners]
  constructor
  · rw [free, unused]
    exact inTurn.free
  · rw [unused, capacity]
    exact inTurn.above

end InTurn

theorem inTurn_ofCount (base : FrameNumber) (count : Nat) : (ofCount base count).InTurn [] := by
  have free : (ofCount base count).free = List.range count := by
    simp [ofCount, FramePool.free, List.range_eq_range']
  have unused : (ofCount base count).unused [] = List.range count := by
    apply List.filter_eq_self.2
    intro index _
    simp [ofCount, entry]
  constructor
  · rw [free, unused]
    rfl
  · intro index other _ _ within
    rw [unused]
    exact List.mem_range.2 within

end FramePool

open Architecture (Lawful)

section
variable [Architecture]

theorem Machine.restocks_vacate (machine : Machine) (space : SpaceId) (page : Page) :
    machine.pool.Restocks (machine.vacate space page).pool := by
  unfold Machine.vacate
  split
  · exact .refl _
  · exact .refl _
  · dsimp only
    split
    · exact .retire _ _
    · exact .withdraw _ _

theorem Machine.restocks_unpin (machine : Machine) (space : SpaceId) (frame : FrameNumber) :
    machine.pool.Restocks (machine.unpin space frame).pool := by
  unfold Machine.unpin
  dsimp only
  split
  · split
    · exact .giveBack _ _
    · exact .setEntry _ _ _
  · exact .setEntry _ _ _

variable [Lawful]

/-- A move takes one frame off the free list at most, or puts one on it. -/
theorem Move.restocks {act : Act} {before after : Moment} (move : Move act before after) :
    before.machine.pool.Restocks after.machine.pool := by
  have same {pool : FramePool} (equal : pool = before.machine.pool) :
      before.machine.pool.Restocks pool := by
    rw [equal]
    exact .refl _
  cases move with
  | idle idle => exact same idle.pool
  | scribble scribbled => exact same scribbled.pool
  | tamper aside => exact same aside.pool
  | stray scribbled => exact same scribbled.pool
  | store _ _ idle => exact same idle.pool
  | drop => exact Machine.restocks_vacate _ _ _
  | expel => exact Machine.restocks_vacate _ _ _
  | evict => exact .withdraw_turned _ _ _
  | take _ _ _ _ taken => exact .assign taken _
  | lend taken => exact .assign taken _
  | @attach _ _ _ _ _ _ _ pinned =>
    cases pinned with
    | true => exact .refl _
    | false => exact .setEntry _ _ _
  | abandon => exact .withdraw _ _
  | recover => exact .withdraw _ _
  | pin => exact .setEntry _ _ _
  | unpin => exact Machine.restocks_unpin _ _ _
  | refuse => exact .setEntry _ _ _
  | _ => exact .refl _

/-- The frames that came back to the pool and are free still, the latest first, as the owners of frames
tell. -/
inductive Turnover : List Nat → Moment → Prop
  | boot {threshold config memory base disk machine}
      (booted : Machine.boot threshold config memory base disk = .ok machine) : Turnover [] ⟨{}, machine⟩
  /-- A frame loses its owner. -/
  | returned {history now act next index} (earlier : Turnover history now) (move : Move act now next)
      (owned : (now.machine.pool.entry index).owner.isSome = true)
      (unowned : (next.machine.pool.entry index).owner = none) : Turnover (index :: history) next
  /-- A frame without an owner gets one. -/
  | taken {history now act next index} (earlier : Turnover history now) (move : Move act now next)
      (unowned : (now.machine.pool.entry index).owner = none)
      (owned : (next.machine.pool.entry index).owner.isSome = true) : Turnover (history.erase index) next
  | other {history now act next} (earlier : Turnover history now) (move : Move act now next)
      (owners : ∀ index, (next.machine.pool.entry index).owner.isSome =
        (now.machine.pool.entry index).owner.isSome) : Turnover history next
  | note {history ledger machine log callers} (earlier : Turnover history ⟨ledger, machine⟩)
      (guards : callers.guards = machine.callers.guards)
      (frames : callers.frames = machine.callers.frames) :
      Turnover history ⟨ledger, { machine with log, callers }⟩

namespace Turnover
variable {history : List Nat} {now : Moment}

/-- Whatever is done next, the turnover goes on. -/
theorem next {act : Act} {after : Moment} (turnover : Turnover history now)
    (move : Move act now after) : ∃ history, Turnover history after := by
  by_cases owners : ∀ index, (after.machine.pool.entry index).owner.isSome =
      (now.machine.pool.entry index).owner.isSome
  · exact ⟨history, turnover.other move owners⟩
  · obtain ⟨index, differs⟩ := not_forall.1 owners
    cases owned : (now.machine.pool.entry index).owner with
    | none =>
      rw [owned] at differs
      exact ⟨_, turnover.taken move owned (Bool.eq_true_of_not_eq_false differs)⟩
    | some owner =>
      rw [owned] at differs
      refine ⟨_, turnover.returned move (by rw [owned]; rfl) ?_⟩
      rwa [Option.isSome_some, Bool.not_eq_true, Option.isSome_eq_false_iff,
        Option.isNone_iff_eq_none] at differs

theorem consistent (turnover : Turnover history now) : Consistent now := by
  induction turnover with
  | boot booted =>
    have between : BetweenOperations .offered ⟨{}, _⟩ := Machine.boot_betweenOperations booted
    exact between.toConsistent
  | returned _ move _ _ ih => exact ih.move move
  | taken _ move _ _ ih => exact ih.move move
  | other _ move _ ih => exact ih.move move
  | note _ guards frames ih => exact ih.note guards frames

/-- The free list is made up of the frames that came back and those that were never assigned. -/
theorem inTurn (turnover : Turnover history now) : now.machine.pool.InTurn history := by
  induction turnover with
  | boot booted =>
    obtain ⟨_, _, _, _, rfl⟩ := Machine.boot_ok booted
    exact FramePool.inTurn_ofCount _ _
  | returned earlier move owned unowned ih =>
    have consistent := earlier.consistent
    exact ih.returned consistent.held.sound (consistent.move move).held.sound move.restocks owned unowned
  | taken earlier move unowned owned ih =>
    have consistent := earlier.consistent
    exact ih.taken consistent.held.sound (consistent.move move).held.sound move.restocks unowned owned
  | other earlier move owners ih =>
    have consistent := earlier.consistent
    exact ih.kept consistent.held.sound (consistent.move move).held.sound move.restocks owners
  | note _ _ _ ih => exact ih

end Turnover

/-- How free frames are assigned: those that came back before those that were never assigned, the latest of
the former and the lowest of the latter first. -/
structure Machine.AssignsInTurn (machine : Machine) (loads : List Load) : Prop where
  recorded : ∃ history ledger, ledger.loads = loads ∧ Turnover history ⟨ledger, machine⟩
  turns : ∀ {history ledger}, Turnover history ⟨ledger, machine⟩ →
    machine.pool.free = history ++ machine.pool.unused history ∧
      (machine.pool.free.Pairwise (· < ·) ↔ history.Pairwise (· < ·)) ∧
      ∀ {index rest}, machine.pool.free = index :: rest →
        ((∀ other ∈ machine.pool.free, index ≤ other) ↔ ∀ other ∈ history, index ≤ other)
  /-- What is first in the free list is assigned, and the rest is left. -/
  first : ∀ {index rest}, machine.pool.free = index :: rest → ∀ owner zeroed,
    Kernel.Outcome machine (Kernel.allocate owner zeroed) (fun frame after =>
      frame = machine.pool.number index ∧ after.pool.free = rest) Kernel.Never

/-- Wherever a run has led to, free frames are assigned in turn. -/
theorem Reached.assigns_in_turn {rule : Rule} {loads : List Load} {machine : Machine}
    (sensible : rule.Sensible) (reached : Reached rule loads machine) (backed : machine.Backed) :
    machine.AssignsInTurn loads := by
  obtain ⟨ledger, rfl, between, history, turnover⟩ := Reached.keeps
    (fun now => ∃ history, Turnover history now) sensible
    (fun booted => ⟨[], .boot booted⟩)
    (fun _ move _ _ ⟨_, turnover⟩ => turnover.next move)
    (fun _ guards frames ⟨_, turnover⟩ => ⟨_, turnover.note guards frames⟩) reached
  have sound : machine.pool.Sound := between.held.sound
  constructor
  · exact ⟨history, ledger, rfl, turnover⟩
  · intro _ _ turnover
    have inTurn := turnover.inTurn
    exact ⟨inTurn.free, inTurn.ascending sound, inTurn.lowest sound⟩
  · intro index rest free owner zeroed
    have houses : machine.Houses machine.pool := ⟨rfl, rfl, fun ⟨index, inside, named⟩ => by
      rw [named]
      exact backed index inside⟩
    apply (Kernel.allocate_free sound houses free owner zeroed).weaken
    rintro frame after ⟨named, assigned⟩
    exact ⟨named, assigned.free⟩

end

section
attribute [local instance] Architecture.small

/-- Two pages were loaded into frames, and the one in the lower frame was released first. -/
def releasedInOrder : Machine :=
  [.createSpace none ⟨0, []⟩, .registerZero 0 0x1000 2 true, .poke 0 0x1000 1, .poke 0 0x1010 2,
    .release 0 0x1000, .release 0 0x1010].foldl Machine.undisturbed twoFrames

theorem releasedInOrder_reached : Reached .offered [] releasedInOrder :=
  twoFrames_reached.carried id (by decide +kernel)

theorem releasedInOrder_assigns_in_turn : Rule.offered.Sensible ∧ Reached .offered [] releasedInOrder ∧
    releasedInOrder.Backed ∧ releasedInOrder.AssignsInTurn [] := by
  have backed : releasedInOrder.Backed := by
    intro index inside
    have capacity : releasedInOrder.pool.capacity = 2 := rfl
    rw [capacity] at inside
    match index, inside with
    | 0, _ => exact ⟨_, rfl, rfl⟩
    | 1, _ => exact ⟨_, rfl, rfl⟩
  exact ⟨Rule.sensible_offered, releasedInOrder_reached, backed,
    releasedInOrder_reached.assigns_in_turn Rule.sensible_offered backed⟩

/-- The lower frame is free, and the higher one is assigned. -/
theorem releasedInOrder_higher : Reached .offered [] releasedInOrder ∧ releasedInOrder.pool.free = [1, 0] ∧
    (Kernel.allocate 0 false).answer? releasedInOrder = some (releasedInOrder.pool.number 1) :=
  ⟨releasedInOrder_reached, by decide +kernel, by decide +kernel⟩

end

end DemandPaging
