import DemandPaging.Proofs.Bijection

/-! No frame is lost. At every moment a frame of the pool is free, in the ring, or lingers: it was
released while somebody had it pinned. Once all pages are released, no load is under way, and guards
and frames are given back, all frames are free. Callers give back frames only that they obtained. -/
namespace DemandPaging
open Architecture (Lawful)

namespace FramePool

/-- The frame is free, and nothing else is known of it. -/
def Spare (pool : FramePool) (index : Nat) : Prop :=
  pool.free.count index = 1 ∧ pool.entry index = { owner := none, pins := 0, released := false }

/-- The frame is in the ring and belongs to a space. -/
def Running (pool : FramePool) (index : Nat) : Prop :=
  pool.clock.count index = 1 ∧ (pool.entry index).owner.isSome = true ∧
    (pool.entry index).released = false

/-- The page in the frame was released, but there are pins on the frame still. -/
def Lingering (pool : FramePool) (index : Nat) : Prop :=
  (pool.entry index).owner.isSome = true ∧ (pool.entry index).released = true ∧
    0 < (pool.entry index).pins

instance (pool : FramePool) (index : Nat) : Decidable (pool.Lingering index) :=
  inferInstanceAs (Decidable (_ ∧ _ ∧ _))

def lingering (pool : FramePool) : List Nat :=
  (List.range pool.capacity).filter fun index => pool.Lingering index

/-- Every frame of the pool is in one place, and in one place only. -/
structure Conserved (pool : FramePool) : Prop where
  place : ∀ {index}, index < pool.capacity →
    (pool.Spare index ∧ index ∉ pool.clock) ∨ (pool.Running index ∧ index ∉ pool.free) ∨
      (pool.Lingering index ∧ index ∉ pool.free ∧ index ∉ pool.clock)
  within : ∀ {index}, index ∈ pool.free ∨ index ∈ pool.clock → index < pool.capacity
  total : pool.freeCount + pool.residentCount + pool.lingering.length = pool.capacity
  resident : pool.residentCount ≤ pool.capacity
  hand : pool.hand < pool.residentCount ∨ pool.residentCount = 0 ∧ pool.hand = 0

namespace Sound
variable {pool : FramePool} {index : Nat} (sound : pool.Sound)
include sound

theorem mem_lingering : index ∈ pool.lingering ↔ pool.Lingering index := by
  unfold lingering
  rw [List.mem_filter, List.mem_range, decide_eq_true_iff]
  exact ⟨And.right, fun lingers => ⟨sound.within lingers.1, lingers⟩⟩

theorem running_or_lingering (owned : (pool.entry index).owner.isSome = true) :
    index ∈ pool.clock ∧ (pool.entry index).released = false ∨
      pool.Lingering index ∧ index ∉ pool.clock := by
  cases released : (pool.entry index).released with
  | false => exact .inl ⟨sound.ring.2 ⟨owned, released⟩, rfl⟩
  | true =>
    refine .inr ⟨⟨owned, released, sound.pinned released⟩, fun inside => ?_⟩
    rw [(sound.ring.1 inside).2] at released
    cases released

theorem place (inside : index < pool.capacity) :
    (pool.Spare index ∧ index ∉ pool.clock) ∨ (pool.Running index ∧ index ∉ pool.free) ∨
      (pool.Lingering index ∧ index ∉ pool.free ∧ index ∉ pool.clock) := by
  cases owner : (pool.entry index).owner with
  | none =>
    have free := sound.free.2 ⟨inside, owner⟩
    exact .inl ⟨⟨List.count_eq_one_of_mem sound.free_distinct free, sound.blank owner⟩,
      sound.outside_ring owner⟩
  | some space =>
    have owned : (pool.entry index).owner.isSome = true := by rw [owner]; rfl
    have taken : index ∉ pool.free := by
      intro free
      rw [(sound.free.1 free).2] at owner
      cases owner
    rcases sound.running_or_lingering owned with ⟨running, kept⟩ | ⟨lingers, outside⟩
    · exact .inr (.inl ⟨⟨List.count_eq_one_of_mem sound.distinct running, owned, kept⟩, taken⟩)
    · exact .inr (.inr ⟨lingers, taken, outside⟩)

theorem perm : (pool.free ++ pool.clock ++ pool.lingering).Perm (List.range pool.capacity) := by
  have apart : List.Disjoint pool.free pool.clock := fun index free running => by
    have owned := (sound.ring.1 running).1
    rw [(sound.free.1 free).2] at owned
    cases owned
  have lingers : List.Disjoint (pool.free ++ pool.clock) pool.lingering := fun index left right => by
    obtain ⟨owned, released, _⟩ := sound.mem_lingering.1 right
    rcases List.mem_append.1 left with free | running
    · rw [(sound.free.1 free).2] at owned
      cases owned
    · rw [(sound.ring.1 running).2] at released
      cases released
  have distinct : (pool.free ++ pool.clock ++ pool.lingering).Nodup :=
    (sound.free_distinct.append sound.distinct apart).append (List.nodup_range.filter _) lingers
  refine (List.perm_ext_iff_of_nodup distinct List.nodup_range).2 fun index => ?_
  rw [List.mem_append, List.mem_append, List.mem_range]
  constructor
  · rintro ((free | running) | lingers)
    · exact (sound.free.1 free).1
    · exact sound.within (sound.ring.1 running).1
    · exact sound.within (sound.mem_lingering.1 lingers).1
  · intro inside
    cases owner : (pool.entry index).owner with
    | none => exact .inl (.inl (sound.free.2 ⟨inside, owner⟩))
    | some space =>
      rcases sound.running_or_lingering (by rw [owner]; rfl) with ⟨running, _⟩ | ⟨lingers, _⟩
      · exact .inl (.inr running)
      · exact .inr (sound.mem_lingering.2 lingers)

theorem conserved : pool.Conserved where
  place := sound.place
  within := by
    rintro index (free | running)
    · exact (sound.free.1 free).1
    · exact sound.within (sound.ring.1 running).1
  total := by
    have total := sound.perm.length_eq
    rw [List.length_append, List.length_append, List.length_range, ← freeCount_eq] at total
    exact total
  resident := by
    have total := sound.perm.length_eq
    rw [List.length_append, List.length_append, List.length_range] at total
    unfold residentCount
    omega
  hand := by
    rcases sound.hand with inside | ⟨empty, zero⟩
    · exact .inl inside
    · exact .inr ⟨congrArg List.length empty, zero⟩

end Sound

end FramePool

/-- Where nobody holds a frame, all are free. -/
theorem Held.spent {pool : FramePool} (held : Held 0 0 pool fun _ _ => none) :
    pool.freeCount = pool.capacity := by
  have empty : pool.clock = [] := by
    refine List.eq_nil_iff_forall_not_mem.2 fun index inside => ?_
    obtain ⟨space, owned⟩ := Option.isSome_iff_exists.1 (held.sound.ring.1 inside).1
    rcases held.ring ⟨index, inside, rfl, owned⟩ with kept | ⟨addr, writable, placed⟩
    · exact Multiset.notMem_zero _ kept
    · cases placed
  have none_left : pool.lingering = [] := by
    refine List.eq_nil_iff_forall_not_mem.2 fun index lingers => ?_
    obtain ⟨_, _, pinned⟩ := held.sound.mem_lingering.1 lingers
    rw [held.pins index] at pinned
    simp at pinned
  have total := held.sound.conserved.total
  rw [FramePool.residentCount, empty, none_left] at total
  exact total

/-- Guards that were given back hold no pins. -/
theorem Callers.pins_given {callers : Callers} (given : ∀ guard ∈ callers.guards, guard = none) :
    callers.pins = 0 := by
  obtain ⟨guards⟩ := callers
  change ∀ guard ∈ guards, guard = none at given
  change (guards.map fun guard => guard.elim 0 PinGuard.pins).sum = 0
  induction guards with
  | nil => rfl
  | cons guard rest ih =>
    rw [List.map_cons, List.sum_cons, ih fun other later => given other (List.mem_cons_of_mem _ later),
      given guard List.mem_cons_self]
    rfl

section
variable [Architecture]

/-- Operations on spaces and files that there are. Callers give frames back that they obtained, and
no others that are in use. -/
def Machine.Allows (machine : Machine) (op : Op) : Prop :=
  op.Regular machine.spaces.length machine.files.length ∧ op.rightful machine = true

instance (machine : Machine) (op : Op) : Decidable (machine.Allows op) :=
  inferInstanceAs (Decidable (_ ∧ _))

def Rule.rightful : Rule := fun _ machine op _ => machine.Allows op

/-- No frame is lost, and when nobody needs a frame any more all of them are free. -/
structure Machine.FramesConserved (machine : Machine) (loads : List Load) : Prop where
  pool : machine.pool.Conserved
  spent : loads = [] → (∀ guard ∈ machine.callers.guards, guard = none) →
    machine.callers.frames = [] → (∀ space, (machine.registry space).isEmpty = true) →
    machine.pool.freeCount = machine.pool.capacity

variable [Lawful]

/-- In every machine that a run can be at, each frame is free, in the ring or lingers, and all are free
once nobody needs a frame any more. -/
theorem Reached.frames_conserved {loads : List Load} {machine : Machine}
    (reached : Reached .rightful loads machine) : machine.FramesConserved loads := by
  obtain ⟨ledger, rfl, between, _⟩ := Reached.keeps (fun _ => True)
    ⟨fun allowed => allowed.1, fun allowed => allowed.2⟩
    (fun _ => trivial) (fun _ _ _ _ _ => trivial) (fun _ _ _ _ => trivial) reached
  refine ⟨between.held.sound.conserved, fun none guards frames empty => ?_⟩
  have keepers : ledger.keepers machine.callers = 0 := by
    rw [Ledger.keepers, none, frames]
    rfl
  have own : ledger.pins = 0 := by
    rw [between.balanced, none]
    rfl
  have given : machine.callers.pins = 0 := Callers.pins_given guards
  have placement : machine.placement = fun _ _ => Option.none := by
    funext space addr
    rw [Machine.placement, Registry.placement, SortedMap.get?_of_isEmpty (empty space)]
    rfl
  have held := between.held
  rw [keepers, own, given, placement] at held
  exact held.spent

end

section
attribute [local instance] Architecture.small

/-- A space obtains a page and a frame of its own, gives both back, and is gone. -/
def cleared : Machine :=
  [.createSpace none ⟨0, []⟩, .registerZero 0 0x1000 1 true, .poke 0 0x1000 1, .pin 0 0x1000 1 .read,
    .allocate 0 true, .destroy 0, .unpin 0, .free 5].foldl Machine.undisturbed twoFrames

theorem frames_conserved_cleared : Reached .rightful [] cleared ∧ cleared.FramesConserved [] ∧
    cleared.pool.freeCount = 2 := by
  have reached : Reached .rightful [] cleared :=
    twoFrames_reached.carried (fun (allowed : Machine.Allows _ _) => allowed) (by decide +kernel)
  exact ⟨reached, reached.frames_conserved, by decide +kernel⟩

def Rule.regular : Rule := fun _ machine op _ =>
  op.Regular machine.spaces.length machine.files.length

/-- A caller gives back the frame of a page that is in it, and then the page is pinned. -/
def freedAndPinned : Machine :=
  [.createSpace none ⟨0, []⟩, .registerZero 0 0x1000 1 true, .poke 0 0x1000 1, .free 4,
    .pin 0 0x1000 1 .read].foldl Machine.undisturbed twoFrames

/-- If callers give back frames that pages are in, a frame can be free and pinned. -/
theorem freed_and_pinned : Reached .regular [] freedAndPinned ∧ 0 ∈ freedAndPinned.pool.free ∧
    (freedAndPinned.pool.entry 0).pins = 1 ∧ ¬freedAndPinned.pool.Conserved := by
  have reached : Reached .regular [] freedAndPinned :=
    twoFrames_reached.carried (fun (regular : Op.Regular _ _ _) => regular) (by decide +kernel)
  have free : 0 ∈ freedAndPinned.pool.free := by decide +kernel
  have pinned : (freedAndPinned.pool.entry 0).pins = 1 := by decide +kernel
  refine ⟨reached, free, pinned, fun conserved => ?_⟩
  rcases conserved.place (conserved.within (.inl free)) with ⟨⟨_, blank⟩, _⟩ | ⟨_, taken⟩ | ⟨_, taken, _⟩
  · rw [blank] at pinned
    cases pinned
  · exact taken free
  · exact taken free

end

end DemandPaging
