import DemandPaging.FramePool

/-! Frame pools whose lists agree with their entries: the ring holds the assigned frames, apart from
those released while pinned, and every other frame is free and blank. What the memory manager does
to a pool is assigning, withdrawing and retiring a frame, and counting its pins. -/
namespace DemandPaging.FramePool

def number (pool : FramePool) (index : Nat) : FrameNumber := ⟨pool.base.value + index⟩

def Holds (pool : FramePool) (frame : FrameNumber) (owner : SpaceId) : Prop :=
  ∃ index ∈ pool.clock, frame = pool.number index ∧ (pool.entry index).owner = some owner

/-- The hand is at a position of the ring, or at zero if the ring is empty. -/
def Points (clock : List Nat) (hand : Nat) : Prop :=
  hand < clock.length ∨ clock = [] ∧ hand = 0

theorem Points.reach {clock : List Nat} {hand : Nat} (points : Points clock hand) :
    hand ≤ clock.length := by
  rcases points with inside | ⟨_, rfl⟩
  · exact Nat.le_of_lt inside
  · exact Nat.zero_le _

structure Sound (pool : FramePool) : Prop where
  distinct : pool.clock.Nodup
  hand : Points pool.clock pool.hand
  ring : ∀ {index}, index ∈ pool.clock ↔
    (pool.entry index).owner.isSome = true ∧ (pool.entry index).released = false
  free : ∀ {index}, index ∈ pool.free ↔ index < pool.capacity ∧ (pool.entry index).owner = none
  free_distinct : pool.free.Nodup
  within : ∀ {index}, (pool.entry index).owner.isSome = true → index < pool.capacity
  blank : ∀ {index}, (pool.entry index).owner = none → pool.entry index = {}
  pinned : ∀ {index}, (pool.entry index).released = true → 0 < (pool.entry index).pins

theorem number_injective {pool : FramePool} {a b : Nat} (same : pool.number a = pool.number b) :
    a = b := by
  injection same with same
  exact Nat.add_left_cancel same

theorem index_ok {pool : FramePool} {frame : FrameNumber} {index : Nat} :
    pool.index frame = .ok index ↔ frame = pool.number index ∧ index < pool.capacity := by
  obtain ⟨value⟩ := frame
  unfold FramePool.index number
  split
  · rename_i inside
    dsimp only at inside
    simp only [Except.ok.injEq, FrameNumber.mk.injEq]
    omega
  · rename_i outside
    dsimp only at outside
    simp only [reduceCtorEq, FrameNumber.mk.injEq, false_iff]
    omega

theorem frameAt_ok {pool : FramePool} {frame : FrameNumber} {index : Nat}
    (found : pool.frameAt index = .ok frame) : frame = pool.number index := by
  unfold frameAt FrameNumber.add Word.add at found
  split at found
  · cases found
    rfl
  · cases found

@[simp] theorem entry_setEntry (pool : FramePool) (index other : Nat) (entry : FrameEntry) :
    (pool.setEntry index entry).entry other = if index = other then entry else pool.entry other := by
  unfold FramePool.entry setEntry
  rw [SortedMap.get?_insert]
  by_cases same : index = other
  · subst same
    simp
  · simp [same, rank]

/-- Wherever the hand was, it is at a position of the ring when a frame has left. -/
theorem removeFromClock_eq (pool : FramePool) (index : Nat) :
    ∃ hand, pool.removeFromClock index = { pool with clock := pool.clock.erase index, hand } ∧
      (index ∈ pool.clock ∨ Points pool.clock pool.hand → Points (pool.clock.erase index) hand) := by
  unfold removeFromClock
  split
  · rename_i absent
    have erased : pool.clock.erase index = pool.clock := by
      rw [List.erase_eq_eraseP', List.eraseP_eq_eraseIdx]
      simp [absent]
    rw [erased]
    refine ⟨pool.hand, rfl, fun given => given.resolve_left fun inside => ?_⟩
    simpa using List.findIdx?_eq_none_iff.1 absent index inside
  · rename_i position found
    have erased : pool.clock.erase index = pool.clock.eraseIdx position := by
      rw [List.erase_eq_eraseP', List.eraseP_eq_eraseIdx]
      simp [found]
    rw [erased]
    refine ⟨_, rfl, fun _ => ?_⟩
    unfold Points
    generalize (if position < pool.hand then pool.hand - 1 else pool.hand) = moved
    split
    · exact .inl ‹_›
    · cases pool.clock.eraseIdx position with
      | nil => exact .inr ⟨rfl, rfl⟩
      | cons => exact .inl (Nat.succ_pos _)

/-- The frame at `index` goes from the ring back to the free list. -/
def withdraw (pool : FramePool) (index : Nat) : FramePool :=
  (pool.removeFromClock index).giveBack index

/-- The pinned frame at `index` leaves the ring, to be freed at its last unpin. -/
def retire (pool : FramePool) (index : Nat) : FramePool :=
  (pool.setEntry index { pool.entry index with released := true }).removeFromClock index

def setPins (pool : FramePool) (index pins : Nat) : FramePool :=
  pool.setEntry index { pool.entry index with pins }

theorem withdraw_eq (pool : FramePool) (index : Nat) :
    ∃ hand, pool.withdraw index =
      { pool.setEntry index {} with
        clock := pool.clock.erase index, hand, returned := index :: pool.returned } ∧
      (index ∈ pool.clock ∨ Points pool.clock pool.hand → Points (pool.clock.erase index) hand) := by
  obtain ⟨hand, same, points⟩ := pool.removeFromClock_eq index
  exact ⟨hand, by rw [withdraw, same]; rfl, points⟩

theorem retire_eq (pool : FramePool) (index : Nat) :
    ∃ hand, pool.retire index =
      { pool.setEntry index { pool.entry index with released := true } with
        clock := pool.clock.erase index, hand } ∧
      (index ∈ pool.clock ∨ Points pool.clock pool.hand → Points (pool.clock.erase index) hand) :=
  (pool.setEntry index { pool.entry index with released := true }).removeFromClock_eq index

@[simp] theorem entry_withdraw (pool : FramePool) (index other : Nat) :
    (pool.withdraw index).entry other = if index = other then {} else pool.entry other := by
  obtain ⟨hand, same, _⟩ := pool.withdraw_eq index
  rw [same]
  exact entry_setEntry pool index other {}

@[simp] theorem entry_retire (pool : FramePool) (index other : Nat) :
    (pool.retire index).entry other =
      if index = other then { pool.entry index with released := true } else pool.entry other := by
  obtain ⟨hand, same, _⟩ := pool.retire_eq index
  rw [same]
  exact entry_setEntry pool index other _

@[simp] theorem entry_setPins (pool : FramePool) (index other pins : Nat) :
    (pool.setPins index pins).entry other =
      if index = other then { pool.entry index with pins } else pool.entry other :=
  entry_setEntry pool index other _

@[simp] theorem entry_giveBack (pool : FramePool) (index other : Nat) :
    (pool.giveBack index).entry other = if index = other then {} else pool.entry other :=
  entry_setEntry pool index other {}

@[simp] theorem entry_assign (pool : FramePool) (index other : Nat) (owner : SpaceId) :
    (pool.assign index owner).entry other =
      if index = other then { owner := some owner, pins := 1 } else pool.entry other :=
  entry_setEntry pool index other _

theorem setPins_same (pool : FramePool) (index pins other : Nat) :
    ((pool.setPins index pins).entry other).owner = (pool.entry other).owner ∧
      ((pool.setPins index pins).entry other).released = (pool.entry other).released := by
  rw [entry_setPins]
  split
  · rename_i same
    rw [← same]
    exact ⟨rfl, rfl⟩
  · exact ⟨rfl, rfl⟩

theorem clock_withdraw (pool : FramePool) (index : Nat) :
    (pool.withdraw index).clock = pool.clock.erase index := by
  obtain ⟨hand, same, _⟩ := pool.withdraw_eq index
  rw [same]

theorem clock_retire (pool : FramePool) (index : Nat) :
    (pool.retire index).clock = pool.clock.erase index := by
  obtain ⟨hand, same, _⟩ := pool.retire_eq index
  rw [same]

@[simp] theorem number_withdraw (pool : FramePool) (index other : Nat) :
    (pool.withdraw index).number other = pool.number other := by
  obtain ⟨hand, same, _⟩ := pool.withdraw_eq index
  rw [same]
  rfl

@[simp] theorem number_retire (pool : FramePool) (index other : Nat) :
    (pool.retire index).number other = pool.number other := by
  obtain ⟨hand, same, _⟩ := pool.retire_eq index
  rw [same]
  rfl

theorem takeFree?_eq {pool rest : FramePool} {index : Nat}
    (taken : pool.takeFree? = some (index, rest)) :
    ∃ returned fresh, rest = { pool with returned, fresh } := by
  unfold takeFree? at taken
  split at taken
  · cases taken
    exact ⟨_, _, rfl⟩
  · split at taken
    · cases taken
      exact ⟨_, _, rfl⟩
    · cases taken

theorem sound_ofCount (base : FrameNumber) (count : Nat) : (ofCount base count).Sound where
  distinct := .nil
  hand := .inr ⟨rfl, rfl⟩
  ring := by simp [ofCount, entry]
  free := by simp [ofCount, entry, FramePool.free, List.mem_range'_1]
  free_distinct := by simp [ofCount, FramePool.free, List.nodup_range']
  within assigned := by simp [ofCount, entry] at assigned
  blank _ := by simp [ofCount, entry]
  pinned released := by simp [ofCount, entry] at released

theorem holds_unique {pool : FramePool} {frame : FrameNumber} {a b : SpaceId}
    (left : pool.Holds frame a) (right : pool.Holds frame b) : a = b := by
  obtain ⟨i, _, rfl, first⟩ := left
  obtain ⟨j, _, same, second⟩ := right
  rw [← number_injective same, first] at second
  exact Option.some.inj second

namespace Sound
variable {pool : FramePool} {index : Nat} (sound : pool.Sound)
include sound

/-- Only what is known of the frames matters, not how it came to be known. -/
theorem of_entry {after : FramePool} (entry : after.entry = pool.entry)
    (clock : after.clock = pool.clock) (hand : after.hand = pool.hand)
    (capacity : after.capacity = pool.capacity) (free : after.free = pool.free) : after.Sound where
  distinct := by rw [clock]; exact sound.distinct
  hand := by rw [clock, hand]; exact sound.hand
  ring := by rw [clock, entry]; exact sound.ring
  free := by rw [free, entry, capacity]; exact sound.free
  free_distinct := by rw [free]; exact sound.free_distinct
  within := by rw [entry, capacity]; exact sound.within
  blank := by rw [entry]; exact sound.blank
  pinned := by rw [entry]; exact sound.pinned

theorem taken_free {rest : FramePool} (taken : pool.takeFree? = some (index, rest)) :
    index < pool.capacity ∧ (pool.entry index).owner = none := by
  rw [← sound.free, free_of_takeFree? taken]
  exact .head _

theorem outside_ring (unowned : (pool.entry index).owner = none) : index ∉ pool.clock := by
  intro inside
  have assigned := (sound.ring.1 inside).1
  rw [unowned] at assigned
  cases assigned

theorem assign {rest : FramePool} (taken : pool.takeFree? = some (index, rest)) (owner : SpaceId) :
    (rest.assign index owner).Sound := by
  obtain ⟨inside, unowned⟩ := sound.taken_free taken
  have free := free_of_takeFree? taken
  have distinct := sound.free_distinct
  rw [free, List.nodup_cons] at distinct
  have outside := sound.outside_ring unowned
  obtain ⟨returned, fresh, rfl⟩ := takeFree?_eq taken
  have entry : ∀ other,
      (({ pool with returned, fresh } : FramePool).assign index owner).entry other =
        if index = other then { owner := some owner, pins := 1 } else pool.entry other :=
    fun other => entry_setEntry pool index other _
  constructor
  case distinct =>
    exact List.nodup_append.2 ⟨sound.distinct, by simp, by
      intro a member b last same
      rw [List.mem_singleton.1 last] at same
      exact outside (same ▸ member)⟩
  case hand =>
    refine .inl ?_
    change pool.hand < (pool.clock ++ [index]).length
    rw [List.length_append, List.length_singleton]
    rcases sound.hand with inside | ⟨empty, zero⟩
    · omega
    · rw [zero]
      omega
  case ring =>
    intro other
    change other ∈ pool.clock ++ [index] ↔ _
    rw [entry]
    by_cases here : index = other
    · subst here
      simp
    · simp [here, Ne.symm here, sound.ring]
  case free =>
    intro other
    rw [entry]
    change other ∈ ({ pool with returned, fresh } : FramePool).free ↔ other < pool.capacity ∧ _
    by_cases here : index = other
    · subst here
      simp [distinct.1]
    · rw [if_neg here, ← sound.free, free]
      simp [Ne.symm here]
  case free_distinct => exact distinct.2
  case within =>
    intro other
    rw [entry]
    split
    · rename_i here
      intro _
      exact here ▸ inside
    · exact sound.within
  case blank =>
    intro other
    rw [entry]
    split
    · intro nobody
      cases nobody
    · exact sound.blank
  case pinned =>
    intro other
    rw [entry]
    split
    · intro released
      cases released
    · exact sound.pinned

theorem freed (assigned : (pool.entry index).owner.isSome = true) {hand : Nat}
    (points : Points (pool.clock.erase index) hand) :
    ({ pool.setEntry index {} with
      clock := pool.clock.erase index, hand, returned := index :: pool.returned } :
        FramePool).Sound := by
  have entry : ∀ other, (pool.setEntry index {}).entry other =
      if index = other then {} else pool.entry other := fun other => entry_setEntry pool index other _
  have kept : index ∉ pool.free := by
    intro free
    rw [(sound.free.1 free).2] at assigned
    cases assigned
  constructor
  case distinct => exact sound.distinct.erase index
  case hand => exact points
  case ring =>
    intro other
    change other ∈ pool.clock.erase index ↔ ((pool.setEntry index {}).entry other).owner.isSome = true ∧
      ((pool.setEntry index {}).entry other).released = false
    rw [entry, sound.distinct.mem_erase_iff]
    by_cases here : index = other
    · simp [here]
    · simp [here, Ne.symm here, sound.ring]
  case free =>
    intro other
    change other ∈ index :: pool.free ↔ other < pool.capacity ∧
      ((pool.setEntry index {}).entry other).owner = none
    rw [entry]
    by_cases here : index = other
    · subst here
      simp [sound.within assigned]
    · simp [here, Ne.symm here, sound.free]
  case free_distinct => exact List.nodup_cons.2 ⟨kept, sound.free_distinct⟩
  case within =>
    intro other
    change ((pool.setEntry index {}).entry other).owner.isSome = true → other < pool.capacity
    rw [entry]
    split
    · intro owned
      cases owned
    · exact sound.within
  case blank =>
    intro other
    change ((pool.setEntry index {}).entry other).owner = none →
      (pool.setEntry index {}).entry other = {}
    rw [entry]
    split
    · intro _
      rfl
    · exact sound.blank
  case pinned =>
    intro other
    change ((pool.setEntry index {}).entry other).released = true →
      0 < ((pool.setEntry index {}).entry other).pins
    rw [entry]
    split
    · intro released
      cases released
    · exact sound.pinned

/-- An assigned frame keeps its owner and leaves the ring if it is marked released. -/
theorem revised (after : FrameEntry) (assigned : (pool.entry index).owner.isSome = true)
    (owned : after.owner = (pool.entry index).owner) (pinned : after.released = true → 0 < after.pins)
    {clock : List Nat} (distinct : clock.Nodup)
    (ring : ∀ other, other ∈ clock ↔
      if index = other then after.released = false else other ∈ pool.clock) {hand : Nat}
    (points : Points clock hand) :
    ({ pool.setEntry index after with clock, hand } : FramePool).Sound := by
  have entry : ∀ other, (pool.setEntry index after).entry other =
      if index = other then after else pool.entry other := fun other => entry_setEntry pool index other _
  have owner : ∀ other, ((pool.setEntry index after).entry other).owner =
      (pool.entry other).owner := by
    intro other
    rw [entry]
    split
    · rename_i here
      rw [owned, here]
    · rfl
  constructor
  case distinct => exact distinct
  case hand => exact points
  case ring =>
    intro other
    change other ∈ clock ↔ ((pool.setEntry index after).entry other).owner.isSome = true ∧
      ((pool.setEntry index after).entry other).released = false
    rw [ring, owner, entry]
    split
    · rename_i here
      simp [← here, assigned]
    · exact sound.ring
  case free =>
    intro other
    change other ∈ pool.free ↔ other < pool.capacity ∧
      ((pool.setEntry index after).entry other).owner = none
    rw [owner]
    exact sound.free
  case free_distinct => exact sound.free_distinct
  case within =>
    intro other
    change ((pool.setEntry index after).entry other).owner.isSome = true → other < pool.capacity
    rw [owner]
    exact sound.within
  case blank =>
    intro other
    change ((pool.setEntry index after).entry other).owner = none →
      (pool.setEntry index after).entry other = {}
    rw [owner, entry]
    split
    · rename_i here
      intro nobody
      rw [← here] at nobody
      rw [nobody] at assigned
      cases assigned
    · exact sound.blank
  case pinned =>
    intro other
    change ((pool.setEntry index after).entry other).released = true →
      0 < ((pool.setEntry index after).entry other).pins
    rw [entry]
    split
    · exact pinned
    · exact sound.pinned

theorem withdraw (assigned : (pool.entry index).owner.isSome = true) :
    (pool.withdraw index).Sound := by
  obtain ⟨hand, same, points⟩ := pool.withdraw_eq index
  rw [same]
  exact sound.freed assigned (points (.inr sound.hand))

/-- A frame of the ring is freed, wherever the hand has got to in search of it. -/
theorem withdraw_turned (inside : index ∈ pool.clock) (hand : Nat) :
    (({ pool with hand } : FramePool).withdraw index).Sound := by
  obtain ⟨now, same, points⟩ := ({ pool with hand } : FramePool).withdraw_eq index
  rw [same]
  exact sound.freed (sound.ring.1 inside).1 (points (.inl inside))

/-- The last unpin of a retired frame frees it. -/
theorem giveBack (assigned : (pool.entry index).owner.isSome = true)
    (released : (pool.entry index).released = true) : (pool.giveBack index).Sound := by
  have outside : index ∉ pool.clock := by
    intro inside
    rw [(sound.ring.1 inside).2] at released
    cases released
  have erased := List.erase_of_not_mem outside
  have points : Points (pool.clock.erase index) pool.hand := by
    rw [erased]
    exact sound.hand
  have freed := sound.freed assigned points
  rw [erased] at freed
  exact freed

theorem retire (assigned : (pool.entry index).owner.isSome = true)
    (pinned : 0 < (pool.entry index).pins) : (pool.retire index).Sound := by
  obtain ⟨hand, same, points⟩ := pool.retire_eq index
  rw [same]
  refine sound.revised { pool.entry index with released := true } assigned rfl (fun _ => pinned)
    (sound.distinct.erase index) ?_ (points (.inr sound.hand))
  intro other
  rw [sound.distinct.mem_erase_iff]
  by_cases here : index = other
  · simp [here]
  · simp [here, Ne.symm here]

theorem setPins (assigned : (pool.entry index).owner.isSome = true) (pins : Nat)
    (pinned : (pool.entry index).released = true → 0 < pins) : (pool.setPins index pins).Sound := by
  refine sound.revised { pool.entry index with pins } assigned rfl pinned sound.distinct ?_
    sound.hand
  intro other
  by_cases here : index = other
  · subst here
    simp [sound.ring, assigned]
  · simp [here]

/-! Who holds what afterwards. -/

theorem holds_assign {rest : FramePool} (taken : pool.takeFree? = some (index, rest))
    {owner holder : SpaceId} {frame : FrameNumber} :
    (rest.assign index owner).Holds frame holder ↔
      pool.Holds frame holder ∨ (frame = pool.number index ∧ holder = owner) := by
  have outside := sound.outside_ring (sound.taken_free taken).2
  obtain ⟨returned, fresh, rfl⟩ := takeFree?_eq taken
  have entry : ∀ other,
      (({ pool with returned, fresh } : FramePool).assign index owner).entry other =
        if index = other then { owner := some owner, pins := 1 } else pool.entry other :=
    fun other => entry_setEntry pool index other _
  unfold Holds
  change (∃ other ∈ pool.clock ++ [index], frame = pool.number other ∧ _) ↔ _
  simp only [entry, List.mem_append, List.mem_singleton]
  constructor
  · rintro ⟨other, member | rfl, named, owned⟩
    · have differ : index ≠ other := by
        rintro rfl
        exact outside member
      rw [if_neg differ] at owned
      exact .inl ⟨other, member, named, owned⟩
    · rw [if_pos rfl] at owned
      exact .inr ⟨named, (Option.some.inj owned).symm⟩
  · rintro (⟨other, member, named, owned⟩ | ⟨named, rfl⟩)
    · have differ : index ≠ other := by
        rintro rfl
        exact outside member
      refine ⟨other, .inl member, named, ?_⟩
      rw [if_neg differ]
      exact owned
    · exact ⟨index, .inr rfl, named, by rw [if_pos rfl]⟩

theorem holds_erase {after : FramePool} (index : Nat)
    (number : ∀ other, after.number other = pool.number other)
    (clock : after.clock = pool.clock.erase index)
    (entry : ∀ other, other ≠ index → after.entry other = pool.entry other)
    {frame : FrameNumber} {holder : SpaceId} :
    after.Holds frame holder ↔ pool.Holds frame holder ∧ frame ≠ pool.number index := by
  unfold Holds
  simp only [clock, number]
  constructor
  · rintro ⟨other, member, rfl, owned⟩
    obtain ⟨differ, member⟩ := sound.distinct.mem_erase_iff.1 member
    rw [entry other differ] at owned
    exact ⟨⟨other, member, rfl, owned⟩, fun same => differ (number_injective same)⟩
  · rintro ⟨⟨other, member, rfl, owned⟩, differ⟩
    have elsewhere : other ≠ index := fun same => differ (by rw [same])
    refine ⟨other, sound.distinct.mem_erase_iff.2 ⟨elsewhere, member⟩, rfl, ?_⟩
    rw [entry other elsewhere]
    exact owned

theorem holds_withdraw {frame : FrameNumber} {holder : SpaceId} :
    (pool.withdraw index).Holds frame holder ↔
      pool.Holds frame holder ∧ frame ≠ pool.number index := by
  refine sound.holds_erase index (number_withdraw pool index) (clock_withdraw pool index) fun other differ => ?_
  rw [entry_withdraw, if_neg (Ne.symm differ)]

theorem holds_retire {frame : FrameNumber} {holder : SpaceId} :
    (pool.retire index).Holds frame holder ↔
      pool.Holds frame holder ∧ frame ≠ pool.number index := by
  refine sound.holds_erase index (number_retire pool index) (clock_retire pool index) fun other differ => ?_
  rw [entry_retire, if_neg (Ne.symm differ)]

theorem holds_giveBack (released : (pool.entry index).released = true) {frame : FrameNumber}
    {holder : SpaceId} : (pool.giveBack index).Holds frame holder ↔ pool.Holds frame holder := by
  have outside : index ∉ pool.clock := by
    intro inside
    rw [(sound.ring.1 inside).2] at released
    cases released
  unfold Holds
  refine exists_congr fun other => and_congr_right fun member => and_congr_right fun _ => ?_
  have differ : index ≠ other := by
    rintro rfl
    exact outside member
  rw [entry_giveBack, if_neg differ]

omit sound in
theorem holds_setPins {pins : Nat} {frame : FrameNumber} {holder : SpaceId} :
    (pool.setPins index pins).Holds frame holder ↔ pool.Holds frame holder := by
  unfold Holds
  refine exists_congr fun other => and_congr_right fun _ => and_congr_right fun _ => ?_
  rw [entry_setPins]
  split
  · rename_i same
    subst same
    rfl
  · rfl

end Sound

end DemandPaging.FramePool
