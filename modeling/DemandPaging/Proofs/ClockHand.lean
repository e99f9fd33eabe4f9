import DemandPaging.Proofs.Pool
import Mathlib.Data.List.Rotate

/-! The hand of the clock among changes of the ring. A frame that leaves the ring is passed over: the hand
is on the frame it was on, or on the next one if that frame has left. Main statement: however frames leave
and others come last, the hand is at a position of the ring, and it comes to all frames that stay as it
would have come to them, in this round if they were due in this round. -/
namespace DemandPaging.FramePool

/-! Places in a ring. -/

/-- The hand beyond the end of the ring reads as the hand at its start. -/
theorem rotate_wrapped (ring : List Nat) {hand : Nat} (reach : hand ≤ ring.length) :
    ring.rotate (if hand < ring.length then hand else 0) = ring.rotate hand := by
  split
  · rfl
  · rename_i outside
    have last : hand = ring.length := by omega
    rw [last, List.rotate_length, List.rotate_zero]

/-- What the hand comes to first is what it points at. -/
theorem getElem?_of_rotate {ring rest : List Nat} {hand index : Nat}
    (reach : hand ≤ ring.length) (ahead : ring.rotate hand = index :: rest) :
    (if hand < ring.length then hand else 0) < ring.length ∧
      ring[if hand < ring.length then hand else 0]? = some index := by
  rw [← rotate_wrapped ring reach] at ahead
  have positive : 0 < ring.length := by
    rw [← List.length_rotate, ahead]
    exact Nat.succ_pos _
  have inside : (if hand < ring.length then hand else 0) < ring.length := by
    split
    · assumption
    · exact positive
  refine ⟨inside, ?_⟩
  rw [← List.head?_rotate inside, ahead]
  rfl

theorem rotate_succ {ring rest : List Nat} {hand index : Nat} (ahead : ring.rotate hand = index :: rest) :
    ring.rotate (hand + 1) = rest ++ [index] := by
  rw [← List.rotate_rotate, ahead, List.rotate_cons_succ, List.rotate_zero]

variable {ring : List Nat} {pool : FramePool} {place index : Nat}

theorem erase_at (distinct : ring.Nodup) (there : ring[place]? = some index) :
    ring.erase index = ring.eraseIdx place := by
  obtain ⟨inside, rfl⟩ := List.getElem?_eq_some_iff.1 there
  exact distinct.erase_getElem place inside

/-- The frame under the hand leaves the ring, and the hand is on the one after it. -/
theorem removeFromClock_hand (distinct : pool.clock.Nodup)
    (there : pool.clock[pool.hand]? = some index) :
    pool.removeFromClock index = { pool with
      clock := pool.clock.erase index
      hand := if pool.hand + 1 < pool.clock.length then pool.hand else 0 } := by
  obtain ⟨inside, same⟩ := List.getElem?_eq_some_iff.1 there
  have found : pool.clock.findIdx? (· == index) = some pool.hand := by
    apply List.findIdx?_eq_some_iff_getElem.2
    refine ⟨inside, by simp [same], fun other before => ?_⟩
    rw [beq_iff_eq, ← same, distinct.getElem_inj_iff]
    exact Nat.ne_of_lt before
  have shorter : (pool.clock.eraseIdx pool.hand).length = pool.clock.length - 1 :=
    List.length_eraseIdx_of_lt inside
  have reach : pool.hand < pool.clock.length - 1 ↔ pool.hand + 1 < pool.clock.length := by omega
  rw [removeFromClock, found, erase_at distinct there]
  simp only [Nat.lt_irrefl, if_false, shorter, reach]

/-- When the frame is assigned again and comes last, that is its successor in the ring. -/
theorem getElem?_successor (distinct : ring.Nodup) (there : ring[place]? = some index) :
    (ring.erase index ++ [index])[if place + 1 < ring.length then place else 0]? =
      ring[(place + 1) % ring.length]? := by
  obtain ⟨inside, same⟩ := List.getElem?_eq_some_iff.1 there
  have shorter : (ring.eraseIdx place).length = ring.length - 1 := List.length_eraseIdx_of_lt inside
  rw [erase_at distinct there]
  by_cases further : place + 1 < ring.length
  · rw [if_pos further, Nat.mod_eq_of_lt further, List.getElem?_append_left (by omega),
      List.getElem?_eraseIdx_of_ge (Nat.le_refl _)]
  · have last : place + 1 = ring.length := by omega
    rw [if_neg further, last, Nat.mod_self]
    by_cases alone : place = 0
    · subst alone
      rw [List.getElem?_append_right (by omega), shorter, ← last, there]
      rfl
    · rw [List.getElem?_append_left (by omega), List.getElem?_eraseIdx_of_lt (by omega)]

/-- The frames of the ring in the order in which the hand will come to them. -/
def ahead (pool : FramePool) : List Nat := pool.clock.rotate pool.hand

theorem filter_absent {ring : List Nat} (absent : index ∉ ring) : ring.filter (· != index) = ring :=
  List.filter_eq_self.2 fun _ inside => bne_iff_ne.2 fun same => absent (same ▸ inside)

/-- A ring from the hand on, without one of its members. -/
theorem rotate_erased {before behind : List Nat} {index hand : Nat}
    (distinct : (before ++ index :: behind).Nodup)
    (reach : hand ≤ (before ++ index :: behind).length) :
    (before ++ behind).rotate (if before.length < hand then hand - 1 else hand) =
      ((before ++ index :: behind).rotate hand).filter (· != index) := by
  obtain ⟨_, later, apart⟩ := List.nodup_append'.1 distinct
  have fresh : index ∉ before := fun inside => apart inside List.mem_cons_self
  have absent : index ∉ behind := (List.nodup_cons.1 later).1
  rw [List.length_append, List.length_cons] at reach
  split
  · rename_i past
    obtain ⟨steps, rfl⟩ : ∃ steps, hand = before.length + (steps + 1) := ⟨hand - before.length - 1, by omega⟩
    have there : behind = behind.take steps ++ behind.drop steps := (List.take_append_drop steps behind).symm
    have count : (behind.take steps).length = steps := by rw [List.length_take]; omega
    have left : (before ++ behind).rotate (before.length + steps) =
        behind.drop steps ++ (before ++ behind.take steps) := by
      conv_lhs => rw [there, ← List.append_assoc]
      rw [← List.rotate_append_length_eq (before ++ behind.take steps), List.length_append, count]
    have right : (before ++ index :: behind).rotate (before.length + (steps + 1)) =
        behind.drop steps ++ (before ++ index :: behind.take steps) := by
      have whole : before ++ index :: behind =
          (before ++ index :: behind.take steps) ++ behind.drop steps := by simp
      rw [whole, ← List.rotate_append_length_eq (before ++ index :: behind.take steps)]
      simp [count]
    rw [show before.length + (steps + 1) - 1 = before.length + steps by omega, left, right]
    have one := filter_absent fun inside => absent (List.mem_of_mem_drop (i := steps) inside)
    have two := filter_absent fun inside => absent (List.mem_of_mem_take (i := steps) inside)
    simp only [List.filter_append, one, filter_absent fresh, List.filter_cons, bne_self_eq_false, two]
    rfl
  · rename_i ahead
    have reach : hand ≤ before.length := by omega
    have there : before = before.take hand ++ before.drop hand := (List.take_append_drop hand before).symm
    have count : (before.take hand).length = hand := by rw [List.length_take]; omega
    have left : (before ++ behind).rotate hand = before.drop hand ++ behind ++ before.take hand := by
      rw [List.rotate_eq_drop_append_take (by simp; omega), List.drop_append_of_le_length reach,
        List.take_append_of_le_length reach]
    have right : (before ++ index :: behind).rotate hand =
        before.drop hand ++ index :: behind ++ before.take hand := by
      rw [List.rotate_eq_drop_append_take (by simp; omega), List.drop_append_of_le_length reach,
        List.take_append_of_le_length reach]
    rw [left, right]
    have one := filter_absent fun inside => fresh (List.mem_of_mem_drop (i := hand) inside)
    have two := filter_absent fun inside => fresh (List.mem_of_mem_take (i := hand) inside)
    simp only [List.filter_append, one, List.filter_cons, bne_self_eq_false, filter_absent absent, two]
    rfl

/-- The hand goes back by one with the frames behind the one that leaves. -/
theorem removeFromClock_of_ring {front back : List Nat} (ring : pool.clock = front ++ index :: back)
    (fresh : index ∉ front) : pool.removeFromClock index =
      let moved := if front.length < pool.hand then pool.hand - 1 else pool.hand
      { pool with
        clock := front ++ back
        hand := if moved < (front ++ back).length then moved else 0 } := by
  have found : pool.clock.findIdx? (· == index) = some front.length := by
    apply List.findIdx?_eq_some_iff_getElem.2
    refine ⟨by simp [ring], by simp [ring], ?_⟩
    intro other before
    simp only [ring, List.getElem_append_left before, beq_iff_eq]
    exact fun same => fresh (same ▸ List.getElem_mem before)
  have erased : pool.clock.eraseIdx front.length = front ++ back := by
    rw [ring, List.eraseIdx_append_of_length_le (Nat.le_refl _), Nat.sub_self]
    rfl
  rw [removeFromClock, found]
  dsimp only
  rw [erased]

/-- A ring is read from either side of a frame in it. -/
theorem ring_at (distinct : pool.clock.Nodup) (inside : index ∈ pool.clock) :
    ∃ front back, pool.clock = front ++ index :: back ∧ index ∉ front ∧ index ∉ back := by
  obtain ⟨front, back, ring⟩ := List.append_of_mem inside
  rw [ring] at distinct
  obtain ⟨_, later, apart⟩ := List.nodup_append'.1 distinct
  refine ⟨front, back, ring, ?_, (List.nodup_cons.1 later).1⟩
  intro member
  exact apart member List.mem_cons_self

theorem reach_of_points (points : Points pool.clock pool.hand) : pool.hand ≤ pool.clock.length := by
  rcases points with inside | ⟨_, zero⟩
  · exact Nat.le_of_lt inside
  · rw [zero]
    exact Nat.zero_le _

/-- A frame that leaves the ring is passed over: the hand comes to all others as it would have. -/
theorem ahead_removeFromClock (distinct : pool.clock.Nodup) (points : Points pool.clock pool.hand) :
    (pool.removeFromClock index).ahead = pool.ahead.filter (· != index) := by
  by_cases inside : index ∈ pool.clock
  · obtain ⟨front, back, ring, fresh, _⟩ := ring_at distinct inside
    have reach := reach_of_points points
    have erased := rotate_erased (ring ▸ distinct) (ring ▸ reach)
    rw [removeFromClock_of_ring ring fresh]
    unfold ahead
    rw [ring, ← erased]
    apply rotate_wrapped
    rw [ring] at reach
    simp only [List.length_append, List.length_cons] at reach ⊢
    split <;> omega
  · have missing : pool.clock.findIdx? (· == index) = none := by
      apply List.findIdx?_eq_none_iff.2
      intro other member
      exact beq_eq_false_iff_ne.2 fun same => inside (same ▸ member)
    have left : pool.removeFromClock index = pool := by
      rw [removeFromClock, missing]
    rw [left]
    exact (filter_absent fun member => inside (List.mem_rotate.1 member)).symm

theorem points_removeFromClock (points : Points pool.clock pool.hand) :
    Points (pool.removeFromClock index).clock (pool.removeFromClock index).hand := by
  obtain ⟨hand, same, kept⟩ := pool.removeFromClock_eq index
  rw [same]
  exact kept (.inr points)

theorem clock_removeFromClock (distinct : pool.clock.Nodup) :
    (pool.removeFromClock index).clock = pool.clock.filter (· != index) := by
  obtain ⟨hand, same, _⟩ := pool.removeFromClock_eq index
  rw [same, distinct.erase_eq_filter]

/-! What a change of the ring does to the hand. -/

def next? (pool : FramePool) : Option Nat := pool.clock[pool.hand]?

def due (pool : FramePool) : List Nat := pool.clock.drop pool.hand

theorem mem_ahead : index ∈ pool.ahead ↔ index ∈ pool.clock := List.mem_rotate

theorem next?_eq_head? (points : Points pool.clock pool.hand) : pool.next? = pool.ahead.head? := by
  cases points with
  | inl inside =>
    unfold ahead next?
    rw [List.head?_rotate inside]
  | inr empty =>
    obtain ⟨none, zero⟩ := empty
    simp [ahead, next?, none]

theorem getElem?_ahead_one (further : 1 < pool.clock.length) :
    pool.ahead[1]? = pool.clock[(pool.hand + 1) % pool.clock.length]? := by
  unfold ahead
  rw [List.getElem?_rotate further, Nat.add_comm]

/-- A frame has left the ring, and nothing else has changed but the place of the hand. -/
structure Departed (before : FramePool) (index : Nat) (after : FramePool) : Prop where
  rest : ∃ clock hand, after = { before with clock, hand }
  /-- The others are in the order they were in. -/
  ring : ∃ front back, before.clock = front ++ index :: back ∧ after.clock = front ++ back
  gone : index ∉ after.clock
  kept : before.next? ≠ some index → after.next? = before.next?
  passed : before.next? = some index → 1 < before.clock.length →
    after.next? = before.clock[(before.hand + 1) % before.clock.length]?
  spent : after.clock = [] → after.hand = 0

theorem departed (distinct : pool.clock.Nodup) (points : Points pool.clock pool.hand)
    (inside : index ∈ pool.clock) : pool.Departed index (pool.removeFromClock index) := by
  have ahead := @ahead_removeFromClock pool index distinct points
  have points' := @points_removeFromClock pool index points
  have here := next?_eq_head? points
  have there := next?_eq_head? points'
  have clock := @clock_removeFromClock pool index distinct
  obtain ⟨front, back, ring, fresh, absent⟩ := ring_at distinct inside
  constructor
  case rest =>
    obtain ⟨hand, same, _⟩ := pool.removeFromClock_eq index
    exact ⟨_, hand, same⟩
  case ring =>
    refine ⟨front, back, ring, ?_⟩
    rw [clock, ring, List.filter_append, List.filter_cons_of_neg (by simp), filter_absent fresh,
      filter_absent absent]
  case gone =>
    rw [clock]
    simp
  case kept =>
    intro differs
    rw [there, ahead, here]
    rw [here] at differs
    cases around : pool.ahead with
    | nil => rfl
    | cons first rest =>
      rw [around, List.head?_cons] at differs
      have other : first ≠ index := fun same => differs (congrArg some same)
      rw [List.filter_cons_of_pos (p := (· != index)) (bne_iff_ne.2 other)]
      rfl
  case passed =>
    intro same further
    rw [there, ahead, ← getElem?_ahead_one further]
    rw [here] at same
    have apart : pool.ahead.Nodup := List.nodup_rotate.2 distinct
    cases around : pool.ahead with
    | nil =>
      rw [around] at same
      cases same
    | cons first rest =>
      rw [around] at same apart
      cases same
      rw [List.filter_cons_of_neg (by simp), filter_absent (List.nodup_cons.1 apart).1,
        List.getElem?_cons_succ, List.head?_eq_getElem?]
  case spent =>
    intro empty
    rcases points' with within | ⟨_, zero⟩
    · rw [empty] at within
      exact absurd within (Nat.not_lt_zero _)
    · exact zero

/-- The frames of `left` have left the ring, others may have come, and no frame that stays is passed over. -/
structure KeepsPlace (left : List Nat) (before after : FramePool) : Prop where
  distinct : after.clock.Nodup
  points : Points after.clock after.hand
  /-- What was due in this round is so still. -/
  due : (before.due.filter (· ∉ left)).Sublist after.due
  order : after.ahead.filter (fun index => index ∈ before.clock ∧ index ∉ left) =
    before.ahead.filter (· ∉ left)
  next : ∀ {index}, before.next? = some index → index ∉ left → after.next? = some index

namespace KeepsPlace
variable {before mid after : FramePool} {left more : List Nat}

theorem refl (distinct : pool.clock.Nodup) (points : Points pool.clock pool.hand) :
    KeepsPlace [] pool pool := by
  constructor
  case distinct => exact distinct
  case points => exact points
  case due =>
    simp
  case order =>
    apply List.filter_congr
    intro index member
    simp [mem_ahead.1 member]
  case next =>
    intro index here _
    exact here

theorem trans (first : KeepsPlace left before mid) (second : KeepsPlace more mid after) :
    KeepsPlace (left ++ more) before after := by
  have both : ∀ frames : List Nat, frames.filter (· ∉ left ++ more) =
      (frames.filter (· ∉ left)).filter (· ∉ more) := by
    intro frames
    rw [List.filter_filter]
    apply List.filter_congr
    intro index _
    simp [Bool.and_comm]
  constructor
  case distinct => exact second.distinct
  case points => exact second.points
  case due =>
    rw [both]
    exact (first.due.filter _).trans second.due
  case order =>
    have stays : ∀ index, index ∈ before.clock → index ∉ left → index ∈ mid.clock := by
      intro index member kept
      have listed : index ∈ before.ahead.filter (· ∉ left) := by simp [mem_ahead, member, kept]
      rw [← first.order] at listed
      exact mem_ahead.1 (List.mem_of_mem_filter listed)
    rw [both, ← first.order, List.filter_filter]
    have later := congrArg (List.filter fun index => index ∈ before.clock ∧ index ∉ left) second.order
    rw [List.filter_filter, List.filter_filter] at later
    refine Eq.trans ?_ (later.trans ?_)
    · apply List.filter_congr
      intro index _
      have := stays index
      simp only [List.mem_append, decide_eq_decide, ← Bool.decide_and]
      tauto
    · apply List.filter_congr
      intro index _
      rw [Bool.and_comm]
  case next =>
    intro index here kept
    rw [List.mem_append, not_or] at kept
    exact second.next (first.next here kept.1) kept.2

end KeepsPlace

/-- What is due in this round is due without a frame that leaves. -/
theorem due_removeFromClock (distinct : pool.clock.Nodup) (inside : index ∈ pool.clock) :
    (pool.due.filter (· != index)).Sublist (pool.removeFromClock index).due := by
  obtain ⟨front, back, ring, fresh, absent⟩ := ring_at distinct inside
  rw [removeFromClock_of_ring ring fresh]
  unfold due
  dsimp only
  rw [ring]
  by_cases past : front.length < pool.hand
  · -- What is due is behind the frame.
    obtain ⟨steps, away⟩ : ∃ steps, pool.hand = front.length + (steps + 1) :=
      ⟨pool.hand - front.length - 1, by omega⟩
    have before : (front ++ index :: back).drop pool.hand = back.drop steps := by
      rw [away, List.drop_length_add_append]
      rfl
    have none : index ∉ back.drop steps := fun member => absent (List.mem_of_mem_drop member)
    rw [before, filter_absent none, if_pos past]
    split
    · have after : (front ++ back).drop (pool.hand - 1) = back.drop steps := by
        have less : pool.hand - 1 = front.length + steps := by omega
        rw [less, List.drop_length_add_append]
      rw [after]
    · rename_i beyond
      have spent : back.drop steps = [] := by
        apply List.drop_eq_nil_of_le
        rw [List.length_append] at beyond
        omega
      rw [spent]
      exact List.nil_sublist _
  · have reach : pool.hand ≤ front.length := Nat.le_of_not_lt past
    have before : ((front ++ index :: back).drop pool.hand).filter (· != index) =
        (front ++ back).drop pool.hand := by
      have clear : index ∉ front.drop pool.hand := fun member => fresh (List.mem_of_mem_drop member)
      rw [List.drop_append_of_le_length reach, List.drop_append_of_le_length reach, List.filter_append,
        List.filter_cons_of_neg (by simp), filter_absent clear, filter_absent absent]
    rw [before, if_neg past]
    split
    · exact List.Sublist.refl _
    · rename_i beyond
      rw [List.drop_eq_nil_of_le (Nat.le_of_not_lt beyond)]
      exact List.nil_sublist _

theorem keepsPlace_leave (distinct : pool.clock.Nodup) (points : Points pool.clock pool.hand)
    (inside : index ∈ pool.clock) : KeepsPlace [index] pool (pool.removeFromClock index) := by
  have departed := departed distinct points inside
  have clock := @clock_removeFromClock pool index distinct
  have alike : ∀ frames : List Nat, frames.filter (· ∉ [index]) = frames.filter (· != index) := by
    intro frames
    apply List.filter_congr
    intro other _
    simp [bne, beq_eq_decide]
  constructor
  case distinct =>
    rw [clock]
    exact distinct.filter _
  case points => exact points_removeFromClock points
  case due =>
    rw [alike]
    exact due_removeFromClock distinct inside
  case order =>
    rw [alike, ahead_removeFromClock distinct points, List.filter_filter]
    apply List.filter_congr
    intro other member
    simp [mem_ahead.1 member, bne, beq_eq_decide]
  case next =>
    intro other here kept
    rw [departed.kept, here]
    rw [here]
    intro same
    cases same
    exact kept (List.mem_singleton.2 rfl)

/-- A frame that comes last is not under the hand, unless it is alone. -/
theorem keepsPlace_join (distinct : pool.clock.Nodup) (points : Points pool.clock pool.hand)
    (outside : index ∉ pool.clock) (owner : SpaceId) : KeepsPlace [] pool (pool.assign index owner) := by
  have reach := reach_of_points points
  have due : (pool.assign index owner).due = pool.due ++ [index] := List.drop_append_of_le_length reach
  have ahead : (pool.assign index owner).ahead = pool.due ++ [index] ++ pool.clock.take pool.hand := by
    have further : pool.hand ≤ (pool.clock ++ [index]).length := by
      rw [List.length_append]
      exact Nat.le_add_right_of_le reach
    have turned := List.rotate_eq_drop_append_take further
    rw [List.take_append_of_le_length reach] at turned
    exact turned.trans (congrArg (· ++ _) due)
  constructor
  case distinct =>
    apply List.nodup_append.2
    refine ⟨distinct, List.nodup_singleton _, ?_⟩
    intro a member b last same
    rw [List.mem_singleton.1 last] at same
    exact outside (same ▸ member)
  case points =>
    left
    change pool.hand < (pool.clock ++ [index]).length
    rw [List.length_append, List.length_singleton]
    exact Nat.lt_succ_of_le reach
  case due =>
    rw [due]
    apply List.Sublist.trans List.filter_sublist
    exact List.sublist_append_left _ _
  case order =>
    have old : pool.ahead = pool.due ++ pool.clock.take pool.hand := List.rotate_eq_drop_append_take reach
    have members : ∀ frames : List Nat, (∀ other ∈ frames, other ∈ pool.clock) →
        frames.filter (fun other => other ∈ pool.clock ∧ other ∉ []) = frames := by
      intro frames listed
      apply List.filter_eq_self.2
      intro other member
      simp [listed other member]
    rw [ahead, old, List.filter_append, List.filter_append, members pool.due fun _ => List.mem_of_mem_drop,
      members _ fun _ => List.mem_of_mem_take, List.filter_cons_of_neg (by simp [outside])]
    simp
  case next =>
    intro other here _
    obtain ⟨within, _⟩ := List.getElem?_eq_some_iff.1 here
    change (pool.clock ++ [index])[pool.hand]? = some other
    rw [List.getElem?_append_left within]
    exact here

inductive RingChange where
  /-- A frame leaves the ring. -/
  | leave (index : Nat)
  /-- A frame is assigned and comes last. -/
  | join (index : Nat) (owner : SpaceId)

def RingChange.Fits (pool : FramePool) : RingChange → Prop
  | .leave index => index ∈ pool.clock
  | .join index _ => index ∉ pool.clock

instance (pool : FramePool) : (change : RingChange) → Decidable (change.Fits pool)
  | .leave index => inferInstanceAs (Decidable (index ∈ pool.clock))
  | .join index _ => inferInstanceAs (Decidable (index ∉ pool.clock))

def change (pool : FramePool) : RingChange → FramePool
  | .leave index => pool.removeFromClock index
  | .join index owner => pool.assign index owner

/-- The changes can be made one after another. -/
def Undergoes (pool : FramePool) : List RingChange → Prop
  | [] => True
  | first :: rest => first.Fits pool ∧ (pool.change first).Undergoes rest

instance decidableUndergoes : (pool : FramePool) → (changes : List RingChange) →
    Decidable (pool.Undergoes changes)
  | _, [] => inferInstanceAs (Decidable True)
  | pool, first :: rest =>
      have := decidableUndergoes (pool.change first) rest
      inferInstanceAs (Decidable (_ ∧ _))

def RingChange.left : RingChange → List Nat
  | .leave index => [index]
  | .join _ _ => []

theorem keepsPlace_change (distinct : pool.clock.Nodup) (points : Points pool.clock pool.hand)
    {change : RingChange} (fits : change.Fits pool) : KeepsPlace change.left pool (pool.change change) := by
  cases change with
  | leave index => exact keepsPlace_leave distinct points fits
  | join index owner => exact keepsPlace_join distinct points fits owner

theorem keepsPlace_changes {changes : List RingChange} (distinct : pool.clock.Nodup)
    (points : Points pool.clock pool.hand) (undergoes : pool.Undergoes changes) :
    KeepsPlace (changes.flatMap RingChange.left) pool (changes.foldl change pool) := by
  induction changes generalizing pool with
  | nil => exact .refl distinct points
  | cons first rest ih =>
    obtain ⟨fits, later⟩ := undergoes
    have step := keepsPlace_change distinct points fits
    exact step.trans (ih step.distinct step.points later)

/-- A frame that leaves the ring takes nothing with it, and the hand stays on the frame it was on or goes to
the next one; however many leave, and others come last, no frame that stays is passed over. -/
theorem hand_kept (pool : FramePool) (distinct : pool.clock.Nodup) (points : Points pool.clock pool.hand) :
    (∀ index ∈ pool.clock, pool.Departed index (pool.removeFromClock index)) ∧
      ∀ changes, pool.Undergoes changes →
        KeepsPlace (changes.flatMap RingChange.left) pool (changes.foldl change pool) := by
  constructor
  · intro index inside
    exact departed distinct points inside
  · intro changes undergoes
    exact keepsPlace_changes distinct points undergoes

def fourInRing : FramePool where
  base := ⟨0⟩
  capacity := 6
  clock := [3, 1, 0, 2]
  hand := 2

/-- A frame before the hand leaves, then the one under the hand, then one joins, then the hand is on the last
that it has to come to in this round. -/
def unsettling : List RingChange := [.leave 3, .leave 0, .join 5 0, .leave 2, .join 3 1]

theorem hand_kept_fourInRing : fourInRing.clock.Nodup ∧ Points fourInRing.clock fourInRing.hand ∧
    fourInRing.Departed 0 (fourInRing.removeFromClock 0) ∧
    (fourInRing.removeFromClock 0).next? = some 2 ∧ fourInRing.Undergoes unsettling ∧
    KeepsPlace [3, 0, 2] fourInRing (unsettling.foldl change fourInRing) ∧
    (unsettling.foldl change fourInRing).ahead = [5, 3, 1] := by
  have kept := hand_kept fourInRing (by decide) (.inl (by decide))
  refine ⟨by decide, .inl (by decide), kept.1 0 (by decide), by decide, by decide, ?_, by decide⟩
  exact kept.2 unsettling (by decide)

end DemandPaging.FramePool
