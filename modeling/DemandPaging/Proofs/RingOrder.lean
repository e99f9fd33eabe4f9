import DemandPaging.Proofs.Runs
import Mathlib.Data.List.Dedup

/-! The ring is in order of assignment. A chronicle of a run lists the frames that were assigned, one
after another; the ring is what the chronicle leaves if only the last assignment of each frame counts
and frames that are not assigned any more are left out. -/
namespace DemandPaging

namespace FramePool
variable {before after pool : FramePool} {history : List Nat} {index : Nat}

/-- The frame is assigned, and its page was not released while it was pinned. -/
def isAssigned (pool : FramePool) (index : Nat) : Bool :=
  (pool.entry index).owner.isSome && !(pool.entry index).released

theorem Sound.mem_clock (sound : pool.Sound) : index ∈ pool.clock ↔ pool.isAssigned index = true := by
  rw [sound.ring, isAssigned, Bool.and_eq_true, Bool.not_eq_true']

/-- How the ring of a pool comes from that of an earlier one. -/
inductive Succeeds (before after : FramePool) : Prop
  /-- No frame is assigned, and some may leave. -/
  | fewer (ring : after.clock.Sublist before.clock)
      (unowned : ∀ index, (before.entry index).owner = none → (after.entry index).owner = none)
  /-- A frame is assigned and comes last. -/
  | longer (index : Nat) (unowned : (before.entry index).owner = none)
      (ring : after.clock = before.clock ++ [index])
      (others : ∀ other, index ≠ other → after.entry other = before.entry other)

namespace Succeeds

theorem refl (pool : FramePool) : Succeeds pool pool :=
  .fewer (List.Sublist.refl _) fun _ unowned => unowned

theorem of_erase (clock : after.clock = before.clock.erase index)
    (unowned : ∀ other, (before.entry other).owner = none → (after.entry other).owner = none) :
    Succeeds before after := by
  apply fewer
  · rw [clock]
    exact List.erase_sublist
  · exact unowned

/-- A frame leaves the ring, wherever the hand has got to in search of it. -/
theorem withdraw_turned (pool : FramePool) (hand index : Nat) :
    Succeeds pool (FramePool.withdraw { pool with hand } index) := by
  have clock : (FramePool.withdraw { pool with hand } index).clock = pool.clock.erase index :=
    clock_withdraw _ index
  apply of_erase clock
  intro other unowned
  rw [entry_withdraw]
  split
  · rfl
  · exact unowned

theorem withdraw (pool : FramePool) (index : Nat) : Succeeds pool (pool.withdraw index) :=
  withdraw_turned pool pool.hand index

theorem retire (pool : FramePool) (index : Nat) : Succeeds pool (pool.retire index) := by
  apply of_erase (pool.clock_retire index)
  intro other unowned
  rw [entry_retire]
  split
  · rename_i same
    rw [← same] at unowned
    exact unowned
  · exact unowned

theorem of_owner (clock : after.clock = before.clock)
    (owner : ∀ other, (after.entry other).owner = (before.entry other).owner) :
    Succeeds before after := by
  apply fewer
  · rw [clock]
  · intro other unowned
    rw [owner, unowned]

theorem setPins (pool : FramePool) (index pins : Nat) : Succeeds pool (pool.setPins index pins) :=
  of_owner rfl fun other => (pool.setPins_same index pins other).1

theorem giveBack (pool : FramePool) (index : Nat) : Succeeds pool (pool.giveBack index) := by
  apply fewer
  · exact List.Sublist.refl _
  · intro other unowned
    rw [entry_giveBack]
    split
    · rfl
    · exact unowned

theorem refuse (pool : FramePool) (index : Nat) : Succeeds pool (pool.setEntry index {}) := by
  apply fewer
  · exact List.Sublist.refl _
  · intro other unowned
    rw [entry_setEntry]
    split
    · rfl
    · exact unowned

theorem assign {rest : FramePool} (sound : pool.Sound) (taken : pool.takeFree? = some (index, rest))
    (owner : SpaceId) : Succeeds pool (rest.assign index owner) := by
  obtain ⟨_, unowned⟩ := sound.taken_free taken
  obtain ⟨returned, fresh, rfl⟩ := takeFree?_eq taken
  apply longer index unowned rfl
  intro other differ
  rw [entry_assign, if_neg differ]
  rfl

end Succeeds

/-- The order in which frames were assigned, of those that are. -/
def inOrder (pool : FramePool) (history : List Nat) : List Nat :=
  history.dedup.filter pool.isAssigned

theorem filter_of_sublist {ring kept : List Nat} (sublist : kept.Sublist ring) (distinct : ring.Nodup) :
    ring.filter (· ∈ kept) = kept := by
  induction sublist with
  | slnil => rfl
  | @cons kept ring index sublist ih =>
    obtain ⟨absent, distinct⟩ := List.nodup_cons.1 distinct
    rw [List.filter_cons_of_neg]
    · exact ih distinct
    · simpa using fun member => absent (sublist.subset member)
  | @cons_cons kept ring index sublist ih =>
    obtain ⟨absent, distinct⟩ := List.nodup_cons.1 distinct
    rw [List.filter_cons_of_pos (by simp)]
    congr 1
    have same : ring.filter (· ∈ index :: kept) = ring.filter (· ∈ kept) := by
      apply List.filter_congr
      intro other member
      have differ : other ≠ index := fun same => absent (same ▸ member)
      simp [differ]
    rw [same]
    exact ih distinct

/-- One more assignment puts a frame last. -/
theorem filter_dedup_append (history : List Nat) (index : Nat) (kept : Nat → Bool)
    (chosen : kept index = true) :
    (history ++ [index]).dedup.filter kept =
      history.dedup.filter (fun other => kept other && other != index) ++ [index] := by
  induction history with
  | nil => simp [chosen]
  | cons first rest ih =>
    rw [List.cons_append]
    by_cases again : first ∈ rest
    · rw [List.dedup_cons_of_mem again, List.dedup_cons_of_mem (List.mem_append_left _ again)]
      exact ih
    · rw [List.dedup_cons_of_notMem again]
      by_cases same : first = index
      · subst same
        rw [List.dedup_cons_of_mem (by simp), List.filter_cons_of_neg (by simp)]
        exact ih
      · rw [List.dedup_cons_of_notMem (by simp [again, same])]
        by_cases keep : kept first = true
        · rw [List.filter_cons_of_pos keep, List.filter_cons_of_pos (by simp [keep, same]), ih]
          rfl
        · rw [List.filter_cons_of_neg keep, List.filter_cons_of_neg (by simp [keep]), ih]

/-- A ring in order of assignment stays so. -/
theorem inOrder_fewer (sound : before.Sound) (later : after.Sound)
    (ring : after.clock.Sublist before.clock) (ordered : before.clock = before.inOrder history) :
    after.clock = after.inOrder history := by
  have kept := filter_of_sublist ring sound.distinct
  rw [ordered, inOrder, List.filter_filter] at kept
  rw [← kept, inOrder]
  apply List.filter_congr
  intro index _
  have still : after.isAssigned index = true → before.isAssigned index = true := fun assigned =>
    sound.mem_clock.1 (ring.subset (later.mem_clock.2 assigned))
  rw [Bool.eq_iff_iff, Bool.and_eq_true, decide_eq_true_iff, later.mem_clock]
  exact ⟨fun both => both.1, fun assigned => ⟨assigned, still assigned⟩⟩

theorem inOrder_longer (later : after.Sound)
    (unowned : (before.entry index).owner = none) (ring : after.clock = before.clock ++ [index])
    (others : ∀ other, index ≠ other → after.entry other = before.entry other)
    (ordered : before.clock = before.inOrder history) :
    after.clock = after.inOrder (history ++ [index]) := by
  have assigned : after.isAssigned index = true := later.mem_clock.1 (by simp [ring])
  have idle : before.isAssigned index = false := by
    rw [isAssigned, unowned]
    rfl
  rw [ring, ordered, inOrder, inOrder, filter_dedup_append history index _ assigned]
  congr 1
  apply List.filter_congr
  intro other _
  by_cases same : index = other
  · rw [← same, idle, bne_self_eq_false, Bool.and_false]
  · have different : (other != index) = true := bne_iff_ne.2 (Ne.symm same)
    rw [different, Bool.and_true, isAssigned, isAssigned, others other same]

end FramePool

open Architecture (Lawful)

variable [Architecture]

theorem Machine.succeeds_vacate (machine : Machine) (space : SpaceId) (page : Page) :
    machine.pool.Succeeds (machine.vacate space page).pool := by
  unfold Machine.vacate
  split
  · exact .refl _
  · exact .refl _
  · dsimp only
    split
    · exact .retire _ _
    · exact .withdraw _ _

theorem Machine.succeeds_unpin (machine : Machine) (space : SpaceId) (frame : FrameNumber) :
    machine.pool.Succeeds (machine.unpin space frame).pool := by
  unfold Machine.unpin
  dsimp only
  split
  · split
    · exact .giveBack _ _
    · exact .setPins _ _ _
  · exact .setPins _ _ _

variable [Lawful]

/-- A move assigns one frame at most, and that comes last in the ring. -/
theorem Move.succeeds {act : Act} {before after : Moment} (move : Move act before after)
    (consistent : Consistent before) : before.machine.pool.Succeeds after.machine.pool := by
  have same {pool : FramePool} (equal : pool = before.machine.pool) :
      before.machine.pool.Succeeds pool := by
    rw [equal]
    exact .refl _
  cases move with
  | idle idle => exact same idle.pool
  | scribble scribbled => exact same scribbled.pool
  | tamper aside => exact same aside.pool
  | stray scribbled => exact same scribbled.pool
  | store _ _ idle => exact same idle.pool
  | drop => exact Machine.succeeds_vacate _ _ _
  | expel => exact Machine.succeeds_vacate _ _ _
  | evict => exact .withdraw_turned _ _ _
  | take _ _ _ _ taken => exact .assign consistent.held.sound taken _
  | lend taken => exact .assign consistent.held.sound taken _
  | @attach _ _ _ _ _ _ _ pinned =>
    cases pinned with
    | true => exact .refl _
    | false => exact .setPins _ _ _
  | abandon => exact .withdraw _ _
  | recover => exact .withdraw _ _
  | pin => exact .setPins _ _ _
  | unpin => exact Machine.succeeds_unpin _ _ _
  | refuse => exact .refuse _ _
  | _ => exact .refl _

/-- The frames that were assigned since the start of the memory manager, the first first, as the owners of
frames tell. -/
inductive Chronicle : List Nat → Moment → Prop
  | boot {threshold config memory base disk machine}
      (booted : Machine.boot threshold config memory base disk = .ok machine) : Chronicle [] ⟨{}, machine⟩
  /-- A frame without an owner gets one. -/
  | assign {history now act next index} (earlier : Chronicle history now) (move : Move act now next)
      (unowned : (now.machine.pool.entry index).owner = none)
      (owned : (next.machine.pool.entry index).owner.isSome = true) : Chronicle (history ++ [index]) next
  | other {history now act next} (earlier : Chronicle history now) (move : Move act now next)
      (unowned : ∀ index, (now.machine.pool.entry index).owner = none →
        (next.machine.pool.entry index).owner = none) : Chronicle history next
  | note {history ledger machine log callers} (earlier : Chronicle history ⟨ledger, machine⟩)
      (guards : callers.guards = machine.callers.guards)
      (frames : callers.frames = machine.callers.frames) :
      Chronicle history ⟨ledger, { machine with log, callers }⟩

namespace Chronicle
variable {history : List Nat} {now : Moment}

/-- Whatever is done next, the chronicle goes on. -/
theorem next {act : Act} {after : Moment} (chronicle : Chronicle history now)
    (move : Move act now after) : ∃ history, Chronicle history after := by
  by_cases assigns : ∃ index, (now.machine.pool.entry index).owner = none ∧
      (after.machine.pool.entry index).owner.isSome = true
  · obtain ⟨index, unowned, owned⟩ := assigns
    exact ⟨_, chronicle.assign move unowned owned⟩
  · refine ⟨history, chronicle.other move fun index unowned => ?_⟩
    rw [not_exists] at assigns
    have kept := not_and.1 (assigns index) unowned
    rwa [Bool.not_eq_true, Option.isSome_eq_false_iff, Option.isNone_iff_eq_none] at kept

theorem consistent (chronicle : Chronicle history now) : Consistent now := by
  induction chronicle with
  | boot booted =>
    have between : BetweenOperations .offered ⟨{}, _⟩ := Machine.boot_betweenOperations booted
    exact between.toConsistent
  | assign _ move _ _ ih => exact ih.move move
  | other _ move _ ih => exact ih.move move
  | note _ guards frames ih => exact ih.note guards frames

/-- The ring lists the frames that are assigned in the order in which they were. -/
theorem ring (chronicle : Chronicle history now) :
    now.machine.pool.clock = now.machine.pool.inOrder history := by
  induction chronicle with
  | boot booted =>
    obtain ⟨_, _, _, _, rfl⟩ := Machine.boot_ok booted
    rfl
  | @assign history now act next index earlier move unowned owned ih =>
    have sound := earlier.consistent.held.sound
    have later := (earlier.consistent.move move).held.sound
    cases move.succeeds earlier.consistent with
    | fewer _ kept =>
      rw [kept index unowned] at owned
      cases owned
    | longer last free ring others =>
      have same : last = index := by
        by_contra differ
        rw [others index differ, unowned] at owned
        cases owned
      subst same
      exact FramePool.inOrder_longer later unowned ring others ih
  | @other history now act next earlier move unowned ih =>
    have sound := earlier.consistent.held.sound
    have later := (earlier.consistent.move move).held.sound
    cases move.succeeds earlier.consistent with
    | fewer ring _ => exact FramePool.inOrder_fewer sound later ring ih
    | longer index free ring _ =>
      have listed : index ∈ next.machine.pool.clock := by simp [ring]
      have owned := (later.ring.1 listed).1
      rw [unowned index free] at owned
      cases owned
  | note _ _ _ ih => exact ih

end Chronicle

end DemandPaging
