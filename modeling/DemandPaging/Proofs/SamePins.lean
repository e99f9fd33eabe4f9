import DemandPaging.Proofs.Contents
import DemandPaging.Proofs.PinCounts

/-! Calls after which all pins are as they were. What the guards of callers have pinned decides how many pins
a frame has and which pages are marked, as long as no page is unregistered: so both are the same again when
callers hold what they held. -/
namespace DemandPaging
open Architecture (Lawful)

theorem Callers.exists_guard {callers : Callers} {pin : Pin} (member : pin ∈ callers.pins) :
    ∃ (number : Nat) (guard : PinGuard), callers.guards[number]? = some (some guard) ∧ pin ∈ guard.pins := by
  unfold Callers.pins at member
  generalize callers.guards = guards at member ⊢
  induction guards with
  | nil => exact absurd member (Multiset.notMem_zero pin)
  | cons first rest ih =>
    rw [List.map_cons, List.sum_cons, Multiset.mem_add] at member
    rcases member with here | later
    · cases first with
      | none => exact absurd here (Multiset.notMem_zero pin)
      | some guard => exact ⟨0, guard, rfl, here⟩
    · obtain ⟨number, guard, listed, pinned⟩ := ih later
      exact ⟨number + 1, guard, listed, pinned⟩

variable [Architecture]

/-- Every frame has as many pins as before, and every page is marked as pinned just as before. -/
structure Machine.SamePins (machine next : Machine) : Prop where
  counts : ∀ index, (next.pool.entry index).pins = (machine.pool.entry index).pins
  flags : ∀ {space addr page}, (machine.registry space).pages.get? addr = some page →
    ∃ after, (next.registry space).pages.get? addr = some after ∧ after.pinned = page.pinned

variable {machine next : Machine} {space : SpaceId} {addr : VirtualAddress} {page : Page}

/-- The page of a pin is in its frame, unless that was released. -/
theorem Consistent.pinned_page (consistent : Consistent ⟨{}, machine⟩) {frame : FrameNumber}
    (claim : ⟨space, addr, frame⟩ ∈ machine.callers.pins)
    (fresh : (machine.pool.entry (frame.value - machine.pool.base.value)).released = false) :
    machine.Resident space addr frame ∧
      0 < (machine.pool.entry (frame.value - machine.pool.base.value)).pins := by
  have claim : ⟨space, addr, frame⟩ ∈ (Ledger.pins {} + machine.callers.pins : Multiset Pin) :=
    Multiset.mem_add.2 (.inr claim)
  obtain ⟨index, named, _, here⟩ := consistent.held.claimed claim
  have named : frame = machine.pool.number index := named
  have place : frame.value - machine.pool.base.value = index := by rw [named, FramePool.number_sub]
  refine ⟨Machine.resident_iff.2 (here (place ▸ fresh)), ?_⟩
  have counted : (machine.pool.entry index).pins = _ := consistent.held.pins index
  rw [place, counted, ← named]
  exact Nat.add_pos_right _ (Held.count_claims_pos claim)

/-- The frame of a page that has pins was pinned by guards. -/
theorem Consistent.page_pinned (consistent : Consistent ⟨{}, machine⟩) {frame : FrameNumber}
    (resident : machine.Resident space addr frame)
    (pinned : 0 < (machine.pool.entry (frame.value - machine.pool.base.value)).pins) :
    ⟨space, addr, frame⟩ ∈ machine.callers.pins ∧
      (machine.pool.entry (frame.value - machine.pool.base.value)).released = false := by
  have held : Held (Ledger.keepers {} machine.callers) (0 + machine.callers.pins) machine.pool
    machine.placement := consistent.held
  rw [Multiset.zero_add] at held
  obtain ⟨writable, placed⟩ := Machine.resident_iff.1 resident
  obtain ⟨named, inside, _⟩ := (held.placed placed).index
  have fresh := (held.sound.ring.1 inside).2
  -- No caller holds the frame for itself, so the pins are those of guards.
  have unkept : (Multiset.map Prod.snd (Ledger.keepers {} machine.callers)).count frame = 0 := by
    refine Multiset.count_eq_zero.2 fun member => ?_
    obtain ⟨⟨owner, kept⟩, listed, same⟩ := Multiset.mem_map.1 member
    exact held.apart listed placed same.symm
  rw [held.pins, ← named, unkept, Nat.zero_add] at pinned
  obtain ⟨⟨owner, other, _⟩, claim, same⟩ := Multiset.mem_map.1 (Multiset.count_pos.1 pinned)
  have same : _ = frame := same
  subst same
  obtain ⟨there, _⟩ := consistent.pinned_page claim fresh
  obtain ⟨_, also⟩ := Machine.resident_iff.1 there
  obtain ⟨rfl, rfl⟩ := held.page_unique also placed
  exact ⟨claim, fresh⟩

/-- A page is marked just if a guard has it pinned in a frame that was not released. -/
theorem Machine.Marked.pinned_iff (marked : machine.Marked) (consistent : Consistent ⟨{}, machine⟩)
    (found : (machine.registry space).pages.get? addr = some page) :
    page.pinned = true ↔ ∃ frame, ⟨space, addr, frame⟩ ∈ machine.callers.pins ∧
      (machine.pool.entry (frame.value - machine.pool.base.value)).released = false := by
  constructor
  · intro pinned
    have sound : (machine.registry space).Sound := consistent.sound space
    cases state : page.state with
    | unloaded | swapped =>
      have unpinned := sound.unpinned found (by rw [Page.isResident, Page.frame?, state]; rfl)
      cases pinned.symm.trans unpinned
    | resident frame =>
      exact ⟨frame, consistent.page_pinned ⟨page, found, state⟩ ((marked.agrees found state).1 pinned)⟩
  · rintro ⟨frame, claim, fresh⟩
    obtain ⟨⟨other, also, state⟩, positive⟩ := consistent.pinned_page claim fresh
    cases found.symm.trans also
    exact (marked.agrees found state).2 positive

variable [Lawful] {may : Act → Prop}

theorem Path.registered {start stop : Moment} (path : Path may start stop)
    (keeps : ∀ {act : Act}, may act → ¬act.Drops) (consistent : Consistent start)
    (found : (start.machine.registry space).pages.get? addr = some page) :
    ∃ after, (stop.machine.registry space).pages.get? addr = some after := by
  let claim : Moment → Prop := fun now =>
    Consistent now ∧ ∃ page, (now.machine.registry space).pages.get? addr = some page
  have kept : claim stop := path.keeps claim ⟨consistent, page, found⟩
    fun {act start stop} allowed move ⟨consistent, page, found⟩ => by
      refine ⟨consistent.move move, ?_⟩
      have becomes := move.becomes consistent space addr
      rw [found] at becomes
      generalize (stop.machine.registry space).pages.get? addr = result at becomes
      cases becomes with
      | turns => exact ⟨_, rfl⟩
      | gone dropped => exact absurd ⟨_, _, dropped⟩ (keeps allowed)
  exact kept.2

/-- The frames of pins that last are released just if they were so before. -/
theorem Path.released_iff {start stop : Moment} (path : Path may start stop)
    (keeps : ∀ {act : Act}, may act → ¬act.Drops) (consistent : Consistent start)
    (callers : stop.machine.callers = start.machine.callers) {pin : Pin}
    (member : pin ∈ start.machine.callers.pins) :
    (stop.machine.pool.entry (pin.frame.value - stop.machine.pool.base.value)).released = true ↔
      (start.machine.pool.entry (pin.frame.value - start.machine.pool.base.value)).released = true := by
  have claimed : ∀ {now : Moment}, Consistent now → pin ∈ now.machine.callers.pins →
      (now.machine.pool.entry (pin.frame.value - now.machine.pool.base.value)).owner = some pin.space := by
    intro now consistent member
    obtain ⟨index, named, owned, _⟩ := consistent.held.claimed (Multiset.mem_add.2 (.inr member))
    rw [named, FramePool.number_sub]
    exact owned
  constructor
  · intro released
    let claim : Moment → Prop := fun now => Consistent now ∧ now.machine.pool.base = start.machine.pool.base ∧
      ∀ index, (now.machine.pool.entry index).owner = some pin.space →
        (now.machine.pool.entry index).released = true →
        (start.machine.pool.entry index).released = true
    have kept : claim stop := path.keeps claim ⟨consistent, rfl, fun _ _ released => released⟩
      fun allowed move ⟨consistent, base, old⟩ => by
        refine ⟨consistent.move move, move.base.trans base, fun index owned released => ?_⟩
        have spares : ∀ addr, _ ≠ Act.expel pin.space addr := fun addr same =>
          keeps allowed ⟨_, _, .inr same⟩
        obtain ⟨owned, released⟩ := move.released_before consistent spares owned released
        exact old index owned released
    obtain ⟨later, base, old⟩ := kept
    have owned := claimed later (callers ▸ member)
    rw [base] at owned released
    exact old _ owned released
  · intro released
    obtain ⟨number, guard, listed, pinned⟩ := Callers.exists_guard member
    let claim : Moment → Prop := fun now => Consistent now ∧ now.machine.Retires number guard pin
    have retires : start.machine.Retires number guard pin :=
      ⟨(List.getElem?_eq_some_iff.1 listed).1, fun _ => ⟨claimed consistent member, released⟩⟩
    have kept : claim stop := path.keeps claim ⟨consistent, retires⟩
      fun _ move ⟨consistent, retires⟩ => ⟨consistent.move move, move.retires consistent pinned retires⟩
    exact (kept.2.retired (callers ▸ listed)).2

/-- Where callers hold what they held and no page is unregistered, all pins are as before. -/
theorem Path.same_pins (path : Path may ⟨{}, machine⟩ ⟨{}, next⟩)
    (keeps : ∀ {act : Act}, may act → ¬act.Drops) (consistent : Consistent ⟨{}, machine⟩)
    (marked : machine.Marked) (callers : next.callers = machine.callers) : machine.SamePins next := by
  have later : Consistent ⟨{}, next⟩ := consistent.path path
  let claim : Moment → Prop := fun now =>
    Consistent now ∧ now.machine.Marked ∧ now.machine.pool.base = machine.pool.base
  have kept : claim ⟨{}, next⟩ := path.keeps claim ⟨consistent, marked, rfl⟩
    fun _ move ⟨consistent, marked, base⟩ =>
      ⟨consistent.move move, marked.move move consistent, move.base.trans base⟩
  obtain ⟨_, marked_next, base⟩ := kept
  have base : next.pool.base = machine.pool.base := base
  refine ⟨fun index => ?_, fun {space addr page} found => ?_⟩
  · have before : (machine.pool.entry index).pins = _ := consistent.held.pins index
    have after : (next.pool.entry index).pins = _ := later.held.pins index
    dsimp only at before after
    rw [before, after, Ledger.keepers, Ledger.keepers, callers, FramePool.number, FramePool.number, base]
  · obtain ⟨after, there⟩ := path.registered keeps consistent found
    refine ⟨after, there, Bool.eq_iff_iff.2 ?_⟩
    rw [Machine.Marked.pinned_iff marked_next later there, marked.pinned_iff consistent found, callers]
    refine exists_congr fun frame => and_congr_right fun claim => ?_
    rw [← Bool.not_eq_true, ← Bool.not_eq_true, not_iff_not]
    exact path.released_iff keeps consistent callers claim

end DemandPaging
