import DemandPaging.Proofs.Conservation
import DemandPaging.Proofs.PinMarks

/-! Pins hold pages in their frames. The pins of a frame are counted by its entry and marked on its
page; a pinned page stays where it is until its space is destroyed, and then the frame stays with
those who have it pinned, until the last of them lets go. -/
namespace DemandPaging
open Architecture (Lawful)

section
variable [Architecture]

/-- The pins of the guards that callers have, and of the calls that loads under way belong to. -/
def Machine.claims (machine : Machine) (loads : List Load) : Multiset Pin :=
  (loads.map Load.pins).sum + machine.callers.pins

/-- A frame has outlived the page that was pinned in it. It belongs to the space still, is neither free
nor in the ring, and is there for nothing else. -/
structure Machine.Lingers (machine : Machine) (loads : List Load) (pin : Pin) : Prop where
  owned : (machine.pool.entry (pin.frame.value - machine.pool.base.value)).owner = some pin.space
  released : (machine.pool.entry (pin.frame.value - machine.pool.base.value)).released = true
  taken : pin.frame.value - machine.pool.base.value ∉ machine.pool.free
  outside : pin.frame.value - machine.pool.base.value ∉ machine.pool.clock
  empty : ∀ space addr, ¬machine.Resident space addr pin.frame
  unloaded : pin.frame ∉ loads.map (·.frame)

/-- The page of a pin cannot leave its frame. -/
structure Machine.Fixes (rule : Rule) (machine : Machine) (pin : Pin) : Prop where
  inUse : ∀ {addr : VirtualAddress}, addr.pageBase = pin.addr →
    Kernel.releasePage pin.space addr machine = .ok (.error (.inUse pin.addr)) machine
  spared : ∀ {index next}, Kernel.evict machine = .ok index next →
    pin.frame ≠ machine.pool.number index
  mapped : rule.Trusting →
    machine.translate pin.space pin.addr = some ⟨pin.frame.value * pageSize⟩

def Rule.sparing (rule : Rule) (owner : SpaceId) : Rule := fun loads machine op after =>
  rule loads machine op after ∧ op ≠ .destroy owner

/-- What pins do for those who hold them, at a machine and from there on. -/
structure Machine.PinsKept (machine : Machine) (rule : Rule) (loads : List Load) : Prop where
  counted : ∀ index, (machine.pool.entry index).pins =
    ((machine.claims loads).map (·.frame)).count (machine.pool.number index) +
      if machine.pool.number index ∈ loads.map (·.frame) then 1 else 0
  marked : machine.Marked
  placed : ∀ {pin}, pin ∈ machine.claims loads →
    machine.Resident pin.space pin.addr pin.frame ∨ machine.Lingers loads pin
  /-- As long as a space is not destroyed, its pinned pages are in place and cannot leave it. -/
  stays : ∀ {owner later now}, Leads (rule.sparing owner) loads machine later now →
    ∀ {pin}, pin ∈ now.claims later → pin.space = owner → ¬machine.Lingers loads pin →
      now.Resident pin.space pin.addr pin.frame ∧ now.Fixes (rule.sparing owner) pin
  lingers : ∀ {later now}, Leads rule loads machine later now → ∀ {number : Nat} {guard : PinGuard},
    machine.callers.guards[number]? = some (some guard) →
    now.callers.guards[number]? = some (some guard) → ∀ {pin}, pin ∈ guard.pins →
      machine.Lingers loads pin → now.Lingers later pin
  /-- A guard can be dropped, and the last one to hold a frame without a page gives it back. -/
  dropped : ∀ {number : Nat} {guard : PinGuard}, machine.callers.guards[number]? = some (some guard) → ∀ others,
    ∃ next, Kernel.perform others (.unpin number) machine = .ok .done next ∧
      machine.claims loads = guard.pins + next.claims loads ∧
      ∀ {pin}, pin ∈ guard.pins → machine.Lingers loads pin →
        if pin.frame ∈ (next.claims loads).map (·.frame) then next.Lingers loads pin
        else next.pool.Spare (pin.frame.value - next.pool.base.value)

/-- Operations on spaces and files that there are, by callers that obtain no frames for themselves. -/
structure Rule.Unlent (rule : Rule) : Prop where
  regular : ∀ {loads machine op after}, rule loads machine op after →
    op.Regular machine.spaces.length machine.files.length
  unlent : ∀ {loads machine op after}, rule loads machine op after → op.lends = false

theorem Rule.Unlent.sensible {rule : Rule} (unlent : rule.Unlent) : rule.Sensible where
  regular := unlent.regular
  rightful {_ _ op _} allowed := by
    have lends := unlent.unlent allowed
    cases op with
    | free => cases lends
    | _ => rfl

theorem Rule.Unlent.sparing {rule : Rule} (unlent : rule.Unlent) (owner : SpaceId) :
    (rule.sparing owner).Unlent :=
  ⟨fun allowed => unlent.regular allowed.1, fun allowed => unlent.unlent allowed.1⟩

/-- Destroying a space changes no page directory, so it makes no difference to who trusts. -/
theorem Rule.Trusting.of_sparing {rule : Rule} {owner : SpaceId} (trusting : (rule.sparing owner).Trusting) :
    rule.Trusting := by
  intro loads machine op after allowed
  by_cases same : op = .destroy owner
  · rw [same]
    rfl
  · exact trusting ⟨allowed, same⟩

theorem Rule.unlent_offered : Rule.offered.Unlent :=
  ⟨fun offered => offered.1, fun offered => offered.2.1⟩

namespace Consistent
variable {now : Moment} (consistent : Consistent now) {pin : Pin}
include consistent

theorem lingers
    (owned : (now.machine.pool.entry (pin.frame.value - now.machine.pool.base.value)).owner =
      some pin.space)
    (released : (now.machine.pool.entry (pin.frame.value - now.machine.pool.base.value)).released =
      true) : now.machine.Lingers now.ledger.loads pin := by
  have sound := consistent.held.sound
  have outside : pin.frame.value - now.machine.pool.base.value ∉ now.machine.pool.clock := by
    intro inside
    rw [(sound.ring.1 inside).2] at released
    cases released
  refine ⟨owned, released, fun free => ?_, outside, ?_, fun loading => ?_⟩
  · rw [(sound.free.1 free).2] at owned
    cases owned
  · rintro space addr ⟨page, found, state⟩
    exact outside (consistent.seat found state).index.2.1
  · obtain ⟨load, member, same⟩ := List.mem_map.1 loading
    have holds := consistent.held.kept (Ledger.mem_keepers member)
    rw [same] at holds
    exact outside holds.index.2.1

/-- What is pinned is in place or lingers. -/
theorem claim_cases (claim : pin ∈ now.ledger.pins + now.machine.callers.pins) :
    now.machine.Resident pin.space pin.addr pin.frame ∨ now.machine.Lingers now.ledger.loads pin := by
  obtain ⟨index, named, owned, here⟩ := consistent.held.claimed claim
  have place : pin.frame.value - now.machine.pool.base.value = index := by
    rw [named, FramePool.number_sub]
  rw [← place] at owned here
  cases released : (now.machine.pool.entry (pin.frame.value - now.machine.pool.base.value)).released with
  | false => exact .inl (Machine.resident_iff.2 (here released))
  | true => exact .inr (consistent.lingers owned released)

theorem pins_counted (none : now.machine.callers.frames = []) (index : Nat) :
    (now.machine.pool.entry index).pins =
      ((now.ledger.pins + now.machine.callers.pins).map (·.frame)).count
          (now.machine.pool.number index) +
        if now.machine.pool.number index ∈ now.ledger.loads.map (·.frame) then 1 else 0 := by
  have keepers : (now.ledger.keepers now.machine.callers).map Prod.snd =
      (now.ledger.loads.map (·.frame) : List FrameNumber) := by
    rw [Ledger.keepers, none, List.append_nil, Multiset.map_coe, List.map_map]
    rfl
  have distinct := consistent.held.distinct
  rw [keepers] at distinct
  rw [consistent.held.pins index, keepers, Nat.add_comm]
  congr 1
  split
  · rename_i member
    exact Multiset.count_eq_one_of_mem distinct member
  · rename_i absent
    exact Multiset.count_eq_zero.2 absent

end Consistent

namespace Kernel

/-- The page of a pinned frame is not released. -/
theorem releasePage_pinned {machine : Machine} {space : SpaceId} {addr : VirtualAddress} {page : Page}
    {frame : FrameNumber} {index : Nat}
    (found : (machine.registry space).pages.get? addr.pageBase = some page)
    (state : page.state = .resident frame) (located : machine.pool.index frame = .ok index)
    (pinned : 0 < (machine.pool.entry index).pins) :
    releasePage space addr machine = .ok (.error (.inUse addr.pageBase)) machine := by
  obtain ⟨after, taken⟩ := Registry.exists_take? found
  simp only [releasePage, bind_ok, get_ok]
  refine ⟨machine, machine, ⟨rfl, rfl⟩, ?_⟩
  have frame_eq : page.frame? = some frame := by rw [Page.frame?, state]
  simp only [taken, frame_eq]
  refine bind_ok.2 ⟨index, machine, poolIndex_ok.2 ⟨located, rfl⟩, ?_⟩
  refine bind_ok.2 ⟨machine, machine, get_ok.2 ⟨rfl, rfl⟩, ?_⟩
  have marked : machine.pool.isPinned index = true := decide_eq_true pinned
  rw [marked]
  rfl

/-- The clock reclaims no frame that has a pin. -/
theorem evict_unpinned {index : Nat} {machine next : Machine}
    (sound : ∀ space, (machine.registry space).Sound) (ended : evict machine = .ok index next) :
    (machine.pool.entry index).pins = 0 := by
  obtain ⟨_, _, _, _, reclaims⟩ := reclaims_of_evict sound ended
  exact reclaims.unpinned

theorem unpin_ends {machine : Machine} {frame : FrameNumber} {owner : SpaceId} {index : Nat}
    (located : machine.pool.index frame = .ok index)
    (owned : (machine.pool.entry index).owner = some owner)
    (pinned : 0 < (machine.pool.entry index).pins) :
    unpin frame owner machine = .ok () (machine.unpin owner frame) := by
  have place : frame.value - machine.pool.base.value = index := by
    rw [(FramePool.index_ok.1 located).1, FramePool.number_sub]
  simp only [unpin, bind_ok, poolIndex_ok, get_ok]
  refine ⟨index, machine, ⟨located, rfl⟩, machine, machine, ⟨rfl, rfl⟩, ?_⟩
  rw [if_neg (by simp [owned, Nat.ne_of_gt pinned])]
  unfold Machine.unpin
  dsimp only
  rw [place]
  by_cases last : (machine.pool.entry index).pins = 1
  · by_cases released : (machine.pool.entry index).released = true
    · rw [if_pos ⟨last, released⟩, if_pos last, if_pos released]
      exact modifyPool_ok.2 rfl
    · rw [if_neg fun both => released both.2, if_neg released]
      simp only [last, if_true, bind_ok, modifyPool_ok, modifyRegistry_ok]
      exact ⟨(), _, rfl, rfl⟩
  · simp only [last, false_and, if_false, bind_ok, modifyPool_ok, pure_ok]
    exact ⟨(), _, rfl, trivial, rfl⟩

variable [Lawful]

theorem dropGuard_ends {flights : List Flight} {pins : Multiset Pin} {machine : Machine}
    {guard : PinGuard} (consistent : Consistent ⟨⟨flights, guard.pins + pins⟩, machine⟩) :
    ∃ next, dropGuard guard machine = .ok () next ∧
      Path (· = .unpin) ⟨⟨flights, guard.pins + pins⟩, machine⟩ ⟨⟨flights, pins⟩, next⟩ := by
  obtain ⟨owner, pages⟩ := guard
  induction pages generalizing machine with
  | nil =>
    have none : (PinGuard.mk owner []).pins + pins = pins := Multiset.zero_add pins
    rw [none]
    exact ⟨machine, rfl, .refl _⟩
  | cons page rest ih =>
    obtain ⟨addr, frame⟩ := page
    have split : (PinGuard.mk owner ((addr, frame) :: rest)).pins + pins =
        ⟨owner, addr, frame⟩ ::ₘ ((PinGuard.mk owner rest).pins + pins) := by
      rw [← Multiset.cons_add]
      rfl
    rw [split] at consistent ⊢
    have held := consistent.held
    change Held _ (_ ::ₘ _ + machine.callers.pins) _ _ at held
    rw [Multiset.cons_add] at held
    obtain ⟨index, named, owned, _⟩ := held.claimed (Multiset.mem_cons_self _ _)
    have pinned := Nat.lt_of_lt_of_eq (Nat.succ_pos _) (Held.claimed_pins named held).symm
    have inside := held.sound.within (by rw [owned]; rfl)
    have dropped := unpin_ends (FramePool.index_ok.2 ⟨named, inside⟩) owned pinned
    have move : Move .unpin ⟨⟨flights, ⟨owner, addr, frame⟩ ::ₘ ((PinGuard.mk owner rest).pins + pins)⟩,
        machine⟩ ⟨_, machine.unpin owner frame⟩ := .unpin
    obtain ⟨next, ended, path⟩ := ih (consistent.move move)
    exact ⟨next, bind_ok.2 ⟨(), _, dropped, ended⟩, .next rfl move path⟩

end Kernel

end

section
variable [Architecture] [Lawful] {rule : Rule}

/-- The guards that callers have stay the same until they are given back. -/
theorem Move.guards {act : Act} {start stop : Moment} (move : Move act start stop) {number : Nat}
    (known : number < start.machine.callers.guards.length) :
    number < stop.machine.callers.guards.length ∧
      (stop.machine.callers.guards[number]? = start.machine.callers.guards[number]? ∨
        stop.machine.callers.guards[number]? = some none) := by
  have same : ∀ {guards}, guards = start.machine.callers.guards → number < guards.length ∧
      (guards[number]? = start.machine.callers.guards[number]? ∨ guards[number]? = some none) := by
    rintro _ rfl
    exact ⟨known, .inl rfl⟩
  cases move with
  | idle idle => exact same idle.guards
  | scribble scribbled | stray scribbled => exact same scribbled.guards
  | tamper aside => exact same aside.guards
  | store owned written idle => exact same idle.guards
  | drop | expel =>
    refine same ?_
    change (Machine.vacate _ _ _).callers.guards = _
    unfold Machine.vacate
    split <;> rfl
  | unpin =>
    refine same ?_
    unfold Machine.unpin
    dsimp only
    split
    · split <;> rfl
    · rfl
  | @handOut flights pins machine guard =>
    refine ⟨?_, .inl (List.getElem?_append_left known)⟩
    change _ < (machine.callers.guards ++ [some guard]).length
    rw [List.length_append]
    exact Nat.lt_add_right _ known
  | @takeBack flights pins machine guard place held =>
    change _ < (machine.callers.guards.set place none).length ∧
      ((machine.callers.guards.set place none)[number]? = _ ∨
        (machine.callers.guards.set place none)[number]? = _)
    rw [List.length_set, List.getElem?_set]
    refine ⟨known, ?_⟩
    split
    · rename_i here
      exact .inr (if_pos (here ▸ known))
    · exact .inl rfl
  | misfree | register | grow | classify | evict | take | fill | attach | abandon | pin | meddle | share
  | create | lend | recover | refuse => exact same rfl

omit [Lawful] in
/-- Only a space that is destroyed loses pages that are pinned. -/
theorem Op.Acts.expels {op : Op} {loads : List Load} {machine : Machine} {space : SpaceId}
    {addr : VirtualAddress} (acts : op.Acts loads machine (.expel space addr)) : op = .destroy space := by
  unfold Op.Acts at acts
  split at acts
  all_goals first
    | simp [Act.Registers] at acts
      done
    | obtain ⟨_, same⟩ := acts
      cases same
      rfl

theorem Rule.Lets.spares {floor : List Load} {act : Act} {owner : SpaceId} {addr : VirtualAddress}
    (lets : (rule.sparing owner).Lets floor act) : act ≠ .expel owner addr := by
  rintro rfl
  cases lets with
  | op above allowed does => exact allowed.2 does.1.expels

theorem BetweenOperations.sparing {now : Moment} (between : BetweenOperations rule now) (owner : SpaceId) :
    BetweenOperations (rule.sparing owner) now :=
  ⟨between.toConsistent, between.balanced, between.sectors, fun trusting =>
    between.mapped trusting.of_sparing⟩

variable {ledger : Ledger} {machine : Machine}

omit [Lawful] in
theorem Ledger.Balanced.claims (balanced : ledger.Balanced) :
    machine.claims ledger.loads = ledger.pins + machine.callers.pins := by
  rw [Machine.claims, ← balanced]

theorem BetweenOperations.claim_cases (between : BetweenOperations rule ⟨ledger, machine⟩) {pin : Pin}
    (claim : pin ∈ machine.claims ledger.loads) :
    machine.Resident pin.space pin.addr pin.frame ∨ machine.Lingers ledger.loads pin := by
  have balanced : ledger.Balanced := between.balanced
  rw [balanced.claims] at claim
  exact between.toConsistent.claim_cases claim

/-- The page of a pin cannot leave its frame. -/
theorem BetweenOperations.fixes (between : BetweenOperations rule ⟨ledger, machine⟩) {pin : Pin}
    (claim : pin ∈ machine.claims ledger.loads)
    (resident : machine.Resident pin.space pin.addr pin.frame) : machine.Fixes rule pin := by
  have balanced : ledger.Balanced := between.balanced
  rw [balanced.claims] at claim
  have held : Held (ledger.keepers machine.callers) (ledger.pins + machine.callers.pins) machine.pool
    machine.placement := between.held
  obtain ⟨index, named, owned, _⟩ := held.claimed claim
  have inside := held.sound.within (by rw [owned]; rfl)
  have pinned : 0 < (machine.pool.entry index).pins := by
    rw [held.pins, ← named]
    exact Nat.add_pos_right _ (Held.count_claims_pos claim)
  obtain ⟨page, found, state⟩ := resident
  have sound : (machine.registry pin.space).Sound := between.sound pin.space
  have is_page := sound.isPage found
  refine ⟨fun {addr} base => ?_, fun evicted same => ?_, fun trusting => ?_⟩
  · rw [← base] at found ⊢
    exact Kernel.releasePage_pinned found state (FramePool.index_ok.2 ⟨named, inside⟩) pinned
  · have unpinned := Kernel.evict_unpinned between.sound evicted
    rw [FramePool.number_injective (named.symm.trans same), unpinned] at pinned
    exact Nat.lt_irrefl 0 pinned
  · have placed : machine.placement pin.space pin.addr = some (pin.frame, page.writable) :=
      Registry.placement_eq_some.2 ⟨page, found, state, rfl⟩
    have known : pin.space < machine.spaces.length := machine.space_present found
    have mapped : Mapped machine := between.mapped trusting
    have offset : pin.addr.pageOffset = 0 := beq_iff_eq.1 is_page.aligned
    have base := VirtualAddress.pageBase_of_isPage is_page.aligned
    rw [Machine.translate, Lawful.translate_eq (mapped.sane known) is_page.canonical, base,
      mapped.shows known is_page, Registry.expected]
    change Option.map _ (Option.map _ (machine.placement pin.space pin.addr)) = _
    rw [placed, offset]
    rfl

/-- As long as a space is not destroyed, what it has pinned does not begin to linger. -/
theorem BetweenOperations.stays (between : BetweenOperations rule ⟨ledger, machine⟩) (unlent : rule.Unlent)
    {owner : SpaceId} {later : List Load} {now : Machine}
    (leads : Leads (rule.sparing owner) ledger.loads machine later now) {pin : Pin}
    (claim : pin ∈ now.claims later) (own : pin.space = owner) (fresh : ¬machine.Lingers ledger.loads pin) :
    now.Resident pin.space pin.addr pin.frame ∧ now.Fixes (rule.sparing owner) pin := by
  have sparing : BetweenOperations (rule.sparing owner) ⟨ledger, machine⟩ := between.sparing owner
  obtain ⟨_, last, rfl, settled, base, old⟩ := Leads.keeps
    (fun moment => moment.machine.pool.base = machine.pool.base ∧ ∀ index,
      (moment.machine.pool.entry index).owner = some owner →
      (moment.machine.pool.entry index).released = true →
      (machine.pool.entry index).owner = some owner ∧ (machine.pool.entry index).released = true)
    (unlent.sparing owner).sensible sparing ⟨rfl, fun _ owned released => ⟨owned, released⟩⟩
    (fun lets move consistent _ ⟨base, old⟩ => by
      refine ⟨move.base.trans base, fun index owned released => ?_⟩
      obtain ⟨owned, released⟩ :=
        move.released_before consistent (fun _ => lets.spares) owned released
      exact old index owned released)
    (fun _ _ _ holds => holds) leads
  rcases settled.claim_cases claim with resident | lingers
  · exact ⟨resident, settled.fixes claim resident⟩
  · have index := congrArg (pin.frame.value - ·.value) base
    dsimp only at index
    obtain ⟨owned, released⟩ := old _ (own ▸ lingers.owned) lingers.released
    rw [index] at owned released
    exact absurd (between.toConsistent.lingers (own ▸ owned) released) fresh

omit [Lawful] in
/-- A frame is out of the ring for the sake of a pin, as long as the guard is held that the pin is in. -/
structure Machine.Retires (machine : Machine) (number : Nat) (guard : PinGuard) (pin : Pin) : Prop where
  known : number < machine.callers.guards.length
  retired : machine.callers.guards[number]? = some (some guard) →
    (machine.pool.entry (pin.frame.value - machine.pool.base.value)).owner = some pin.space ∧
      (machine.pool.entry (pin.frame.value - machine.pool.base.value)).released = true

/-- A frame stays out of the ring until the guard is given back. -/
theorem Move.retires {act : Act} {start stop : Moment} (move : Move act start stop)
    (consistent : Consistent start) {number : Nat} {guard : PinGuard} {pin : Pin}
    (member : pin ∈ guard.pins) (retires : start.machine.Retires number guard pin) :
    stop.machine.Retires number guard pin := by
  obtain ⟨known, same⟩ := move.guards retires.known
  refine ⟨known, fun there => ?_⟩
  rw [move.base]
  rcases same with same | gone
  · obtain ⟨owned, released⟩ := retires.retired (same.symm.trans there)
    cases move.entry consistent (pin.frame.value - start.machine.pool.base.value) with
    | stays owner_eq released_eq => exact ⟨owner_eq.trans owned, released_eq.trans released⟩
    | outlives _ before_owner owner_eq still =>
      exact ⟨owner_eq.trans (before_owner.symm.trans owned), still⟩
    | blank gone =>
      have claim : pin ∈ stop.ledger.pins + stop.machine.callers.pins :=
        Multiset.mem_add.2 (.inr (Callers.mem_pins there member))
      obtain ⟨index, named, claimed, _⟩ := (consistent.move move).held.claimed claim
      rw [named, ← move.base, FramePool.number_sub] at gone
      rw [gone] at claimed
      cases claimed
    | assigned free =>
      rw [free] at owned
      cases owned
  · cases there.symm.trans gone

/-- A frame that outlived its page is there for those who have it pinned. -/
theorem BetweenOperations.lingers (between : BetweenOperations rule ⟨ledger, machine⟩) (unlent : rule.Unlent)
    {later : List Load} {now : Machine} (leads : Leads rule ledger.loads machine later now)
    {number : Nat} {guard : PinGuard} (held : machine.callers.guards[number]? = some (some guard))
    (holds : now.callers.guards[number]? = some (some guard)) {pin : Pin} (member : pin ∈ guard.pins)
    (lingers : machine.Lingers ledger.loads pin) : now.Lingers later pin := by
  have retires : machine.Retires number guard pin :=
    ⟨(List.getElem?_eq_some_iff.1 held).1, fun _ => ⟨lingers.owned, lingers.released⟩⟩
  obtain ⟨_, last, rfl, settled, retires⟩ := Leads.keeps
    (fun moment => moment.machine.Retires number guard pin) unlent.sensible between retires
    (fun _ move consistent _ retires => move.retires consistent member retires)
    (fun _ guards _ retires => ⟨by dsimp only; rw [guards]; exact retires.known, by
      dsimp only
      rw [guards]
      exact retires.retired⟩) leads
  obtain ⟨owned, released⟩ := retires.retired holds
  exact settled.toConsistent.lingers owned released

omit [Lawful] in
/-- A frame that loses a pin stays with its owner or is free. -/
theorem Machine.entry_unpin (machine : Machine) (space : SpaceId) (frame : FrameNumber) (index : Nat) :
    (((machine.unpin space frame).pool.entry index).owner = (machine.pool.entry index).owner ∧
      ((machine.unpin space frame).pool.entry index).released =
        (machine.pool.entry index).released) ∨
      ((machine.unpin space frame).pool.entry index).owner = none := by
  unfold unpin
  dsimp only
  split
  · split
    · rw [FramePool.entry_giveBack]
      split
      · exact .inr rfl
      · exact .inl ⟨rfl, rfl⟩
    · exact .inl (FramePool.setPins_same _ _ _ _)
  · exact .inl (FramePool.setPins_same _ _ _ _)

omit [Lawful] in
@[simp] theorem Machine.callers_unpin (machine : Machine) (space : SpaceId) (frame : FrameNumber) :
    (machine.unpin space frame).callers = machine.callers := by
  unfold unpin
  dsimp only
  split
  · split <;> rfl
  · rfl

omit [Lawful] in
@[simp] theorem Machine.capacity_unpin (machine : Machine) (space : SpaceId) (frame : FrameNumber) :
    (machine.unpin space frame).pool.capacity = machine.pool.capacity := by
  unfold unpin
  dsimp only
  split
  · split <;> rfl
  · rfl

structure Machine.Unpinned (before after : Machine) : Prop where
  callers : after.callers = before.callers
  base : after.pool.base = before.pool.base
  capacity : after.pool.capacity = before.pool.capacity
  entry : ∀ index, ((after.pool.entry index).owner = (before.pool.entry index).owner ∧
      (after.pool.entry index).released = (before.pool.entry index).released) ∨
    (after.pool.entry index).owner = none

theorem Path.unpinned {last : Ledger} {now : Machine}
    (path : Path (· = .unpin) ⟨ledger, machine⟩ ⟨last, now⟩) : machine.Unpinned now := by
  refine path.keeps (fun moment => machine.Unpinned moment.machine)
    ⟨rfl, rfl, rfl, fun _ => .inl ⟨rfl, rfl⟩⟩ fun {act _ _} only move known => ?_
  subst only
  cases move with
  | @unpin flights pins before pin =>
    refine ⟨(before.callers_unpin ..).trans known.callers, Move.unpin.base.trans known.base,
      (before.capacity_unpin ..).trans known.capacity, fun index => ?_⟩
    rcases before.entry_unpin pin.space pin.frame index with ⟨owner, released⟩ | free
    · dsimp only
      rw [owner, released]
      exact known.entry index
    · exact .inr free

theorem Kernel.perform_unpin_ends {flights : List Flight} {pins : Multiset Pin} {number : Nat}
    {guard : PinGuard} (consistent : Consistent ⟨⟨flights, pins⟩, machine⟩)
    (held : machine.callers.guards[number]? = some (some guard)) (others : Interference) :
    ∃ next, perform others (.unpin number) machine = .ok .done next ∧
      Path (· = .unpin) ⟨⟨flights, guard.pins + pins⟩, { machine with callers := { machine.callers with
        guards := machine.callers.guards.set number none } }⟩ ⟨⟨flights, pins⟩, next⟩ := by
  obtain ⟨next, ended, path⟩ := dropGuard_ends (consistent.takeBack held)
  refine ⟨next, bind_ok.2 ⟨true, next, ?_, rfl⟩, path⟩
  refine bind_ok.2 ⟨machine, machine, get_ok.2 ⟨rfl, rfl⟩, ?_⟩
  rw [held]
  refine bind_ok.2 ⟨(), _, rfl, ?_⟩
  exact bind_ok.2 ⟨(), next, ended, rfl⟩

omit [Lawful] in
/-- When pins were dropped, a frame without a page lingers if it has others, and otherwise it is free. -/
theorem Machine.Unpinned.lingers {now : Machine} {flights : List Flight} {pins : Multiset Pin}
    (unpinned : machine.Unpinned now) (consistent : Consistent ⟨⟨flights, pins⟩, now⟩)
    (none : now.callers.frames = []) {pin : Pin} {index : Nat} (named : pin.frame = machine.pool.number index)
    (inside : index < machine.pool.capacity) (owned : (machine.pool.entry index).owner = some pin.space)
    (released : (machine.pool.entry index).released = true)
    (unloaded : pin.frame ∉ (Ledger.mk flights pins).loads.map (·.frame)) :
    if pin.frame ∈ (pins + now.callers.pins).map (·.frame) then now.Lingers (Ledger.mk flights pins).loads pin
    else now.pool.Spare (pin.frame.value - now.pool.base.value) := by
  have here : pin.frame = now.pool.number index := by
    rw [named, FramePool.number, FramePool.number, unpinned.base]
  have place : pin.frame.value - now.pool.base.value = index := by
    rw [here, FramePool.number_sub]
  have sound := consistent.held.sound
  have entry : ((now.pool.entry index).owner = some pin.space ∧ (now.pool.entry index).released = true) ∨
      (now.pool.entry index).owner = Option.none :=
    (unpinned.entry index).imp_left fun kept => ⟨kept.1.trans owned, kept.2.trans released⟩
  split
  · rename_i several
    obtain ⟨other, claim, same⟩ := Multiset.mem_map.1 several
    obtain ⟨there, known, claimed, _⟩ := consistent.held.claimed claim
    have : there = index := FramePool.number_injective (known.symm.trans (same.trans here))
    subst this
    obtain ⟨kept, lingering⟩ := entry.resolve_right fun free => by
      rw [free] at claimed
      cases claimed
    rw [← place] at kept lingering
    exact consistent.lingers kept lingering
  · rename_i last
    have unclaimed : (now.pool.entry index).pins = 0 := by
      rw [consistent.pins_counted none index, ← here, Multiset.count_eq_zero.2 last, if_neg unloaded]
    have free : (now.pool.entry index).owner = Option.none := entry.resolve_left fun kept =>
      Nat.ne_of_gt (sound.pinned kept.2) unclaimed
    rw [place]
    exact ⟨List.count_eq_one_of_mem sound.free_distinct
      (sound.free.2 ⟨Nat.lt_of_lt_of_eq inside unpinned.capacity.symm, free⟩), sound.blank free⟩

/-- A guard can be dropped. A frame without a page lingers if others have it pinned, and otherwise it
is free. -/
theorem BetweenOperations.dropped (between : BetweenOperations rule ⟨ledger, machine⟩)
    (none : machine.callers.frames = []) {number : Nat} {guard : PinGuard}
    (held : machine.callers.guards[number]? = some (some guard)) (others : Interference) :
    ∃ next, Kernel.perform others (.unpin number) machine = .ok .done next ∧
      machine.claims ledger.loads = guard.pins + next.claims ledger.loads ∧
      ∀ {pin}, pin ∈ guard.pins → machine.Lingers ledger.loads pin →
        if pin.frame ∈ (next.claims ledger.loads).map (·.frame) then next.Lingers ledger.loads pin
        else next.pool.Spare (pin.frame.value - next.pool.base.value) := by
  obtain ⟨flights, pins⟩ := ledger
  have balanced : (Ledger.mk flights pins).Balanced := between.balanced
  obtain ⟨next, performed, path⟩ := Kernel.perform_unpin_ends between.toConsistent held others
  have callers : next.callers =
      { machine.callers with guards := machine.callers.guards.set number Option.none } :=
    path.unpinned.callers
  have whole : machine.callers.pins = guard.pins + next.callers.pins := by
    rw [callers]
    exact Consistent.sum_set held
  refine ⟨next, performed, ?_, fun {pin} member lingers => ?_⟩
  · rw [Machine.claims, Machine.claims, whole, ← Multiset.add_assoc, ← Multiset.add_assoc,
      Multiset.add_comm guard.pins]
  obtain ⟨index, named, _⟩ := between.held.claimed
    (Multiset.mem_add.2 (.inr (Callers.mem_pins held member)))
  have place : pin.frame.value - machine.pool.base.value = index := by
    rw [named, FramePool.number_sub]
  have owned := lingers.owned
  have released := lingers.released
  rw [place] at owned released
  rw [balanced.claims]
  exact path.unpinned.lingers ((between.toConsistent.takeBack held).path path) (by rw [callers]; exact none)
    named (between.held.sound.within (by rw [owned]; rfl)) owned released lingers.unloaded

/-- In every machine that a run can be at, pins are counted, and what is pinned stays where it is. -/
theorem Reached.pins_kept {loads : List Load} (unlent : rule.Unlent)
    (reached : Reached rule loads machine) : machine.PinsKept rule loads := by
  obtain ⟨ledger, rfl, between, none, marked⟩ := Reached.keeps
    (fun now => now.machine.callers.frames = [] ∧ now.machine.Marked) unlent.sensible
    (fun booted => by
      obtain ⟨_, _, _, _, rfl⟩ := Machine.boot_ok booted
      exact ⟨rfl, ⟨fun found => absurd (Machine.space_present _ found) (Nat.not_lt_zero _)⟩⟩)
    (fun lets move consistent _ known =>
      ⟨(move.frames (lets.not_lending unlent.unlent)).trans known.1, known.2.move move consistent⟩)
    (fun _ _ frames known =>
      ⟨frames.trans known.1, known.2.repool (fun _ => rfl) rfl fun _ _ => .rfl⟩)
    reached
  have balanced : ledger.Balanced := between.balanced
  exact {
    counted := fun index => by
      rw [balanced.claims]
      exact between.toConsistent.pins_counted none index
    marked
    placed := between.claim_cases
    stays := fun leads _ => between.stays unlent leads
    lingers := fun leads _ _ held holds _ => between.lingers unlent leads held holds
    dropped := fun held => between.dropped none held }

end

section
attribute [local instance] Architecture.small

def pinnedAndGone : Machine :=
  [.createSpace none ⟨0, []⟩, .registerZero 0 0x1000 1 true, .pin 0 0x1000 1 .read,
    .pin 0 0x1008 4 .write, .destroy 0].foldl Machine.undisturbed twoFrames

theorem pins_kept_destroyed : Rule.offered.Unlent ∧ Reached .offered [] pinnedAndGone ∧
    pinnedAndGone.PinsKept .offered [] ∧ (pinnedAndGone.pool.entry 0).pins = 2 ∧
    (pinnedAndGone.pool.entry 0).released = true := by
  have reached : Reached .offered [] pinnedAndGone := twoFrames_reached.carried id (by decide +kernel)
  exact ⟨Rule.unlent_offered, reached, reached.pins_kept Rule.unlent_offered, by decide +kernel,
    by decide +kernel⟩

end

end DemandPaging
