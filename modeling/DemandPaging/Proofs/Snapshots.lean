import DemandPaging.Proofs.Footprints
import DemandPaging.Proofs.Runs

/-! Loads under way know their page as it was when they began. As long as no address is registered
again while a load of the page that was there is under way, the page at that address is the one that
the load knows, or a later state of it: equal generations mean equal pages. -/
namespace DemandPaging
open Architecture (Lawful)

section
variable [Architecture]

/-- What is registered at the addresses of the loads under way is what they began with, or what has
become of it. -/
def Traced (now : Moment) : Prop :=
  ∀ load ∈ now.ledger.loads, ∀ page,
    (now.machine.registry load.space).pages.get? load.page.addr = some page →
      load.page.generation ≤ page.generation ∧
        (page.generation = load.page.generation → page = load.page)

theorem Traced.current {now : Moment} {load : Load} {page : Page} (traced : Traced now)
    (member : load ∈ now.ledger.loads)
    (current : (now.machine.registry load.space).current? load.page = some page) :
    (now.machine.registry load.space).pages.get? load.page.addr = some load.page ∧
      page = load.page := by
  obtain ⟨found, same⟩ := Consistent.current?_eq_some current
  have equal := (traced load member page found).2 same
  rw [equal] at found
  exact ⟨found, equal⟩

/-- A load is stale just if its page is not there any more as it was. -/
theorem Traced.isStale_iff {now : Moment} {load : Load} (traced : Traced now)
    (member : load ∈ now.ledger.loads) :
    (now.machine.registry load.space).isStale load.page = true ↔
      (now.machine.registry load.space).pages.get? load.page.addr ≠ some load.page := by
  rw [Registry.isStale, Option.isNone_iff_eq_none]
  constructor
  · intro none there
    have current : (now.machine.registry load.space).current? load.page = some load.page :=
      Option.filter_eq_some_iff.2 ⟨there, beq_self_eq_true _⟩
    rw [none] at current
    cases current
  · intro changed
    cases current : (now.machine.registry load.space).current? load.page with
    | none => rfl
    | some page => exact absurd (traced.current member current).1 changed

def Op.Registers (op : Op) (loads : List Load) (machine after : Machine) (space : SpaceId)
    (addr : VirtualAddress) : Prop :=
  op.Acts loads machine (.register loads space addr) ∨
    Log.Tells machine.log after.log (.stackGrown space addr)

/-- No address is registered again while a load of the page that was there is under way. -/
def Rule.Unrepeated (rule : Rule) : Prop :=
  ∀ {loads machine op after}, rule loads machine op after →
    ∀ load ∈ loads, ¬op.Registers loads machine after load.space load.page.addr

/-- The loads that are under way while an operation registers a page. -/
theorem Op.Acts.registers {op : Op} {loads others : List Load} {machine : Machine} {space : SpaceId}
    {addr : VirtualAddress} (acts : op.Acts loads machine (.register others space addr)) :
    others = loads := by
  unfold Op.Acts at acts
  split at acts
  all_goals grind [Act.Registers]

theorem Op.Acts.not_grow {op : Op} {loads others : List Load} {machine : Machine} {space : SpaceId}
    {addr : VirtualAddress} : ¬op.Acts loads machine (.grow others space addr) := by
  intro acts
  unfold Op.Acts at acts
  split at acts
  all_goals simp [Act.Registers] at acts

variable [Lawful]

/-- A load that is under way after a move was so before, or has just begun. -/
theorem Move.loads {act : Act} {start stop : Moment} (move : Move act start stop) {load : Load}
    (member : load ∈ stop.ledger.loads) : load ∈ start.ledger.loads ∨
      (stop.machine.registry load.space).pages.get? load.page.addr = some load.page := by
  cases move with
  | take present current =>
    rcases List.mem_cons.1 member with rfl | earlier
    · exact .inr current
    · exact .inl earlier
  | attach | abandon => exact .inl (List.mem_cons_of_mem _ member)
  | _ => exact .inl member

variable {rule : Rule} {floor : List Load} {act : Act} {start stop : Moment}

/-- Under such a rule no page appears at the address of a load. -/
theorem Rule.Unrepeated.apart (unrepeated : rule.Unrepeated) (lets : rule.Lets floor act) {load : Load}
    (member : load ∈ start.ledger.loads) :
    act ≠ .register start.ledger.loads load.space load.page.addr ∧
      act ≠ .grow start.ledger.loads load.space load.page.addr := by
  constructor
  · rintro rfl
    cases lets with
    | op above allowed does =>
      cases does.1.registers
      exact unrepeated allowed load member (.inl does.1)
  · rintro rfl
    cases lets with
    | op above allowed does => exact does.1.not_grow
    | grow above allowed told => exact unrepeated allowed load member (.inr told)

/-- Loads stay traced by a move that registers no page at the address of one of them. -/
theorem Traced.step (traced : Traced start) (move : Move act start stop) (consistent : Consistent start)
    (apart : ∀ load ∈ start.ledger.loads,
      act ≠ .register start.ledger.loads load.space load.page.addr ∧
        act ≠ .grow start.ledger.loads load.space load.page.addr) : Traced stop := by
  intro load member page found
  rcases move.loads member with earlier | current
  · have becomes := move.becomes consistent load.space load.page.addr
    rw [found] at becomes
    generalize before : (start.machine.registry load.space).pages.get? load.page.addr = old at becomes
    cases becomes with
    | @turns old _ turns =>
      obtain ⟨later, fresh⟩ := traced load earlier old before
      obtain ⟨grows, stays⟩ := turns.generation
      refine ⟨Nat.le_trans later grows, fun same => ?_⟩
      have settled : old.generation = load.page.generation :=
        Nat.le_antisymm (Nat.le_trans grows (Nat.le_of_eq same)) later
      cases fresh settled
      have fair := consistent.fair load earlier
      exact stays fair.away fair.classified same
    | enters way =>
      obtain ⟨unregistered, ungrown⟩ := apart load earlier
      rcases way with registers | ⟨grows, _⟩
      · exact absurd registers unregistered
      · exact absurd grows ungrown
  · rw [found] at current
    cases current
    exact ⟨Nat.le_refl _, fun _ => rfl⟩

theorem Traced.move (traced : Traced start) (move : Move act start stop) (consistent : Consistent start)
    (unrepeated : rule.Unrepeated) (lets : rule.Lets floor act) : Traced stop :=
  traced.step move consistent fun _ member => unrepeated.apart lets member

end

end DemandPaging
