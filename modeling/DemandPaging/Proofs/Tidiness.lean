import DemandPaging.Proofs.Lives
import DemandPaging.Proofs.Safety
import DemandPaging.Proofs.SlotOwners

/-! Runs in which page directories and slots are left to the memory manager and no load is given up for a
later page at its address. What is known of their machines is kept by each move. -/
namespace DemandPaging
open Architecture (Lawful)

variable [Architecture] [Lawful] {act : Act} {start stop : Moment} {space : SpaceId}

/-- What is known at each point of a run in which callers leave page directories and slots alone, and no
address is registered again while the page that was there is being loaded. -/
structure LeftToManager (now : Moment) : Prop extends Consistent now where
  sectors : 0 < now.machine.swap.disk.sectorSize
  placed : now.machine.swap.OnDisk
  mapped : Mapped now.machine
  traced : Traced now
  classified : now.machine.Classified
  owned : Owned now.machine

theorem LeftToManager.move (trusted : LeftToManager start) (move : Move act start stop)
    (unmeddled : act ≠ .meddle)
    (untampered : act ≠ .tamper) (apart : ∀ load ∈ start.ledger.loads,
      act ≠ .register start.ledger.loads load.space load.page.addr ∧
        act ≠ .grow start.ledger.loads load.space load.page.addr) : LeftToManager stop where
  toConsistent := trusted.toConsistent.move move
  sectors := Nat.lt_of_lt_of_eq trusted.sectors move.sectorSize.symm
  placed := trusted.placed.of_shape move.sizes.2.2
  mapped := trusted.mapped.move move trusted.toConsistent unmeddled
  traced := trusted.traced.step move trusted.toConsistent apart
  classified := Machine.Classified.move trusted.classified move trusted.toConsistent trusted.traced
  owned := trusted.owned.stows (move.stows untampered trusted.toConsistent trusted.traced trusted.sectors)

def Scope.answering (spaces : Nat) : Scope where
  may act := act = .quiet ∨ act = .settle [] ∨ ∃ space addr, act = .grow [] space addr
  spaces
  files := 0
  trusting := True
  quiet := .inl rfl
  trusts _ := by rintro (same | same | ⟨_, _, same⟩) <;> cases same
  kept := LeftToManager
  keeps may move trusted := by
    refine trusted.move move ?_ ?_ fun load member => ?_
    · rintro rfl
      rcases may with same | same | ⟨_, _, same⟩ <;> cases same
    · rintro rfl
      rcases may with same | same | ⟨_, _, same⟩ <;> cases same
    · rcases may with rfl | rfl | ⟨_, _, rfl⟩
      · exact ⟨nofun, nofun⟩
      · exact ⟨nofun, nofun⟩
      · refine ⟨nofun, fun same => ?_⟩
        injection same with idle
        rw [← idle] at member
        cases member
  after _ := False
  onward _ _ := id

theorem Scope.tame_answering (spaces : Nat) : Tame (.answering spaces) [] .none .none where
  patience := rfl
  grow _ _ := .inr (.inr ⟨_, _, rfl⟩)
  settle := .inr (.inl rfl)
  file _ _ _ := .ret rfl
  sector _ _ := .ret rfl

theorem LeftToManager.ready (trusted : LeftToManager start) :
    (Scope.answering start.machine.spaces.length).Ready start where
  toConsistent := trusted.toConsistent
  known := Nat.le_refl _
  opened := Nat.zero_le _
  sectors := trusted.sectors
  mapped _ := trusted.mapped
  kept := trusted

theorem LeftToManager.unmapped (trusted : LeftToManager start) {page : Page}
    (found : (start.machine.registry space).pages.get? page.addr = some page)
    (away : page.isResident = false) :
    Architecture.mapping (start.machine.directory space) page.addr = none := by
  have present := start.machine.space_present found
  have sound : (start.machine.registry space).Sound := trusted.sound space
  have is_page := sound.isPage found
  rw [trusted.mapped.shows present is_page, Registry.expected, Registry.placement_of_page found]
  unfold Page.isResident at away
  rw [Option.isSome_eq_false_iff, Option.isNone_iff_eq_none] at away
  rw [away]
  rfl

/-- All operations of the memory manager, as long as no address is registered again while the page that
was there is being loaded. Callers leave page directories and the slots of the swap store alone. -/
def Rule.careful : Rule := fun loads machine op after =>
  Rule.unrepeated loads machine op after ∧ op.meddles = false

omit [Lawful] in
theorem Rule.sensible_careful : Rule.careful.Sensible where
  regular allowed := allowed.1.1
  rightful allowed := allowed.1.2.1

omit [Lawful] in
/-- Between operations it is enough that callers leave directories and slots alone. -/
theorem Rule.careful_idle {machine after : Machine} {op : Op}
    (fine : machine.Offers op ∧ op.tampers = false) : Rule.careful [] machine op after :=
  ⟨Rule.unrepeated_idle fine, fine.1.2.2⟩

theorem Reached.leftToManager {machine : Machine} (reached : Reached .careful [] machine) :
    LeftToManager ⟨{}, machine⟩ := by
  have unrepeated : Rule.careful.Unrepeated := fun allowed => allowed.1.2.2.2
  have trusting : Rule.careful.Trusting := fun allowed => allowed.2
  obtain ⟨ledger, none, between, placed, traced, classified, owned⟩ := Reached.keeps
    (fun now => now.machine.swap.OnDisk ∧ Traced now ∧ now.machine.Classified ∧ Owned now.machine)
    Rule.sensible_careful
    (fun booted => by
      obtain ⟨_, _, opened, _, rfl⟩ := Machine.boot_ok booted
      refine ⟨SwapStore.onDisk_ofDisk opened, fun _ member => absurd member List.not_mem_nil, ?_,
        .opened opened rfl⟩
      intro space addr life found
      exact absurd (Machine.space_present _ (Machine.life?_eq_some.1 found).1) (Nat.not_lt_zero _))
    (fun lets move consistent sectors ⟨placed, traced, classified, owned⟩ => by
      have untampered := lets.not_tamper fun allowed => allowed.1.2.2.1
      exact ⟨placed.of_shape move.sizes.2.2, traced.move move consistent unrepeated lets,
        classified.move move consistent traced, owned.stows (move.stows untampered consistent traced sectors)⟩)
    (fun _ _ _ ⟨placed, traced, classified, owned⟩ =>
      ⟨placed, traced, classified, owned.occupied, owned.single⟩) reached
  obtain rfl : ledger = {} := between.balanced.empty none
  exact { between.toConsistent with
    sectors := between.sectors, mapped := between.mapped trusting, placed, traced, classified, owned }

end DemandPaging
