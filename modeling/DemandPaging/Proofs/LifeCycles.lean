import DemandPaging.Proofs.Bijection
import DemandPaging.Proofs.Lives

/-! The life cycle of pages along whole runs, whatever operations run and however they are interrupted:
from one point of a run to a later one, a page that stays registered takes the steps of its life and no
others. In particular, a page that was in swap once is never dropped for its file again. -/
namespace DemandPaging
open Architecture (Lawful)

section
variable [Architecture]

/-- All operations, as long as no address is registered again while the page that was there is being
loaded. Callers do not map pages or touch dirty bits themselves. -/
def Rule.lifecycle : Rule := fun loads machine op after =>
  op.Regular machine.spaces.length machine.files.length ∧ op.rightful machine = true ∧
    op.meddles = false ∧ op.soils = false ∧
    ∀ load ∈ loads, ¬op.Registers loads machine after load.space load.page.addr

/-- The operations of a rule that do not unregister the page at an address of a space. -/
def Rule.keeping (rule : Rule) (space : SpaceId) (addr : VirtualAddress) : Rule :=
  fun loads machine op after => rule loads machine op after ∧ ¬op.Takes machine space addr

/-- From one point of a run under a rule to a later one, so that the page at an address of a space is
not unregistered on the way. With the points come the loads that are under way there. -/
inductive Onward (rule : Rule) (space : SpaceId) (addr : VirtualAddress) :
    List Load → Machine → List Load → Machine → Prop
  | leads {floor start loads machine} (reached : Reached rule floor start)
      (leads : Leads (rule.keeping space addr) floor start loads machine) :
      Onward rule space addr floor start loads machine
  /-- An operation comes to its end after other parties had their turn. -/
  | resume {loads machine op others hook point resumed reply next} (reached : Reached rule loads machine)
      (entered : rule.keeping space addr loads machine op point)
      (allowed : rule.keeping space addr loads machine op next)
      (orderly : others.Orderly (rule.keeping space addr) loads machine)
      (reenters : Reenters (Kernel.perform · op) others machine hook point)
      (turned : others.turn hook point = .ok () resumed)
      (ran : Kernel.perform others op machine = .ok reply next) :
      Onward rule space addr (hook.load?.toList ++ loads) resumed loads next
  | trans {first a second b third c} (onward : Onward rule space addr first a second b)
      (further : Onward rule space addr second b third c) : Onward rule space addr first a third c

theorem Rule.lifecycle_idle {machine after : Machine} {op : Op}
    (fine : machine.Offers op ∧ op.soils = false) : Rule.lifecycle [] machine op after := by
  have offered : Rule.offered [] machine op after := fine.1
  exact ⟨offered.1, Rule.sensible_offered.rightful offered, offered.2.2, fine.2,
    fun _ member => absurd member List.not_mem_nil⟩

/-- What the life of a page depends on: callers keep their hands off page directories, and no address is
registered again while the page that was there is being loaded. -/
structure Rule.Gentle (rule : Rule) : Prop where
  sensible : rule.Sensible
  trusting : rule.Trusting
  spotless : rule.Spotless
  unrepeated : rule.Unrepeated

theorem Rule.gentle_lifecycle : Rule.lifecycle.Gentle where
  sensible := ⟨fun allowed => allowed.1, fun allowed => allowed.2.1⟩
  trusting allowed := allowed.2.2.1
  spotless allowed := allowed.2.2.2.1
  unrepeated allowed := allowed.2.2.2.2

theorem Rule.Gentle.keeping {rule : Rule} (gentle : rule.Gentle) (space : SpaceId)
    (addr : VirtualAddress) : (rule.keeping space addr).Gentle where
  sensible := ⟨fun allowed => gentle.sensible.regular allowed.1,
    fun allowed => gentle.sensible.rightful allowed.1⟩
  trusting allowed := gentle.trusting allowed.1
  spotless allowed := gentle.spotless allowed.1
  unrepeated allowed := gentle.unrepeated allowed.1

variable [Lawful]

/-- What is known at each point of a run, besides `BetweenOperations`. -/
structure Cycling (now : Moment) : Prop where
  mapped : Mapped now.machine
  traced : Traced now
  classified : now.machine.Classified

variable {rule : Rule} {floor : List Load} {act : Act} {start stop : Moment} {space : SpaceId}
  {addr : VirtualAddress}

theorem Rule.Gentle.untouched (gentle : rule.Gentle) (lets : rule.Lets floor act) :
    act ≠ .meddle ∧ act ≠ .stray :=
  ⟨lets.not_meddle gentle.trusting, lets.not_stray gentle.trusting gentle.spotless⟩

theorem Cycling.move (cycling : Cycling start) (move : Move act start stop)
    (consistent : Consistent start) (gentle : rule.Gentle) (lets : rule.Lets floor act) :
    Cycling stop where
  mapped := cycling.mapped.move move consistent (gentle.untouched lets).1
  traced := cycling.traced.move move consistent gentle.unrepeated lets
  classified := Machine.Classified.move cycling.classified move consistent cycling.traced

theorem Rule.Lets.keeps (lets : (rule.keeping space addr).Lets floor act) :
    ¬(act = .drop space addr ∨ act = .expel space addr) := by
  intro either
  cases lets with
  | op above allowed does => exact allowed.2 (does.2 either)
  | quiet | settle | grow | stray => rcases either with same | same <;> cases same

def Cycling.Since (space : SpaceId) (addr : VirtualAddress) (old : PageLife) (now : Moment) : Prop :=
  Cycling now ∧ ∃ new, now.machine.life? space addr = some new ∧
    Relation.ReflTransGen PageLife.Step old new

theorem Cycling.Since.move {old : PageLife} (since : Cycling.Since space addr old start)
    (move : Move act start stop) (consistent : Consistent start) (gentle : rule.Gentle)
    (lets : (rule.keeping space addr).Lets floor act) : Cycling.Since space addr old stop := by
  obtain ⟨cycling, mid, found, steps⟩ := since
  have keeping := gentle.keeping space addr
  obtain ⟨new, now, further⟩ := move.lives consistent cycling.mapped cycling.traced cycling.classified
    (keeping.untouched lets) lets.keeps found
  exact ⟨cycling.move move consistent keeping lets, new, now, steps.trans further⟩

theorem Cycling.note {ledger : Ledger} {machine : Machine} {log : List Event} {callers : Callers}
    (cycling : Cycling ⟨ledger, machine⟩) : Cycling ⟨ledger, { machine with log, callers }⟩ :=
  ⟨cycling.mapped.of_tables rfl rfl, cycling.traced, cycling.classified⟩

theorem Reached.cycling {loads : List Load} {machine : Machine} (gentle : rule.Gentle)
    (reached : Reached rule loads machine) :
    ∃ ledger, ledger.loads = loads ∧ BetweenOperations rule ⟨ledger, machine⟩ ∧ Cycling ⟨ledger, machine⟩ := by
  refine Reached.keeps Cycling gentle.sensible (fun booted => ?_)
    (fun lets move consistent _ cycling => cycling.move move consistent gentle lets)
    (fun _ _ _ cycling => cycling.note) reached
  have between : BetweenOperations rule ⟨{}, _⟩ := Machine.boot_betweenOperations booted
  refine ⟨between.mapped gentle.trusting, fun _ member => absurd member List.not_mem_nil, ?_⟩
  obtain ⟨_, _, _, _, rfl⟩ := Machine.boot_ok booted
  intro space addr life found
  exact absurd (Machine.space_present _ (Machine.life?_eq_some.1 found).1) (Nat.not_lt_zero _)

theorem BetweenOperations.keeping {now : Moment} (between : BetweenOperations rule now) (gentle : rule.Gentle) :
    BetweenOperations (rule.keeping space addr) now :=
  ⟨between.toConsistent, between.balanced, between.sectors, fun _ => between.mapped gentle.trusting⟩

/-- From one point of a run to a later one, a page that stays registered takes steps of its life. -/
theorem Onward.steps {first second : List Load} {machine now : Machine} (gentle : rule.Gentle)
    (onward : Onward rule space addr first machine second now) {old : PageLife}
    (found : machine.life? space addr = some old) :
    old.Bare ∧ ∃ new, now.life? space addr = some new ∧ Relation.ReflTransGen PageLife.Step old new := by
  have keeping := gentle.keeping space addr
  induction onward generalizing old with
  | @leads floor start loads machine reached leads =>
    obtain ⟨ledger, rfl, between, cycling⟩ := reached.cycling gentle
    have since : Cycling.Since space addr old ⟨ledger, start⟩ := ⟨cycling, old, found, .refl⟩
    have kept : BetweenOperations (rule.keeping space addr) ⟨ledger, start⟩ := between.keeping gentle
    obtain ⟨_, last, rfl, _, _, life⟩ := Leads.keeps (Cycling.Since space addr old) keeping.sensible
      kept since (fun lets move consistent _ since => since.move move consistent gentle lets)
      (fun _ _ _ since => ⟨since.1.note, since.2⟩) leads
    exact ⟨cycling.classified found, life⟩
  | @resume loads machine op others hook point resumed reply next reached entered allowed orderly
      reenters turned ran =>
    obtain ⟨ledger, rfl, between, cycling⟩ := reached.cycling gentle
    have kept : BetweenOperations (rule.keeping space addr) ⟨ledger, machine⟩ := between.keeping gentle
    have moves : others.Moves (rule.keeping space addr) ⟨ledger, machine⟩ :=
      orderly.moves keeping.sensible
    obtain ⟨last, _, there, before, turn, after⟩ :=
      moves.resumes keeping.sensible kept entered allowed reenters turned ran
    have along : ∀ {floor : List Load} {a b : Moment}, Path ((rule.keeping space addr).Lets floor) a b →
        Consistent a → 0 < a.machine.swap.disk.sectorSize → Cycling a → Cycling b :=
      fun path consistent sectors => consistent.along path sectors
        fun lets move consistent _ cycling => cycling.move move consistent keeping lets
    have entered := along before kept.toConsistent kept.sectors cycling
    have resumed := along turn there.toConsistent there.sectors entered
    have there := there.path turn
    obtain ⟨_, life⟩ := there.toConsistent.along after there.sectors
      (fun lets move consistent _ since => since.move move consistent gentle lets)
      (show Cycling.Since space addr old ⟨last, _⟩ from ⟨resumed, old, found, .refl⟩)
    exact ⟨resumed.classified found, life⟩
  | trans _ _ earlier later =>
    obtain ⟨bare, mid, found, steps⟩ := earlier found
    obtain ⟨_, new, now, further⟩ := later found
    exact ⟨bare, new, now, steps.trans further⟩

/-- Wherever a run goes, a page that stays registered goes through its life cycle. -/
theorem Onward.life_cycle {first second : List Load} {machine now : Machine}
    (onward : Onward .lifecycle space addr first machine second now) {old : PageLife}
    (found : machine.life? space addr = some old) :
    ∃ new, now.life? space addr = some new ∧ old.Cycle new := by
  obtain ⟨bare, new, now, steps⟩ := onward.steps Rule.gentle_lifecycle found
  exact ⟨new, now, .of_steps steps bare⟩

end

section
attribute [local instance] Architecture.small

/-- A page of a file was written to and had to make room for two other pages. -/
def fileSwapped : Machine :=
  [.createSpace none ⟨0, []⟩, .openFile (List.replicate 16 7) .working,
    .registerSegment 0 0 0 0x1000 16 0 true, .registerZero 0 0x2000 2 true, .poke 0 0x1000 1,
    .poke 0 0x2000 2, .poke 0 0x2010 3].foldl Machine.undisturbed twoFrames

def swappedFilePage : Page where
  addr := ⟨0x1000⟩
  backing := .file ⟨0, 0, 16⟩
  writable := true
  state := .swapped ⟨0⟩
  generation := 2

/-- The page is read again, and will go to swap again, although it was not written to since. -/
theorem life_cycle_readAgain :
    Onward .lifecycle 0 ⟨0x1000⟩ [] fileSwapped [] (fileSwapped.undisturbed (.peek 0 0x1000)) ∧
    fileSwapped.life? 0 ⟨0x1000⟩ = some ⟨swappedFilePage, false⟩ ∧
    ∃ new, (fileSwapped.undisturbed (.peek 0 0x1000)).life? 0 ⟨0x1000⟩ = some new ∧
      PageLife.Cycle ⟨swappedFilePage, false⟩ new ∧ new.page.state = .resident ⟨5⟩ ∧ new.dirty = true := by
  have reached : Reached .lifecycle [] fileSwapped :=
    twoFrames_reached.carried Rule.lifecycle_idle (by decide +kernel)
  obtain ⟨_, ran⟩ : ∃ reply, Kernel.perform .none (.peek 0 0x1000) fileSwapped =
      .ok reply (fileSwapped.undisturbed (.peek 0 0x1000)) :=
    Kernel.ok_of_endsWell (by decide +kernel)
  have onward : Onward .lifecycle 0 ⟨0x1000⟩ [] fileSwapped []
      (fileSwapped.undisturbed (.peek 0 0x1000)) :=
    .leads reached (.run .start ⟨Rule.lifecycle_idle (by decide +kernel), id⟩
      (Interference.orderly_none _ _ _) ran)
  have found : fileSwapped.life? 0 ⟨0x1000⟩ = some ⟨swappedFilePage, false⟩ := by decide +kernel
  obtain ⟨new, now, cycle⟩ := onward.life_cycle found
  refine ⟨onward, found, new, now, cycle, ?_⟩
  have here : (fileSwapped.undisturbed (.peek 0 0x1000)).life? 0 ⟨0x1000⟩ = some ⟨{ swappedFilePage with
      state := .resident ⟨5⟩, generation := 3 }, true⟩ := by decide +kernel
  rw [here] at now
  cases now
  exact ⟨rfl, rfl⟩

end

end DemandPaging
