import DemandPaging.Proofs.Runs
import DemandPaging.Proofs.ThreeLevelLaws

/-! Frames and resident pages are in bijection, whatever operations run and however they are
interrupted: at every moment between operations, and wherever a load gives other parties their turn. -/
namespace DemandPaging
open Architecture (Lawful)

section
variable [Architecture]

def Machine.Resident (machine : Machine) (space : SpaceId) (addr : VirtualAddress)
    (frame : FrameNumber) : Prop :=
  ∃ page, (machine.registry space).pages.get? addr = some page ∧ page.state = .resident frame

/-- Frames of the ring that no load waits for, and resident pages, are the same thing. The registries
of the spaces, the entries of the pool and the page directories all say so. -/
structure Machine.Paired (machine : Machine) (loads : List Load) : Prop where
  ring : machine.pool.clock.Nodup
  frames : ∀ frame, (∃ index ∈ machine.pool.clock, frame = machine.pool.number index) ∧
      frame ∉ loads.map (·.frame) ↔ ∃ space addr, machine.Resident space addr frame
  single : ∀ {s t a b frame}, machine.Resident s a frame → machine.Resident t b frame → s = t ∧ a = b
  owner : ∀ {space addr frame}, machine.Resident space addr frame →
    (machine.pool.entry (frame.value - machine.pool.base.value)).owner = some space
  index : ∀ space frame addr,
    (machine.registry space).holders.get? frame = some addr ↔ machine.Resident space addr frame
  keyed : ∀ {space addr page}, (machine.registry space).pages.get? addr = some page →
    page.addr = addr ∧ addr.isPageAligned = true ∧ addr.isUser = true
  shows : ∀ {space} {addr : VirtualAddress} {kind}, space < machine.spaces.length →
    Canonical addr.value → (Architecture.access (machine.directory space) addr kind).1 =
      Architecture.verdict addr kind ((machine.registry space).expected addr.pageBase)
  translates : ∀ {space} {addr : VirtualAddress}, space < machine.spaces.length →
    Canonical addr.value → machine.translate space addr =
      ((machine.registry space).placement addr.pageBase).map fun (frame, _) =>
        ⟨frame.value * pageSize + addr.pageOffset⟩

theorem Machine.resident_iff {machine : Machine} {space : SpaceId} {addr : VirtualAddress}
    {frame : FrameNumber} :
    machine.Resident space addr frame ↔
      ∃ writable, machine.placement space addr = some (frame, writable) := by
  constructor
  · rintro ⟨page, found, state⟩
    exact ⟨page.writable, Registry.placement_eq_some.2 ⟨page, found, state, rfl⟩⟩
  · rintro ⟨writable, placed⟩
    obtain ⟨page, found, state, _⟩ := Registry.placement_eq_some.1 placed
    exact ⟨page, found, state⟩

variable [Lawful]

/-- All that is said of frames and pages holds of a consistent machine whose callers have no frames of
their own. -/
theorem Consistent.pairs {now : Moment} (consistent : Consistent now) (mapped : Mapped now.machine)
    (none : now.machine.callers.frames = []) : now.machine.Paired now.ledger.loads where
  ring := consistent.held.sound.distinct
  frames frame := by
    have kept : ∀ {space}, (space, frame) ∈ now.ledger.keepers now.machine.callers ↔
        ∃ load ∈ now.ledger.loads, load.keeper = (space, frame) := by
      intro space
      rw [Ledger.keepers, none, List.append_nil, Multiset.mem_coe, List.mem_map]
    constructor
    · rintro ⟨⟨index, inside, rfl⟩, unloaded⟩
      obtain ⟨space, owned⟩ := Option.isSome_iff_exists.1 (consistent.held.sound.ring.1 inside).1
      rcases consistent.held.ring ⟨index, inside, rfl, owned⟩ with keeper | ⟨addr, placed⟩
      · obtain ⟨load, member, same⟩ := kept.1 keeper
        exact absurd (List.mem_map.2 ⟨load, member, congrArg Prod.snd same⟩) unloaded
      · exact ⟨space, addr, Machine.resident_iff.2 placed⟩
    · rintro ⟨space, addr, resident⟩
      obtain ⟨writable, placed⟩ := Machine.resident_iff.1 resident
      obtain ⟨index, inside, named, _⟩ := consistent.held.placed placed
      refine ⟨⟨index, inside, named⟩, fun loading => ?_⟩
      obtain ⟨load, member, same⟩ := List.mem_map.1 loading
      exact consistent.held.apart (Ledger.mem_keepers member) placed same.symm
  single left right := by
    obtain ⟨_, left⟩ := Machine.resident_iff.1 left
    obtain ⟨_, right⟩ := Machine.resident_iff.1 right
    exact consistent.held.page_unique left right
  owner resident := by
    obtain ⟨_, placed⟩ := Machine.resident_iff.1 resident
    exact (consistent.held.placed placed).index.2.2
  index space frame addr := (consistent.sound space).holders.trans Machine.resident_iff.symm
  keyed {space} _ _ found :=
    let sound := consistent.sound space
    ⟨sound.keyed found, sound.aligned found, sound.user found⟩
  shows known canonical := by
    rw [Lawful.access_result (mapped.sane known) canonical,
      mapped.shows known (VirtualAddress.isPage_pageBase canonical)]
  translates known canonical := by
    rw [Machine.translate, Lawful.translate_eq (mapped.sane known) canonical,
      mapped.shows known (VirtualAddress.isPage_pageBase canonical), Registry.expected,
      Option.map_map]
    rfl

/-- Callers obtain frames and give them back by moves of their own. -/
theorem Move.frames {act : Act} {start stop : Moment} (move : Move act start stop)
    (lending : act ≠ .lend ∧ act ≠ .recover) :
    stop.machine.callers.frames = start.machine.callers.frames := by
  cases move with
  | idle idle => exact idle.frames
  | scribble scribbled | stray scribbled => exact scribbled.frames
  | tamper aside => exact aside.frames
  | store owned written idle => exact idle.frames
  | drop | expel =>
    change (Machine.vacate _ _ _).callers.frames = _
    unfold Machine.vacate
    split <;> rfl
  | unpin =>
    unfold Machine.unpin
    dsimp only
    split
    · split <;> rfl
    · rfl
  | lend => exact absurd rfl lending.1
  | recover | refuse => exact absurd rfl lending.2
  | misfree | meddle | share | register | grow | classify | evict | take | fill | attach | abandon | pin | handOut
  | takeBack | create => rfl

/-- A rule under which callers obtain no frames. -/
theorem Rule.Lets.not_lending {rule : Rule} {floor : List Load} {act : Act}
    (lets : rule.Lets floor act)
    (unlent : ∀ {loads machine op after}, rule loads machine op after → op.lends = false) :
    act ≠ .lend ∧ act ≠ .recover := by
  cases lets with
  | quiet | settle | grow | stray => exact ⟨(fun same => by cases same), fun same => by cases same⟩
  | op above allowed does =>
    have quits : ¬(act = .lend ∨ act = .recover) := fun either =>
      Bool.false_ne_true ((unlent allowed).symm.trans (does.1.lends either))
    exact not_or.1 quits

/-- In every machine that a run can be at, the frames of the ring that no load waits for are just the
frames of the resident pages, one page a frame, and all tables agree on it. -/
theorem Reached.paired {loads : List Load} {machine : Machine}
    (reached : Reached .offered loads machine) : machine.Paired loads := by
  obtain ⟨ledger, rfl, between, none⟩ := Reached.keeps
    (fun now => now.machine.callers.frames = []) Rule.sensible_offered
    (fun booted => by
      obtain ⟨_, _, _, _, rfl⟩ := Machine.boot_ok booted
      rfl)
    (fun lets move _ _ none => (move.frames (lets.not_lending fun offered => offered.2.1)).trans none)
    (fun _ _ frames none => frames.trans none) reached
  exact between.toConsistent.pairs (between.mapped Rule.trusting_offered) none

end

section
attribute [local instance] Architecture.small

/-- While a page is loaded from its file, another thread of the process gives the page up. -/
def givingUp : Interference :=
  .performing [.release 0 0x1000] []

def twoFrames : Machine where
  config := .ofFrames 2
  pool := .ofCount ⟨4⟩ 2
  memory := .mapped 4 2
  swap := { disk := { sectorSize := 4, count := 8 }, bitmap := .blank 2 }
  log := [.swapReady 2 4 4, .started 0x8000 0x800]

theorem twoFrames_reached {rule : Rule} : Reached rule [] twoFrames := by
  have booted : Machine.boot none (.ofFrames 2) (.mapped 4 2) ⟨4⟩ { sectorSize := 4, count := 8 } =
      .ok twoFrames := rfl
  exact .boot booted

def fileMapped : Machine :=
  [.createSpace none ⟨0, []⟩, .openFile (List.replicate 16 7) .working,
    .registerSegment 0 0 0 0x1000 16 0 true].foldl Machine.undisturbed twoFrames

theorem fileMapped_reached : Reached .offered [] fileMapped :=
  twoFrames_reached.carried id (by decide +kernel)

/-- A fault that lost its race leaves frames and pages paired. -/
theorem paired_after_givingUp :
    Reached .offered [] ((Kernel.perform givingUp (.fault 0 ⟨0x1000, .read, false⟩ none)).leaves fileMapped) ∧
    ((Kernel.perform givingUp (.fault 0 ⟨0x1000, .read, false⟩ none)).leaves fileMapped).Paired [] := by
  have reached : Reached .offered [] ((Kernel.perform givingUp (.fault 0 ⟨0x1000, .read, false⟩ none)).leaves
      fileMapped) :=
    .leaves fileMapped_reached (by decide +kernel) (Interference.orderly_performing _ _ _ _)
      (by decide +kernel)
  exact ⟨reached, reached.paired⟩

end

end DemandPaging
