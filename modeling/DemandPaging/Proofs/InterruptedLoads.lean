import DemandPaging.Proofs.Reregistration
import DemandPaging.Proofs.Supplies

/-! What becomes of a load that other operations interrupt, as long as none of them registers a page at the
address of a load that waits. It attaches to the page that it began with, and brings in the bytes of that
page; or it gives its frame back, and leaves all else as the other operations left it. -/
namespace DemandPaging
open Architecture (Lawful)

section
variable [Architecture]

/-- The operations of the memory manager, none of which registers a page at the address of a load under
way. -/
def Rule.entrusted : Rule := fun loads machine op after =>
  machine.Entrusts op ∧ ∀ load ∈ loads, ¬op.Registers loads machine after load.space load.page.addr

theorem Rule.sensible_entrusted : Rule.entrusted.Sensible where
  regular allowed := allowed.1.1.1
  rightful {loads _ _ after} allowed :=
    @Rule.Sensible.rightful _ _ Rule.sensible_offered loads _ _ after allowed.1.1

theorem Rule.unrepeated_entrusted : Rule.entrusted.Unrepeated := fun allowed => allowed.2

variable [Lawful]

omit [Lawful] in
/-- Under this rule no bytes change behind the back of the memory manager. -/
theorem Rule.Lets.honest [Lawful] {floor : List Load} {act : Act} (lets : Rule.entrusted.Lets floor act) :
    act.Honest := by
  cases lets with
  | quiet | settle | grow => trivial
  | op above allowed does => exact does.1.honest allowed.1
  | stray astray => exact astray ⟨fun allowed => allowed.1.1.2.2, fun allowed => allowed.1.2.1⟩

theorem Supplied.move {floor : List Load} {act : Act} {start stop : Moment} (supplied : Supplied start)
    (move : Move act start stop) (lets : Rule.entrusted.Lets floor act) : Supplied stop :=
  supplied.step move lets.honest fun _ member => Rule.unrepeated_entrusted.apart lets member

omit [Lawful] in
theorem Supplied.note {ledger : Ledger} {machine : Machine} (supplied : Supplied ⟨ledger, machine⟩)
    {log : List Event} {callers : Callers} (guards : callers.guards = machine.callers.guards)
    (frames : callers.frames = machine.callers.frames) :
    Supplied ⟨ledger, { machine with log, callers }⟩ :=
  ⟨supplied.toConsistent.note guards frames, supplied.sectors, supplied.traced,
    ⟨supplied.owned.occupied, supplied.owned.single⟩, supplied.backs,
    fun flight member => ⟨(supplied.carries flight member).holds, (supplied.carries flight member).known⟩,
    supplied.filled⟩

/-- In every machine that a run can be at, loads read what their pages are to be loaded with. -/
theorem Reached.supplied {loads : List Load} {machine : Machine}
    (reached : Reached .entrusted loads machine) :
    ∃ ledger, ledger.loads = loads ∧ BetweenOperations .entrusted ⟨ledger, machine⟩ ∧
      Supplied ⟨ledger, machine⟩ :=
  Reached.keeps Supplied Rule.sensible_entrusted .boot (fun lets move _ _ supplied => supplied.move move lets)
    (fun _ guards frames supplied => supplied.note guards frames) reached

def Scope.loading (start : Moment) : Scope where
  may := Rule.entrusted.Lets start.ledger.loads
  spaces := start.machine.spaces.length
  files := start.machine.files.length
  trusting := True
  quiet := .quiet
  trusts _ meddles := meddles.not_meddle (fun allowed => allowed.1.1.2.2) rfl
  kept := Supplied
  keeps lets move supplied := supplied.move move lets
  after _ := False
  onward _ _ := id

theorem Interference.Moves.mannered {start : Moment} {others : Interference}
    (moves : others.Moves .entrusted start) :
    Mannered (.loading start) start.ledger.loads others others := by
  have follows : ∀ (hook : Hook) {now : Moment},
      now.ledger.loads = hook.load?.toList ++ start.ledger.loads → now.ledger.Balanced →
      Follows (Scope.loading start) now (others.turn hook) (others.turn hook)
        fun _ next => next.ledger = now.ledger := by
    intro hook now under balanced
    refine .of_ok fun ready _ next ended => ?_
    have between : BetweenOperations .entrusted now :=
      ⟨ready.toConsistent, balanced, ready.sectors, fun _ => ready.mapped trivial⟩
    have path := moves hook ⟨ready.known, ready.opened⟩ between under ended
    refine ⟨_, path.widen fun _ lets => lets.mono ?_, rfl⟩
    rw [under]
    exact List.suffix_append _ _
  exact ⟨fun file under => follows (.file _ file) under, fun under => follows (.sector _) under⟩

/-! How such a load ends. -/

def Machine.without (machine : Machine) (load : Load) : Machine :=
  { machine with pool := machine.pool.withdraw (load.frame.value - machine.pool.base.value) }

/-- A load has brought in the page that it began with. -/
structure Kernel.BringsIn (load : Load) (pin : Bool) (mid next : Machine) : Prop where
  page : (next.registry load.space).pages.get? load.page.addr = some { load.page with
    state := .resident load.frame, pinned := pin, generation := load.page.generation + 1 }
  /-- The page has the bytes that it is to be loaded with. -/
  bytes : ∃ bytes, next.memory.read load.frame = .ok bytes ∧
    pageSize ≤ (mid.supply load.page).length ∧ pageSize ≤ bytes.length ∧
      bytes.take pageSize = (mid.supply load.page).take pageSize
  /-- The slot that they came from was in use, and is not any more. -/
  freed : ∀ slot, load.page.state = .swapped slot → mid.swap.free slot = (true, next.swap)
  /-- It was in use for this page alone. -/
  alone : ∀ {slot space addr page}, load.page.state = .swapped slot →
    (mid.registry space).pages.get? addr = some page → page.state = .swapped slot →
      space = load.space ∧ addr = load.page.addr
  unsaved : (∀ slot, load.page.state ≠ .swapped slot) → next.swap = mid.swap

/-- How a load ends whose reading has ended with `outcome` at `mid`. -/
structure Kernel.SafeLoad (load : Load) (pin : Bool) (outcome : Except FaultError Unit) (mid : Machine)
    (result : Except FaultError (Option FrameNumber)) (next : Machine) : Prop where
  /-- If the page has changed or is gone, only the frame is given back, whether or not it could be read. -/
  lost : (mid.registry load.space).pages.get? load.page.addr ≠ some load.page →
    result = .ok none ∧ next = mid.without load
  /-- If the page is as it was but could not be read, the frame is given back as well. -/
  failed : (mid.registry load.space).pages.get? load.page.addr = some load.page →
    ∀ error, outcome = .error error → result = .error error ∧ next = mid.without load
  /-- So it is if the page cannot be mapped. -/
  refused : (mid.registry load.space).pages.get? load.page.addr = some load.page → outcome = .ok () →
    ∀ first error directory, load.frame.start = .ok first →
      Architecture.install (mid.directory load.space) load.page.addr first load.page.writable =
        (.error error, directory) →
      result = .error (.map error) ∧ next = (mid.setDirectory load.space directory).without load
  /-- The frame of a load that ends so is free again. -/
  free : ∃ index ∈ (mid.without load).pool.free, load.frame = mid.pool.number index
  /-- Otherwise the page is brought in. -/
  attached : (mid.registry load.space).pages.get? load.page.addr = some load.page → outcome = .ok () →
    ∀ first directory, load.frame.start = .ok first →
      Architecture.install (mid.directory load.space) load.page.addr first load.page.writable =
        (.ok (), directory) →
      result = .ok (some load.frame) ∧ BringsIn load pin mid next

section
variable {load : Load} {pin : Bool} {outcome : Except FaultError Unit} {mid next : Machine}
  {result : Except FaultError (Option FrameNumber)} {arrived : Nat} {flights : List Flight}
  {pins : Multiset Pin}

omit [Lawful] in
/-- A load that nothing has led astray brings in its page. -/
theorem Supplied.brings_in (supplied : Supplied ⟨⟨⟨load, pageSize⟩ :: flights, pins⟩, mid⟩)
    (there : (mid.registry load.space).pages.get? load.page.addr = some load.page)
    (directory : Architecture.Directory) (log : List Event) :
    Kernel.BringsIn load pin mid { mid.arrive load load.page directory pin with log } where
  page := by
    have fair := supplied.fair load (.head _)
    have settled : (mid.arrive load load.page directory pin).registry load.space =
        (mid.registry load.space).settle load.page load.frame pin :=
      Machine.registry_setRegistry_self _ _ fair.present
    change ((mid.arrive load load.page directory pin).registry load.space).pages.get? _ = _
    rw [settled]
    exact SortedMap.get?_insert_self _ _ _
  bytes := (supplied.carries ⟨load, pageSize⟩ (.head _)).whole there
  freed slot swapped := by
    have used : mid.swap.isOccupied slot = true := supplied.used there swapped
    have freed : (mid.swap.free slot).1 = true := (mid.swap.free_eq slot).trans used
    refine Prod.ext freed ?_
    change _ = (mid.arrive load load.page directory pin).swap
    simp only [Machine.arrive, swapped]
  alone swapped found state := supplied.owned.single (Machine.storage_eq_some.2 ⟨_, found, state⟩)
    (Machine.storage_eq_some.2 ⟨load.page, there, swapped⟩)
  unsaved unsaved := by
    change (mid.arrive load load.page directory pin).swap = mid.swap
    unfold Machine.arrive
    dsimp only
    split
    · rename_i slot swapped
      exact absurd swapped (unsaved slot)
    · rfl

omit [Lawful] in
/-- Where a load settles that nothing has led astray, it does so safely. -/
theorem Supplied.settles (supplied : Supplied ⟨⟨⟨load, arrived⟩ :: flights, pins⟩, mid⟩)
    (done : outcome = .ok () → arrived = pageSize)
    (settles : mid.Settles load pin outcome result next) :
    Kernel.SafeLoad load pin outcome mid result next := by
  have member : load ∈ (Ledger.mk (⟨load, arrived⟩ :: flights) pins).loads := .head _
  have stale_iff := supplied.traced.isStale_iff member
  have fresh (there : (mid.registry load.space).pages.get? load.page.addr = some load.page) :
      ¬(mid.registry load.space).isStale load.page = true := fun stale => stale_iff.1 stale there
  have same {page : Page} (current : (mid.registry load.space).current? load.page = some page) :=
    supplied.traced.current member current
  constructor
  case lost =>
    intro changed
    cases settles with
    | lost => exact ⟨rfl, rfl⟩
    | failed fresh =>
      rw [stale_iff.2 changed] at fresh
      cases fresh
    | refused current | attached current => exact absurd (same current).1 changed
  case failed =>
    rintro there error rfl
    cases settles with
    | lost stale => exact absurd stale (fresh there)
    | failed => exact ⟨rfl, rfl⟩
  case refused =>
    rintro there rfl first error directory begins refuses
    cases settles with
    | lost stale => exact absurd stale (fresh there)
    | refused current starts refused =>
      obtain ⟨_, rfl⟩ := same current
      cases begins.symm.trans starts
      cases refuses.symm.trans refused
      exact ⟨rfl, rfl⟩
    | attached current starts installed =>
      obtain ⟨_, rfl⟩ := same current
      cases begins.symm.trans starts
      cases refuses.symm.trans installed
  case free =>
    obtain ⟨named, _⟩ := (supplied.held.kept (Ledger.mem_keepers member)).index
    refine ⟨load.frame.value - mid.pool.base.value, ?_, named⟩
    change _ ∈ (FramePool.giveBack _ _).free
    rw [FramePool.free_giveBack]
    exact List.mem_cons_self
  case attached =>
    rintro there rfl first directory begins installs
    cases settles with
    | lost stale => exact absurd stale (fresh there)
    | refused current starts refused =>
      obtain ⟨_, rfl⟩ := same current
      cases begins.symm.trans starts
      cases installs.symm.trans refused
    | attached current starts installed =>
      obtain ⟨_, rfl⟩ := same current
      cases begins.symm.trans starts
      cases done rfl
      exact ⟨rfl, supplied.brings_in there _ _⟩

end

/-- A load that operations interrupt is safe, as long as none of them registers a page at the address of a
load that waits. -/
theorem Reached.safe_load {loads : List Load} {machine : Machine} {others : Interference} {load : Load}
    {pin : Bool} {taken mid next : Machine} {outcome : Except FaultError Unit}
    {result : Except FaultError (Option FrameNumber)} (reached : Reached .entrusted loads machine)
    (orderly : others.Orderly .entrusted loads machine) (present : load.space < machine.spaces.length)
    (current : (machine.registry load.space).pages.get? load.page.addr = some load.page)
    (away : load.page.isResident = false) (first : load.pinned = [])
    (run : Kernel.LoadRun others load pin machine taken outcome mid result next) :
    Kernel.SafeLoad load pin outcome mid result next := by
  obtain ⟨ledger, rfl, between, supplied⟩ := reached.supplied
  have start : BetweenOperations .entrusted ⟨ledger, machine⟩ := between
  have moves : others.Moves .entrusted ⟨ledger, machine⟩ := orderly.moves Rule.sensible_entrusted
  have ready : (Scope.loading ⟨ledger, machine⟩).Ready ⟨ledger, machine⟩ :=
    ⟨between.toConsistent, Nat.le_refl _, Nat.le_refl _, between.sectors,
      fun _ => between.mapped fun allowed => allowed.1.1.2.2, supplied⟩
  have owed : ledger.Owes ⟨load.space, load.pinned⟩ := first ▸ between.balanced.owes load.space
  obtain ⟨arrived, path, done, settles⟩ :=
    Kernel.LoadRun.settles run ready moves.mannered present owed current away
  exact (ready.path path).kept.settles done settles

def Kernel.releaseQuietly (space : SpaceId) (addr : Nat) : Kernel Unit := fun machine =>
  match Kernel.perform .none (.release space addr) machine with
  | .ok _ after =>
      if machine.Entrusts (.release space addr) ∧ after.log.length = machine.log.length then .ok () after
      else .ok () machine
  | .error _ _ => .ok () machine

/-- Another party that releases a page whenever a sector is about to be read. -/
def Interference.releasing (space : SpaceId) (addr : Nat) : Interference where
  beforeFileRead _ _ := pure ()
  beforeSectorRead _ := Kernel.releaseQuietly space addr
  patience := 2

omit [Lawful] in
theorem Interference.orderly_releasing (space : SpaceId) (addr : Nat) (loads : List Load)
    (machine : Machine) : (releasing space addr).Orderly .entrusted loads machine := by
  intro hook point _
  cases hook with
  | file => exact .done _ point
  | sector load =>
    change Errand _ _ _ (Kernel.releaseQuietly space addr point)
    unfold Kernel.releaseQuietly
    split
    · rename_i after ran
      split
      · rename_i quiet
        refine .op ⟨quiet.1, fun load _ registers => ?_⟩ (Interference.orderly_none _ _ _) ran (.done _ _)
        rcases registers with acts | ⟨new, log, told⟩
        · cases acts
        · have lengths := congrArg List.length log
          rw [List.length_append, quiet.2] at lengths
          cases List.eq_nil_of_length_eq_zero (by omega : new.length = 0)
          cases told
      · exact .done _ point
    · exact .done _ point

end

section
attribute [local instance] Architecture.small

def firstPage : Page where
  addr := ⟨0x1000⟩
  backing := .zero
  writable := true
  state := .swapped ⟨0⟩
  generation := 2

/-- A load of it that is over. While it was read from its slot, it was released. -/
def afterRelease : Machine :=
  (Kernel.load (.releasing 0 0x1000) 0 firstPage false []).run.leaves thirdWritten

theorem safe_load_released : ∃ frame taken outcome mid result,
    Kernel.LoadRun (.releasing 0 0x1000) ⟨0, firstPage, frame, []⟩ false thirdWritten taken outcome mid
      result afterRelease ∧
    Kernel.SafeLoad ⟨0, firstPage, frame, []⟩ false outcome mid result afterRelease ∧
    (afterRelease.registry 0).pages.get? ⟨0x1000⟩ = none := by
  have reached : Reached .entrusted [] thirdWritten :=
    twoFrames_reached.carried (fun entrusted => ⟨entrusted, fun _ member => absurd member List.not_mem_nil⟩)
      (by decide +kernel : twoFrames.Carries Machine.Entrusts _)
  have well : (Kernel.load (.releasing 0 0x1000) 0 firstPage false []).run.endsWell thirdWritten = true := by
    decide +kernel
  obtain ⟨result, ended⟩ := Kernel.ok_of_endsWell well
  obtain ⟨frame, taken, outcome, mid, run⟩ := (Kernel.loadRun_iff (by decide)).1 ended
  have present : 0 < thirdWritten.spaces.length := by decide +kernel
  have current : (thirdWritten.registry 0).pages.get? ⟨0x1000⟩ = some firstPage := by decide +kernel
  have gone : (afterRelease.registry 0).pages.get? ⟨0x1000⟩ = none := by decide +kernel
  exact ⟨frame, taken, outcome, mid, result, run,
    reached.safe_load (Interference.orderly_releasing _ _ _ _) present current rfl rfl run, gone⟩

end

end DemandPaging
