import DemandPaging.Proofs.Calls
import DemandPaging.Proofs.Populating
import DemandPaging.Proofs.Reclaiming
import DemandPaging.Proofs.Resolutions
import DemandPaging.Proofs.Tending

/-! Pages that come in once what they are loaded from has been put right. Between operations it is enough that
a frame is free: a fault on the page is resolved then, and the kernel can pin it. -/
namespace DemandPaging
open Architecture (Lawful SecondChance)

section
variable [Architecture]

/-- What pages are loaded from, page directories, and how the swap device answers may have been changed, or put
right. All else is as it was. -/
structure Machine.Mended (machine again : Machine) : Prop where
  config : again.config = machine.config
  pool : again.pool = machine.pool
  memory : again.memory = machine.memory
  spaces : again.spaces.length = machine.spaces.length
  registries : ∀ space, again.registry space = machine.registry space
  assigned : ∀ space, (again.space space).directory = (machine.space space).directory
  directories : again.directories.length = machine.directories.length
  files : again.files.length = machine.files.length
  swap : ∃ reads readsLeft writesLeft, again.swap =
    { machine.swap with disk := { machine.swap.disk with reads, readsLeft, writesLeft } }
  guards : again.callers.guards = machine.callers.guards
  frames : again.callers.frames = machine.callers.frames

/-- What a page is loaded from can be read, and the page can be mapped to frames of the pool. -/
structure Machine.Cures (machine : Machine) (space : SpaceId) (page : Page) : Prop where
  succeed : machine.ReadsSucceed
  whole : machine.shortRead? page = none
  maps : ∀ {frame first}, machine.pool.Has frame → frame.start = .ok first →
    (Architecture.install (machine.directory space) page.addr first page.writable).1 = .ok ()

/-- A page has come into a frame with the bytes that it was to be loaded with. -/
def Machine.Regains (machine : Machine) (space : SpaceId) (page : Page) (pin : Bool) (frame : FrameNumber)
    (last : Machine) : Prop :=
  let loaded : Page :=
    { page with state := .resident frame, pinned := pin, generation := page.generation + 1 }
  (last.registry space).pages.get? page.addr = some loaded ∧
    ∀ place < pageSize, last.heldAt loaded place = machine.heldAt page place

/-- Once what a page is loaded from has been put right, a fault on it is resolved, and it can be pinned. -/
structure Machine.Recovers (machine : Machine) (space : SpaceId) (page : Page) : Prop where
  fault : ∀ {again fault addr}, machine.Mended again → again.Cures space page → fault.present = false →
    (VirtualAddress.ofWord? fault.address).filter (·.value < again.config.userTop) = some addr →
    addr.pageBase = page.addr → (fault.access = .write → page.writable = true) → ∀ stackPointer,
    ∃ frame last, Kernel.handleFault .none space fault stackPointer again = .ok (.ok ()) last ∧
      again.Regains space page false frame last
  pin : ∀ {again address addr access}, machine.Mended again → again.Cures space page →
    (VirtualAddress.ofWord? address).filter (·.value < again.config.userTop) = some addr →
    addr.pageBase = page.addr → (access = .write → page.writable = true) →
    ∃ frame last, (Kernel.resolve .none space address access true []).run again = .ok (.ok (some frame)) last ∧
      again.Regains space page true frame last

/-- What an act is that a call does by itself, while no other call is under way. -/
inductive Act.Alone : Act → Prop
  | quiet : Alone .quiet
  | settle : Alone (.settle [])
  | grow (space : SpaceId) (addr : VirtualAddress) : Alone (.grow [] space addr)
  | register (space : SpaceId) (addr : VirtualAddress) : Alone (.register [] space addr)
  | unpin : Alone .unpin

namespace Act.Alone
variable {act : Act} (alone : act.Alone)
include alone

omit [Architecture] in
theorem honest : act.Honest := by
  cases alone <;> trivial

omit [Architecture] in
theorem not_meddle : act ≠ .meddle := by
  rintro rfl
  cases alone

omit [Architecture] in
theorem avoids (loads : List Load) : act.Avoids loads := by
  intro load member
  constructor <;>
  · rintro rfl
    cases alone
    cases member

end Act.Alone

variable [Lawful]

/-- What is known at moments of a run in which callers leave slots alone and no address is registered again
while the page that was there is being loaded. If the run is `clean`, no page holds bytes that nothing tells to
save. -/
structure LoadsUndisturbed (clean : Prop) (now : Moment) : Prop extends Loadable now where
  pristine : clean → Tended now ∧ now.machine.Pristine

theorem LoadsUndisturbed.move {clean : Prop} {act : Act} {start stop : Moment}
    (undisturbed : LoadsUndisturbed clean start)
    (move : Move act start stop) (alone : act.Alone) : LoadsUndisturbed clean stop where
  toLoadable := undisturbed.toLoadable.move move alone.honest (alone.avoids _)
  pristine cleanly := by
    obtain ⟨tended, pristine⟩ := undisturbed.pristine cleanly
    exact ⟨tended.move move alone.honest alone.not_meddle (alone.avoids _),
      tended.pristine move alone.honest alone.not_meddle (alone.avoids _) pristine⟩

/-! Something is put right while no load is under way. -/

namespace Machine.Mended
variable {ledger : Ledger} {machine again : Machine} (mended : machine.Mended again)
include mended

omit [Lawful] in
omit mended in
theorem refl : machine.Mended machine where
  config := rfl
  pool := rfl
  memory := rfl
  spaces := rfl
  registries _ := rfl
  assigned _ := rfl
  directories := rfl
  files := rfl
  swap := ⟨_, _, _, rfl⟩
  guards := rfl
  frames := rfl

omit [Lawful] in
theorem isOccupied (slot : SwapSlot) : again.swap.isOccupied slot = machine.swap.isOccupied slot := by
  obtain ⟨reads, readsLeft, writesLeft, swap⟩ := mended.swap
  rw [swap]
  rfl

omit [Lawful] in
theorem shape : again.swap.shape = machine.swap.shape := by
  obtain ⟨reads, readsLeft, writesLeft, swap⟩ := mended.swap
  rw [swap]
  rfl

omit [Lawful] in
theorem houses {pool : FramePool} (houses : machine.Houses pool) : again.Houses pool :=
  houses.of_same (congrArg _ mended.pool) (congrArg _ mended.pool) mended.memory

omit [Lawful] in
theorem consistent (consistent : Consistent ⟨ledger, machine⟩) (idle : ledger.loads = []) :
    Consistent ⟨ledger, again⟩ where
  sound space := by
    change (again.registry space).Sound
    rw [mended.registries]
    exact consistent.sound space
  present {space} known := by
    change (again.space space).directory < again.directories.length
    rw [mended.assigned, mended.directories]
    exact consistent.present (Nat.lt_of_lt_of_eq known mended.spaces)
  held := by
    have held := consistent.held
    have placement : again.placement = machine.placement := by
      funext space addr
      rw [Machine.placement, Machine.placement, mended.registries]
    change Held (ledger.keepers again.callers) (ledger.pins + again.callers.pins) again.pool again.placement
    rw [placement, mended.pool, Ledger.keepers, mended.frames, Callers.pins, mended.guards]
    exact held
  fair load member := by
    rw [idle] at member
    cases member

omit [Lawful] in
theorem owned (owned : Owned machine) : Owned again := by
  have storage : again.storage = machine.storage := by
    funext space addr
    rw [Machine.storage, Machine.storage, mended.registries]
  constructor
  · intro slot
    rw [storage, mended.isOccupied]
    exact owned.occupied slot
  · rw [storage]
    exact owned.single

theorem faulted (space : SpaceId) (stackPointer : Nat) : machine.Mended (again.faulted space stackPointer) where
  config := mended.config
  pool := mended.pool
  memory := mended.memory
  spaces := (Machine.idle_stackPointer _ space stackPointer).spaces.trans mended.spaces
  registries owner := by
    rw [← mended.registries]
    exact (Machine.idle_stackPointer _ space stackPointer).registries owner
  assigned owner := by
    rw [← mended.assigned]
    exact (Machine.idle_stackPointer _ space stackPointer).assigned owner
  directories := mended.directories
  files := mended.files
  swap := mended.swap
  guards := mended.guards
  frames := mended.frames

omit [Lawful] in
theorem loadable (loadable : Loadable ⟨ledger, machine⟩) (idle : ledger.loads = []) :
    Loadable ⟨ledger, again⟩ := by
  have found {space : SpaceId} {addr : VirtualAddress} {page : Page}
      (found : (again.registry space).pages.get? addr = some page) :
      (machine.registry space).pages.get? addr = some page := by
    rw [← mended.registries]
    exact found
  have supplied : Supplied ⟨ledger, again⟩ := by
    refine ⟨mended.consistent loadable.toConsistent idle, ?_, ?_, mended.owned loadable.owned, ?_, ?_, ?_⟩
    · have size : again.swap.disk.sectorSize = machine.swap.disk.sectorSize := congrArg (·.1) mended.shape
      exact Nat.lt_of_lt_of_eq loadable.sectors size.symm
    · intro load member
      rw [idle] at member
      cases member
    · intro space addr page registered
      have backs := loadable.backs (found registered)
      change again.Backs page.backing
      cases backing : page.backing with
      | unclassified | zero => trivial
      | file segment =>
        rw [backing] at backs
        exact ⟨backs.1, Nat.lt_of_lt_of_eq backs.2 mended.files.symm⟩
    · intro flight member
      have waits : flight.load ∈ ledger.loads := List.mem_map_of_mem member
      rw [idle] at waits
      cases waits
    · intro space addr page frame registered resident
      change again.Fills frame
      rw [Machine.Fills, mended.memory]
      exact loadable.filled (found registered) resident
  have placed : again.swap.OnDisk := loadable.placed.of_shape mended.shape
  refine { supplied with placed, marked := ⟨fun registered resident => ?_⟩ }
  rw [mended.pool]
  exact loadable.marked.agrees (found registered) resident

end Machine.Mended

/-! Attempts that nobody interrupts. -/

def Scope.alone (spaces : Nat) (trusting clean : Prop) : Scope where
  may := Act.Alone
  spaces
  files := 0
  trusting
  quiet := .quiet
  trusts _ alone := alone.not_meddle rfl
  kept := LoadsUndisturbed clean
  keeps alone move undisturbed := undisturbed.move move alone
  after _ := False
  onward _ _ := id

theorem Scope.tame_alone (spaces : Nat) (trusting clean : Prop) {loads : List Load} (idle : loads = []) :
    Tame (.alone spaces trusting clean) loads .none .none := by
  subst idle
  exact { patience := rfl, grow := .grow, settle := .settle, file := fun _ _ _ => .ret rfl,
          sector := fun _ _ => .ret rfl }

/-- What is known of a moment in a call that nobody interrupts: loads can rely on what they rely on, and all of
the pool is in memory. -/
structure UninterruptedLoading (spaces : Nat) (trusting clean : Prop) (pool : FramePool)
    (now : Moment) : Prop extends (Scope.alone spaces trusting clean).Ready now where
  sanity : Sanity trusting
  houses : now.machine.Houses pool

namespace UninterruptedLoading
variable {spaces : Nat} {trusting clean : Prop} {pool : FramePool} {start now : Moment}

theorem path (loading : UninterruptedLoading spaces trusting clean pool start) (path : Path Act.Alone start now)
    (houses : now.machine.Houses pool) : UninterruptedLoading spaces trusting clean pool now :=
  ⟨loading.toReady.path path, loading.sanity, houses⟩

theorem loadsUndisturbed (loading : UninterruptedLoading spaces trusting clean pool start) :
    LoadsUndisturbed clean start := loading.kept

theorem uninterruptedCall (loading : UninterruptedLoading spaces trusting clean pool start) :
    UninterruptedCall spaces trusting pool start where
  toConsistent := loading.toConsistent
  known := loading.known
  opened := loading.opened
  sectors := loading.sectors
  mapped := loading.mapped
  kept := loading.loadsUndisturbed.placed
  sanity := loading.sanity
  houses := loading.houses

end UninterruptedLoading

/-! What can be had again comes in. -/

namespace Machine
variable {machine : Machine} {page : Page} {place : Nat}

omit [Lawful] in
/-- A page holds what it is to be loaded with. -/
theorem supply_held (away : page.isResident = false) (backs : machine.Backs page.backing)
    (whole : pageSize ≤ (machine.supply page).length) (within : place < pageSize) :
    (machine.supply page)[place]? = machine.heldAt page place := by
  cases state : page.state with
  | resident frame =>
    rw [Page.isResident, Page.frame?, state] at away
    cases away
  | swapped slot => rw [supply, heldAt, state]
  | unloaded =>
    have initial : machine.supply page = machine.initial page := supply_of_unsaved fun slot swapped => by
      rw [state] at swapped
      cases swapped
    rw [initial] at whole ⊢
    obtain ⟨byte, there, original⟩ := initial_original backs whole within
    rw [there, heldAt, state]
    exact original.symm

end Machine

namespace Kernel
variable {ledger : Ledger} {machine : Machine} {pool : FramePool} {space : SpaceId} {page : Page} {pin : Bool}
  {pinned : List (VirtualAddress × FrameNumber)} {index : Nat} {rest : List Nat}

omit [Lawful] in
theorem allocate_spare (sound : machine.pool.Sound) (houses : machine.Houses pool)
    (free : machine.pool.free ≠ []) (owner : SpaceId) :
    ∃ frame left, allocate owner false machine = .ok frame { machine with pool := left } ∧
      machine.pool.Has frame ∧ pool.Has frame ∧ Machine.Houses { machine with pool := left } pool := by
  obtain ⟨index, rest, free⟩ := List.exists_cons_of_ne_nil free
  obtain ⟨frame, taken, allocated, _⟩ := (allocate_free sound houses free owner false).exists_ok
  have had := allocated
  obtain ⟨index, mid, memory, finds, located, rfl, same⟩ := allocate_ok allocated
  obtain rfl := same rfl
  cases finds with
  | evicted _ spent =>
    rw [FramePool.free_of_takeFree?_none spent] at free
    cases free
  | @free rest taken =>
    obtain ⟨inside, _⟩ := sound.taken_free taken
    obtain ⟨returned, fresh, rfl⟩ := FramePool.takeFree?_eq taken
    have named : frame = machine.pool.number index := FramePool.frameAt_ok located
    refine ⟨frame, _, had, ⟨index, inside, named⟩, ?_, houses.of_same rfl rfl rfl⟩
    rw [houses.capacity] at inside
    exact ⟨index, inside, named.trans (houses.number index)⟩

omit [Lawful] in
/-- A load that brings in its page brings in what the page held. -/
theorem BringsIn.regains {load : Load} {mid next : Machine} (brings : BringsIn load pin mid next)
    (away : load.page.isResident = false) (backs : mid.Backs load.page.backing)
    (held : ∀ place, mid.heldAt load.page place = machine.heldAt load.page place) :
    machine.Regains load.space load.page pin load.frame next := by
  refine ⟨brings.page, fun place within => ?_⟩
  obtain ⟨bytes, read, long, _, same⟩ := brings.bytes
  rw [Machine.heldAt]
  dsimp only
  rw [read]
  change bytes[place]? = _
  rw [← held, ← Machine.supply_held away backs long within, ← List.getElem?_take_of_lt within, same,
    List.getElem?_take_of_lt within]

omit [Lawful] in
/-- The contents of a page arrive in a frame that is free, if nothing fails that they are loaded from, and
nobody changes the page meanwhile. -/
theorem load_runs (loadable : Loadable ⟨ledger, machine⟩) (houses : machine.Houses pool)
    (free : machine.pool.free ≠ []) (found : (machine.registry space).pages.get? page.addr = some page)
    (away : page.isResident = false) (classified : page.backing ≠ .unclassified)
    (cures : machine.Cures space page) (pin : Bool) (pinned : List (VirtualAddress × FrameNumber)) :
    ∃ frame left mid result next,
      LoadRun .none ⟨space, page, frame, pinned⟩ pin machine { machine with pool := left } (.ok ()) mid result
          next ∧
        machine.pool.Has frame ∧ Machine.Fed { machine with pool := left } frame mid ∧
        mid.spaces = machine.spaces ∧ result ≠ .ok none := by
  have used : ∀ slot, page.state = .swapped slot → machine.swap.isOccupied slot = true ∧
      slot.index < machine.swap.capacity := fun _ swapped => loadable.owned.in_use found swapped
  obtain ⟨frame, left, allocated, own, has, houses⟩ := allocate_spare loadable.held.sound houses free space
  have fits : page.backing.Fits := (loadable.sound space).fits found
  let load : Load := ⟨space, page, frame, pinned⟩
  have filled : Outcome { machine with pool := left } (populate .none load).run _ Never :=
    populate_outcome houses has fits loadable.sectors
  obtain ⟨outcome, mid, read, houses, spaces⟩ := filled.exists_ok
  have feeds : Outcome { machine with pool := left } (populate .none load).run _ _ :=
    populate_feeds Interference.aloof_none away loadable.placed used
  have ends : Outcome { machine with pool := left } (populate .none load).run _ _ :=
    populate_arrives classified away loadable.placed used
  obtain ⟨_, arrives⟩ : Arrives { machine with pool := left } (machine.shortRead? page) outcome mid :=
    ends.of_ok read
  have done : outcome = .ok () := by
    rw [arrives ⟨cures.succeed.files, cures.succeed.disk⟩, cures.whole]
    rfl
  subst done
  have current : (mid.registry space).pages.get? page.addr = some page := by
    rw [Machine.registry, Machine.space, spaces]
    exact found
  have concludes : Outcome mid (conclude load pin (.ok ())).run _ Never :=
    conclude_outcome houses has current pin (.ok ())
  obtain ⟨result, next, settled, _, kept⟩ := concludes.exists_ok
  exact ⟨frame, left, mid, result, next, ⟨classified, allocated, read, settled⟩, own, (feeds.of_ok read).toFed,
    spaces, kept⟩

theorem load_regains (loadable : Loadable ⟨ledger, machine⟩) (houses : machine.Houses pool)
    (free : machine.pool.free ≠ []) (idle : ledger.loads = []) (owed : ledger.Owes ⟨space, pinned⟩)
    (found : (machine.registry space).pages.get? page.addr = some page) (away : page.isResident = false)
    (classified : page.backing ≠ .unclassified) (cures : machine.Cures space page) :
    Outcome machine (load .none space page pin pinned).run (fun result next => ∃ frame,
      result = .ok (some frame) ∧ machine.Regains space page pin frame next) Never := by
  obtain ⟨frame, left, mid, result, next, run, own, fed, spaces, kept⟩ :=
    load_runs loadable houses free found away classified cures pin pinned
  refine .ended ((loadRun_iff classified).2 ⟨_, _, _, _, run⟩) ?_
  have current : (mid.registry space).pages.get? page.addr = some page := by
    rw [Machine.registry, Machine.space, spaces]
    exact found
  have fresh : (mid.registry space).current? page = some page :=
    Option.filter_eq_some_iff.2 ⟨current, beq_self_eq_true _⟩
  have ready : (Scope.alone machine.spaces.length False False).Ready ⟨ledger, machine⟩ :=
    ⟨loadable.toConsistent, Nat.le_refl _, Nat.zero_le _, loadable.sectors, False.elim, loadable, False.elim⟩
  obtain ⟨arrived, path, whole, settles⟩ := run.settles ready (Scope.tame_alone _ _ _ idle).toMannered
    (machine.space_present found) owed found away
  have same : mid.directory space = machine.directory space := by
    obtain ⟨_, _, _, _, _, _, rfl⟩ := fed.rest
    rfl
  cases settles with
  | lost => exact absurd rfl kept
  | refused there begins refused =>
    cases fresh.symm.trans there
    have maps := cures.maps own begins
    rw [same] at refused
    rw [refused] at maps
    cases maps
  | @attached _ _ directory log there begins mapped grows =>
    cases fresh.symm.trans there
    obtain rfl := whole rfl
    have supplied : Supplied ⟨_, mid⟩ := (ready.path path).kept.toSupplied
    have brings : BringsIn ⟨space, page, frame, pinned⟩ pin mid _ :=
      supplied.brings_in current directory log
    refine ⟨frame, rfl, brings.regains away (supplied.backs current) fun place => ?_⟩
    refine Machine.heldAt_congr place fed.files (fun kept resident => ?_) fun slot _ => ?_
    · rw [Page.isResident, Page.frame?, resident] at away
      cases away
    · obtain ⟨_, _, _, _, _, _, rfl⟩ := fed.rest
      rfl

end Kernel

theorem Machine.Cures.faulted {machine : Machine} {space : SpaceId} {page : Page}
    (cures : machine.Cures space page) (owner : SpaceId) (stackPointer : Nat) :
    (machine.faulted owner stackPointer).Cures space page where
  succeed := ⟨cures.succeed.files, cures.succeed.disk⟩
  whole := cures.whole
  maps {frame first} has begins := by
    have same : (machine.faulted owner stackPointer).directory space = machine.directory space := by
      have assigned := (Machine.idle_stackPointer { machine with
        stats := { machine.stats with faults := machine.stats.faults + 1 } } owner stackPointer).assigned space
      exact congrArg (machine.directories.getD · _) assigned
    rw [same]
    exact cures.maps has begins

/-- A page can be loaded, as far as it is up to the memory manager: there is room for it in `pool`. -/
structure Machine.Awaits (machine : Machine) (pool : FramePool) (space : SpaceId) (page : Page) : Prop extends
    Loadable ⟨{}, machine⟩ where
  houses : machine.Houses pool
  spare : machine.pool.free ≠ []
  found : (machine.registry space).pages.get? page.addr = some page
  away : page.isResident = false
  classified : page.backing ≠ .unclassified

namespace Machine.Awaits
variable {machine again : Machine} {pool : FramePool} {space : SpaceId} {page : Page} {address : Nat}
  {addr : VirtualAddress} {access : Access} {pin : Bool} (awaits : machine.Awaits pool space page)
include awaits

omit [Lawful] in
theorem mended (mended : machine.Mended again) : again.Awaits pool space page where
  toLoadable := mended.loadable awaits.toLoadable rfl
  houses := mended.houses awaits.houses
  spare := by
    rw [mended.pool]
    exact awaits.spare
  found := by
    rw [mended.registries]
    exact awaits.found
  away := awaits.away
  classified := awaits.classified

theorem bring (cures : machine.Cures space page) (granted : access = .write → page.writable = true) :
    Kernel.Outcome machine (Kernel.bring .none space access pin [] page).run (fun result next =>
      ∃ frame, result = .ok (some frame) ∧ machine.Regains space page pin frame next) Kernel.Never := by
  have balanced : Ledger.Balanced {} := rfl
  have loads : Kernel.Outcome machine (Kernel.load .none space page pin []).run _ Kernel.Never :=
    Kernel.load_regains awaits.toLoadable awaits.houses awaits.spare rfl (balanced.owes space) awaits.found
      awaits.away awaits.classified cures
  have away := awaits.away
  unfold Kernel.bring
  dsimp only
  split
  · rename_i denied
    rw [granted denied.1] at denied
    cases denied.2
  · cases state : page.state with
    | resident frame =>
      rw [Page.isResident, Page.frame?, state] at away
      cases away
    | unloaded | swapped => exact loads

theorem resolve (cures : machine.Cures space page)
    (inside : (VirtualAddress.ofWord? address).filter (·.value < machine.config.userTop) = some addr)
    (here : addr.pageBase = page.addr) (granted : access = .write → page.writable = true) :
    Kernel.Outcome machine (Kernel.resolve .none space address access pin []).run (fun result next =>
      ∃ frame, result = .ok (some frame) ∧ machine.Regains space page pin frame next) Kernel.Never := by
  rw [Kernel.resolve_eq]
  refine Kernel.userAddress_splits (fun outside => ?_) fun known => ?_
  · rw [inside] at outside
    cases outside
  · cases inside.symm.trans known
    have there : (machine.registry space).lookup ⟨address⟩ = some page := by
      rw [Registry.lookup, here]
      exact awaits.found
    unfold Kernel.bringAt
    refine .run_look ?_
    rw [there]
    exact awaits.bring cures granted

theorem handleFault {fault : PageFault} {stackPointer : Nat}
    (cures : (machine.faulted space stackPointer).Cures space page) (absent : fault.present = false)
    (inside : (VirtualAddress.ofWord? fault.address).filter (·.value < machine.config.userTop) = some addr)
    (here : addr.pageBase = page.addr) (granted : fault.access = .write → page.writable = true) :
    Kernel.Outcome machine (Kernel.handleFault .none space fault stackPointer) (fun result next =>
      result = .ok () ∧ ∃ frame, machine.Regains space page false frame next) Kernel.Never := by
  have noted : machine.Mended (machine.faulted space stackPointer) := Mended.refl.faulted space stackPointer
  have attempted : Kernel.Outcome (machine.faulted space stackPointer) (do
      if fault.present then
        let addr ← Kernel.userAddress fault.address
        throw (.writeToReadOnly addr.pageBase)
      else
        let _ ← Kernel.resolve .none space fault.address fault.access false [] : Faulting Unit).run
      (fun result next => result = .ok () ∧ ∃ frame, machine.Regains space page false frame next)
      Kernel.Never := by
    rw [absent]
    refine ((awaits.mended noted).resolve cures inside here granted).run_bind ?_ ?_
    · rintro error next ⟨frame, failed, _⟩
      cases failed
    · rintro found next ⟨frame, _, regains⟩
      exact .ret ⟨rfl, frame, regains⟩
  refine .step (.step (attempted.bind ?_))
  rintro result next ⟨rfl, regains⟩
  exact .ret ⟨rfl, regains⟩

theorem recovers : machine.Recovers space page where
  fault {again fault addr} mended cures absent inside here granted stackPointer := by
    have noted : (again.faulted space stackPointer).Cures space page := cures.faulted space stackPointer
    obtain ⟨_, last, ran, rfl, frame, regains⟩ :=
      ((awaits.mended mended).handleFault noted absent inside here granted).exists_ok
    exact ⟨frame, last, ran, regains⟩
  pin {again address addr access} mended cures inside here granted := by
    obtain ⟨_, last, ran, frame, rfl, regains⟩ :=
      ((awaits.mended mended).resolve cures inside here granted).exists_ok
    exact ⟨frame, last, ran, regains⟩

end Machine.Awaits

end

end DemandPaging
