import DemandPaging.Proofs.Loads

/-! How loads end: the frame goes back to the pool, or the page is mapped to it. -/
namespace DemandPaging
open Architecture (Lawful)

variable [Architecture]

namespace Machine
variable (machine : Machine) (space : SpaceId)

theorem setDirectory_setDirectory (first second : Architecture.Directory) :
    (machine.setDirectory space first).setDirectory space second =
      machine.setDirectory space second := by
  have set_twice : (machine.directories.set (machine.space space).directory first).set
      (machine.space space).directory second =
        machine.directories.set (machine.space space).directory second := List.set_set ..
  unfold setDirectory
  exact congrArg (fun directories => { machine with directories }) set_twice

theorem setRegistry_setDirectory (registry : Registry) (directory : Architecture.Directory) :
    (machine.setRegistry space registry).setDirectory space directory =
      (machine.setDirectory space directory).setRegistry space registry := by
  unfold setDirectory
  rw [space_directory_setRegistry]
  rfl

/-- Two changes of a directory, with the registry replaced between them, are one. -/
theorem setDirectory_settled {directory : Architecture.Directory} {registry : Registry}
    {swap : SwapStore} {log : List Event}
    (assigned : (machine.space space).directory < machine.directories.length)
    (change : Architecture.Directory → Architecture.Directory) :
    setDirectory { (machine.setDirectory space directory).setRegistry space registry with swap, log } space
        (change (Machine.directory
          { (machine.setDirectory space directory).setRegistry space registry with swap, log } space)) =
      { (machine.setDirectory space (change directory)).setRegistry space registry with swap, log } := by
  change ({ ((machine.setDirectory space directory).setRegistry space registry).setDirectory space
    (change (Machine.directory ((machine.setDirectory space directory).setRegistry space registry) space))
      with swap, log } : Machine) = _
  rw [directory_setRegistry, machine.directory_setDirectory_self directory assigned,
    setRegistry_setDirectory, setDirectory_setDirectory]

def freeing (machine : Machine) : PageState → List Event
  | .swapped slot => if machine.swap.isOccupied slot then machine.log
      else .slotNotInUse slot :: machine.log
  | _ => machine.log

end Machine

namespace Kernel

inductive Attaches (start : Machine) (space : SpaceId) (snapshot : Page) (frame : FrameNumber)
    (pinned : Bool) : Except MapError Bool → Machine → Prop
  | stale (gone : (start.registry space).current? snapshot = none) :
      Attaches start space snapshot frame pinned (.ok false) start
  | refused {page first error directory}
      (current : (start.registry space).current? snapshot = some page)
      (begins : frame.start = .ok first)
      (refused : Architecture.install (start.directory space) page.addr first page.writable =
        (.error error, directory)) :
      Attaches start space snapshot frame pinned (.error error) (start.setDirectory space directory)
  | mapped {page first directory}
      (current : (start.registry space).current? snapshot = some page)
      (begins : frame.start = .ok first)
      (mapped : Architecture.install (start.directory space) page.addr first page.writable =
        (.ok (), directory)) :
      Attaches start space snapshot frame pinned (.ok true)
        ((start.setDirectory space directory).setRegistry space
          ((start.registry space).settle page frame pinned))

theorem attach_ok {space : SpaceId} {snapshot : Page} {frame : FrameNumber} {pinned : Bool}
    {start next : Machine} {result : Except MapError Bool}
    (ended : attach space snapshot frame pinned start = .ok result next) :
    Attaches start space snapshot frame pinned result next := by
  simp only [attach, bind_ok, get_ok] at ended
  obtain ⟨_, _, ⟨rfl, rfl⟩, ended⟩ := ended
  cases current : (start.registry space).current? snapshot with
  | none =>
    simp only [current, pure_ok] at ended
    obtain ⟨rfl, rfl⟩ := ended
    exact .stale current
  | some page =>
    simp only [current, bind_ok, orStop_ok] at ended
    obtain ⟨first, _, ⟨begins, rfl⟩, outcome, mid, installed, ended⟩ := ended
    obtain ⟨rfl, rfl⟩ := modifyGet_ok.1 installed
    cases mapping : Architecture.install (start.directory space) page.addr first page.writable with
    | mk outcome directory =>
      simp only [mapping] at ended
      cases outcome with
      | error error =>
        simp only [pure_ok] at ended
        obtain ⟨rfl, rfl⟩ := ended
        exact .refused current begins mapping
      | ok =>
        simp only [bind_ok, modifyRegistry_ok, pure_ok] at ended
        obtain ⟨_, _, rfl, rfl, rfl⟩ := ended
        exact .mapped current begins mapping

theorem freeSlot_ok {slot : SwapSlot} {start next : Machine} {u : Unit}
    (ended : freeSlot slot start = .ok u next) :
    next = { start with
      swap := (start.swap.free slot).2
      log := start.freeing (.swapped slot) } := by
  unfold Machine.freeing
  dsimp only
  simp only [freeSlot, bind_ok, get_ok, modify_ok] at ended
  obtain ⟨_, _, ⟨rfl, rfl⟩, _, _, rfl, ended⟩ := ended
  cases used : start.swap.isOccupied slot with
  | true =>
    have was : (start.swap.free slot).1 = true := (start.swap.free_eq slot).trans used
    simp only [was, Bool.not_true, Bool.false_eq_true, if_false, pure_ok] at ended
    obtain ⟨_, rfl⟩ := ended
    rw [if_pos rfl]
  | false =>
    have was : (start.swap.free slot).1 = false := (start.swap.free_eq slot).trans used
    simp only [was, Bool.not_false, if_true, emit_ok] at ended
    rw [if_neg Bool.false_ne_true]
    exact ended

theorem free_ok {frame : FrameNumber} {owner : SpaceId} {start next : Machine} {u : Unit}
    (ended : free frame start = .ok u next) (holds : start.pool.Holds frame owner) :
    next = { start with pool := start.pool.withdraw (frame.value - start.pool.base.value) } := by
  obtain ⟨named, _, owned⟩ := holds.index
  simp only [free, bind_ok, poolIndex_ok, get_ok] at ended
  obtain ⟨index, _, ⟨found, rfl⟩, _, _, ⟨rfl, rfl⟩, ended⟩ := ended
  have place : frame.value - start.pool.base.value = index := by
    rw [(FramePool.index_ok.1 found).1, FramePool.number_sub]
  rw [place] at owned ⊢
  simp only [owned, modifyPool_ok] at ended
  exact ended

theorem unpin_ok {frame : FrameNumber} {owner : SpaceId} {start next : Machine} {u : Unit}
    (owned : (start.pool.entry (frame.value - start.pool.base.value)).owner = some owner)
    (pinned : 0 < (start.pool.entry (frame.value - start.pool.base.value)).pins)
    (ended : unpin frame owner start = .ok u next) : next = start.unpin owner frame := by
  simp only [unpin, bind_ok, poolIndex_ok, get_ok] at ended
  obtain ⟨index, _, ⟨found, rfl⟩, _, _, ⟨rfl, rfl⟩, ended⟩ := ended
  have place : frame.value - start.pool.base.value = index := by
    rw [(FramePool.index_ok.1 found).1, FramePool.number_sub]
  rw [place] at owned pinned
  unfold Machine.unpin
  dsimp only
  rw [place]
  rw [if_neg (by simp [owned, Nat.ne_of_gt pinned])] at ended
  by_cases last : (start.pool.entry index).pins = 1
  · rw [if_pos last]
    cases released : (start.pool.entry index).released with
    | true =>
      rw [if_pos ⟨last, released⟩] at ended
      exact modifyPool_ok.1 ended
    | false =>
      rw [if_neg (by simp [released])] at ended
      simp only [last, if_true, bind_ok, modifyPool_ok, modifyRegistry_ok] at ended
      obtain ⟨_, _, rfl, rfl⟩ := ended
      rw [if_neg Bool.false_ne_true]
      rfl
  · rw [if_neg last]
    simp only [last, false_and, if_false, bind_ok, modifyPool_ok, pure_ok] at ended
    obtain ⟨_, _, rfl, _, rfl⟩ := ended
    rfl

def welcome (space : SpaceId) (page : Page) (frame : FrameNumber) (pin : Bool) :
    Faulting (Option FrameNumber) := do
  if let .swapped slot := page.state then
    freeSlot slot
    setDirty space page.addr true
  if !pin then unpin frame space
  emit (.loaded space page.addr frame page.state)
  return some frame

/-- A page that was not pinned when it settled has no mark to lose. -/
theorem unpin_settled {machine : Machine} {space : SpaceId} {page : Page} {frame : FrameNumber}
    {registry : Registry} (here : machine.registry space = registry.settle page frame false)
    (pins : (machine.pool.entry (frame.value - machine.pool.base.value)).pins = 1)
    (kept : (machine.pool.entry (frame.value - machine.pool.base.value)).released = false) :
    machine.unpin space frame =
      { machine with pool := machine.pool.setPins (frame.value - machine.pool.base.value) 0 } := by
  have unmarked : (registry.settle page frame false).unpinFrame frame =
      registry.settle page frame false := by
    have pages : ∀ page : Page, (registry.pages.insert page.addr page).insert page.addr page =
        registry.pages.insert page.addr page := fun page => SortedMap.ext fun key => by
      rw [SortedMap.get?_insert]
      split
      · rename_i same
        rw [rank_injective same, SortedMap.get?_insert_self]
      · rfl
    unfold Registry.unpinFrame Registry.settle
    dsimp only
    rw [SortedMap.get?_insert_self]
    dsimp only
    rw [SortedMap.get?_insert_self]
    exact congrArg (fun pages => Registry.mk pages _) (pages { page with
      state := .resident frame, pinned := false, generation := page.generation + 1 })
  unfold Machine.unpin
  dsimp only
  rw [if_pos pins, kept, if_neg Bool.false_ne_true, here, unmarked, ← here,
    machine.setRegistry_registry]

/-- The pins come last but for the log. -/
theorem welcome_ends {space : SpaceId} {page current : Page} {frame : FrameNumber} {pin : Bool}
    {machine mid next : Machine} {registry : Registry} {result : Except FaultError (Option FrameNumber)}
    (owned : (machine.pool.entry (frame.value - machine.pool.base.value)).owner = some space)
    (pins : (machine.pool.entry (frame.value - machine.pool.base.value)).pins = 1)
    (kept : (machine.pool.entry (frame.value - machine.pool.base.value)).released = false)
    (ended : (do
      if !pin then unpin frame space
      emit (.loaded space page.addr frame page.state)
      return some frame : Faulting (Option FrameNumber)).run mid = .ok result next)
    (pool : mid.pool = machine.pool) (here : mid.registry space = registry.settle current frame pin) :
    result = .ok (some frame) ∧ next = { mid with
      pool := if pin then machine.pool
        else machine.pool.setPins (frame.value - machine.pool.base.value) 0
      log := .loaded space page.addr frame page.state :: mid.log } := by
  cases pin with
  | true =>
    simp only [Bool.not_true, Bool.false_eq_true, if_false, run_lift_ok, emit_ok,
      run_pure_ok] at ended
    obtain ⟨_, _, rfl, rfl, rfl⟩ := ended
    rw [if_pos rfl, ← pool]
    exact ⟨rfl, rfl⟩
  | false =>
    simp only [Bool.not_false, if_true, run_lift_ok, emit_ok, run_pure_ok] at ended
    obtain ⟨_, _, unpinned, _, _, rfl, rfl, rfl⟩ := ended
    rw [← pool] at owned pins kept
    rw [if_neg Bool.false_ne_true, ← pool,
      unpin_ok owned (Nat.lt_of_lt_of_eq Nat.one_pos pins.symm) unpinned,
      unpin_settled here pins kept]
    exact ⟨rfl, rfl⟩

theorem welcome_ok {space : SpaceId} {page current : Page} {frame : FrameNumber} {pin : Bool}
    {machine next : Machine} (pinned : List (VirtualAddress × FrameNumber))
    {directory : Architecture.Directory} {result : Except FaultError (Option FrameNumber)}
    (present : space < machine.spaces.length)
    (assigned : (machine.space space).directory < machine.directories.length)
    (owned : (machine.pool.entry (frame.value - machine.pool.base.value)).owner = some space)
    (pins : (machine.pool.entry (frame.value - machine.pool.base.value)).pins = 1)
    (kept : (machine.pool.entry (frame.value - machine.pool.base.value)).released = false)
    (ended : (welcome space page frame pin).run ((machine.setDirectory space directory).setRegistry
      space ((machine.registry space).settle current frame pin)) = .ok result next) :
    result = .ok (some frame) ∧ ∃ log, Log.Grows (machine.freeing page.state) log ∧
      next = { machine.arrive ⟨space, page, frame, pinned⟩ current directory pin with log } := by
  have registered : ((machine.setDirectory space directory).setRegistry space
      ((machine.registry space).settle current frame pin)).registry space =
        (machine.registry space).settle current frame pin :=
    Machine.registry_setRegistry_self _ _ present
  unfold welcome at ended
  cases state : page.state with
  | swapped slot =>
    simp only [state, run_lift_ok] at ended
    obtain ⟨_, _, freed, _, _, dirtied, ended⟩ := ended
    cases freeSlot_ok freed
    cases modify_ok.1 dirtied
    rw [← state,
      Machine.setDirectory_settled machine space assigned (Architecture.setDirty · page.addr true)] at ended
    obtain ⟨rfl, rfl⟩ := welcome_ends owned pins kept ended rfl registered
    refine ⟨rfl, .loaded space page.addr frame page.state :: _,
      (Log.Grows.refl _).cons (fun _ same => by cases same), ?_⟩
    unfold Machine.arrive Machine.marked
    rw [state]
    rfl
  | _ =>
    simp only [state] at ended
    rw [← state] at ended
    obtain ⟨rfl, rfl⟩ := welcome_ends owned pins kept ended rfl registered
    refine ⟨rfl, .loaded space page.addr frame page.state :: _,
      (Log.Grows.refl _).cons (fun _ same => by cases same), ?_⟩
    unfold Machine.arrive Machine.marked
    dsimp only
    rw [state]
    rfl

end Kernel

def Ledger.keep (ledger : Ledger) (keeping : Bool) (pin : Pin) : Ledger :=
  { ledger with pins := if keeping then pin ::ₘ ledger.pins else ledger.pins }

/-- What a page that was to be made resident comes to: it is in the frame that is answered, or the
ledger is as it was. -/
def Brings (ledger : Ledger) (space : SpaceId) (addr : VirtualAddress) (pin : Bool) :
    Except FaultError (Option FrameNumber) → Moment → Prop
  | .ok (some frame), now => now.ledger = ledger.keep pin ⟨space, addr, frame⟩ ∧
      ∃ writable, now.machine.placement space addr = some (frame, writable)
  | _, now => now.ledger = ledger

/-- A page that is not to stay pinned leaves no trace in the ledger. -/
theorem Brings.unpinned {ledger : Ledger} {space : SpaceId} {addr : VirtualAddress}
    {result : Except FaultError (Option FrameNumber)} {now : Moment}
    (brings : Brings ledger space addr false result now) : now.ledger = ledger := by
  unfold Brings at brings
  split at brings
  · exact brings.1
  · exact brings

variable [Lawful] {scope : Scope} {start : Moment} {flights : List Flight}
  {pins : Multiset Pin} {load : Load}

namespace Kernel

def conclude (load : Load) (pin : Bool) : Except FaultError Unit → Faulting (Option FrameNumber)
  | .error error => do
      free load.frame
      if ((← get).registry load.space).isStale load.page then return none
      throw error
  | .ok () => do
      match ← attach load.space load.page load.frame pin with
      | .ok false =>
          free load.frame
          return none
      | .error error =>
          free load.frame
          throw (.map error)
      | .ok true => welcome load.space load.page load.frame pin

omit [Lawful] in
theorem load_eq (others : Interference) (space : SpaceId) (page : Page) (pin : Bool)
    (pinned : List (VirtualAddress × FrameNumber)) :
    Kernel.load others space page pin pinned = (do
      if page.backing = .unclassified then throw (.unclassified page.addr)
      let frame ← allocate space false
      let outcome ← attempt (populate others ⟨space, page, frame, pinned⟩)
      conclude ⟨space, page, frame, pinned⟩ pin outcome) := by
  unfold Kernel.load
  dsimp only
  refine if_congr Iff.rfl (congrArg (_ >>= ·) (funext fun _ => ?_)) ?_ <;>
  · refine congrArg (_ >>= ·) (funext fun frame => congrArg (_ >>= ·) (funext fun outcome => ?_))
    cases outcome <;> rfl

end Kernel

inductive Machine.Settles (machine : Machine) (load : Load) (pin : Bool) :
    Except FaultError Unit → Except FaultError (Option FrameNumber) → Machine → Prop
  /-- The page has changed: the frame goes back to the pool, whether or not it could be read. -/
  | lost {outcome} (stale : (machine.registry load.space).isStale load.page = true) :
      machine.Settles load pin outcome (.ok none) { machine with
        pool := machine.pool.withdraw (load.frame.value - machine.pool.base.value) }
  | failed {error} (fresh : (machine.registry load.space).isStale load.page = false) :
      machine.Settles load pin (.error error) (.error error) { machine with
        pool := machine.pool.withdraw (load.frame.value - machine.pool.base.value) }
  | refused {page first error directory}
      (current : (machine.registry load.space).current? load.page = some page)
      (begins : load.frame.start = .ok first)
      (refused : Architecture.install (machine.directory load.space) page.addr first page.writable =
        (.error error, directory)) :
      machine.Settles load pin (.ok ()) (.error (.map error)) {
        machine.setDirectory load.space directory with
        pool := machine.pool.withdraw (load.frame.value - machine.pool.base.value) }
  | attached {page first directory log}
      (current : (machine.registry load.space).current? load.page = some page)
      (begins : load.frame.start = .ok first)
      (mapped : Architecture.install (machine.directory load.space) page.addr first page.writable =
        (.ok (), directory))
      (grows : Log.Grows (machine.freeing load.page.state) log) :
      machine.Settles load pin (.ok ()) (.ok (some load.frame))
        { machine.arrive load page directory pin with log }

namespace Kernel

/-- A load under way settles as soon as reading has ended. -/
theorem conclude_ok {pin : Bool} {arrived : Nat} {outcome : Except FaultError Unit}
    {result : Except FaultError (Option FrameNumber)} {next : Machine} (ready : scope.Ready start)
    (ledger : start.ledger = ⟨⟨load, arrived⟩ :: flights, pins⟩)
    (ended : (conclude load pin outcome).run start.machine = .ok result next) :
    start.machine.Settles load pin outcome result next := by
  have member : load ∈ start.ledger.loads := by
    rw [ledger]
    exact .head _
  have kept : _ ∈ start.ledger.keepers start.machine.callers := Ledger.mem_keepers member
  have holds := ready.held.kept kept
  cases outcome with
  | error error =>
    obtain ⟨_, mid, freed, ended⟩ := run_lift_ok.1 ended
    cases free_ok freed holds
    change (if _ then _ else _ : Faulting (Option FrameNumber)).run _ = _ at ended
    split at ended
    · rename_i stale
      obtain ⟨rfl, rfl⟩ := run_pure_ok.1 ended
      exact .lost stale
    · rename_i fresh
      obtain ⟨rfl, rfl⟩ := run_throw_ok.1 ended
      exact .failed (eq_false_of_ne_true fresh)
  | ok =>
    obtain ⟨outcome, mid, attached, ended⟩ := run_lift_ok.1 ended
    have fair := ready.fair load member
    cases attach_ok attached with
    | stale gone =>
      obtain ⟨_, _, freed, ended⟩ := run_lift_ok.1 ended
      obtain ⟨rfl, rfl⟩ := run_pure_ok.1 ended
      cases free_ok freed holds
      exact .lost (by rw [Registry.isStale, gone]; rfl)
    | refused current begins refused =>
      obtain ⟨_, _, freed, ended⟩ := run_lift_ok.1 ended
      obtain ⟨rfl, rfl⟩ := run_throw_ok.1 ended
      cases free_ok freed holds
      exact .refused current begins refused
    | mapped current begins mapped =>
      obtain ⟨named, inside, owned⟩ := holds.index
      obtain ⟨rfl, log, grows, rfl⟩ := welcome_ok load.pinned fair.present
        (ready.present fair.present) owned (ready.held.kept_pins kept named)
        (ready.held.sound.ring.1 inside).2 ended
      exact .attached current begins mapped grows

end Kernel

/-- The log tells of a slot that is freed without being in use, before it is. -/
theorem Scope.freeing (scope : Scope) {ledger : Ledger} {machine : Machine} {state : PageState}
    (named : ∀ slot, state = .swapped slot →
      (∃ space addr page, (machine.registry space).pages.get? addr = some page ∧
          page.state = .swapped slot) ∨
        ∃ load ∈ ledger.loads, ∃ page, (machine.registry load.space).current? load.page = some page ∧
          load.page.state = .swapped slot) :
    Path scope.may ⟨ledger, machine⟩ ⟨ledger, { machine with log := machine.freeing state }⟩ := by
  unfold Machine.freeing
  split
  · rename_i slot
    split
    · exact .refl _
    · rename_i unused
      exact .of_move scope.quiet (.misfree (Bool.not_eq_true _ ▸ unused) (named slot rfl))
  · exact .refl _

/-- However a load settles, it does so by moves. -/
theorem Machine.Settles.moves {pin : Bool} {arrived : Nat} {outcome : Except FaultError Unit}
    {result : Except FaultError (Option FrameNumber)} {next : Machine}
    (settles : start.machine.Settles load pin outcome result next) (ready : scope.Ready start)
    (settling : scope.may (.settle (flights.map (·.load))))
    (ledger : start.ledger = ⟨⟨load, arrived⟩ :: flights, pins⟩)
    (done : outcome = .ok () → arrived = pageSize) :
    ∃ last, Path scope.may start ⟨last, next⟩ ∧
      Brings ⟨flights, pins⟩ load.space load.page.addr pin result ⟨last, next⟩ := by
  obtain ⟨_, machine⟩ := start
  cases ledger
  have fair := ready.fair load (.head _)
  cases settles with
  | lost | failed => exact ⟨_, .of_move settling .abandon, rfl⟩
  | @refused page first error directory current begins refused =>
    obtain ⟨found, _⟩ := Consistent.current?_eq_some current
    have is_page : page.addr.IsPage := by
      rw [(ready.sound load.space).keyed found]
      exact fair.page
    have idle := machine.idle_directory load.space fun sane =>
      have kept : Lawful.Sane (Architecture.install (machine.directory load.space) page.addr
        first page.writable).2 := Lawful.sane_install sane is_page
      have alike := Lawful.install_refused sane is_page refused
      ⟨by rwa [refused] at kept, alike⟩
    exact ⟨_, (scope.idles _ idle).trans (.of_move settling .abandon), rfl⟩
  | @attached page first directory log current begins mapped grows =>
    cases done rfl
    obtain ⟨found, _⟩ := Consistent.current?_eq_some current
    have here := (ready.sound load.space).keyed found
    have told : Path scope.may ⟨⟨⟨load, pageSize⟩ :: flights, pins⟩, machine⟩
        ⟨⟨⟨load, pageSize⟩ :: flights, pins⟩,
          { machine with log := machine.freeing load.page.state }⟩ :=
      scope.freeing fun slot state => .inr ⟨load, .head _, page, current, state⟩
    have attach : Move (.settle (flights.map (·.load)))
        ⟨⟨⟨load, pageSize⟩ :: flights, pins⟩,
          { machine with log := machine.freeing load.page.state }⟩
        ⟨(Ledger.mk flights pins).keep pin ⟨load.space, load.page.addr, load.frame⟩, _⟩ :=
      .attach current begins mapped
    refine ⟨_, told.trans (.next settling attach
      (.of_move scope.quiet (.idle (Machine.idle_logs _ grows)))), rfl, page.writable, ?_⟩
    have settled : (machine.arrive load page directory pin).registry load.space =
        (machine.registry load.space).settle page load.frame pin :=
      Machine.registry_setRegistry_self _ _ fair.present
    change ((machine.arrive load page directory pin).registry load.space).placement _ = _
    rw [settled, ← here]
    exact (Registry.placement_insert _ { page with
      state := .resident load.frame, pinned := pin, generation := page.generation + 1 } _ _).trans
        (if_pos rfl)

namespace Kernel

/-- Loading a page is a run of moves, whatever other parties do meanwhile. -/
theorem load_follows {others variant : Interference} {space : SpaceId} {page : Page} {pin : Bool}
    {pinned : List (VirtualAddress × FrameNumber)}
    (tame : Tame scope start.ledger.loads others variant) (present : space < scope.spaces)
    (owed : start.ledger.Owes ⟨space, pinned⟩)
    (current : (start.machine.registry space).pages.get? page.addr = some page)
    (away : page.isResident = false) :
    Follows scope start (Kernel.load others space page pin pinned).run
      (Kernel.load variant space page pin pinned).run (Brings start.ledger space page.addr pin) := by
  rw [load_eq, load_eq]
  dsimp only
  split
  · exact .run_fail rfl
  · rename_i classified
    refine .run_lift (allocate_follows present current away classified pinned)
      fun frame now ⟨ledger, _⟩ => .of_ready fun ready => ?_
    have fits := (ready.fair ⟨space, page, frame, pinned⟩ (by rw [ledger]; exact .head _)).fits
    refine .run_lift (populate_follows tame.toMannered away fits ledger rfl owed)
      fun outcome filled ⟨progress, ledger, done⟩ => .of_ok fun ready _ _ ended => ?_
    exact (conclude_ok ready ledger ended).moves ready tame.settle ledger done

end Kernel

end DemandPaging
