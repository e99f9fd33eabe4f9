import DemandPaging.Proofs.LostRaces
import DemandPaging.Proofs.Touches

/-! Progress. A process whose fault was resolved gets through when it tries again, and pages of a range that
are pinned are brought in at the first attempt, unless other parties spoil it. -/
namespace DemandPaging
open Architecture (Lawful Obliging)

section
variable [Architecture]

/-- A process that faults where the kernel resolves the fault gets through at the next try, to the frame
that its page is in. -/
def Machine.Retries (machine : Machine) : Prop :=
  ∀ {space : SpaceId} {addr : VirtualAddress} {kind : Access} {fault : PageFault} {stackPointer : Nat}
    {mid next : Machine}, space < machine.spaces.length → Canonical addr.value →
    Kernel.tryAccess space addr kind machine = .ok (.error fault) mid →
    Kernel.handleFault .none space fault stackPointer mid = .ok (.ok ()) next →
    ∃ page frame last, (next.registry space).pages.get? addr.pageBase = some page ∧
      page.state = .resident frame ∧
      Kernel.tryAccess space addr kind next = .ok (.ok ⟨frame.value * pageSize + addr.pageOffset⟩) last

/-- An access that the kernel is to let through at `start`, and the pages its call has pinned by then. -/
structure Attempt where
  space : SpaceId
  address : Nat
  access : Access
  pin : Bool
  pinned : List (VirtualAddress × FrameNumber)
  start : Machine

/-- What the kernel does in an attempt. It answers no frame if it has lost a race. -/
def Attempt.run (attempt : Attempt) (others : Interference) :
    Kernel (Except FaultError (Option FrameNumber)) :=
  (Kernel.resolve others attempt.space attempt.address attempt.access attempt.pin attempt.pinned).run

/-- The attempts that operations come to when they begin at `machine`. -/
inductive Machine.Attempts (machine : Machine) (others : Interference) : Attempt → Prop
  | fault {space : SpaceId} {fault : PageFault} (stackPointer : Nat) (absent : fault.present = false) :
      Attempts machine others
        ⟨space, fault.address, fault.access, false, [], machine.faulted space stackPointer⟩
  /-- The first page of a stack. -/
  | stack {space : SpaceId} {base page registry}
      (located : Kernel.firstStackPage machine.config.userTop = .ok base)
      (created : (machine.registry space).create base .zero true = .ok (page, registry)) :
      Attempts machine others ⟨space, base.value, .write, false, [],
        (machine.setRegistry space registry).setStackPointer space machine.config.userTop⟩
  /-- The first page of a range. -/
  | first (space : SpaceId) (addr : VirtualAddress) (access : Access) :
      Attempts machine others ⟨space, addr.pageBase.value, access, true, [], machine⟩
  /-- The next page, when one has been pinned. -/
  | onward {attempt : Attempt} {frame next} (before : Attempts machine others attempt)
      (pins : attempt.pin = true) (ran : attempt.run others attempt.start = .ok (.ok (some frame)) next) :
      Attempts machine others { attempt with
        address := attempt.address + pageSize
        pinned := attempt.pinned ++ [(⟨attempt.address⟩, frame)]
        start := next }
  /-- The same page, when a race was lost. -/
  | again {attempt : Attempt} {next} (before : Attempts machine others attempt)
      (pins : attempt.pin = true) (ran : attempt.run others attempt.start = .ok (.ok none) next) :
      Attempts machine others { attempt with start := next }

/-- If nobody interferes, no race is lost, and each page of a range is brought in at the first attempt. -/
structure Machine.WinsRaces (machine : Machine) : Prop where
  won : ∀ {attempt : Attempt} {next : Machine}, attempt.space < machine.spaces.length →
    machine.Attempts .none attempt → attempt.run .none attempt.start ≠ .ok (.ok none) next
  once : ∀ {attempt : Attempt}, attempt.space < machine.spaces.length → machine.Attempts .none attempt →
    attempt.pin = true → ∀ tries,
      (Kernel.pinPage .none attempt.space attempt.address attempt.access attempt.pinned (tries + 1)).run
          attempt.start =
        (Kernel.pinPage .none attempt.space attempt.address attempt.access attempt.pinned 1).run attempt.start

variable [Lawful]

/-- A race is lost only if in a turn of other parties during the attempt one of their operations attaches,
detaches or unregisters the page. -/
def Machine.LosesWhenSpoilt (machine : Machine) (rule : Rule) (loads : List Load) (others : Interference) :
    Prop :=
  ∀ {attempt : Attempt} {next : Machine}, attempt.space < machine.spaces.length →
    machine.Attempts others attempt → attempt.run others attempt.start = .ok (.ok none) next →
    ∃ hook point resumed ledger, Reenters attempt.run others attempt.start hook point ∧
      others.turn hook point = .ok () resumed ∧ ledger.loads = hook.load?.toList ++ loads ∧
      Spoils rule ledger attempt.space (VirtualAddress.mk attempt.address).pageBase point resumed

/-! A process that tries again. -/

omit [Lawful] in
theorem Architecture.verdict_error {addr : VirtualAddress} {kind : Access} {fault : PageFault}
    {mapping : Option (PhysicalAddress × Bool)} (refused : verdict addr kind mapping = .error fault) :
    fault.address = addr.value ∧ fault.access = kind := by
  unfold verdict at refused
  split at refused
  · cases refused
    exact ⟨rfl, rfl⟩
  · split at refused
    · cases refused
      exact ⟨rfl, rfl⟩
    · cases refused

theorem LeftToManager.retries [Obliging] {machine : Machine} (trusted : LeftToManager ⟨{}, machine⟩) :
    machine.Retries := by
  intro space addr kind fault stackPointer mid next present canonical faulted handled
  have follows : Follows (Scope.answering machine.spaces.length) ⟨{}, machine⟩
      (Kernel.tryAccess space addr kind) (Kernel.tryAccess space addr kind) _ :=
    Kernel.tryAccess_follows canonical present
  obtain ⟨ledger, path, same, _⟩ := (follows trusted.ready).2 _ _ faulted
  have same : ledger = {} := same
  subst same
  have there : LeftToManager ⟨{}, mid⟩ := (trusted.ready.path path).kept
  have known : space < mid.spaces.length := Nat.lt_of_lt_of_le present (trusted.ready.path path).known
  have told : fault.address = addr.value ∧ fault.access = kind := by
    obtain ⟨refused, _⟩ := Kernel.modifyGet_ok.1 faulted
    have refused : _ = Except.error fault := refused.symm
    exact Architecture.verdict_error
      ((Lawful.access_result (trusted.mapped.sane present) canonical).symm.trans refused)
  obtain ⟨done, frame, writable, placed, permitted⟩ := Kernel.handleFault_lands there known handled
  rw [told.1] at placed
  rw [told.2] at permitted
  -- The directory shows the page where it is, with the permission that was asked for.
  obtain ⟨page, found, resident, _⟩ := Registry.placement_eq_some.1 placed
  have present := next.space_present found
  have mapping := done.mapped.shows present (VirtualAddress.isPage_pageBase canonical)
  have through : (Architecture.access (next.directory space) addr kind).1 =
      .ok ⟨frame.value * pageSize + addr.pageOffset⟩ := by
    rw [Lawful.access_result (done.mapped.sane present) canonical, mapping, Registry.expected]
    have placed : (next.registry space).placement addr.pageBase = some (frame, writable) := placed
    rw [placed]
    have allowed : ¬(kind = .write ∧ (!writable) = true) := by
      rintro ⟨write, denied⟩
      rw [permitted write] at denied
      cases denied
    exact if_neg allowed
  exact ⟨page, frame, _, found, resident, Kernel.modifyGet_ok.2 ⟨through.symm, rfl⟩⟩

/-! Attempts. -/

omit [Architecture] [Lawful] in
/-- A page that was pinned is one of those that the call has pinned. -/
theorem Ledger.Owes.onward {ledger : Ledger} {space : SpaceId} {pinned : List (VirtualAddress × FrameNumber)}
    (owed : ledger.Owes ⟨space, pinned⟩) (page : VirtualAddress) (frame : FrameNumber) :
    (ledger.keep true ⟨space, page, frame⟩).Owes ⟨space, pinned ++ [(page, frame)]⟩ := by
  have owed : ledger.pins = (PinGuard.mk space pinned).pins + (ledger.loads.map Load.pins).sum := owed
  change _ ::ₘ ledger.pins = (PinGuard.mk space (pinned ++ _)).pins + (ledger.loads.map Load.pins).sum
  rw [PinGuard.pins_append, Multiset.cons_add, ← owed]

section
variable {rule : Rule} {machine : Machine} {others : Interference} {attempt : Attempt} {first ledger : Ledger}

structure Attempt.Begins (attempt : Attempt) (rule : Rule) (machine : Machine) (ledger : Ledger) : Prop extends
    Consistent ⟨ledger, attempt.start⟩ where
  within : machine.Within attempt.start
  sectors : 0 < attempt.start.swap.disk.sectorSize
  mapped : rule.Trusting → Mapped attempt.start
  owed : ledger.Owes ⟨attempt.space, attempt.pinned⟩
  aligned : attempt.pin = true → attempt.address % pageSize = 0

theorem Attempt.Begins.of_ready {scope : Scope} (ready : scope.Ready ⟨ledger, attempt.start⟩)
    (known : machine.spaces.length ≤ scope.spaces ∧ machine.files.length ≤ scope.files)
    (trusting : rule.Trusting → scope.trusting) (owed : ledger.Owes ⟨attempt.space, attempt.pinned⟩)
    (aligned : attempt.pin = true → attempt.address % pageSize = 0) :
    attempt.Begins rule machine ledger where
  toConsistent := ready.toConsistent
  within := ⟨Nat.le_trans known.1 ready.known, Nat.le_trans known.2 ready.opened⟩
  sectors := ready.sectors
  mapped := ready.mapped ∘ trusting
  owed
  aligned

theorem Attempt.Begins.ready (begins : attempt.Begins rule machine ledger) :
    (rule.scope ⟨ledger, attempt.start⟩ fun _ => False).Ready ⟨ledger, attempt.start⟩ :=
  ⟨begins.toConsistent, Nat.le_refl _, Nat.le_refl _, begins.sectors, begins.mapped, .refl _⟩

/-- Parties that keep to the moves do so later on. -/
theorem Interference.Moves.onward (moves : others.Moves rule ⟨first, machine⟩)
    (same : ledger.loads = first.loads) (begins : attempt.Begins rule machine ledger) :
    others.Moves rule ⟨ledger, attempt.start⟩ := by
  intro hook now after within between under ended
  refine moves hook ?_ between (under.trans (congrArg (_ ++ ·) same)) ended
  exact ⟨Nat.le_trans begins.within.1 within.1, Nat.le_trans begins.within.2 within.2⟩

theorem Attempt.Begins.tame (begins : attempt.Begins rule machine ledger)
    (moves : others.Moves rule ⟨first, machine⟩) (same : ledger.loads = first.loads) :
    Tame (rule.scope ⟨ledger, attempt.start⟩ fun _ => False) ledger.loads others others :=
  (moves.onward same begins).tame rfl fun _ _ _ _ _ => .inl rfl

theorem Attempt.Begins.follows (begins : attempt.Begins rule machine ledger) {variant : Interference}
    (present : attempt.space < machine.spaces.length)
    (tame : Tame (rule.scope ⟨ledger, attempt.start⟩ fun _ => False) ledger.loads others variant) :
    Follows (rule.scope ⟨ledger, attempt.start⟩ fun _ => False) ⟨ledger, attempt.start⟩
      (attempt.run others) (attempt.run variant)
      (Brings ledger attempt.space (VirtualAddress.mk attempt.address).pageBase attempt.pin) :=
  Kernel.resolve_follows tame (Nat.lt_of_lt_of_le present begins.within.1) begins.owed

/-- All moves but those of callers who reach into page directories. -/
def Scope.sheltered (trusting : Prop) (machine : Machine) : Scope where
  __ := Scope.calls machine.spaces.length trusting
  files := machine.files.length
  kept _ := True
  keeps _ _ := id

/-- Wherever an attempt begins, the operation holds nothing but the pins it has made. -/
theorem Machine.Attempts.begins (attempts : machine.Attempts others attempt)
    (between : BetweenOperations rule ⟨first, machine⟩) (moves : others.Moves rule ⟨first, machine⟩)
    (present : attempt.space < machine.spaces.length) :
    ∃ ledger, ledger.loads = first.loads ∧ attempt.Begins rule machine ledger := by
  have quiet : (rule.scope ⟨first, machine⟩ fun _ => False).Ready ⟨first, machine⟩ := between.ready
  have whole : machine.spaces.length ≤ machine.spaces.length ∧ machine.files.length ≤ machine.files.length :=
    ⟨Nat.le_refl _, Nat.le_refl _⟩
  induction attempts with
  | @fault space fault stackPointer absent =>
    have path : Path (rule.scope ⟨first, machine⟩ fun _ => False).may ⟨first, machine⟩
        ⟨first, machine.faulted space stackPointer⟩ :=
      (Scope.idles _ _ (machine.idle_stats (by rfl))).trans
        (Scope.idles _ _ (Machine.idle_stackPointer _ space stackPointer))
    exact ⟨first, rfl, .of_ready (quiet.path path) whole id (between.balanced.owes space) nofun⟩
  | @stack space base page registry located created =>
    obtain ⟨accepted, fresh, rfl⟩ := Registry.create_ok created
    have register : Move (.register first.loads space page.addr) ⟨first, machine⟩
        ⟨first, machine.setRegistry space ((machine.registry space).add page)⟩ :=
      .register accepted (by rw [fresh]) (by rw [fresh]) (by rw [fresh]) (by rw [fresh]; trivial)
    have path : Path (· ≠ .meddle) ⟨first, machine⟩ ⟨first, Machine.setStackPointer
        (machine.setRegistry space ((machine.registry space).add page)) space machine.config.userTop⟩ := by
      refine .next ?_ register
        (.of_move ?_ (.idle (Machine.idle_stackPointer _ space machine.config.userTop))) <;> nofun
    have ready : (Scope.sheltered rule.Trusting machine).Ready ⟨first, machine⟩ :=
      ⟨between.toConsistent, Nat.le_refl _, Nat.le_refl _, between.sectors, between.mapped, trivial⟩
    exact ⟨first, rfl, .of_ready (ready.path path) whole id (between.balanced.owes space) nofun⟩
  | first space addr access =>
    exact ⟨first, rfl, .of_ready quiet whole id (between.balanced.owes space) fun _ => addr.pageBase_mod⟩
  | @onward attempt frame next before pins ran ih =>
    obtain ⟨ledger, same, begins⟩ := ih present
    obtain ⟨last, path, kept, _⟩ := (begins.follows present (begins.tame moves same) begins.ready).2 _ _ ran
    have base : (VirtualAddress.mk attempt.address).pageBase = ⟨attempt.address⟩ := by
      rw [VirtualAddress.pageBase, begins.aligned pins, Nat.sub_zero]
    have kept : last = ledger.keep true ⟨attempt.space, ⟨attempt.address⟩, frame⟩ := by
      rw [← base, ← pins]
      exact kept
    subst kept
    refine ⟨ledger.keep true ⟨attempt.space, ⟨attempt.address⟩, frame⟩, same,
      .of_ready (begins.ready.path path) begins.within id (begins.owed.onward _ _) fun _ => ?_⟩
    change (attempt.address + pageSize) % pageSize = 0
    rw [Nat.add_mod_right]
    exact begins.aligned pins
  | @again attempt next before pins ran ih =>
    obtain ⟨ledger, same, begins⟩ := ih present
    obtain ⟨last, path, kept⟩ := (begins.follows present (begins.tame moves same) begins.ready).2 _ _ ran
    have kept : last = ledger := kept
    subst kept
    exact ⟨last, same, .of_ready (begins.ready.path path) begins.within id begins.owed begins.aligned⟩

/-- Where an attempt loses its race, its page has gone stale in a turn of other parties. -/
theorem Attempt.Begins.lost (begins : attempt.Begins rule machine ledger)
    (moves : others.Moves rule ⟨first, machine⟩) (same : ledger.loads = first.loads)
    (present : attempt.space < machine.spaces.length) {next : Machine}
    (ran : attempt.run others attempt.start = .ok (.ok none) next) :
    ∃ load : Load, ∃ hook point, load.space = attempt.space ∧
      load.page.addr = (VirtualAddress.mk attempt.address).pageBase ∧ others.Upsets load hook point ∧
      Reenters attempt.run others attempt.start hook point := by
  obtain ⟨load, here, there, halts⟩ := Kernel.resolve_lost (begins.tame moves same) begins.ready
    (Nat.lt_of_lt_of_le present begins.within.1) begins.owed ran
  obtain ⟨hook, point, upsets, reenters⟩ := halts.reenters ran
  exact ⟨load, hook, point, here, there, upsets, reenters⟩

theorem Machine.Attempts.won {next : Machine} (attempts : machine.Attempts .none attempt)
    (between : BetweenOperations rule ⟨first, machine⟩) (sensible : rule.Sensible)
    (present : attempt.space < machine.spaces.length) :
    attempt.run .none attempt.start ≠ .ok (.ok none) next := by
  intro ran
  have orderly := Interference.orderly_none rule first.loads machine
  have moves : Interference.none.Moves rule ⟨first, machine⟩ := orderly.moves sensible
  obtain ⟨ledger, same, begins⟩ := attempts.begins between moves present
  obtain ⟨load, hook, point, _, _, ⟨fresh, resumed, turned, stale⟩, _⟩ :=
    begins.lost moves same present ran
  have idle : resumed = point := by
    cases hook with
    | file => exact (Kernel.pure_ok.1 turned).2.symm
    | sector => exact (Kernel.pure_ok.1 turned).2.symm
  rw [idle, fresh] at stale
  cases stale

theorem BetweenOperations.wins_races (between : BetweenOperations rule ⟨first, machine⟩)
    (sensible : rule.Sensible) :
    machine.WinsRaces where
  won present attempts := attempts.won between sensible present
  once {attempt} present attempts pins tries := by
    have steps (tries : Nat) : (Kernel.pinPage .none attempt.space attempt.address attempt.access
        attempt.pinned (tries + 1)).run = attempt.run .none >>= fun
          | .ok (some frame) => pure (.ok frame)
          | .ok none =>
              (Kernel.pinPage .none attempt.space attempt.address attempt.access attempt.pinned tries).run
          | .error error => pure (.error error) := by
      rw [Attempt.run, pins]
      refine (ExceptT.run_bind _ _).trans (congrArg (_ >>= ·) (funext fun result => ?_))
      match result with
      | .ok (some frame) => rfl
      | .ok none => rfl
      | .error error => rfl
    rw [steps, steps]
    cases ran : attempt.run .none attempt.start with
    | error cause stopped => rw [Kernel.bind_of_error ran, Kernel.bind_of_error ran]
    | ok result next =>
      rw [Kernel.bind_of_ok ran, Kernel.bind_of_ok ran]
      match result with
      | .ok (some frame) => rfl
      | .ok none => exact absurd ran (attempts.won between sensible present)
      | .error error => rfl

theorem BetweenOperations.loses_when_spoilt (between : BetweenOperations rule ⟨first, machine⟩)
    (sensible : rule.Sensible) (orderly : others.Orderly rule first.loads machine) :
    machine.LosesWhenSpoilt rule first.loads others := by
  intro attempt next present attempts ran
  have moves : others.Moves rule ⟨first, machine⟩ := orderly.moves sensible
  obtain ⟨ledger, same, begins⟩ := attempts.begins between moves present
  obtain ⟨load, hook, point, here, there, ⟨fresh, resumed, turned, stale⟩, reenters⟩ :=
    begins.lost moves same present ran
  have runs {variant : Interference} (tame : Tame (rule.scope ⟨ledger, attempt.start⟩ fun _ => False)
      ledger.loads others variant) := begins.follows present tame begins.ready
  obtain ⟨under, waits, there_between, path⟩ := (moves.onward same begins).visits runs reenters
  have reached := begins.ready.path path
  have within : machine.Within point :=
    ⟨Nat.le_trans begins.within.1 reached.known, Nat.le_trans begins.within.2 reached.opened⟩
  have waits : under.loads = hook.load?.toList ++ first.loads := waits.trans (congrArg (_ ++ ·) same)
  have spoils := (orderly hook point within).spoils sensible waits there_between turned fresh stale
  rw [there, here] at spoils
  exact ⟨hook, point, resumed, under, reenters, turned, waits, spoils⟩

end

/-- Faults and pins make progress. If nobody interrupts the run, a process whose fault was resolved gets
through at the next try, and no race is lost. If other parties do, a race is lost to an operation of theirs. -/
theorem Reached.progresses [Obliging] {machine later : Machine} {rule : Rule} {loads : List Load}
    {others : Interference} (reached : Reached .careful [] machine) (sensible : rule.Sensible)
    (interrupted : Reached rule loads later) (orderly : others.Orderly rule loads later) :
    machine.Retries ∧ machine.WinsRaces ∧ later.LosesWhenSpoilt rule loads others := by
  have trusted := reached.leftToManager
  have between : BetweenOperations .careful ⟨{}, machine⟩ :=
    ⟨trusted.toConsistent, rfl, trusted.sectors, fun _ => trusted.mapped⟩
  obtain ⟨ledger, rfl, there, _⟩ := Reached.keeps (fun _ => True) sensible (fun _ => trivial)
    (fun _ _ _ _ _ => trivial) (fun _ _ _ _ => trivial) interrupted
  exact ⟨trusted.retries, between.wins_races Rule.sensible_careful, there.loses_when_spoilt sensible orderly⟩

end

section
attribute [local instance] Architecture.small

/-- A fault on a page of a file is resolved, and an attempt loses its race when the page is released while
the file is read. -/
theorem fileMapped_progresses :
    (∃ mid next, Kernel.tryAccess 0 ⟨0x1008⟩ .read fileMapped = .ok (.error ⟨0x1008, .read, false⟩) mid ∧
      Kernel.handleFault .none 0 ⟨0x1008, .read, false⟩ 0 mid = .ok (.ok ()) next) ∧
    (∃ next, Attempt.run ⟨0, 0x1000, .read, true, [], fileMapped⟩ givingUp fileMapped = .ok (.ok none) next) ∧
    Reached .careful [] fileMapped ∧ Rule.offered.Sensible ∧ Reached .offered [] fileMapped ∧
    givingUp.Orderly .offered [] fileMapped ∧
    fileMapped.Retries ∧ fileMapped.WinsRaces ∧ fileMapped.LosesWhenSpoilt .offered [] givingUp := by
  have reached : Reached .careful [] fileMapped :=
    twoFrames_reached.carried Rule.careful_idle (by decide +kernel)
  have orderly : givingUp.Orderly .offered [] fileMapped := Interference.orderly_performing _ _ _ _
  have faulted : (Kernel.tryAccess 0 ⟨0x1008⟩ .read).answer? fileMapped =
      some (.error ⟨0x1008, .read, false⟩) := by decide +kernel
  have handled : (Kernel.handleFault .none 0 ⟨0x1008, .read, false⟩ 0).answer?
      ((Kernel.tryAccess 0 ⟨0x1008⟩ .read).leaves fileMapped) = some (.ok ()) := by decide +kernel
  have lost : (Attempt.run ⟨0, 0x1000, .read, true, [], fileMapped⟩ givingUp).answer? fileMapped =
      some (.ok none) := by decide +kernel
  exact ⟨⟨_, _, Kernel.ok_of_answer? faulted, Kernel.ok_of_answer? handled⟩, ⟨_, Kernel.ok_of_answer? lost⟩,
    reached, Rule.sensible_offered, fileMapped_reached, orderly,
    reached.progresses Rule.sensible_offered fileMapped_reached orderly⟩

end

end DemandPaging
