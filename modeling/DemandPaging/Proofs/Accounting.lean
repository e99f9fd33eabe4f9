import DemandPaging.Proofs.Transfers

/-! The accounts of the swap device along runs that nobody interrupts. Every eviction is either a page that was
written to swap or one that was dropped. As long as page directories, the swap store and its device are left to
the memory manager and no read fails, the device transfers a whole slot for each page that is written to swap or
read from there and nothing else, and a page that was written is read back once, or is there still, or was
unregistered there. -/
namespace DemandPaging
open Architecture (Lawful Ample AccessedBits)

section
variable [Architecture] [Lawful]

/-! Evictions. -/

theorem Move.inStep {act : Act} {start stop : Moment} (move : Move act start stop) :
    start.machine.stats.InStep stop.machine.stats := by
  cases move with
  | idle idle => exact idle.inStep
  | store _ _ idle => exact idle.inStep
  | scribble scribbled => exact scribbled.inStep
  | stray scribbled => exact scribbled.inStep
  | tamper aside => exact aside.inStep
  | drop | expel =>
    dsimp only [Machine.setRegistry, Machine.setSpace]
    rw [Machine.stats_vacate]
    exact .refl _
  | unpin =>
    dsimp only
    rw [Machine.stats_unpin]
    exact .refl _
  | _ => exact .refl _

/-- Whatever runs, each eviction is counted once more by where the page went. -/
theorem Reached.evictions {rule : Rule} {loads : List Load} {machine : Machine} (sensible : rule.Sensible)
    (reached : Reached rule loads machine) :
    machine.stats.evictions = machine.stats.swapWrites + machine.stats.discards := by
  obtain ⟨_, _, _, counted⟩ := Reached.keeps
    (fun now => now.machine.stats.evictions = now.machine.stats.swapWrites + now.machine.stats.discards) sensible
    (fun booted => by
      obtain ⟨_, _, _, _, rfl⟩ := Machine.boot_ok booted
      rfl)
    (fun _ move _ _ counted => by
      have inStep := move.inStep
      unfold Stats.InStep at inStep
      omega)
    (fun _ _ _ counted => counted) reached
  exact counted

/-! Operations that nobody interrupts. -/

omit [Architecture] [Lawful] in
theorem Act.avoids_of_idle {act : Act} (adds : ∀ loads, act.Adds loads → loads = []) (loads : List Load) :
    act.Avoids loads := by
  intro load member
  have none : ¬act.Adds loads := fun added => by
    rw [adds loads added] at member
    cases member
  exact ⟨fun same => none ⟨_, _, .inl same⟩, fun same => none ⟨_, _, .inr same⟩⟩

def Scope.soleUser (op : Op) (machine : Machine) : Scope where
  may act := act ≠ .meddle ∧ act ≠ .tamper ∧ (∀ loads, act.Adds loads → loads = []) ∧
    ∀ {space addr}, act = .drop space addr ∨ act = .expel space addr → op.Takes machine space addr
  spaces := machine.spaces.length
  files := machine.files.length
  trusting := True
  quiet := ⟨nofun, nofun, fun _ ⟨_, _, adds⟩ => adds.elim nofun nofun, fun drops => drops.elim nofun nofun⟩
  trusts _ may := may.1 rfl
  kept := LeftToManager
  keeps may move trusted := trusted.move move may.1 may.2.1 (Act.avoids_of_idle may.2.2.1 _)
  after _ := False
  onward _ _ := id

section
variable {op : Op} {machine next : Machine} {others : Interference}

theorem LeftToManager.soleUser {start : Moment} (trusted : LeftToManager start) (op : Op) :
    (Scope.soleUser op start.machine).Ready start where
  toConsistent := trusted.toConsistent
  known := Nat.le_refl _
  opened := Nat.le_refl _
  sectors := trusted.sectors
  mapped _ := trusted.mapped
  kept := trusted

theorem Interference.Failing.soleUser (failing : others.Failing) :
    Tame (Scope.soleUser op machine) [] others others := by
  refine failing.tame (fun space addr => ⟨nofun, nofun, ?_, ?_⟩) ⟨nofun, nofun, ?_, ?_⟩
  · rintro loads ⟨_, _, same | same⟩ <;> cases same
    rfl
  · rintro _ _ (same | same) <;> cases same
  · rintro loads ⟨_, _, same | same⟩ <;> cases same
  · rintro _ _ (same | same) <;> cases same

theorem Op.Does.soleUser {act : Act} (does : op.Does [] machine act) (unmeddled : op.meddles = false)
    (untampered : op.tampers = false) : (Scope.soleUser op machine).may act := by
  refine ⟨?_, ?_, fun loads => does.1.adds, does.2⟩
  · rintro rfl
    rw [does.1.meddles] at unmeddled
    cases unmeddled
  · rintro rfl
    rw [does.1.tampers] at untampered
    cases untampered

/-- An operation that nobody interrupts is a run of such moves. -/
theorem LeftToManager.performs {reply : Reply} (trusted : LeftToManager ⟨{}, machine⟩)
    (regular : op.Regular machine.spaces.length machine.files.length) (rightful : op.rightful machine = true)
    (unmeddled : op.meddles = false) (untampered : op.tampers = false) (failing : others.Failing)
    (ran : Kernel.perform others op machine = .ok reply next) :
    Path (Scope.soleUser op machine).may ⟨{}, machine⟩ ⟨{}, next⟩ := by
  have straying : (Scope.soleUser op machine).may .stray := by
    refine ⟨nofun, nofun, ?_, ?_⟩
    · rintro loads ⟨_, _, same | same⟩ <;> cases same
    · rintro _ _ (same | same) <;> cases same
  have follows : Follows (Scope.soleUser op machine) ⟨{}, machine⟩ (Kernel.perform others op)
      (Kernel.perform others op) fun _ now => now.ledger = {} :=
    Kernel.perform_follows regular rightful (fun act does => does.soleUser unmeddled untampered)
      (fun _ => straying) (fun _ => straying) failing.soleUser rfl
  obtain ⟨ledger, path, same⟩ := (follows (trusted.soleUser op)).2 _ _ ran
  obtain rfl : ledger = {} := same
  exact path

/-- A page that the operation does not take stays registered. -/
theorem Path.stays_registered {start stop : Moment} (path : Path (Scope.soleUser op machine).may start stop)
    (consistent : Consistent start) (sectors : 0 < start.machine.swap.disk.sectorSize) {space : SpaceId}
    {addr : VirtualAddress} (kept : ¬op.Takes machine space addr)
    (found : ((start.machine.registry space).pages.get? addr).isSome = true) :
    ((stop.machine.registry space).pages.get? addr).isSome = true := by
  suffices each : ∀ {act before after}, (Scope.soleUser op machine).may act → Move act before after →
      Consistent before → ((before.machine.registry space).pages.get? addr).isSome = true →
      ((after.machine.registry space).pages.get? addr).isSome = true from
    consistent.along path sectors (fun may move consistent _ => each may move consistent) found
  intro _ _ after may move consistent found
  have becomes := move.becomes consistent space addr
  obtain ⟨page, here⟩ := Option.isSome_iff_exists.1 found
  rw [here] at becomes
  generalize (after.machine.registry space).pages.get? addr = now at becomes ⊢
  cases becomes with
  | turns => rfl
  | gone dropped => exact absurd (may.2.2.2 dropped) kept

/-- The operations that give up a page or a space, wherever the pages are. -/
def Op.forsakes : Op → Bool
  | .release _ _ | .destroy _ => true
  | _ => false

omit [Lawful] in
/-- By no other operation are pages unregistered that are in swap. -/
theorem Op.Takes.unsaved {space : SpaceId} {addr : VirtualAddress} (takes : op.Takes machine space addr)
    (keeps : op.forsakes = false) {slot : SwapSlot} : ¬machine.Swapped space addr slot := by
  rintro ⟨page, found, saved⟩
  cases op with
  | release | destroy => cases keeps
  | registry holder op =>
    cases op with
    | remove place =>
      obtain ⟨_, _, other, here, unloaded⟩ := takes
      rw [found] at here
      cases here
      rw [saved] at unloaded
      cases unloaded
    | _ => exact takes
  | _ => exact takes

end

/-! Loads. -/

def Watch.accounts (first : Machine) (gone : Nat) : Watch where
  claim machine := machine.swap.disk.readsLeft = some 0 ∨ first.Accounts gone machine
  full _ := True
  booked {machine after} same := by
    have swap : after.swap = machine.swap := congrArg Prod.fst same
    rintro (spent | accounts)
    · exact .inl (by rw [swap]; exact spent)
    · exact .inr (accounts.of_books same)
  dropped _ _ := trivial

section
variable {first start taken mid next : Machine} {others : Interference} {load : Load} {gone : Nat} {pin : Bool}
  {outcome : Except FaultError Unit} {result : Except FaultError (Option FrameNumber)}

omit [Lawful] in
/-- What is read from elsewhere is in no books. -/
theorem Machine.FedElsewhere.books {frame : FrameNumber} (fed : start.FedElsewhere others frame next)
    (sparing : others.Sparing) : next.books = start.books := by
  have left := fed.left sparing
  have reads := fed.reads
  have counted := fed.swapReads
  obtain ⟨memory, files, _, _, _, _, rfl⟩ := fed.rest
  cases left
  cases reads
  cases counted
  rfl

omit [Lawful] in
/-- However a load ends, the books are left alone but for the slot of its page. -/
theorem Machine.Settles.books (settles : mid.Settles load pin outcome result next)
    (unsaved : ∀ slot, load.page.state ≠ .swapped slot) : next.books = mid.books := by
  cases settles with
  | lost | failed | refused => rfl
  | attached =>
    cases state : load.page.state with
    | swapped slot => exact absurd state (unsaved slot)
    | unloaded | resident => simp only [Machine.books, Machine.arrive, state]; rfl

omit [Lawful] in
/-- A page that was read from its slot counts as read, and its slot is free. -/
theorem Machine.Accounts.reread {slot : SwapSlot} (accounts : first.Accounts gone taken)
    (state : load.page.state = .swapped slot) (used : taken.swap.isOccupied slot = true)
    (populates : taken.Populates others load (.ok ()) mid)
    (swap : next.swap = (mid.swap.free slot).2) (stats : next.stats = mid.stats) :
    first.Accounts gone next := by
  obtain ⟨read, counted⟩ := populates.through state rfl
  obtain ⟨memory, files, reads, readsLeft, swapReads, fileReads, rfl⟩ := populates.rest
  have fewer := @SwapStore.used_free { taken.swap with disk := { taken.swap.disk with reads, readsLeft } } _ used
  have disk : next.swap.disk = { taken.swap.disk with reads, readsLeft } := by
    rw [swap, SwapStore.disk_free]
  dsimp only at read counted
  subst read
  subst counted
  constructor
  · rw [disk]
    exact accounts.sectorSize
  · rw [disk, stats]
    exact accounts.writes
  · rw [disk, stats]
    dsimp only
    rw [accounts.reads, accounts.sectorSize, Nat.mul_add, Nat.mul_one, Nat.add_assoc]
  · have slots := accounts.slots
    rw [swap, stats]
    dsimp only [SwapStore.used] at fewer slots ⊢
    omega

variable [Ample] {machine : Machine} {op : Op} {space : SpaceId} {page : Page}
  {pinned : List (VirtualAddress × FrameNumber)}

/-- A page that is read from its slot is not refused by its directory. -/
theorem LeftToManager.unrefused {ledger : Ledger} (trusted : LeftToManager ⟨ledger, mid⟩) {frame : FrameNumber}
    {place : PhysicalAddress} {error : MapError} {directory : Architecture.Directory}
    (found : (mid.registry space).pages.get? page.addr = some page) (away : page.isResident = false)
    (begins : frame.start = .ok place) :
    Architecture.install (mid.directory space) page.addr place page.writable ≠
      (.error error, directory) := by
  intro refused
  obtain rfl := FrameNumber.start_ok begins
  have sound : (mid.registry space).Sound := trusted.sound space
  have is_page := sound.isPage found
  have installs :
      (Architecture.install (mid.directory space) page.addr ⟨frame.value * pageSize⟩ page.writable).1 =
        .ok () := Ample.installs (trusted.mapped.sane (mid.space_present found)) is_page
    (Nat.mul_mod_left frame.value pageSize) (trusted.unmapped found away)
  rw [refused] at installs
  cases installs

/-- A load that nobody interrupts keeps the accounts. -/
theorem Kernel.load_accounts {start : Moment} (aloof : others.Aloof) (sparing : others.Sparing)
    (idle : start.ledger.loads = []) (present : space < machine.spaces.length)
    (owed : start.ledger.Owes ⟨space, pinned⟩)
    (found : (start.machine.registry space).pages.get? page.addr = some page)
    (away : page.isResident = false) :
    Watched (Watch.accounts first gone) (Scope.soleUser op machine) start
      (Kernel.load others space page pin pinned).run := by
  intro ready claim
  have trusted : LeftToManager start := ready.kept
  refine Outcome.imp (.anyStop fun result next ran => ?_) (fun _ _ done => done) fun _ _ _ _ => trivial
  by_cases bare : page.backing = .unclassified
  · rw [load_eq, if_pos bare] at ran
    obtain ⟨_, rfl⟩ := run_throw_ok.1 ran
    exact claim
  obtain ⟨frame, taken, outcome, mid, run⟩ := (loadRun_iff bare).1 ran
  have tame : Tame (Scope.soleUser op machine) [] others others := Interference.Failing.soleUser aloof.failing
  have mannered := tame.toMannered
  rw [← idle] at mannered
  -- A frame is found, perhaps by writing a page to swap.
  obtain ⟨_, there, current, owned⟩ := run.obtains ready (fun ready => ready.kept) present found away
  have untapped : Untapped start.machine taken := allocate_untapped trusted.sound run.allocated
  have known : (Watch.accounts first gone).claim taken := by
    rcases claim with spent | accounts
    · exact .inl (untapped.reads.trans spent)
    · exact .inr (accounts.room trusted.sectors (allocate_room trusted.sound run.allocated))
  -- Then the page is read.
  have populates := (populate_feeds aloof away there.placed owned).of_ok run.read
  obtain ⟨arrived, path, _, settles⟩ := run.settles ready mannered present owed found away
  have here : LeftToManager ⟨_, mid⟩ := (ready.path path).kept
  have current : (mid.registry space).pages.get? page.addr = some page := by
    rw [Machine.registry, Machine.space, populates.spaces]
    exact current
  have fresh : (mid.registry space).current? page = some page :=
    Option.filter_eq_some_iff.2 ⟨current, beq_self_eq_true _⟩
  by_cases saved : ∃ slot, page.state = .swapped slot
  · obtain ⟨slot, state⟩ := saved
    cases settles with
    | lost stale =>
      rw [Registry.isStale, fresh] at stale
      cases stale
    | @failed error =>
      obtain ⟨_, _, spent⟩ := populates.fails state error rfl
      exact .inl (spent sparing)
    | refused now begins refused =>
      rw [fresh] at now
      cases now
      exact absurd refused (here.unrefused current away begins)
    | attached =>
      rcases known with spent | accounts
      · left
        have spent := populates.spent sparing spent
        simp only [Machine.arrive, state, SwapStore.disk_free]
        exact spent
      · right
        refine accounts.reread state (owned slot state).1 populates ?_ rfl
        simp only [Machine.arrive, state]
  · have unsaved : ∀ slot, page.state ≠ .swapped slot := fun slot state => saved ⟨slot, state⟩
    have books : next.books = taken.books :=
      (settles.books unsaved).trans ((populates.unsaved unsaved).books sparing)
    exact (Watch.accounts first gone).booked books known

theorem Watch.loads_accounts (aloof : others.Aloof) (sparing : others.Sparing) :
    (Watch.accounts first gone).Loads (Scope.soleUser op machine) others where
  tame := Interference.Failing.soleUser aloof.failing
  load idle present owed found away := Kernel.load_accounts aloof sparing idle present owed found away

end

/-! Runs. -/

/-- The operations by which callers transfer sectors themselves, or take and free slots. -/
def Op.transfers : Op → Bool
  | .disk (.read _ _) | .disk (.write _ _) => true
  | .swap (.write _) | .swap (.read _ _) | .swap (.free _) => true
  | _ => false

/-- The operations by which callers leave page directories, the swap store and its device to the memory manager.
They give back only frames that they have. -/
def Machine.Entitles (machine : Machine) (op : Op) : Prop :=
  machine.Allows op ∧ op.meddles = false ∧ op.transfers = false

instance (machine : Machine) (op : Op) : Decidable (machine.Entitles op) :=
  inferInstanceAs (Decidable (_ ∧ _ ∧ _))

/-- The machines that come of `first`, at which the memory manager starts, by operations that nobody interrupts,
while the device lets reads through. So many pages have been unregistered on the way while they were in swap. -/
inductive SoleUserRun (first : Machine) : Nat → Machine → Prop
  | boot {threshold config memory base disk}
      (booted : Machine.boot threshold config memory base disk = .ok first) : SoleUserRun first 0 first
  | run {gone machine op others reply next} (so_far : SoleUserRun first gone machine)
      (entitled : machine.Entitles op) (aloof : others.Aloof) (sparing : others.Sparing)
      (ran : Kernel.perform others op machine = .ok reply next) (serves : next.swap.disk.readsLeft ≠ some 0) :
      SoleUserRun first (gone + machine.forsaken next) next

omit [Architecture] [Lawful] in
theorem Op.untampered {op : Op} (transfers : op.transfers = false) : op.tampers = false := by
  cases op with
  | swap op => cases op <;> first | rfl | cases transfers
  | _ => rfl

section
variable {first machine next : Machine} {gone : Nat} {op : Op} {others : Interference} {reply : Reply}

theorem LeftToManager.boot {threshold : Option Level} {config : Config} {memory : Memory} {base : FrameNumber}
    {disk : Disk} (booted : Machine.boot threshold config memory base disk = .ok machine) :
    LeftToManager ⟨{}, machine⟩ :=
  Reached.leftToManager (.boot booted)

omit [Lawful] in
theorem Machine.Accounts.boot {threshold : Option Level} {config : Config} {memory : Memory}
    {base : FrameNumber} {disk : Disk}
    (booted : Machine.boot threshold config memory base disk = .ok machine) : machine.Accounts 0 machine := by
  obtain ⟨swap, _, opened, _, rfl⟩ := Machine.boot_ok booted
  obtain ⟨_, _, opened⟩ := Fatal.bind_ok.1 opened
  have unused : swap.used = 0 := by
    rw [← Except.ok.inj opened]
    rfl
  constructor
  · rfl
  · dsimp only
    rw [Nat.mul_zero, Nat.add_zero]
  · dsimp only
    rw [Nat.mul_zero, Nat.add_zero]
  · exact unused.symm

/-- Unless a page or a space is given up, no page is unregistered that is in swap. -/
theorem LeftToManager.forsakes_none (trusted : LeftToManager ⟨{}, machine⟩)
    (path : Path (Scope.soleUser op machine).may ⟨{}, machine⟩ ⟨{}, next⟩) (keeps : op.forsakes = false) :
    machine.forsaken next = 0 := by
  refine Machine.forsaken_eq_zero trusted.sound fun saved => ?_
  have kept : ¬op.Takes machine _ _ := fun takes => takes.unsaved keeps saved
  obtain ⟨page, found, _⟩ := saved
  exact path.stays_registered trusted.toConsistent trusted.sectors kept
    (Option.isSome_iff_exists.2 ⟨page, found⟩)

/-- Pages that are unregistered are accounted for if they were in swap. -/
theorem Machine.Accounts.unregister {space : SpaceId} {pages : List Page}
    (accounts : first.Accounts gone machine) (trusted : LeftToManager ⟨{}, machine⟩)
    (tidied : LeftToManager ⟨{}, next⟩) (unregistered : machine.Unregistered space pages next) :
    first.Accounts (gone + machine.forsaken next) next := by
  obtain ⟨spaces, left⟩ := unregistered.left
  have disk : next.swap.disk = machine.swap.disk := unregistered.vacated.disk
  obtain ⟨_, _, _, _, same⟩ := unregistered.vacated.others
  have stats : next.stats = machine.stats := by
    rw [congrArg Machine.stats same]
    rfl
  exact accounts.forsake trusted tidied disk stats spaces left

end

namespace Kernel
variable {first machine next : Machine} {gone : Nat} {others : Interference} {reply : Reply} {space : SpaceId}

omit [Lawful] in
/-- Callers look at the device, or have it fail. -/
theorem disk_accounts {op : DiskOp} (accounts : first.Accounts gone machine)
    (untapped : (Op.disk op).transfers = false)
    (ran : perform others (.disk op) machine = .ok reply next) : first.Accounts gone next := by
  simp only [perform, bind_ok, get_ok, orStop_ok, modify_ok, pure_ok] at ran
  obtain ⟨_, _, ⟨rfl, rfl⟩, ⟨_, disk⟩, _, ⟨answered, rfl⟩, _, _, rfl, _, rfl⟩ := ran
  cases op with
  | read | write => cases untapped
  | info =>
    obtain ⟨count, _, same⟩ := Fatal.bind_ok.1 answered
    cases same
    exact accounts
  | limit readsLeft writesLeft =>
    cases answered
    exact ⟨accounts.sectorSize, accounts.writes, accounts.reads, accounts.slots⟩

omit [Lawful] in
theorem swap_accounts {op : SwapOp} (accounts : first.Accounts gone machine)
    (untapped : (Op.swap op).transfers = false)
    (ran : perform others (.swap op) machine = .ok reply next) : first.Accounts gone next := by
  cases op with
  | read | write | free => cases untapped
  | isOccupied name =>
    cases ran
    exact accounts

theorem allocate_accounts {zeroed : Bool} (accounts : first.Accounts gone machine)
    (trusted : LeftToManager ⟨{}, machine⟩)
    (ran : perform others (.allocate space zeroed) machine = .ok reply next) : first.Accounts gone next := by
  obtain ⟨frame, mid, allocated, ran⟩ := bind_ok.1 ran
  obtain ⟨_, last, changed, ran⟩ := bind_ok.1 ran
  obtain ⟨_, rfl⟩ := pure_ok.1 ran
  obtain rfl := modify_ok.1 changed
  exact (accounts.room trusted.sectors (allocate_room trusted.sound allocated)).of_books rfl

variable [AccessedBits]

theorem release_accounts {addr : Nat} (accounts : first.Accounts gone machine)
    (trusted : LeftToManager ⟨{}, machine⟩) (tidied : LeftToManager ⟨{}, next⟩)
    (present : space < machine.spaces.length)
    (ran : perform others (.release space addr) machine = .ok reply next) :
    first.Accounts (gone + machine.forsaken next) next := by
  obtain ⟨place, _, looked, ran⟩ := bind_ok.1 ran
  obtain ⟨_, rfl⟩ := orStop_ok.1 looked
  obtain ⟨result, last, released, ran⟩ := bind_ok.1 ran
  have releases := (releasePage_unregisters trusted.toConsistent trusted.mapped present place).of_ok released
  cases result with
  | error error =>
    obtain ⟨_, rfl⟩ := pure_ok.1 ran
    obtain ⟨_, rfl⟩ := releases.refused error rfl
    have none : last.forsaken last = 0 := Machine.forsaken_eq_zero trusted.sound fun saved => by
      obtain ⟨page, found, _⟩ := saved
      exact Option.isSome_iff_exists.2 ⟨page, found⟩
    rwa [none]
  | ok page =>
    obtain ⟨_, rfl⟩ := pure_ok.1 ran
    exact accounts.unregister trusted tidied (releases.done page rfl).2

theorem destroy_accounts (accounts : first.Accounts gone machine) (trusted : LeftToManager ⟨{}, machine⟩)
    (tidied : LeftToManager ⟨{}, next⟩) (present : space < machine.spaces.length)
    (ran : perform others (.destroy space) machine = .ok reply next) :
    first.Accounts (gone + machine.forsaken next) next := by
  obtain ⟨_, last, destroyed, ran⟩ := bind_ok.1 ran
  obtain ⟨_, rfl⟩ := pure_ok.1 ran
  have destroys := (destroySpace_unregisters trusted.toConsistent trusted.mapped present).of_ok destroyed
  exact accounts.unregister trusted tidied destroys.2

end Kernel

section
variable [AccessedBits] [Ample] {first machine next : Machine} {gone : Nat}

/-- An operation keeps the accounts. -/
theorem Machine.Accounts.perform {op : Op} {others : Interference} {reply : Reply}
    (accounts : first.Accounts gone machine) (trusted : LeftToManager ⟨{}, machine⟩)
    (entitled : machine.Entitles op) (aloof : others.Aloof) (sparing : others.Sparing)
    (ran : Kernel.perform others op machine = .ok reply next) : LeftToManager ⟨{}, next⟩ ∧
      (next.swap.disk.readsLeft = some 0 ∨ first.Accounts (gone + machine.forsaken next) next) := by
  obtain ⟨⟨regular, rightful⟩, unmeddled, untapped⟩ := entitled
  have untampered := Op.untampered untapped
  have path := trusted.performs regular rightful unmeddled untampered aloof.failing ran
  have ready := (trusted.soleUser op).path path
  have tidied : LeftToManager ⟨{}, next⟩ := ready.kept
  refine ⟨tidied, ?_⟩
  have loads : (Watch.accounts first gone).Loads (Scope.soleUser op machine) others :=
    Watch.loads_accounts aloof sparing
  have watched : op.books = false → Watched (Watch.accounts first gone) (Scope.soleUser op machine)
      ⟨{}, machine⟩ (Kernel.perform others op) :=
    Kernel.perform_watched loads rfl rfl regular fun act does => does.soleUser unmeddled untampered
  have quiet : op.forsakes = false → machine.forsaken next = 0 := trusted.forsakes_none path
  cases op with
  | release space addr => exact .inr (Kernel.release_accounts accounts trusted tidied regular ran)
  | destroy space => exact .inr (Kernel.destroy_accounts accounts trusted tidied regular ran)
  | disk op =>
    rw [quiet rfl]
    exact .inr (Kernel.disk_accounts accounts untapped ran)
  | swap op =>
    rw [quiet rfl]
    exact .inr (Kernel.swap_accounts accounts untapped ran)
  | allocate space zeroed =>
    rw [quiet rfl]
    exact .inr (Kernel.allocate_accounts accounts trusted ran)
  | _ =>
    rw [quiet rfl]
    exact (watched rfl (trusted.soleUser _) (.inr accounts)).of_ok ran

/-- All along such a run the accounts are in order. -/
theorem SoleUserRun.accounts (so_far : SoleUserRun first gone machine) :
    LeftToManager ⟨{}, machine⟩ ∧ first.Accounts gone machine := by
  induction so_far with
  | boot booted => exact ⟨.boot booted, .boot booted⟩
  | run _ entitled aloof sparing ran serves ih =>
    obtain ⟨trusted, accounts⟩ := ih
    obtain ⟨tidied, kept⟩ := accounts.perform trusted entitled aloof sparing ran
    exact ⟨tidied, kept.resolve_left serves⟩

/-- The accounts of the device since `first`, if `gone` pages were unregistered in swap, and what they come to:
no page is written in vain, and none is read twice. -/
structure Machine.Transferred (first : Machine) (gone : Nat) (machine : Machine) : Prop extends
    Machine.Accounts first gone machine where
  once : machine.stats.swapReads ≤ machine.stats.swapWrites
  /-- Room that is made by dropping a page costs no transfer. -/
  dropped : ∀ {owner zeroed frame next}, Kernel.allocate owner zeroed machine = .ok frame next →
    next.stats.discards ≠ machine.stats.discards →
      next.swap = machine.swap ∧ next.stats.swapWrites = machine.stats.swapWrites
  /-- A page that is read from its slot has left it: it has to be written before it is read again. -/
  left : ∀ {others space page slot pin frame next}, others.Aloof → space < machine.spaces.length →
    (machine.registry space).pages.get? page.addr = some page → page.state = .swapped slot →
    (Kernel.load others space page pin []).run machine = .ok (.ok (some frame)) next →
      next.swap.isOccupied slot = false ∧ ∃ writable, next.placement space page.addr = some (frame, writable)

omit [AccessedBits] [Ample] [Lawful] in
theorem Machine.MakesRoom.untransferred (room : machine.MakesRoom next)
    (counted : next.stats.discards ≠ machine.stats.discards) :
    next.swap = machine.swap ∧ next.stats.swapWrites = machine.stats.swapWrites := by
  cases room with
  | spare books => exact absurd (congrArg (·.2.discards) books) counted
  | dropped books => exact ⟨congrArg Prod.fst books, congrArg (·.2.swapWrites) books⟩
  | saved _ books => exact absurd (congrArg (·.2.discards) books) counted

omit [AccessedBits] [Ample] in
/-- A page that was brought in from its slot is in a frame, and its slot is free. -/
theorem LeftToManager.reads_out {others : Interference} {start : Moment} {space : SpaceId} {page : Page}
    {slot : SwapSlot} {pin : Bool} {frame : FrameNumber} (trusted : LeftToManager start)
    (idle : start.ledger = {}) (aloof : others.Aloof) (present : space < start.machine.spaces.length)
    (found : (start.machine.registry space).pages.get? page.addr = some page)
    (saved : page.state = .swapped slot)
    (ran : (Kernel.load others space page pin []).run start.machine = .ok (.ok (some frame)) next) :
    next.swap.isOccupied slot = false ∧
      ∃ writable, next.placement space page.addr = some (frame, writable) := by
  have away : page.isResident = false := by rw [Page.isResident, Page.frame?, saved]; rfl
  have balanced : start.ledger.Balanced := by rw [idle]; rfl
  have owed : start.ledger.Owes ⟨space, []⟩ := balanced.owes space
  have tame : Tame (Scope.soleUser .config start.machine) start.ledger.loads others others := by
    rw [idle]
    exact Interference.Failing.soleUser aloof.failing
  have ready := trusted.soleUser .config
  obtain ⟨_, _, _, placed⟩ := (Kernel.load_follows tame present owed found away ready).2 _ _ ran
  refine ⟨?_, placed⟩
  have backed : page.backing ≠ .unclassified := fun bare => by
    rw [Kernel.load_eq, if_pos bare] at ran
    cases (Kernel.run_throw_ok.1 ran).1
  obtain ⟨_, _, _, _, run⟩ := (Kernel.loadRun_iff backed).1 ran
  obtain ⟨_, _, _, settles⟩ := run.settles ready tame.toMannered present owed found away
  cases settles with
  | attached =>
    simp only [Machine.arrive, saved]
    rw [SwapStore.isOccupied_free, if_pos rfl]

/-- Every eviction is counted by where the page went. In a run that nobody interrupts, the device has made the
transfers that the counters tell, and no others. -/
theorem transfers_accounted :
    (∀ {rule : Rule} {loads : List Load} {machine : Machine}, rule.Sensible → Reached rule loads machine →
      machine.stats.evictions = machine.stats.swapWrites + machine.stats.discards) ∧
    ∀ {first gone machine}, SoleUserRun first gone machine → first.Transferred gone machine := by
  refine ⟨Reached.evictions, fun so_far => ?_⟩
  obtain ⟨trusted, accounts⟩ := so_far.accounts
  have slots := accounts.slots
  exact { accounts with
    once := by omega
    dropped := fun ended => (Kernel.allocate_room trusted.sound ended).untransferred
    left := fun aloof present found saved ran => trusted.reads_out rfl aloof present found saved ran }

end

def Machine.forsakenBy (machine : Machine) : List Op → Nat
  | [] => 0
  | op :: rest => machine.forsaken (machine.undisturbed op) + (machine.undisturbed op).forsakenBy rest

omit [Lawful] in
theorem SoleUserRun.carried {first machine : Machine} {gone : Nat} {ops : List Op}
    (so_far : SoleUserRun first gone machine)
    (carries : machine.Carries (fun machine op => machine.Entitles op ∧
      (machine.undisturbed op).swap.disk.readsLeft ≠ some 0) ops) :
    SoleUserRun first (gone + machine.forsakenBy ops) (ops.foldl Machine.undisturbed machine) := by
  induction ops generalizing machine gone with
  | nil => exact so_far
  | cons op rest ih =>
    obtain ⟨⟨entitled, serves⟩, well, rest⟩ := carries
    obtain ⟨_, ran⟩ := Kernel.ok_of_endsWell well
    have further := ih (so_far.run entitled Interference.aloof_none Interference.sparing_none ran serves) rest
    rw [Nat.add_assoc] at further
    exact further

end

section
attribute [local instance] Architecture.small

/-- A page is written to swap, read back, written again and released there, while two pages of a file come and
go. -/
def transferOps : List Op :=
  [.createSpace none ⟨0, []⟩, .openFile (List.replicate 32 7) .working, .registerZero 0 0x1000 1 true,
    .registerSegment 0 0 0 0x1010 32 0 true, .poke 0 0x1000 1, .touch 0 0x1010 .read, .touch 0 0x1020 .read,
    .peek 0 0x1000, .touch 0 0x1010 .read, .touch 0 0x1020 .read, .release 0 0x1000]

def transferred : Machine := transferOps.foldl Machine.undisturbed twoFrames

theorem transferred_accounted : SoleUserRun twoFrames 1 transferred ∧ Rule.rightful.Sensible ∧
    Reached .rightful [] transferred ∧ transferred.stats.swapWrites = 2 ∧ transferred.stats.swapReads = 1 ∧
    transferred.stats.evictions = transferred.stats.swapWrites + transferred.stats.discards ∧
    twoFrames.Transferred 1 transferred := by
  have booted : Machine.boot none (.ofFrames 2) (.mapped 4 2) ⟨4⟩ { sectorSize := 4, count := 8 } =
      .ok twoFrames := rfl
  have once : 0 + twoFrames.forsakenBy transferOps = 1 := by decide +kernel
  have so_far : SoleUserRun twoFrames 1 transferred :=
    once ▸ (SoleUserRun.boot booted).carried (by decide +kernel)
  have sensible : Rule.rightful.Sensible := ⟨fun allowed => allowed.1, fun allowed => allowed.2⟩
  have reached : Reached .rightful [] transferred :=
    twoFrames_reached.carried (fun (allowed : Machine.Allows _ _) => allowed) (by decide +kernel)
  exact ⟨so_far, sensible, reached, by decide +kernel, by decide +kernel,
    transfers_accounted.1 sensible reached, transfers_accounted.2 so_far⟩

/-- Two spaces share a directory. A page of the one is in swap when the other has a page at the same address in
a frame, and pinned. -/
def sharedOps : List Op :=
  [.createSpace none ⟨0, []⟩, .createSpace (some 0) ⟨0, []⟩, .openFile (List.replicate 32 7) .working,
    .registerZero 0 0x1000 1 true, .registerSegment 0 0 0 0x1010 32 0 true, .registerZero 1 0x1000 1 true,
    .poke 0 0x1000 1, .touch 0 0x1010 .read, .touch 0 0x1020 .read, .pin 1 0x1000 1 .read,
    .fault 0 ⟨0x1000, .read, false⟩ none]

/-- What was read from a slot is not mapped where the directory is shared, and the slot stays in use. A caller
that reads the device himself does so behind the back of the memory manager. -/
theorem shared_unaccounted :
    twoFrames.Carries (fun machine op => machine.Allows op ∧ op.transfers = false) sharedOps ∧
    (let machine := sharedOps.foldl Machine.undisturbed twoFrames
     machine.stats.swapWrites = 1 ∧ machine.stats.swapReads = 1 ∧ machine.swap.used = 1 ∧
       machine.stats.swapWrites ≠
         machine.swap.used + machine.stats.swapReads + twoFrames.forsakenBy sharedOps) ∧
    (twoFrames.undisturbed (.disk (.read 0 4))).swap.disk.reads = 1 ∧
      (twoFrames.undisturbed (.disk (.read 0 4))).stats.swapReads = 0 := by
  decide +kernel

end

end DemandPaging
