import DemandPaging.Proofs.Releases
import DemandPaging.Proofs.Segments
import DemandPaging.Proofs.Touches

/-! What an operation of a caller does besides what every operation may do, and the operations on the
parts of a machine as moves. -/
namespace DemandPaging
open Architecture (Lawful)

section
variable [Architecture] [Lawful]

def Act.Registers (loads : List Load) (machine : Machine) (space : SpaceId) (addr : VirtualAddress)
    (act : Act) : Prop :=
  (machine.registry space).pages.get? addr = none ∧ act = .register loads space addr

/-- What an operation does while `loads` are under way, apart from what passes off quietly and from
pages that a fault adds to a stack. -/
def Op.Acts (loads : List Load) (machine : Machine) (act : Act) : Op → Prop
  | .registry space (.create addr _ _) => act.Registers loads machine space ⟨addr⟩
  | .registry space (.remove addr) => act = .drop space ⟨addr⟩
  | .directory _ (.setDirty _ _) => act = .scribble
  | .directory _ (.install _ _ _) | .directory _ (.unmap _) => act = .meddle
  | .createSpace share spec => (share.isSome || !spec.huge.isEmpty) = true ∧ act = .meddle
  | .disk (.write _ _) => act = .scribble
  | .swap (.write _) | .swap (.free _) => act = .tamper
  | .registerZero space addr count _ =>
      ∃ i < count, act.Registers loads machine space ((⟨addr⟩ : VirtualAddress).page i)
  | .registerSegment space file offset addr readBytes zeroBytes writable =>
      (∃ pages registry, (machine.registry space).createSegment file offset ⟨addr⟩ readBytes
        zeroBytes writable = .ok (.ok pages, registry)) ∧
      ∃ i < (readBytes + zeroBytes) / pageSize,
        act.Registers loads machine space ((⟨addr⟩ : VirtualAddress).page i)
  | .reserve space addr _ => act.Registers loads machine space ⟨addr⟩
  | .poke _ _ _ => act = .store
  | .copyTo _ _ _ => act = .store ∨ act = .unpin
  | .copyFrom _ _ _ | .pin _ _ _ _ | .unpin _ => act = .unpin
  | .release space addr => act = .drop space (⟨addr⟩ : VirtualAddress).pageBase
  | .destroy space => ∃ addr, act = .expel space addr
  | .setupStack space => ∃ addr, Kernel.firstStackPage machine.config.userTop = .ok addr ∧
      act.Registers loads machine space addr
  | .writeFrame _ _ => act = .scribble
  | .allocate _ _ => act = .lend ∨ act = .scribble
  | .free _ => act = .recover
  | _ => False

end

def BackingSpec.Opened (files : Nat) : BackingSpec → Prop
  | .file source _ _ => source < files
  | _ => True

def RegistryOp.Opened (files : Nat) : RegistryOp → Prop
  | .create _ backing _ | .classify _ backing => backing.Opened files
  | _ => True

def Op.Regular (spaces files : Nat) : Op → Prop
  | .registry space op => space < spaces ∧ op.Opened files
  | .createSpace share _ => share.all (· < spaces) = true
  | .registerSegment space file _ _ _ _ _ => space < spaces ∧ file < files
  | .directory space _ | .registerZero space _ _ _ | .reserve space _ _ | .fault space _ _
  | .touch space _ _ | .peek space _ | .poke space _ _ | .copyTo space _ _ | .copyFrom space _ _ | .pin space _ _ _
  | .release space _ | .destroy space | .setupStack space | .setStackPointer space _
  | .noteSlot space _ | .allocate space _ => space < spaces
  | _ => True

/-- The operations by which callers map pages themselves, or have spaces share what maps them. -/
def Op.meddles : Op → Bool
  | .directory _ (.install _ _ _) | .directory _ (.unmap _) => true
  | .createSpace share spec => share.isSome || !spec.huge.isEmpty
  | _ => false

theorem Op.Acts.meddles [Architecture] {op : Op} {loads : List Load} {machine : Machine}
    (acts : op.Acts loads machine .meddle) : op.meddles = true := by
  unfold Op.Acts at acts
  split at acts
  all_goals first | rfl | exact acts.1 | simp [Act.Registers] at acts

theorem Op.Acts.not_stray [Architecture] [Lawful] {op : Op} {loads : List Load} {machine : Machine} :
    ¬op.Acts loads machine .stray := by
  intro acts
  unfold Op.Acts at acts
  split at acts
  all_goals simp [Act.Registers] at acts

/-- The operations by which callers obtain frames for themselves and give them back. -/
def Op.lends : Op → Bool
  | .allocate _ _ | .free _ => true
  | _ => false

/-- Callers give back only frames that they have obtained, or that are not in use. -/
def Op.rightful [Architecture] (machine : Machine) : Op → Bool
  | .free frame => machine.callers.frames.any (·.2 = ⟨frame⟩) ||
      (machine.pool.entry (frame - machine.pool.base.value)).owner.isNone
  | _ => true

/-- The operations by which callers change the dirty bits of pages. -/
def Op.soils : Op → Bool
  | .directory _ (.setDirty _ _) => true
  | _ => false

def Op.unregisters : Op → Bool
  | .registry _ (.remove _) | .release _ _ | .destroy _ => true
  | _ => false

/-- An operation unregisters the page at an address: it removes it while it is unloaded, it releases it
while it is not pinned, or it destroys its space. -/
def Op.Takes [Architecture] (machine : Machine) (space : SpaceId) (addr : VirtualAddress) : Op → Prop
  | .registry holder (.remove place) => holder = space ∧ ⟨place⟩ = addr ∧
      ∃ page, (machine.registry space).pages.get? addr = some page ∧ page.state = .unloaded
  | .release holder place => holder = space ∧ (⟨place⟩ : VirtualAddress).pageBase = addr ∧
      ∃ page, (machine.registry space).pages.get? addr = some page ∧ ∀ frame,
        page.state = .resident frame →
          (machine.pool.entry (frame.value - machine.pool.base.value)).pins = 0
  | .destroy holder => holder = space
  | _ => False

/-- What an operation does besides what every operation may do. The pages it unregisters are those it
takes. -/
def Op.Does [Architecture] [Lawful] (op : Op) (loads : List Load) (machine : Machine) (act : Act) :
    Prop :=
  op.Acts loads machine act ∧
    ∀ {space addr}, act = .drop space addr ∨ act = .expel space addr → op.Takes machine space addr

theorem Op.Acts.does [Architecture] [Lawful] {op : Op} {loads : List Load} {machine : Machine}
    {act : Act} (acts : op.Acts loads machine act) (keeps : op.unregisters = false) :
    op.Does loads machine act := by
  refine ⟨acts, fun either => ?_⟩
  unfold Op.Acts at acts
  split at acts
  all_goals first
    | cases keeps
      done
    | rcases either with rfl | rfl <;> simp [Act.Registers] at acts

theorem Op.Does.release [Architecture] [Lawful] {space : SpaceId} {addr : Nat} {loads : List Load}
    {machine : Machine}
    (found : ∃ page, (machine.registry space).pages.get? (⟨addr⟩ : VirtualAddress).pageBase = some page ∧
      ∀ frame, page.state = .resident frame →
        (machine.pool.entry (frame.value - machine.pool.base.value)).pins = 0) :
    (Op.release space addr).Does loads machine (.drop space (⟨addr⟩ : VirtualAddress).pageBase) := by
  refine ⟨rfl, ?_⟩
  rintro _ _ (same | same) <;> cases same
  exact ⟨rfl, rfl, found⟩

theorem Op.Does.destroy [Architecture] [Lawful] {space : SpaceId} {loads : List Load}
    {machine : Machine} (addr : VirtualAddress) :
    (Op.destroy space).Does loads machine (.expel space addr) := by
  refine ⟨⟨addr, rfl⟩, ?_⟩
  rintro _ _ (same | same) <;> cases same
  rfl

theorem Op.Acts.lends [Architecture] [Lawful] {op : Op} {loads : List Load} {machine : Machine}
    {act : Act} (acts : op.Acts loads machine act) (either : act = .lend ∨ act = .recover) :
    op.lends = true := by
  unfold Op.Acts at acts
  split at acts
  all_goals first | rfl | (rcases either with rfl | rfl <;> simp [Act.Registers] at acts)

instance (files : Nat) : (spec : BackingSpec) → Decidable (spec.Opened files)
  | .file source _ _ => inferInstanceAs (Decidable (source < files))
  | .unclassified | .zero => inferInstanceAs (Decidable True)

instance (files : Nat) : (op : RegistryOp) → Decidable (op.Opened files)
  | .create _ backing _ | .classify _ backing => inferInstanceAs (Decidable (backing.Opened files))
  | .lookup _ | .lookupFrame _ | .remove _ | .length | .resident => inferInstanceAs (Decidable True)

instance (spaces files : Nat) : (op : Op) → Decidable (op.Regular spaces files)
  | .registry space op => inferInstanceAs (Decidable (space < spaces ∧ op.Opened files))
  | .registerSegment space file _ _ _ _ _ => inferInstanceAs (Decidable (space < spaces ∧ file < files))
  | .directory space _ | .registerZero space _ _ _ | .reserve space _ _ | .fault space _ _
  | .touch space _ _ | .peek space _ | .poke space _ _
  | .copyTo space _ _ | .copyFrom space _ _ | .pin space _ _ _ | .release space _ | .destroy space
  | .setupStack space | .setStackPointer space _ | .noteSlot space _ | .allocate space _ =>
      inferInstanceAs (Decidable (space < spaces))
  | .createSpace share _ => inferInstanceAs (Decidable (share.all (· < spaces) = true))
  | .disk _ | .swap _ | .openFile _ _ | .setFileMode _ _ | .fileReads _ | .unpin _ | .guardFrame _ _
  | .free _ | .isPinned _ | .owner _ | .writeFrame _ _ | .readFrame _ _ | .config
  | .beforeFileRead _ _ | .beforeSectorRead _ => inferInstanceAs (Decidable True)

theorem BackingSpec.Opened.mono {spec : BackingSpec} {files more : Nat} (opened : spec.Opened files)
    (le : files ≤ more) : spec.Opened more := by
  cases spec with
  | file => exact Nat.lt_of_lt_of_le opened le
  | _ => trivial

theorem RegistryOp.Opened.mono {op : RegistryOp} {files more : Nat} (opened : op.Opened files)
    (le : files ≤ more) : op.Opened more := by
  cases op with
  | create => exact BackingSpec.Opened.mono opened le
  | classify => exact BackingSpec.Opened.mono opened le
  | _ => trivial

theorem BackingSpec.resolve_backs [Architecture] {machine : Machine} {spec : BackingSpec}
    {backing : Backing} (opened : spec.Opened machine.files.length)
    (resolved : spec.resolve = .ok backing) : machine.Backs backing := by
  cases spec with
  | unclassified =>
    cases resolved
    trivial
  | zero =>
    cases resolved
    trivial
  | file source offset readBytes =>
    obtain ⟨segment, made, done⟩ := Fatal.bind_ok.1 resolved
    cases done
    exact Machine.backs_ofParts opened made

/-- Removing a page is taking it, if it is not loaded. -/
theorem Registry.remove_ok {registry after : Registry} {addr : VirtualAddress} {page : Page}
    (removed : registry.remove addr = .ok (page, after)) :
    registry.take? addr = some (page, after) ∧ page.state = .unloaded := by
  unfold remove at removed
  split at removed
  · cases removed
  · rename_i found here
    split at removed
    · rename_i state
      cases removed
      refine ⟨?_, state⟩
      simp only [take?, here, Option.bind_eq_bind, Option.bind_some, state]
      rfl
    · cases removed

variable [Architecture] [Lawful] {scope : Scope} {start : Moment} {space : SpaceId}

/-- Asking the registry of a space is a move at most. -/
theorem RegistryOp.run_moves {op : RegistryOp} {reply : Reply} {registry : Registry}
    (ready : scope.Ready start) (opened : op.Opened start.machine.files.length)
    (allowed : ∀ act, (Op.registry space op).Does start.ledger.loads start.machine act → scope.may act)
    (ran : op.run (start.machine.registry space) = .ok (reply, registry)) :
    Path scope.may start ⟨start.ledger, start.machine.setRegistry space registry⟩ := by
  have unchanged : Path scope.may start
      ⟨start.ledger, start.machine.setRegistry space (start.machine.registry space)⟩ := by
    rw [Machine.setRegistry_registry]
    exact .refl start
  cases op with
  | create addr backing writable =>
    obtain ⟨address, checked, ran⟩ := Fatal.bind_ok.1 ran
    obtain ⟨_, rfl⟩ := VirtualAddress.ofWord_ok checked
    obtain ⟨found, resolved, ran⟩ := Fatal.bind_ok.1 ran
    cases created : (start.machine.registry space).create ⟨addr⟩ found writable with
    | error error =>
      simp only [created] at ran
      cases ran
      exact unchanged
    | ok outcome =>
      obtain ⟨page, after⟩ := outcome
      simp only [created] at ran
      cases ran
      obtain ⟨accepted, rfl, rfl⟩ := Registry.create_ok created
      have acts : (Op.registry space (.create addr backing writable)).Acts start.ledger.loads
          start.machine (.register start.ledger.loads space ⟨addr⟩) :=
        ⟨(Registry.refusal?_eq_none accepted).1, rfl⟩
      have registers := allowed _ (acts.does rfl)
      refine .of_move registers ?_
      let page : Page := ⟨⟨addr⟩, found, writable, false, .unloaded, 0⟩
      exact @Move.register _ _ _ _ _ page accepted rfl rfl rfl
        (BackingSpec.resolve_backs opened resolved)
  | remove addr =>
    obtain ⟨address, checked, ran⟩ := Fatal.bind_ok.1 ran
    obtain ⟨_, rfl⟩ := VirtualAddress.ofWord_ok checked
    cases removed : (start.machine.registry space).remove ⟨addr⟩ with
    | error error =>
      simp only [removed] at ran
      cases ran
      exact unchanged
    | ok outcome =>
      obtain ⟨page, after⟩ := outcome
      simp only [removed] at ran
      cases ran
      obtain ⟨taken, state⟩ := Registry.remove_ok removed
      have move : Move (.drop space ⟨addr⟩) start ⟨start.ledger, _⟩ :=
        .drop taken fun _ resident => by
          rw [state] at resident
          cases resident
      have vacated : start.machine.vacate space page = start.machine := by
        simp only [Machine.vacate, state]
      rw [vacated] at move
      have does : (Op.registry space (.remove addr)).Does start.ledger.loads start.machine
          (.drop space ⟨addr⟩) := by
        refine ⟨rfl, ?_⟩
        rintro _ _ (same | same) <;> cases same
        exact ⟨rfl, rfl, page, ((ready.sound space).take? taken).1, state⟩
      exact .of_move (allowed _ does) move
  | classify addr backing =>
    obtain ⟨address, checked, ran⟩ := Fatal.bind_ok.1 ran
    obtain ⟨found, resolved, ran⟩ := Fatal.bind_ok.1 ran
    cases done : (start.machine.registry space).classify address found with
    | error error =>
      simp only [done] at ran
      cases ran
      exact unchanged
    | ok after =>
      simp only [done] at ran
      cases ran
      exact .of_move scope.quiet (.classify done (BackingSpec.resolve_backs opened resolved))
  | lookup addr =>
    obtain ⟨address, _, ran⟩ := Fatal.bind_ok.1 ran
    cases ran
    exact unchanged
  | lookupFrame | length | resident =>
    cases ran
    exact unchanged

/-- Asking a page directory shows in no table. -/
theorem DirectoryOp.run_moves {op : DirectoryOp} {reply : Reply} {directory : Architecture.Directory}
    (allowed : ∀ act, (Op.directory space op).Acts start.ledger.loads start.machine act →
      scope.may act)
    (soiling : (Op.directory space op).soils = true → scope.may .stray)
    (ran : op.run (start.machine.directory space) = .ok (reply, directory)) :
    Path scope.may start ⟨start.ledger, start.machine.setDirectory space directory⟩ := by
  have idles : ∀ {after : Architecture.Directory}, (Lawful.Sane (start.machine.directory space) →
      Lawful.Sane after ∧ Architecture.Alike (start.machine.directory space) after) →
      Path scope.may start ⟨start.ledger, start.machine.setDirectory space after⟩ :=
    fun alike => scope.idles _ (start.machine.idle_directory space alike)
  have unchanged := idles fun sane => ⟨sane, .refl _⟩
  cases op with
  | install | unmap =>
    exact .of_move (allowed .meddle rfl) (.meddle (Nat.le_of_eq List.length_set.symm))
  | isAccessed | isDirty | translate | entry =>
    obtain ⟨address, _, ran⟩ := Fatal.bind_ok.1 ran
    cases ran
    exact unchanged
  | setAccessed addr value =>
    obtain ⟨address, checked, ran⟩ := Fatal.bind_ok.1 ran
    obtain ⟨canonical, rfl⟩ := VirtualAddress.ofWord_ok checked
    cases ran
    exact idles fun sane => ⟨Lawful.sane_setAccessed sane canonical,
      Lawful.setAccessed_alike sane canonical⟩
  | setDirty addr value =>
    obtain ⟨address, checked, ran⟩ := Fatal.bind_ok.1 ran
    obtain ⟨canonical, rfl⟩ := VirtualAddress.ofWord_ok checked
    cases ran
    have aside := start.machine.aside_directory space fun sane =>
      ⟨@Lawful.sane_setDirty _ _ _ _ value sane canonical, fun page =>
        Lawful.mapping_setDirty sane canonical page⟩
    exact .of_move (soiling rfl) (.stray ⟨aside, rfl, .refl _⟩)
  | access addr kind =>
    obtain ⟨address, checked, ran⟩ := Fatal.bind_ok.1 ran
    obtain ⟨canonical, rfl⟩ := VirtualAddress.ofWord_ok checked
    have after : directory =
        (Architecture.access (start.machine.directory space) ⟨addr⟩ kind).2 := by
      split at ran <;> · rename_i same
                         cases ran
                         rw [same]
    rw [after]
    exact idles fun sane => ⟨Lawful.sane_access sane canonical, Lawful.access_alike sane canonical⟩

/-- Asking the disk counts, unless a sector is written past the store. -/
theorem DiskOp.run_moves {op : DiskOp} {reply : Reply} {disk : Disk}
    (allowed : ∀ act, (Op.disk op).Acts start.ledger.loads start.machine act → scope.may act)
    (ran : op.run start.machine.swap.disk = .ok (reply, disk)) :
    Path scope.may start ⟨start.ledger, { start.machine with
      swap := { start.machine.swap with disk } }⟩ := by
  have counts : ∀ reads readsLeft writesLeft, Path scope.may start ⟨start.ledger,
      { start.machine with swap := { start.machine.swap with
        disk := { start.machine.swap.disk with reads, readsLeft, writesLeft } } }⟩ :=
    fun reads readsLeft writesLeft =>
      scope.idles _ (start.machine.idle_disk reads readsLeft writesLeft)
  have unchanged := counts start.machine.swap.disk.reads start.machine.swap.disk.readsLeft
    start.machine.swap.disk.writesLeft
  cases op with
  | read sector length =>
    obtain ⟨_, _, ran⟩ := Fatal.bind_ok.1 ran
    obtain ⟨_, _, ran⟩ := Fatal.bind_ok.1 ran
    obtain ⟨reads, counted⟩ := start.machine.swap.disk.fetch_eq sector length
    split at ran <;> · rename_i fetched
                       rw [fetched] at counted
                       cases ran
                       cases counted
                       exact counts _ _ _
  | write sector bytes =>
    obtain ⟨_, _, ran⟩ := Fatal.bind_ok.1 ran
    have same : disk.sectorSize = start.machine.swap.disk.sectorSize ∧
        disk.count = start.machine.swap.disk.count := by
      split at ran <;> · rename_i stored
                         cases ran
                         exact Disk.store_shape stored
    have shape : SwapStore.shape { start.machine.swap with disk } = start.machine.swap.shape :=
      start.machine.swap.shape_of_disk same.1 same.2
    refine .of_move (allowed .scribble rfl)
      (.scribble ⟨?_, rfl, .refl _⟩ (.of_same fun _ => rfl))
    exact .of_tables rfl rfl rfl rfl (Nat.le_refl _) (fun _ => rfl) shape (List.suffix_refl _) rfl rfl rfl
  | info =>
    obtain ⟨_, _, ran⟩ := Fatal.bind_ok.1 ran
    cases ran
    exact unchanged
  | limit reads writes =>
    cases ran
    exact counts _ _ _

/-- What a caller does to the swap store, short of reading it, and what the log tells of it. -/
theorem SwapOp.run_moves {op : SwapOp} {outcome : SwapOutcome} {log : List Event}
    (unread : ∀ name length, op ≠ .read name length)
    (allowed : ∀ act, (Op.swap op).Acts start.ledger.loads start.machine act → scope.may act)
    (ran : op.run start.machine.callers.slots start.machine.swap = .ok outcome)
    (told : log = outcome.events.reverse ++ start.machine.log) :
    Path scope.may start ⟨start.ledger, { start.machine with
      swap := outcome.swap
      callers := { start.machine.callers with slots := outcome.slots }
      log }⟩ := by
  subst told
  have tampers : ∀ {swap slots events}, scope.may .tamper →
      swap.shape = start.machine.swap.shape →
      Path scope.may start ⟨start.ledger, { start.machine with
        swap
        callers := { start.machine.callers with slots }
        log := events ++ start.machine.log }⟩ := fun may shape =>
    .of_move may (.tamper (.of_tables rfl rfl rfl rfl (Nat.le_refl _) (fun _ => rfl) shape
      (List.suffix_append _ _) rfl rfl rfl) (.of_same fun _ => rfl))
  cases op with
  | read name length => exact absurd rfl (unread name length)
  | write bytes =>
    have shape := start.machine.swap.shape_write bytes
    unfold SwapOp.run at ran
    dsimp only at ran
    split at ran <;> · rename_i written
                       cases ran
                       rw [written] at shape
                       exact tampers (allowed .tamper rfl) shape
  | free name =>
    unfold SwapOp.run at ran
    dsimp only at ran
    split at ran
    · cases ran
      exact tampers (allowed .tamper rfl) rfl
    · cases ran
      exact tampers (allowed .tamper rfl) (SwapStore.shape_free _ _)
  | isOccupied name =>
    cases ran
    exact .refl start

end DemandPaging
