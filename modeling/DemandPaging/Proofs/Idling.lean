import DemandPaging.Proofs.Tracing

/-! Steps that no table and no page depends on. -/
namespace DemandPaging
open Architecture (Lawful)

variable [Architecture] [Lawful]

namespace Machine
variable {machine after : Machine}

theorem Aside.of_tables (config : after.config = machine.config)
    (pool : after.pool = machine.pool) (spaces : after.spaces = machine.spaces)
    (directories : after.directories = machine.directories)
    (fileCount : machine.files.length ≤ after.files.length)
    (contents : ∀ {file}, file < machine.files.length →
      (after.file file).contents = (machine.file file).contents)
    (shape : after.swap.shape = machine.swap.shape)
    (log : machine.log <:+ after.log) (guards : after.callers.guards = machine.callers.guards)
    (frames : after.callers.frames = machine.callers.frames)
    (inStep : machine.stats.InStep after.stats) : machine.Aside after := by
  have space_eq : ∀ space, after.space space = machine.space space := by
    intro space
    rw [Machine.space, Machine.space, spaces]
  have directory_eq : ∀ space, after.directory space = machine.directory space := by
    intro space
    rw [Machine.directory, Machine.directory, space_eq, directories]
  exact {
    config, pool, fileCount, contents, shape, log, guards, frames, inStep
    spaces := congrArg List.length spaces
    registries := fun space => by rw [Machine.registry, Machine.registry, space_eq]
    directories := congrArg List.length directories
    assigned := fun space => by rw [space_eq]
    sane := fun space sane => by rw [directory_eq]; exact sane
    mapping := fun space => by rw [directory_eq]; exact fun _ _ => rfl }

theorem Aside.trans {a b c : Machine} (first : a.Aside b) (second : b.Aside c) : a.Aside c where
  config := second.config.trans first.config
  pool := second.pool.trans first.pool
  spaces := second.spaces.trans first.spaces
  registries space := (second.registries space).trans (first.registries space)
  directories := second.directories.trans first.directories
  assigned space := (second.assigned space).trans (first.assigned space)
  sane space sane := second.sane space (first.sane space sane)
  mapping space _ sane page :=
    (second.mapping space (first.sane space sane) page).trans (first.mapping space sane page)
  fileCount := Nat.le_trans first.fileCount second.fileCount
  contents known :=
    (second.contents (Nat.lt_of_lt_of_le known first.fileCount)).trans (first.contents known)
  shape := second.shape.trans first.shape
  log := first.log.trans second.log
  guards := second.guards.trans first.guards
  frames := second.frames.trans first.frames
  inStep := first.inStep.trans second.inStep

theorem KeepsDirty.of_same (same : ∀ space, after.directory space = machine.directory space) :
    machine.KeepsDirty after := fun space _ _ _ dirty => by
  rw [isDirty, same]
  exact dirty

theorem Idle.trans {a b c : Machine} (first : a.Idle b) (second : b.Idle c) : a.Idle c where
  toAside := first.toAside.trans second.toAside
  memory := second.memory.trans first.memory
  swap := by
    obtain ⟨_, _, _, once⟩ := first.swap
    obtain ⟨_, _, _, twice⟩ := second.swap
    exact ⟨_, _, _, by rw [twice, once]⟩
  dirty space _ sane page dirty :=
    second.dirty space (first.sane space sane) page (first.dirty space sane page dirty)
  grows := first.grows.trans second.grows

theorem Idle.of_aside (aside : machine.Aside after) (memory : after.memory = machine.memory)
    (swap : after.swap = machine.swap) (directories : after.directories = machine.directories)
    (grows : Log.Grows machine.log after.log) : machine.Idle after where
  toAside := aside
  memory := memory
  swap := ⟨_, _, _, swap⟩
  dirty := .of_same fun space => by
    rw [Machine.directory, Machine.directory, aside.assigned, directories]
  grows

theorem idle_logs (machine : Machine) {log : List Event} (grows : Log.Grows machine.log log) :
    machine.Idle { machine with log } :=
  .of_aside (.of_tables rfl rfl rfl rfl (Nat.le_refl _) (fun _ => rfl) rfl grows.suffix rfl rfl rfl) rfl
    rfl rfl grows

theorem idle_log (machine : Machine) {event : Event} (known : ∀ slot, event ≠ .slotNotInUse slot) :
    machine.Idle { machine with log := event :: machine.log } :=
  machine.idle_logs ((Log.Grows.refl _).cons known)

/-- What is written into memory shows in no table. -/
theorem scribbled_memory (machine : Machine) (memory : Memory) :
    machine.Scribbled { machine with memory } where
  toAside := .of_tables rfl rfl rfl rfl (Nat.le_refl _) (fun _ => rfl) rfl (List.suffix_refl _) rfl rfl rfl
  bitmap := rfl
  grows := .refl _

theorem idle_stats (machine : Machine) {stats : Stats} (inStep : machine.stats.InStep stats) :
    machine.Idle { machine with stats } :=
  .of_aside (.of_tables rfl rfl rfl rfl (Nat.le_refl _) (fun _ => rfl) rfl (List.suffix_refl _)
    rfl rfl inStep) rfl rfl rfl (.refl _)

theorem idle_callers (machine : Machine) {callers : Callers}
    (guards : callers.guards = machine.callers.guards)
    (frames : callers.frames = machine.callers.frames) : machine.Idle { machine with callers } :=
  .of_aside (.of_tables rfl rfl rfl rfl (Nat.le_refl _) (fun _ => rfl) rfl (List.suffix_refl _)
    guards frames rfl) rfl rfl rfl (.refl _)

omit [Lawful] in
theorem contents_setFile (machine : Machine) {file : FileId} {value : BackingFile}
    (contents : value.contents = (machine.file file).contents) (other : FileId) :
    ((machine.setFile file value).file other).contents = (machine.file other).contents := by
  change ((machine.files.set file value).getD other default).contents = _
  by_cases same : file = other
  · subst same
    by_cases present : file < machine.files.length
    · simp [List.getD_eq_getElem?_getD, present, contents]
    · rw [List.set_eq_of_length_le (Nat.le_of_not_lt present)]
      rfl
  · simp [Machine.file, List.getD_eq_getElem?_getD, same]

/-- A file may answer otherwise, but it holds what it held. -/
theorem idle_file (machine : Machine) {file : FileId} {value : BackingFile}
    (contents : value.contents = (machine.file file).contents) :
    machine.Idle (machine.setFile file value) :=
  .of_aside (.of_tables rfl rfl rfl rfl (Nat.le_of_eq List.length_set.symm)
    (fun _ => machine.contents_setFile contents _) rfl (List.suffix_refl _) rfl rfl rfl) rfl rfl rfl (.refl _)

theorem idle_newFile (machine : Machine) (value : BackingFile) :
    machine.Idle { machine with files := machine.files ++ [value] } := by
  refine .of_aside (.of_tables rfl rfl rfl rfl (by simp) (fun {other} known => ?_) rfl
    (List.suffix_refl _) rfl rfl rfl) rfl rfl rfl (.refl _)
  simp [Machine.file, List.getD_eq_getElem?_getD, List.getElem?_append_left known]

/-- A disk counts its transfers; its sectors stay as they are. -/
theorem idle_disk (machine : Machine) (reads : Nat) (readsLeft writesLeft : Option Nat) :
    machine.Idle { machine with swap :=
      { machine.swap with disk := { machine.swap.disk with reads, readsLeft, writesLeft } } } where
  toAside := .of_tables rfl rfl rfl rfl (Nat.le_refl _) (fun _ => rfl) rfl (List.suffix_refl _) rfl rfl rfl
  memory := rfl
  swap := ⟨_, _, _, rfl⟩
  dirty _ _ _ _ dirty := dirty
  grows := .refl _

theorem idle_stackPointer (machine : Machine) (space : SpaceId) (stackPointer : Nat) :
    machine.Idle (machine.setStackPointer space stackPointer) := by
  have same : ∀ other,
      ((machine.setStackPointer space stackPointer).space other).registry =
          (machine.space other).registry ∧
        ((machine.setStackPointer space stackPointer).space other).directory =
          (machine.space other).directory := fun other => machine.space_setStackPointer stackPointer
  have directory_eq : ∀ other, (machine.setStackPointer space stackPointer).directory other =
      machine.directory other := by
    intro other
    rw [Machine.directory, (same other).2]
    rfl
  exact {
    config := rfl
    pool := rfl
    spaces := List.length_set
    registries := fun other => (same other).1
    directories := rfl
    assigned := fun other => (same other).2
    sane := fun other sane => by rw [directory_eq]; exact sane
    mapping := fun other => by rw [directory_eq]; exact fun _ _ => rfl
    fileCount := Nat.le_refl _
    contents := fun _ => rfl
    shape := rfl
    log := List.suffix_refl _
    guards := rfl
    frames := rfl
    inStep := .refl _
    memory := rfl
    swap := ⟨_, _, _, rfl⟩
    dirty := fun other {page} _ _ dirty => by rw [isDirty, directory_eq]; exact dirty
    grows := .refl _ }

omit [Lawful] in
theorem directory_setDirectory_cases (machine : Machine) (space other : SpaceId)
    (directory : Architecture.Directory) :
    (machine.setDirectory space directory).directory other = machine.directory other ∨
      machine.directory other = machine.directory space ∧
        (machine.setDirectory space directory).directory other = directory := by
  by_cases shared : (machine.space space).directory = (machine.space other).directory
  · by_cases present : (machine.space space).directory < machine.directories.length
    · have here := machine.directory_setDirectory_self directory present
      refine .inr ⟨by rw [Machine.directory, Machine.directory, shared], ?_⟩
      refine Eq.trans ?_ here
      rw [Machine.directory, Machine.directory]
      exact congrArg (fun place => List.getD _ place _) shared.symm
    · left
      rw [setDirectory, List.set_eq_of_length_le (Nat.le_of_not_lt present)]
  · exact .inl (machine.directory_setDirectory_of_ne directory shared)

/-- A directory is replaced by one that maps the same. -/
theorem aside_directory (machine : Machine) (space : SpaceId) {directory : Architecture.Directory}
    (alike : Lawful.Sane (machine.directory space) → Lawful.Sane directory ∧
      ∀ {page : VirtualAddress}, page.IsPage →
        Architecture.mapping directory page = Architecture.mapping (machine.directory space) page) :
    machine.Aside (machine.setDirectory space directory) where
  config := rfl
  pool := rfl
  spaces := rfl
  registries := fun _ => rfl
  directories := List.length_set
  assigned := fun _ => rfl
  sane := fun other sane => by
    rcases machine.directory_setDirectory_cases space other directory with same | ⟨shared, here⟩
    · rw [same]
      exact sane
    · rw [here]
      exact (alike (by rw [← shared]; exact sane)).1
  mapping := fun other _ sane page => by
    rcases machine.directory_setDirectory_cases space other directory with same | ⟨shared, here⟩
    · rw [same]
    · rw [here, shared]
      exact (alike (by rw [← shared]; exact sane)).2 page
  fileCount := Nat.le_refl _
  contents := fun _ => rfl
  shape := rfl
  log := List.suffix_refl _
  guards := rfl
  frames := rfl
  inStep := .refl _

theorem idle_directory (machine : Machine) (space : SpaceId) {directory : Architecture.Directory}
    (alike : Lawful.Sane (machine.directory space) →
      Lawful.Sane directory ∧ Architecture.Alike (machine.directory space) directory) :
    machine.Idle (machine.setDirectory space directory) where
  toAside := machine.aside_directory space fun sane =>
    ⟨(alike sane).1, fun page => (alike sane).2.mapping page⟩
  memory := rfl
  swap := ⟨_, _, _, rfl⟩
  dirty other page sane is_page dirty := by
    rcases machine.directory_setDirectory_cases space other directory with same | ⟨shared, here⟩
    · rw [isDirty, same]
      exact dirty
    · rw [isDirty, here]
      rw [isDirty, shared] at dirty
      exact (alike (by rw [← shared]; exact sane)).2.dirty is_page dirty
  grows := .refl _

theorem idle_setAccessed (machine : Machine) (space : SpaceId) {page : VirtualAddress} {value : Bool}
    (canonical : Canonical page.value) : machine.Idle (machine.setDirectory space
      (Architecture.setAccessed (machine.directory space) page value)) :=
  machine.idle_directory space fun sane =>
    ⟨Lawful.sane_setAccessed sane canonical, Lawful.setAccessed_alike sane canonical⟩

theorem idle_setDirty (machine : Machine) (space : SpaceId) {page : VirtualAddress}
    (is_page : page.IsPage) : machine.Idle (machine.setDirectory space
      (Architecture.setDirty (machine.directory space) page true)) :=
  machine.idle_directory space fun sane =>
    ⟨Lawful.sane_setDirty sane is_page.canonical, Lawful.alike_setDirty sane is_page⟩

end Machine

theorem Mapped.dirtied {ledger : Ledger} {machine : Machine} (mapped : Mapped machine)
    (consistent : Consistent ⟨ledger, machine⟩) {space : SpaceId} {addr : VirtualAddress}
    {place : FrameNumber × Bool} (placed : (machine.registry space).placement addr = some place) :
    (machine.setDirectory space
      (Architecture.setDirty (machine.directory space) addr true)).isDirty space addr = true := by
  obtain ⟨page, registered, _⟩ := Registry.placement_eq_some.1 placed
  have present := machine.space_present registered
  have is_page := (consistent.sound space).isPage registered
  rw [Machine.isDirty, machine.directory_setDirectory_self _ (consistent.present present),
    Lawful.dirty_setDirty (mapped.sane present) is_page is_page, if_pos rfl,
    mapped.shows present is_page, Registry.expected, placed]
  rfl

end DemandPaging
