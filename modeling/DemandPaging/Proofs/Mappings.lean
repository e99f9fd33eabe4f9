import DemandPaging.Proofs.Preservation

/-! Page directories that show just the resident pages of their spaces stay so, as long as nobody but
processes and the memory manager changes them. -/
namespace DemandPaging
open Architecture (Lawful)

variable [Architecture] [Lawful]

namespace Mapped
variable {ledger : Ledger} {machine after : Machine} {space : SpaceId}

/-- The tables of one space are replaced by others that fit each other. -/
theorem update (mapped : Mapped machine) (consistent : Consistent ⟨ledger, machine⟩)
    (present : space < machine.spaces.length) {registry : Registry}
    {directory : Architecture.Directory} (sane : Lawful.Sane directory)
    (shows : ∀ {page : VirtualAddress}, page.IsPage →
      Architecture.mapping directory page = registry.expected page) :
    Mapped ((machine.setDirectory space directory).setRegistry space registry) := by
  have here := machine.directory_setDirectory_self directory (consistent.present present)
  have elsewhere : ∀ {other}, other < machine.spaces.length → space ≠ other →
      (machine.setDirectory space directory).directory other = machine.directory other :=
    fun known differ => machine.directory_setDirectory_of_ne directory fun same =>
      differ (mapped.own present known same)
  have registry_here := (machine.setDirectory space directory).registry_setRegistry_self
    registry present
  have registry_elsewhere : ∀ {other}, space ≠ other →
      ((machine.setDirectory space directory).setRegistry space registry).registry other =
        machine.registry other :=
    fun differ => (machine.setDirectory space directory).registry_setRegistry_of_ne registry differ
  constructor
  · intro a b left right same
    rw [Machine.length_setRegistry] at left right
    rw [Machine.space_directory_setRegistry, Machine.space_directory_setRegistry] at same
    exact mapped.own left right same
  · intro other known
    rw [Machine.length_setRegistry] at known
    rw [Machine.directory_setRegistry]
    by_cases same : space = other
    · rw [← same, here]
      exact sane
    · rw [elsewhere known same]
      exact mapped.sane known
  · intro other page known is_page
    rw [Machine.length_setRegistry] at known
    rw [Machine.directory_setRegistry]
    by_cases same : space = other
    · rw [← same, here, registry_here]
      exact shows is_page
    · rw [elsewhere known same, registry_elsewhere same]
      exact mapped.shows known is_page

theorem revise (mapped : Mapped machine) {registry : Registry}
    (same : ∀ addr, registry.placement addr = (machine.registry space).placement addr) :
    Mapped (machine.setRegistry space registry) := by
  constructor
  · intro a b left right equal
    rw [Machine.length_setRegistry] at left right
    rw [Machine.space_directory_setRegistry, Machine.space_directory_setRegistry] at equal
    exact mapped.own left right equal
  · intro other known
    rw [Machine.length_setRegistry] at known
    rw [Machine.directory_setRegistry]
    exact mapped.sane known
  · intro other page known is_page
    rw [Machine.length_setRegistry] at known
    rw [Machine.directory_setRegistry, mapped.shows known is_page, Registry.expected,
      Registry.expected, machine.told_revised same]

theorem of_tables (mapped : Mapped machine) (spaces : after.spaces = machine.spaces)
    (directories : after.directories = machine.directories) : Mapped after := by
  have space_eq : ∀ space, after.space space = machine.space space := by
    intro space
    rw [Machine.space, Machine.space, spaces]
  have directory_eq : ∀ space, after.directory space = machine.directory space := by
    intro space
    rw [Machine.directory, Machine.directory, space_eq, directories]
  constructor
  · intro a b left right same
    rw [spaces] at left right
    rw [space_eq, space_eq] at same
    exact mapped.own left right same
  · intro space known
    rw [spaces] at known
    rw [directory_eq]
    exact mapped.sane known
  · intro space page known is_page
    rw [spaces] at known
    rw [directory_eq, Machine.registry, space_eq]
    exact mapped.shows known is_page

theorem aside (mapped : Mapped machine) (aside : machine.Aside after) : Mapped after := by
  constructor
  · intro a b left right same
    rw [aside.spaces] at left right
    rw [aside.assigned, aside.assigned] at same
    exact mapped.own left right same
  · intro space known
    rw [aside.spaces] at known
    exact aside.sane space (mapped.sane known)
  · intro space page known is_page
    rw [aside.spaces] at known
    rw [aside.mapping space (mapped.sane known) is_page, aside.registries]
    exact mapped.shows known is_page

theorem unmap (mapped : Mapped machine) (consistent : Consistent ⟨ledger, machine⟩)
    (present : space < machine.spaces.length) {addr : VirtualAddress} {frame : FrameNumber}
    {writable : Bool} (placed : (machine.registry space).placement addr = some (frame, writable))
    {registry : Registry} (left : ∀ other, registry.placement other =
      if addr = other then none else (machine.registry space).placement other) :
    Mapped ((machine.setDirectory space
      (Architecture.unmap (machine.directory space) addr).2).setRegistry space registry) := by
  obtain ⟨_, found, _⟩ := Registry.placement_eq_some.1 placed
  have is_page := (consistent.sound space).isPage found
  have sane := mapped.sane present
  refine mapped.update consistent present (Lawful.sane_unmap sane is_page) fun other => ?_
  rw [Lawful.mapping_unmap sane is_page other, Registry.expected, left]
  split
  · rfl
  · exact mapped.shows present other

theorem drop (mapped : Mapped machine) (consistent : Consistent ⟨ledger, machine⟩)
    {addr : VirtualAddress} {page : Page} {registry : Registry}
    (taken : (machine.registry space).take? addr = some (page, registry)) :
    Mapped ((machine.vacate space page).setRegistry space registry) := by
  obtain ⟨found, _, _, left⟩ := (consistent.sound space).take? taken
  have here := (consistent.sound space).keyed found
  subst here
  have revised : page.frame? = none → Mapped (machine.setRegistry space registry) := by
    intro away
    refine mapped.revise fun other => ?_
    rw [left]
    split
    · rename_i same
      rw [← same, Registry.placement_of_page found, away]
      rfl
    · rfl
  cases state : page.state with
  | unloaded =>
    simp only [Machine.vacate, state]
    exact revised (by rw [Page.frame?, state])
  | swapped slot =>
    simp only [Machine.vacate, state]
    exact (revised (by rw [Page.frame?, state])).of_tables rfl rfl
  | resident frame =>
    simp only [Machine.vacate, state]
    have placed : (machine.registry space).placement page.addr = some (frame, page.writable) :=
      Registry.placement_eq_some.2 ⟨page, found, state, rfl⟩
    exact (mapped.unmap consistent (machine.space_present found) placed left).of_tables rfl rfl

theorem attach {load : Load} {arrived : Nat} {flights : List Flight} {pins : Multiset Pin}
    (mapped : Mapped machine) (consistent : Consistent ⟨⟨⟨load, arrived⟩ :: flights, pins⟩, machine⟩)
    {page : Page} {start : PhysicalAddress} {directory : Architecture.Directory} {pinned : Bool}
    (current : (machine.registry load.space).current? load.page = some page)
    (begins : load.frame.start = .ok start)
    (installed : Architecture.install (machine.directory load.space) page.addr start page.writable =
      (.ok (), directory)) : Mapped (machine.arrive load page directory pinned) := by
  obtain ⟨found, _⟩ := Consistent.current?_eq_some current
  have fair := consistent.fair load (.head _)
  have sane := mapped.sane fair.present
  have is_page : page.addr.IsPage := by
    rw [(consistent.sound load.space).keyed found]
    exact fair.page
  have installed_sane : Lawful.Sane directory := by
    have kept : Lawful.Sane (Architecture.install (machine.directory load.space) page.addr start
      page.writable).2 := Lawful.sane_install sane is_page
    rwa [installed] at kept
  have shows : ∀ {other : VirtualAddress}, other.IsPage →
      Architecture.mapping directory other =
        ((machine.registry load.space).settle page load.frame pinned).expected other := by
    intro other other_page
    have moved := Registry.placement_insert (machine.registry load.space) { page with
      state := .resident load.frame, pinned, generation := page.generation + 1 }
        ((machine.registry load.space).holders.insert load.frame page.addr) other
    rw [Lawful.mapping_install sane is_page other_page installed, Registry.expected, Registry.settle,
      moved]
    split
    · rw [FrameNumber.start_ok begins]
      rfl
    · exact mapped.shows fair.present other_page
  have settled : Mapped ((machine.setDirectory load.space (Machine.marked load directory)).setRegistry
      load.space ((machine.registry load.space).settle page load.frame pinned)) := by
    unfold Machine.marked
    split
    · refine mapped.update consistent fair.present
        (Lawful.sane_setDirty installed_sane fair.page.canonical) fun other => ?_
      rw [Lawful.mapping_setDirty installed_sane fair.page.canonical other]
      exact shows other
    · exact mapped.update consistent fair.present installed_sane shows
  exact settled.of_tables rfl rfl

theorem create (mapped : Mapped machine) (consistent : Consistent ⟨ledger, machine⟩)
    (tables stackPointer : Nat) : Mapped { machine with
      spaces := machine.spaces ++ [⟨{}, machine.directories.length, stackPointer⟩]
      directories := machine.directories ++ [Architecture.ofSpec ⟨tables, []⟩] } := by
  generalize created : ({ machine with
    spaces := machine.spaces ++ [⟨{}, machine.directories.length, stackPointer⟩]
    directories := machine.directories ++ [Architecture.ofSpec ⟨tables, []⟩] } : Machine) = after
  have spaces : after.spaces =
      machine.spaces ++ [⟨{}, machine.directories.length, stackPointer⟩] := by rw [← created]
  have directories : after.directories =
      machine.directories ++ [Architecture.ofSpec ⟨tables, []⟩] := by rw [← created]
  have length : after.spaces.length = machine.spaces.length + 1 := by simp [spaces]
  obtain ⟨new, old⟩ := machine.space_create spaces
  have registries := machine.registry_create spaces
  have cases_of : ∀ {space}, space < after.spaces.length →
      space < machine.spaces.length ∨ space = machine.spaces.length :=
    fun known => Nat.lt_succ_iff_lt_or_eq.1 (Nat.lt_of_lt_of_eq known length)
  have old_directory : ∀ {space}, space < machine.spaces.length →
      after.directory space = machine.directory space := by
    intro space known
    have inside := consistent.present known
    rw [Machine.directory, Machine.directory, old known, directories, List.getD_eq_getElem?_getD,
      List.getD_eq_getElem?_getD, List.getElem?_append_left inside]
  have new_directory : after.directory machine.spaces.length =
      Architecture.ofSpec ⟨tables, []⟩ := by
    rw [Machine.directory, new, directories]
    simp [List.getD_eq_getElem?_getD]
  have empty : ∀ page, (machine.registry machine.spaces.length).expected page = none := by
    intro page
    rw [machine.registry_beyond (Nat.le_refl _), Registry.expected, Registry.placement_empty]
    rfl
  constructor
  · intro a b left right same
    rcases cases_of left with left | rfl
    · rcases cases_of right with right | rfl
      · rw [old left, old right] at same
        exact mapped.own left right same
      · rw [old left, new] at same
        exact absurd same (Nat.ne_of_lt (consistent.present left))
    · rcases cases_of right with right | rfl
      · rw [new, old right] at same
        exact absurd same.symm (Nat.ne_of_lt (consistent.present right))
      · rfl
  · intro space known
    rcases cases_of known with known | rfl
    · rw [old_directory known]
      exact mapped.sane known
    · rw [new_directory]
      exact Lawful.sane_new tables
  · intro space page known is_page
    rw [registries]
    rcases cases_of known with known | rfl
    · rw [old_directory known]
      exact mapped.shows known is_page
    · rw [new_directory, empty]
      exact Lawful.mapping_new tables is_page

/-- Every move leaves the directories right, unless others reach into them. -/
theorem move {act : Act} {start stop : Moment} (mapped : Mapped start.machine)
    (moved : Move act start stop) (consistent : Consistent start) (unmeddled : act ≠ .meddle) :
    Mapped stop.machine := by
  cases moved with
  | idle idle => exact mapped.aside idle.toAside
  | scribble scribbled | stray scribbled => exact mapped.aside scribbled.toAside
  | tamper aside => exact mapped.aside aside
  | @store ledger machine after space addr frame offset bytes memory owned written idle dirty =>
    have stored : Mapped { machine with memory } := mapped.of_tables rfl rfl
    exact stored.aside idle.toAside
  | @register ledger machine space page accepted unloaded first free backs =>
    exact mapped.revise ((consistent.sound space).add accepted unloaded first free backs.fits).2
  | @grow ledger machine space page accepted unloaded first free backs =>
    have registered :=
      mapped.revise ((consistent.sound space).add accepted unloaded first free backs.fits).2
    exact registered.of_tables rfl rfl
  | @classify ledger machine space addr backing registry done backs =>
    exact mapped.revise ((consistent.sound space).classify done backs.fits).2
  | drop taken | expel taken => exact mapped.drop consistent taken
  | @evict ledger machine space page frame hand state swap found unpinned saves =>
    have sound := consistent.sound space
    obtain ⟨registered, resident⟩ := sound.lookupFrame_eq_some found
    have away : ∀ other, state ≠ .resident other := by
      rintro other rfl
      cases saves
    have left := (sound.detach found away).2
    have placed : (machine.registry space).placement page.addr = some (frame, page.writable) :=
      Registry.placement_eq_some.2 ⟨page, registered, resident, rfl⟩
    exact (mapped.unmap consistent (machine.space_present registered) placed left).of_tables rfl rfl
  | attach current begins installed => exact mapped.attach consistent current begins installed
  | @pin flights pins machine space addr frame registry pinned =>
    exact (mapped.revise ((consistent.sound space).pin? pinned).2.2).of_tables rfl rfl
  | @unpin flights pins machine pin =>
    have revised := mapped.revise ((consistent.sound pin.space).unpinFrame pin.frame).2
    unfold Machine.unpin
    dsimp only
    split
    · split
      · exact mapped.of_tables rfl rfl
      · exact revised.of_tables rfl rfl
    · exact mapped.of_tables rfl rfl
  | create => exact mapped.create consistent _ _
  | meddle | share => exact absurd rfl unmeddled
  | misfree | take | fill | abandon | handOut | takeBack | lend | recover | refuse =>
    exact mapped.of_tables rfl rfl

end Mapped

end DemandPaging
