import DemandPaging.Proofs.Consistency
import DemandPaging.Proofs.Memories

/-! Every move keeps a machine consistent. There is one lemma for each move; they are put together at
the end. -/
namespace DemandPaging
open Architecture (Lawful)

variable [Architecture]

namespace Consistent
variable {ledger : Ledger} {machine after : Machine} {space : SpaceId}

theorem fair_of_length {loads : List Load} (fair : ∀ load ∈ loads, load.Fair machine)
    (spaces : machine.spaces.length ≤ after.spaces.length) :
    ∀ load ∈ loads, load.Fair after := by
  intro load member
  have known := fair load member
  exact { known with present := Nat.lt_of_lt_of_le known.present spaces }

omit [Architecture] in
theorem pins_of_guards {before now : Callers} (guards : now.guards = before.guards) :
    now.pins = before.pins := by
  rw [Callers.pins, Callers.pins, guards]

/-- The registry of a space is replaced, and directories are put in the place of others. -/
theorem of_moved (consistent : Consistent ⟨ledger, machine⟩) {now : Ledger} {registry : Registry}
    (sound : registry.Sound) (spaces : after.spaces = (machine.setRegistry space registry).spaces)
    (directories : after.directories.length = machine.directories.length)
    (held : Held (now.keepers after.callers) (now.pins + after.callers.pins) after.pool
      (machine.setRegistry space registry).placement)
    (fewer : ∀ load ∈ now.loads, load ∈ ledger.loads) : Consistent ⟨now, after⟩ := by
  have space_eq : ∀ other, after.space other = (machine.setRegistry space registry).space other := by
    intro other
    rw [Machine.space, Machine.space, spaces]
  have length : after.spaces.length = machine.spaces.length := by
    rw [spaces, Machine.length_setRegistry]
  refine ⟨fun other => ?_, fun {other} known => ?_, ?_, ?_⟩
  · rw [Machine.registry, space_eq]
    exact Machine.sound_setRegistry consistent.sound sound other
  · rw [length] at known
    rw [space_eq, Machine.space_directory_setRegistry, directories]
    exact consistent.present known
  · rw [Machine.placement_of_spaces spaces]
    exact held
  · exact fair_of_length (fun load member => consistent.fair load (fewer load member))
      (Nat.le_of_eq length.symm)

theorem revise (consistent : Consistent ⟨ledger, machine⟩) {registry : Registry}
    (sound : registry.Sound)
    (same : ∀ addr, registry.placement addr = (machine.registry space).placement addr) :
    Consistent ⟨ledger, machine.setRegistry space registry⟩ ∧
      (machine.setRegistry space registry).placement = machine.placement := by
  have placement : (machine.setRegistry space registry).placement = machine.placement := by
    funext other addr
    exact machine.told_revised same other addr
  refine ⟨consistent.of_moved sound rfl rfl ?_ fun _ member => member, placement⟩
  rw [placement]
  exact consistent.held

theorem of_tables (consistent : Consistent ⟨ledger, machine⟩) {now : Ledger}
    (spaces : after.spaces = machine.spaces)
    (directories : machine.directories.length ≤ after.directories.length)
    (held : Held (now.keepers after.callers) (now.pins + after.callers.pins) after.pool
      machine.placement)
    (fair : ∀ load ∈ now.loads, load.Fair machine) : Consistent ⟨now, after⟩ := by
  have space_eq : ∀ space, after.space space = machine.space space := by
    intro space
    rw [Machine.space, Machine.space, spaces]
  refine ⟨fun space => ?_, fun {space} known => ?_, ?_,
    fair_of_length fair (Nat.le_of_eq (by rw [spaces]))⟩
  · rw [Machine.registry, space_eq]
    exact consistent.sound space
  · rw [spaces] at known
    rw [space_eq]
    exact Nat.lt_of_lt_of_le (consistent.present known) directories
  · rw [Machine.placement_of_spaces spaces]
    exact held

theorem register (consistent : Consistent ⟨ledger, machine⟩) {page : Page}
    (accepted : (machine.registry space).refusal? page.addr = none)
    (unloaded : page.state = .unloaded) (first : page.generation = 0)
    (free : page.pinned = false) (fits : page.backing.Fits) :
    Consistent ⟨ledger, machine.setRegistry space ((machine.registry space).add page)⟩ := by
  obtain ⟨sound, same⟩ := (consistent.sound space).add accepted unloaded first free fits
  exact (consistent.revise sound same).1

theorem classify (consistent : Consistent ⟨ledger, machine⟩) {addr : VirtualAddress}
    {backing : Backing} {registry : Registry}
    (done : (machine.registry space).classify addr backing = .ok registry)
    (fits : backing.Fits) : Consistent ⟨ledger, machine.setRegistry space registry⟩ := by
  obtain ⟨sound, same⟩ := (consistent.sound space).classify done fits
  exact (consistent.revise sound same).1

theorem drop (consistent : Consistent ⟨ledger, machine⟩) {addr : VirtualAddress} {page : Page}
    {registry : Registry} (taken : (machine.registry space).take? addr = some (page, registry)) :
    Consistent ⟨ledger, (machine.vacate space page).setRegistry space registry⟩ := by
  obtain ⟨found, sound, _, left⟩ := (consistent.sound space).take? taken
  have present := machine.space_present found
  have here := (consistent.sound space).keyed found
  subst here
  -- A page that is not resident leaves all placements as they are.
  have revised : page.frame? = none → Consistent ⟨ledger, machine.setRegistry space registry⟩ := by
    intro away
    refine (consistent.revise sound fun other => ?_).1
    rw [left]
    split
    · rename_i same
      rw [← same, Registry.placement_of_page found, away]
      rfl
    · rfl
  cases state : page.state with
  | unloaded =>
    simp only [Machine.vacate, state]
    exact revised (by rw [Page.frame?, state])
  | swapped slot =>
    simp only [Machine.vacate, state]
    have revised := revised (by rw [Page.frame?, state])
    exact revised.of_tables rfl (Nat.le_refl _) revised.held revised.fair
  | resident frame =>
    simp only [Machine.vacate, state]
    have placed : (machine.registry space).placement page.addr = some (frame, page.writable) :=
      Registry.placement_eq_some.2 ⟨page, found, state, rfl⟩
    have named := (consistent.held.placed placed).index.1
    have gone := machine.placement_moved present left
    have numbered : machine.placement space page.addr =
        some (machine.pool.number (frame.value - machine.pool.base.value), page.writable) := by
      rw [← named]
      exact placed
    refine consistent.of_moved sound rfl List.length_set ?_ fun _ member => member
    change Held _ _ (if 0 < _ then _ else _) (Machine.setRegistry machine space registry).placement
    split
    · rename_i pinned
      exact consistent.held.retire numbered gone pinned
    · rename_i unpinned
      exact consistent.held.leave numbered gone (Nat.eq_zero_of_not_pos unpinned)
        machine.pool.hand

theorem evict (consistent : Consistent ⟨ledger, machine⟩) {page : Page} {frame : FrameNumber}
    {hand : Nat} {state : PageState} {swap : SwapStore}
    (found : (machine.registry space).lookupFrame frame = some page)
    (unpinned : (machine.pool.entry (frame.value - machine.pool.base.value)).pins = 0)
    (saves : machine.Saves space page frame state swap) :
    Consistent ⟨ledger, machine.reclaim space page frame hand state swap⟩ := by
  obtain ⟨registered, resident⟩ := (consistent.sound space).lookupFrame_eq_some found
  have away : ∀ other, state ≠ .resident other := by
    intro other same
    cases saves with
    | discard => cases same
    | save => cases same
  obtain ⟨sound, left⟩ := (consistent.sound space).detach found away
  have present := machine.space_present registered
  have placed : (machine.registry space).placement page.addr = some (frame, page.writable) :=
    Registry.placement_eq_some.2 ⟨page, registered, resident, rfl⟩
  have named := (consistent.held.placed placed).index.1
  have numbered : machine.placement space page.addr =
      some (machine.pool.number (frame.value - machine.pool.base.value), page.writable) := by
    rw [← named]
    exact placed
  exact consistent.of_moved sound rfl List.length_set
    (consistent.held.leave numbered (machine.placement_moved present left) unpinned hand)
    fun _ member => member

section
variable {flights : List Flight} {pins : Multiset Pin}

theorem take (consistent : Consistent ⟨⟨flights, pins⟩, machine⟩) {load : Load} {index : Nat}
    {rest : FramePool} (present : load.space < machine.spaces.length)
    (current : (machine.registry load.space).pages.get? load.page.addr = some load.page)
    (away : load.page.isResident = false) (classified : load.page.backing ≠ .unclassified)
    (taken : machine.pool.takeFree? = some (index, rest)) (named : load.frame = machine.pool.number index) :
    Consistent ⟨⟨⟨load, 0⟩ :: flights, pins⟩,
      { machine with pool := rest.assign index load.space }⟩ := by
  refine consistent.of_tables rfl (Nat.le_refl _) (consistent.held.take taken named) ?_
  intro other member
  rcases List.mem_cons.1 member with rfl | member
  · have sound := consistent.sound other.space
    refine ⟨present, away, classified, ?_, sound.isPage current, sound.fits current⟩
    have parity := sound.parity current
    rw [away] at parity
    have : other.page.generation % 2 ≠ 1 := fun odd => Bool.false_ne_true (parity.1 odd)
    omega
  · exact consistent.fair other member

omit [Architecture] in
theorem current?_eq_some {registry : Registry} {snapshot page : Page}
    (current : registry.current? snapshot = some page) :
    registry.pages.get? snapshot.addr = some page ∧ page.generation = snapshot.generation := by
  obtain ⟨found, same⟩ := Option.filter_eq_some_iff.1 current
  exact ⟨found, beq_iff_eq.1 same⟩

/-- The page that a load waits for is not resident. -/
theorem awaits {now : Moment} (consistent : Consistent now) {load : Load} {page : Page}
    (member : load ∈ now.ledger.loads)
    (current : (now.machine.registry load.space).current? load.page = some page) :
    page.isResident = false := by
  obtain ⟨found, same⟩ := current?_eq_some current
  have parity := (consistent.sound load.space).parity found
  rw [same, (consistent.fair load member).even] at parity
  exact (Bool.not_eq_true _).mp fun resident => absurd (parity.2 resident) (by decide)

theorem attach {load : Load} {arrived : Nat}
    (consistent : Consistent ⟨⟨⟨load, arrived⟩ :: flights, pins⟩, machine⟩)
    {page : Page} {directory : Architecture.Directory} {pinned : Bool}
    (current : (machine.registry load.space).current? load.page = some page) :
    Consistent ⟨⟨flights, if pinned then ⟨load.space, load.page.addr, load.frame⟩ ::ₘ pins else pins⟩,
      machine.arrive load page directory pinned⟩ := by
  obtain ⟨found, _⟩ := current?_eq_some current
  have fair := consistent.fair load (.head _)
  have kept : (load.space, load.frame) ∈
      (Ledger.mk (⟨load, arrived⟩ :: flights) pins).keepers machine.callers :=
    Ledger.mem_keepers (.head _)
  have sound := consistent.sound load.space
  have here := sound.keyed found
  rw [← here] at found
  have away : page.isResident = false := consistent.awaits (.head _) current
  have nowhere : (machine.registry load.space).placement page.addr = none := by
    rw [Registry.placement_of_page found]
    simpa [Page.isResident] using away
  have empty : (machine.registry load.space).holders.get? load.frame = none := by
    cases holder : (machine.registry load.space).holders.get? load.frame with
    | none => rfl
    | some addr =>
      obtain ⟨writable, placed⟩ := sound.holders.1 holder
      exact absurd rfl (consistent.held.apart kept placed)
  obtain ⟨settled, moved⟩ := sound.settle found away empty pinned
  have held := consistent.held.settle (Ledger.keepers_cons load arrived flights pins _) nowhere
    (machine.placement_moved fair.present moved)
  rw [here] at held
  refine consistent.of_moved settled rfl List.length_set ?_ fun _ member => .tail _ member
  change Held _ _ (if pinned then machine.pool else machine.pool.setPins _ 0)
    (Machine.setRegistry machine load.space _).placement
  cases pinned with
  | true =>
    change Held _ (⟨load.space, load.page.addr, load.frame⟩ ::ₘ pins + machine.callers.pins) _ _
    rw [Multiset.cons_add]
    exact held
  | false =>
    obtain ⟨named, inside, _⟩ := (consistent.held.kept kept).index
    have single := consistent.held.kept_pins kept named
    have unpinned := Held.unpin named held fun released => by
      rw [(consistent.held.sound.ring.1 inside).2] at released
      cases released
    rw [single] at unpinned
    exact unpinned

theorem abandon {load : Load} {arrived : Nat}
    (consistent : Consistent ⟨⟨⟨load, arrived⟩ :: flights, pins⟩, machine⟩) :
    Consistent ⟨⟨flights, pins⟩, { machine with
      pool := machine.pool.withdraw (load.frame.value - machine.pool.base.value) }⟩ := by
  have kept : (load.space, load.frame) ∈
      (Ledger.mk (⟨load, arrived⟩ :: flights) pins).keepers machine.callers :=
    Ledger.mem_keepers (.head _)
  have named := (consistent.held.kept kept).index.1
  exact consistent.of_tables rfl (Nat.le_refl _)
    (consistent.held.abandon (Ledger.keepers_cons load arrived flights pins _) named)
    fun other member => consistent.fair other (.tail _ member)

theorem lend (consistent : Consistent ⟨ledger, machine⟩) {index : Nat} {rest : FramePool}
    (taken : machine.pool.takeFree? = some (index, rest)) :
    Consistent ⟨ledger, { machine with
      pool := rest.assign index space
      callers := { machine.callers with
        frames := (space, machine.pool.number index) :: machine.callers.frames } }⟩ := by
  have held : Held ((space, _) ::ₘ _) _ _ _ := consistent.held.take taken rfl
  refine consistent.of_tables rfl (Nat.le_refl _) ?_ consistent.fair
  change Held (_ ++ (space, machine.pool.number index) :: machine.callers.frames : List _) _ _ _
  rw [Multiset.coe_eq_coe.2 List.perm_middle]
  exact held

theorem recover {frame : FrameNumber} {newer older : List (SpaceId × FrameNumber)}
    (consistent : Consistent ⟨ledger, machine⟩)
    (lent : machine.callers.frames = newer ++ (space, frame) :: older) :
    Consistent ⟨ledger, { machine with
      pool := machine.pool.withdraw (frame.value - machine.pool.base.value)
      callers := { machine.callers with frames := newer ++ older } }⟩ := by
  have start : ledger.keepers machine.callers =
      (space, frame) ::ₘ ledger.keepers { machine.callers with frames := newer ++ older } := by
    refine Multiset.coe_eq_coe.2 ?_
    rw [lent, ← List.append_assoc]
    exact (List.perm_middle).trans (.cons _ (.of_eq (List.append_assoc ..)))
  have kept : (space, frame) ∈ ledger.keepers machine.callers := by
    rw [start]
    exact Multiset.mem_cons_self _ _
  have named := (consistent.held.kept kept).index.1
  exact consistent.of_tables rfl (Nat.le_refl _) (consistent.held.abandon start named) consistent.fair

theorem pin (consistent : Consistent ⟨⟨flights, pins⟩, machine⟩) {addr : VirtualAddress}
    {frame : FrameNumber} {registry : Registry}
    (pinned : (machine.registry space).pin? addr = some (frame, registry)) :
    Consistent ⟨⟨flights, ⟨space, addr, frame⟩ ::ₘ pins⟩, { machine.setRegistry space registry with
      pool := machine.pool.setPins (frame.value - machine.pool.base.value)
        ((machine.pool.entry (frame.value - machine.pool.base.value)).pins + 1) }⟩ := by
  obtain ⟨⟨writable, placed⟩, sound, same⟩ := (consistent.sound space).pin? pinned
  have named := (consistent.held.placed placed).index.1
  obtain ⟨revised, placement⟩ := consistent.revise sound same
  refine revised.of_tables rfl (Nat.le_refl _) ?_ revised.fair
  rw [placement]
  change Held _ (⟨space, addr, frame⟩ ::ₘ pins + machine.callers.pins) _ _
  rw [Multiset.cons_add]
  have numbered : machine.placement space addr =
      some (machine.pool.number (frame.value - machine.pool.base.value), writable) := by
    rw [← named]
    exact placed
  have held := consistent.held.pin numbered
  rw [← named] at held
  exact held

theorem unpin {pin : Pin} (consistent : Consistent ⟨⟨flights, pin ::ₘ pins⟩, machine⟩) :
    Consistent ⟨⟨flights, pins⟩, machine.unpin pin.space pin.frame⟩ := by
  have held : Held ((Ledger.mk flights pins).keepers machine.callers)
      (pin ::ₘ (pins + machine.callers.pins)) machine.pool machine.placement := by
    rw [← Multiset.cons_add]
    exact consistent.held
  obtain ⟨index, named, _⟩ := consistent.held.claimed
    (Multiset.mem_add.2 (.inl (Multiset.mem_cons_self pin pins)))
  have place : pin.frame.value - machine.pool.base.value = index := by
    rw [named, FramePool.number_sub]
  have pinned : 0 < (machine.pool.entry index).pins :=
    Nat.lt_of_lt_of_eq (Nat.succ_pos _) (Held.claimed_pins named held).symm
  unfold Machine.unpin
  dsimp only
  rw [place]
  split
  · rename_i last
    split
    · rename_i released
      exact consistent.of_tables rfl (Nat.le_refl _) (Held.unpin_last named held last released) consistent.fair
    · rename_i kept
      obtain ⟨sound, same⟩ := (consistent.sound pin.space).unpinFrame pin.frame
      obtain ⟨revised, placement⟩ := consistent.revise sound same
      refine revised.of_tables rfl (Nat.le_refl _) ?_ revised.fair
      rw [placement]
      have unpinned := Held.unpin named held fun released => absurd released kept
      rw [last] at unpinned
      exact unpinned
  · rename_i more
    exact consistent.of_tables rfl (Nat.le_refl _) (Held.unpin named held fun _ => by omega) consistent.fair

omit [Architecture] in
theorem sum_append (guards : List (Option PinGuard)) (guard : PinGuard) :
    ((guards ++ [some guard]).map fun guard => guard.elim 0 PinGuard.pins).sum =
      (guards.map fun guard => guard.elim 0 PinGuard.pins).sum + guard.pins := by
  induction guards with
  | nil => exact Multiset.add_comm guard.pins 0
  | cons first rest ih =>
    rw [List.cons_append, List.map_cons, List.map_cons, List.sum_cons, List.sum_cons, ih,
      Multiset.add_assoc]

theorem handOut {guard : PinGuard}
    (consistent : Consistent ⟨⟨flights, guard.pins + pins⟩, machine⟩) :
    Consistent ⟨⟨flights, pins⟩, { machine with callers := { machine.callers with
      guards := machine.callers.guards ++ [some guard] } }⟩ := by
  refine consistent.of_tables rfl (Nat.le_refl _) ?_ consistent.fair
  change Held _ (pins + Callers.pins { machine.callers with
    guards := machine.callers.guards ++ [some guard] }) _ _
  have known := consistent.held
  change Held _ (guard.pins + pins + machine.callers.pins) _ _ at known
  have whole : Callers.pins { machine.callers with
      guards := machine.callers.guards ++ [some guard] } = machine.callers.pins + guard.pins :=
    sum_append machine.callers.guards guard
  rw [whole, ← Multiset.add_assoc, Multiset.add_comm, ← Multiset.add_assoc]
  exact known

omit [Architecture] in
theorem sum_set {guards : List (Option PinGuard)} {number : Nat} {guard : PinGuard}
    (held : guards[number]? = some (some guard)) :
    (guards.map fun guard => guard.elim 0 PinGuard.pins).sum =
      guard.pins + ((guards.set number none).map fun guard => guard.elim 0 PinGuard.pins).sum := by
  induction guards generalizing number with
  | nil => cases held
  | cons first rest ih =>
    cases number with
    | zero =>
      cases held
      simp
    | succ number =>
      have rest_sum := ih held
      rw [List.set_cons_succ, List.map_cons, List.map_cons, List.sum_cons, List.sum_cons, rest_sum,
        ← Multiset.add_assoc, ← Multiset.add_assoc, Multiset.add_comm guard.pins]

theorem takeBack {guard : PinGuard} {number : Nat}
    (consistent : Consistent ⟨⟨flights, pins⟩, machine⟩)
    (held : machine.callers.guards[number]? = some (some guard)) :
    Consistent ⟨⟨flights, guard.pins + pins⟩, { machine with callers := { machine.callers with
      guards := machine.callers.guards.set number none } }⟩ := by
  refine consistent.of_tables rfl (Nat.le_refl _) ?_ consistent.fair
  change Held _ (guard.pins + pins + Callers.pins { machine.callers with
    guards := machine.callers.guards.set number none }) _ _
  have whole : machine.callers.pins = guard.pins + Callers.pins { machine.callers with
      guards := machine.callers.guards.set number none } := sum_set held
  have known := consistent.held
  change Held _ (pins + machine.callers.pins) _ _ at known
  rw [whole, ← Multiset.add_assoc, Multiset.add_comm pins] at known
  exact known

end

theorem create (consistent : Consistent ⟨ledger, machine⟩) {directory stackPointer : Nat}
    {directories : List Architecture.Directory} (known : directory < directories.length)
    (fewer : machine.directories.length ≤ directories.length) :
    Consistent ⟨ledger, { machine with
      spaces := machine.spaces ++ [⟨{}, directory, stackPointer⟩], directories }⟩ := by
  generalize created : ({ machine with
    spaces := machine.spaces ++ [⟨{}, directory, stackPointer⟩], directories } : Machine) = after
  have spaces : after.spaces = machine.spaces ++ [⟨{}, directory, stackPointer⟩] := by rw [← created]
  have replaced : after.directories = directories := by rw [← created]
  obtain ⟨new, old⟩ := machine.space_create spaces
  have registries := machine.registry_create spaces
  have length : after.spaces.length = machine.spaces.length + 1 := by simp [spaces]
  refine ⟨fun space => ?_, fun {space} inside => ?_, ?_,
    fair_of_length consistent.fair (by simp [length])⟩
  · rw [registries]
    exact consistent.sound space
  · change (after.space space).directory < after.directories.length
    rw [replaced]
    rcases Nat.lt_succ_iff_lt_or_eq.1 (Nat.lt_of_lt_of_eq inside length) with earlier | rfl
    · rw [old earlier]
      exact Nat.lt_of_lt_of_le (consistent.present earlier) fewer
    · rw [new]
      exact known
  · have placement : after.placement = machine.placement := by
      funext space addr
      rw [Machine.placement, Machine.placement, registries]
    change Held _ _ _ after.placement
    rw [placement, ← created]
    exact consistent.held

variable [Lawful]

theorem aside (consistent : Consistent ⟨ledger, machine⟩) (aside : machine.Aside after) :
    Consistent ⟨ledger, after⟩ := by
  refine ⟨fun space => ?_, fun {space} known => ?_, ?_,
    fair_of_length consistent.fair (Nat.le_of_eq aside.spaces.symm)⟩
  · rw [aside.registries]
    exact consistent.sound space
  · rw [aside.spaces] at known
    rw [aside.assigned, aside.directories]
    exact consistent.present known
  · have placement : after.placement = machine.placement := by
      funext space addr
      rw [Machine.placement, Machine.placement, aside.registries]
    change Held (_ ++ after.callers.frames : List _) (_ + after.callers.pins) after.pool after.placement
    rw [placement, aside.pool, aside.frames, pins_of_guards aside.guards]
    exact consistent.held

/-- Every move keeps a machine consistent. -/
theorem move {act : Act} {start stop : Moment} (moved : Move act start stop)
    (consistent : Consistent start) : Consistent stop := by
  cases moved with
  | idle idle => exact consistent.aside idle.toAside
  | scribble scribbled => exact consistent.aside scribbled.toAside
  | tamper aside => exact consistent.aside aside
  | misfree => exact consistent.of_tables rfl (Nat.le_refl _) consistent.held consistent.fair
  | stray scribbled => exact consistent.aside scribbled.toAside
  | meddle fewer => exact consistent.of_tables rfl fewer consistent.held consistent.fair
  | share known => exact consistent.create known (Nat.le_refl _)
  | register accepted unloaded first free backs =>
    exact consistent.register accepted unloaded first free backs.fits
  | grow accepted unloaded first free backs =>
    have registered := consistent.register accepted unloaded first free backs.fits
    exact registered.of_tables rfl (Nat.le_refl _) registered.held registered.fair
  | classify done backs => exact consistent.classify done backs.fits
  | drop taken | expel taken => exact consistent.drop taken
  | evict found unpinned saves => exact consistent.evict found unpinned saves
  | take present current away classified taken named =>
    exact consistent.take present current away classified taken named
  | fill => exact consistent.of_tables rfl (Nat.le_refl _) consistent.held consistent.fair
  | attach current => exact consistent.attach current
  | abandon => exact consistent.abandon
  | pin pinned => exact consistent.pin pinned
  | unpin => exact consistent.unpin
  | handOut => exact consistent.handOut
  | takeBack held => exact consistent.takeBack held
  | @store ledger machine after space addr frame offset bytes memory owned written idle dirty =>
    have stored : Consistent ⟨ledger, { machine with memory }⟩ :=
      consistent.of_tables rfl (Nat.le_refl _) consistent.held consistent.fair
    exact stored.aside idle.toAside
  | create =>
    refine consistent.create ?_ ?_
    all_goals simp
  | lend taken => exact consistent.lend taken
  | recover held => exact consistent.recover held
  | refuse unowned =>
    exact consistent.of_tables rfl (Nat.le_refl _) (consistent.held.blank unowned) consistent.fair

theorem path {may : Act → Prop} {start stop : Moment} (path : Path may start stop)
    (consistent : Consistent start) : Consistent stop :=
  path.keeps Consistent consistent fun _ moved known => known.move moved

end Consistent

end DemandPaging
