import DemandPaging.Proofs.Snapshots
import Mathlib.Logic.Relation

/-! The life of one page, from its registration on: the steps it can take, and that every move of the
memory manager comes to some of them. The dirty bit belongs to the life of a page, since what happens
to a page without it that has to leave its frame is another thing than what happens to one with it. -/
namespace DemandPaging
open Architecture (Lawful)

structure PageLife where
  page : Page
  dirty : Bool
deriving DecidableEq

namespace PageLife

/-- One step in the life of a page. The generation counts loads and evictions. -/
inductive Step : PageLife → PageLife → Prop
  | classify {page} (backing : Backing) (bare : page.backing = .unclassified)
      (away : page.state = .unloaded) : Step ⟨page, false⟩ ⟨{ page with backing }, false⟩
  /-- The page is pinned, or its last pin is dropped. -/
  | mark {page dirty frame} (pinned : Bool) (resident : page.state = .resident frame) :
      Step ⟨page, dirty⟩ ⟨{ page with pinned }, dirty⟩
  | write {page frame} (resident : page.state = .resident frame) : Step ⟨page, false⟩ ⟨page, true⟩
  | load {page} (frame : FrameNumber) (pinned : Bool) (away : page.state = .unloaded)
      (backed : page.backing ≠ .unclassified) : Step ⟨page, false⟩
        ⟨{ page with state := .resident frame, pinned, generation := page.generation + 1 }, false⟩
  /-- What comes back from swap counts as written to. -/
  | reload {page slot} (frame : FrameNumber) (pinned : Bool) (away : page.state = .swapped slot) :
      Step ⟨page, false⟩
        ⟨{ page with state := .resident frame, pinned, generation := page.generation + 1 }, true⟩
  | swapOut {page dirty frame} (slot : SwapSlot) (resident : page.state = .resident frame)
      (needed : dirty = true ∨ page.backing = .zero) : Step ⟨page, dirty⟩
        ⟨{ page with state := .swapped slot, pinned := false, generation := page.generation + 1 }, false⟩
  | discard {page frame segment} (resident : page.state = .resident frame)
      (backed : page.backing = .file segment) : Step ⟨page, false⟩
        ⟨{ page with state := .unloaded, pinned := false, generation := page.generation + 1 }, false⟩

/-- The page is in swap, or it is resident and will go to swap when it is evicted. -/
def Saved (life : PageLife) : Prop :=
  (∃ slot, life.page.state = .swapped slot) ∨
    (∃ frame, life.page.state = .resident frame) ∧ life.dirty = true

/-- Nothing is known of the contents of the page, so it is nowhere. -/
def Bare (life : PageLife) : Prop :=
  life.page.backing = .unclassified → life.page.state = .unloaded

variable {old new : PageLife}

theorem Step.saved (step : Step old new) (saved : old.Saved) : new.Saved := by
  cases step with
  | classify backing bare away =>
    rcases saved with ⟨slot, swapped⟩ | ⟨_, dirty⟩
    · cases away.symm.trans swapped
    · cases dirty
  | mark pinned resident =>
    rcases saved with ⟨slot, swapped⟩ | saved
    · cases resident.symm.trans swapped
    · exact .inr saved
  | write resident => exact .inr ⟨⟨_, resident⟩, rfl⟩
  | load frame pinned away =>
    rcases saved with ⟨slot, swapped⟩ | ⟨_, dirty⟩
    · cases away.symm.trans swapped
    · cases dirty
  | reload frame => exact .inr ⟨⟨frame, rfl⟩, rfl⟩
  | swapOut slot => exact .inl ⟨slot, rfl⟩
  | discard resident =>
    rcases saved with ⟨slot, swapped⟩ | ⟨_, dirty⟩
    · cases resident.symm.trans swapped
    · cases dirty

theorem Step.writable (step : Step old new) : new.page.writable = old.page.writable := by
  cases step <;> rfl

theorem Step.backing (step : Step old new) :
    new.page.backing = old.page.backing ∨ old.page.backing = .unclassified := by
  cases step with
  | classify backing bare => exact .inr bare
  | _ => exact .inl rfl

theorem Step.bare (step : Step old new) (bare : old.Bare) : new.Bare := by
  cases step with
  | classify backing _ away => exact fun _ => away
  | mark pinned resident => exact bare
  | write => exact bare
  | load frame pinned away backed => exact fun none => absurd none backed
  | reload frame pinned away =>
    intro none
    cases away.symm.trans (bare none)
  | swapOut slot resident =>
    intro none
    cases resident.symm.trans (bare none)
  | discard => exact fun _ => rfl

/-- What a page may have become of another while it stayed registered. -/
structure Cycle (old new : PageLife) : Prop where
  steps : Relation.ReflTransGen Step old new
  bare : old.Bare ∧ new.Bare
  writable : new.page.writable = old.page.writable
  backing : new.page.backing = old.page.backing ∨ old.page.backing = .unclassified
  saved : old.Saved → new.Saved

theorem Cycle.of_steps (steps : Relation.ReflTransGen Step old new) (bare : old.Bare) :
    Cycle old new := by
  induction steps with
  | refl => exact ⟨.refl, ⟨bare, bare⟩, rfl, .inl rfl, id⟩
  | tail _ step ih =>
    refine ⟨ih.steps.tail step, ⟨bare, step.bare ih.bare.2⟩, step.writable.trans ih.writable, ?_,
      fun saved => step.saved (ih.saved saved)⟩
    rcases ih.backing with same | bare
    · rw [← same]
      exact step.backing
    · exact .inr bare

end PageLife

section
variable [Architecture]

def Machine.life? (machine : Machine) (space : SpaceId) (addr : VirtualAddress) : Option PageLife :=
  ((machine.registry space).pages.get? addr).map fun page => ⟨page, machine.isDirty space addr⟩

theorem Machine.life?_eq_some {machine : Machine} {space : SpaceId} {addr : VirtualAddress}
    {life : PageLife} : machine.life? space addr = some life ↔
      (machine.registry space).pages.get? addr = some life.page ∧
        machine.isDirty space addr = life.dirty := by
  obtain ⟨page, dirty⟩ := life
  unfold life?
  rw [Option.map_eq_some_iff]
  constructor
  · rintro ⟨_, found, same⟩
    cases same
    exact ⟨found, rfl⟩
  · rintro ⟨found, same⟩
    exact ⟨page, found, by rw [same]⟩

/-- A page without a backing is nowhere. -/
def Machine.Classified (machine : Machine) : Prop :=
  ∀ {space addr life}, machine.life? space addr = some life → life.Bare

theorem Machine.Classified.page {machine : Machine} (classified : machine.Classified) {space : SpaceId}
    {addr : VirtualAddress} {page : Page} (found : (machine.registry space).pages.get? addr = some page)
    (bare : page.backing = .unclassified) : page.state = .unloaded := by
  have life : machine.life? space addr = some ⟨page, machine.isDirty space addr⟩ :=
    Machine.life?_eq_some.2 ⟨found, rfl⟩
  exact classified life bare

variable [Lawful]

/-! Dirty bits. -/

namespace Mapped
variable {ledger : Ledger} {machine : Machine} {space owner : SpaceId} {addr : VirtualAddress}

theorem clean (mapped : Mapped machine) (consistent : Consistent ⟨ledger, machine⟩) {page : Page}
    (found : (machine.registry space).pages.get? addr = some page) (away : page.isResident = false) :
    machine.isDirty space addr = false := by
  have sound : (machine.registry space).Sound := consistent.sound space
  have present := machine.space_present found
  have is_page := sound.isPage found
  refine eq_false_of_ne_true fun dirty => ?_
  have mapping := Lawful.dirty_mapped (mapped.sane present) is_page dirty
  have nowhere : page.frame? = none := by simpa [Page.isResident] using away
  rw [mapped.shows present is_page, Registry.expected, Registry.placement_of_page found, nowhere] at mapping
  cases mapping

/-- A dirty bit stays when the directory of a space is replaced, if it stays in that directory. -/
theorem dirty_setDirectory (mapped : Mapped machine) (consistent : Consistent ⟨ledger, machine⟩)
    (owned : owner < machine.spaces.length) (present : space < machine.spaces.length)
    {directory : Architecture.Directory}
    (here : owner = space → Architecture.isDirty directory addr = true)
    (dirty : machine.isDirty space addr = true) :
    (machine.setDirectory owner directory).isDirty space addr = true := by
  by_cases same : owner = space
  · have inside : (machine.space owner).directory < machine.directories.length :=
      consistent.present owned
    rw [Machine.isDirty, ← same, machine.directory_setDirectory_self _ inside]
    exact here same
  · rw [Machine.isDirty, machine.directory_setDirectory_of_ne _ fun shared =>
      same (mapped.own owned present shared)]
    exact dirty

theorem dirty_unmap (mapped : Mapped machine) (consistent : Consistent ⟨ledger, machine⟩)
    (owned : owner < machine.spaces.length) (present : space < machine.spaces.length)
    {place : VirtualAddress} (place_page : place.IsPage) (is_page : addr.IsPage)
    (differ : owner = space → place ≠ addr) (dirty : machine.isDirty space addr = true) :
    (machine.setDirectory owner
      (Architecture.unmap (machine.directory owner) place).2).isDirty space addr = true := by
  refine mapped.dirty_setDirectory consistent owned present (fun same => ?_) dirty
  rw [Lawful.dirty_unmap (mapped.sane owned) place_page is_page (differ same), same]
  exact dirty

/-- Which dirty bits are set when the page of a load has been mapped. -/
theorem dirty_marked (mapped : Mapped machine) {load : Load} (owned : load.space < machine.spaces.length)
    {page : Page} (keyed : page.addr = load.page.addr) (load_page : load.page.addr.IsPage)
    {first : PhysicalAddress} {directory : Architecture.Directory}
    (installed : Architecture.install (machine.directory load.space) page.addr first page.writable =
      (.ok (), directory)) (is_page : addr.IsPage) :
    Architecture.isDirty (Machine.marked load directory) addr =
      if load.page.addr = addr then load.page.state matches .swapped _
      else machine.isDirty load.space addr := by
  have sane := mapped.sane owned
  rw [keyed] at installed
  have mapped_sane : Lawful.Sane directory := by
    have kept : Lawful.Sane (Architecture.install (machine.directory load.space) load.page.addr first
      page.writable).2 := Lawful.sane_install sane load_page
    rwa [installed] at kept
  have bits := Lawful.dirty_install sane load_page is_page installed
  have here := Lawful.mapping_install sane load_page load_page installed
  cases state : load.page.state with
  | swapped slot =>
    rw [Machine.marked, state]
    dsimp only
    rw [Lawful.dirty_setDirty mapped_sane load_page is_page, here, bits]
    split <;> simp [Machine.isDirty, *]
  | unloaded | resident =>
    rw [Machine.marked, state]
    exact bits

/-- A page that comes back from swap counts as changed, and any other page that arrives does not. -/
theorem dirty_arrive (mapped : Mapped machine) (consistent : Consistent ⟨ledger, machine⟩) {load : Load}
    (fair : load.Fair machine) {first : PhysicalAddress} {directory : Architecture.Directory}
    {pinned : Bool} (installed : Architecture.install (machine.directory load.space) load.page.addr first
      load.page.writable = (.ok (), directory)) :
    (machine.arrive load load.page directory pinned).isDirty load.space load.page.addr =
      (load.page.state matches .swapped _) := by
  have bits := mapped.dirty_marked fair.present rfl fair.page installed fair.page
  change Architecture.isDirty (Machine.directory (Machine.setRegistry
    (machine.setDirectory load.space _) load.space _) load.space) load.page.addr = _
  rw [Machine.directory_setRegistry,
    Machine.directory_setDirectory_self _ _ (consistent.present fair.present), bits, if_pos rfl]

theorem dirty_vacate (mapped : Mapped machine) (consistent : Consistent ⟨ledger, machine⟩)
    {place : VirtualAddress} {page : Page} {after : Registry}
    (taken : (machine.registry owner).take? place = some (page, after)) {here now : FrameNumber × Bool}
    (placed : machine.placement space addr = some here)
    (stays : ((machine.vacate owner page).setRegistry owner after).placement space addr = some now)
    (dirty : machine.isDirty space addr = true) :
    ((machine.vacate owner page).setRegistry owner after).isDirty space addr = true := by
  have sound : (machine.registry owner).Sound := consistent.sound owner
  obtain ⟨found, _, _, left⟩ := sound.take? taken
  obtain ⟨other, registered, _⟩ := Registry.placement_eq_some.1 placed
  have owned := machine.space_present found
  have keyed := sound.keyed found
  have own : (machine.registry space).Sound := consistent.sound space
  have is_page := own.isPage registered
  rw [Machine.isDirty, Machine.directory_setRegistry]
  cases state : page.state with
  | unloaded | swapped =>
    simp only [Machine.vacate, state]
    exact dirty
  | resident frame =>
    simp only [Machine.vacate, state]
    refine mapped.dirty_unmap consistent owned (machine.space_present registered)
      (keyed ▸ sound.isPage found) is_page
      (fun same there => ?_) dirty
    have vacated : ((machine.vacate owner page).setRegistry owner after).placement owner place = none := by
      have whole : owner < (machine.vacate owner page).spaces.length := by
        rw [Machine.spaces_vacate]
        exact owned
      rw [Machine.placement, Machine.registry_setRegistry_self _ _ whole, left, if_pos rfl]
    subst same
    rw [← keyed, there] at vacated
    cases vacated.symm.trans stays

theorem dirty_reclaim (mapped : Mapped machine) (consistent : Consistent ⟨ledger, machine⟩)
    {gone : Page} {frame : FrameNumber} {hand : Nat} {state : PageState} {swap : SwapStore}
    (held : (machine.registry owner).lookupFrame frame = some gone)
    (saves : machine.Saves owner gone frame state swap) {here now : FrameNumber × Bool}
    (placed : machine.placement space addr = some here)
    (stays : (machine.reclaim owner gone frame hand state swap).placement space addr = some now)
    (dirty : machine.isDirty space addr = true) :
    (machine.reclaim owner gone frame hand state swap).isDirty space addr = true := by
  have sound : (machine.registry owner).Sound := consistent.sound owner
  obtain ⟨gone_found, resident⟩ := sound.lookupFrame_eq_some held
  obtain ⟨page, found, _⟩ := Registry.placement_eq_some.1 placed
  have own : (machine.registry space).Sound := consistent.sound space
  have is_page := own.isPage found
  have gone_page := sound.isPage gone_found
  have owned := machine.space_present gone_found
  have away : ∀ other, state ≠ .resident other := by
    rintro other rfl
    cases saves
  change Architecture.isDirty (Machine.directory (Machine.setRegistry
    (machine.setDirectory owner _) owner _) space) addr = _
  rw [Machine.directory_setRegistry]
  refine mapped.dirty_unmap consistent owned (machine.space_present found) gone_page is_page
    (fun same there => ?_) dirty
  have left : (machine.reclaim owner gone frame hand state swap).placement owner gone.addr = none :=
    (machine.placement_moved owned (sound.detach held away).2 owner gone.addr).trans
      (if_pos ⟨rfl, rfl⟩)
  subst same
  rw [there] at left
  cases left.symm.trans stays

/-- No load settles a page that is resident, so that the bit stays when one settles. -/
theorem dirty_settle (mapped : Mapped machine) (consistent : Consistent ⟨ledger, machine⟩) {load : Load}
    (member : load ∈ ledger.loads) {page : Page} {first : PhysicalAddress}
    {directory : Architecture.Directory} {pinned : Bool}
    (current : (machine.registry load.space).current? load.page = some page)
    (installed : Architecture.install (machine.directory load.space) page.addr first page.writable =
      (.ok (), directory)) {here : FrameNumber × Bool}
    (placed : machine.placement space addr = some here) (dirty : machine.isDirty space addr = true) :
    (machine.arrive load page directory pinned).isDirty space addr = true := by
  have awaited := consistent.awaits member current
  have fair := consistent.fair load member
  have registered := (Consistent.current?_eq_some current).1
  have keyed := (consistent.sound load.space).keyed registered
  obtain ⟨resident, found, _⟩ := Registry.placement_eq_some.1 placed
  have own : (machine.registry space).Sound := consistent.sound space
  have is_page := own.isPage found
  change Architecture.isDirty (Machine.directory (Machine.setRegistry
    (machine.setDirectory load.space _) load.space _) space) addr = _
  rw [Machine.directory_setRegistry]
  refine mapped.dirty_setDirectory consistent fair.present (machine.space_present found)
    (fun same => ?_) dirty
  rw [mapped.dirty_marked fair.present keyed fair.page installed is_page, if_neg fun there => ?_, same]
  · exact dirty
  · rw [same, there] at registered
    have placed : (machine.registry space).placement addr = some here := placed
    rw [Registry.placement_of_page registered] at placed
    cases state : page.frame? with
    | none =>
      rw [state] at placed
      cases placed
    | some frame =>
      rw [Page.isResident, state] at awaited
      cases awaited

/-- No move takes a page its dirty bit while it stays resident, unless callers reach into page
directories. -/
theorem keeps_dirty {act : Act} {start stop : Moment} (mapped : Mapped start.machine)
    (move : Move act start stop) (consistent : Consistent start)
    (untouched : act ≠ .meddle ∧ act ≠ .stray) {place now : FrameNumber × Bool}
    (placed : start.machine.placement space addr = some place)
    (stays : stop.machine.placement space addr = some now)
    (dirty : start.machine.isDirty space addr = true) : stop.machine.isDirty space addr = true := by
  obtain ⟨page, found, _⟩ := Registry.placement_eq_some.1 placed
  have sound := consistent.sound space
  have present := start.machine.space_present found
  have is_page := sound.isPage found
  have sane := mapped.sane present
  cases move with
  | idle idle => exact idle.dirty space sane is_page dirty
  | scribble _ keeps | tamper _ keeps => exact keeps space sane is_page dirty
  | store _ _ idle => exact idle.dirty space sane is_page dirty
  | meddle | share => exact absurd rfl untouched.1
  | stray => exact absurd rfl untouched.2
  | @register ledger machine owner fresh | @grow ledger machine owner fresh
  | @classify ledger machine owner there backing after
  | @pin flights pins machine owner there frame after =>
    change Architecture.isDirty (Machine.directory (Machine.setRegistry machine owner _) space) addr = _
    rw [Machine.directory_setRegistry]
    exact dirty
  | @drop ledger machine owner there gone after taken | @expel ledger machine owner there gone after taken =>
    exact mapped.dirty_vacate consistent taken placed stays dirty
  | evict held _ saves => exact mapped.dirty_reclaim consistent held saves placed stays dirty
  | attach current _ installed =>
    exact mapped.dirty_settle consistent (.head _) current installed placed dirty
  | @unpin flights pins machine pin =>
    unfold Machine.unpin
    dsimp only
    split
    · split
      · exact dirty
      · change Architecture.isDirty (Machine.directory (Machine.setRegistry machine _ _) space) addr = _
        rw [Machine.directory_setRegistry]
        exact dirty
    · exact dirty
  | @create ledger machine tables stackPointer =>
    have same : ({ machine with
        spaces := machine.spaces ++ [⟨{}, machine.directories.length, stackPointer⟩]
        directories := machine.directories ++ [Architecture.ofSpec ⟨tables, []⟩] } : Machine).directory
          space = machine.directory space := by
      have inside := consistent.present present
      rw [Machine.directory, (machine.space_create rfl).2 present, Machine.directory,
        List.getD_eq_getElem?_getD, List.getD_eq_getElem?_getD, List.getElem?_append_left inside]
    rw [Machine.isDirty, same]
    exact dirty
  | misfree | take | fill | abandon | handOut | takeBack | lend | recover | refuse => exact dirty

end Mapped

/-! Moves as steps. -/

section
variable {act : Act} {start stop : Moment} {space : SpaceId} {addr : VirtualAddress} {page after : Page}

omit [Architecture] [Lawful] in
theorem Page.isResident_iff {page : Page} : page.isResident = true ↔
    ∃ frame, page.state = .resident frame := by
  unfold Page.isResident Page.frame?
  cases page.state <;> simp

omit [Lawful] in
open PageLife in
/-- A page that is evicted is discarded or swapped out, and is clean then. -/
theorem Machine.Saves.step {machine : Machine} {frame : FrameNumber} {state : PageState} {swap : SwapStore}
    (saves : machine.Saves space page frame state swap) (resident : page.state = .resident frame)
    (bare : page.backing = .unclassified → page.state = .unloaded) :
    Step ⟨page, machine.isDirty space page.addr⟩
      ⟨{ page with state, pinned := false, generation := page.generation + 1 }, false⟩ := by
  cases saves with
  | discard clean kept =>
    have backed : ∃ segment, page.backing = .file segment := by
      cases backing : page.backing with
      | unclassified => cases resident.symm.trans (bare backing)
      | zero =>
        rw [backing] at kept
        cases kept
      | file segment => exact ⟨segment, rfl⟩
    obtain ⟨segment, backed⟩ := backed
    rw [clean]
    exact .discard resident backed
  | save read wrote needed =>
    refine .swapOut _ resident (needed.imp_right fun always => ?_)
    exact beq_iff_eq.1 always

open PageLife in
/-- What a move makes of a page, it makes of it by steps. -/
theorem Turns.steps (turns : Turns start stop space page after) (move : Move act start stop)
    (consistent : Consistent start) (mapped : Mapped start.machine) (traced : Traced start)
    (untouched : act ≠ .meddle ∧ act ≠ .stray)
    (found : (start.machine.registry space).pages.get? addr = some page)
    (now : (stop.machine.registry space).pages.get? addr = some after)
    (bare : page.backing = .unclassified → page.state = .unloaded) :
    Relation.ReflTransGen Step ⟨page, start.machine.isDirty space addr⟩
      ⟨after, stop.machine.isDirty space addr⟩ := by
  have mapped_after := mapped.move move consistent untouched.1
  have consistent_after := consistent.move move
  have keyed := (consistent.sound space).keyed found
  -- A resident page stays and may be written to.
  have written : ∀ {frame other}, page.state = .resident frame → after.state = .resident other →
      Relation.ReflTransGen Step ⟨after, start.machine.isDirty space addr⟩
        ⟨after, stop.machine.isDirty space addr⟩ := by
    intro frame other resident remains
    cases before : start.machine.isDirty space addr with
    | true =>
      rw [mapped.keeps_dirty move consistent untouched
        (Registry.placement_eq_some.2 ⟨page, found, resident, rfl⟩)
        (Registry.placement_eq_some.2 ⟨after, now, remains, rfl⟩) before]
    | false =>
      cases stop.machine.isDirty space addr with
      | true => exact .single (.write remains)
      | false => exact .refl
  cases turns with
  | stays =>
    cases state : page.state with
    | resident frame => exact written state state
    | unloaded | swapped =>
      have away : page.isResident = false := by simp [Page.isResident, Page.frame?, state]
      rw [mapped.clean consistent found away, mapped_after.clean consistent_after now away]
  | @classified backing unclassified =>
    have unloaded := bare unclassified
    have away : page.isResident = false := by simp [Page.isResident, Page.frame?, unloaded]
    rw [mapped.clean consistent found away, mapped_after.clean consistent_after now away]
    exact .single (.classify backing unclassified unloaded)
  | marked pinned resident =>
    obtain ⟨frame, resident⟩ := Page.isResident_iff.1 resident
    exact .head (.mark pinned resident) (written resident resident)
  | @leaves frame state swap resident unpinned saves =>
    rw [mapped_after.clean consistent_after now (by cases saves <;> rfl), ← keyed]
    exact .single (saves.step resident bare)
  | @arrives load flights pinned latest owner current first directory installed left =>
    subst owner
    have member : load ∈ start.ledger.loads := by
      rw [Ledger.loads, latest]
      exact .head _
    have fair := consistent.fair load member
    have away := consistent.awaits member current
    obtain ⟨there, same⟩ := traced.current member current
    subst same
    subst keyed
    rw [mapped.clean consistent found away, left, mapped.dirty_arrive consistent fair installed]
    cases state : load.page.state with
    | unloaded => exact .single (.load load.frame pinned state fair.classified)
    | swapped slot => exact .single (.reload load.frame pinned state)
    | resident frame =>
      rw [Page.isResident, Page.frame?, state] at away
      cases away

/-- Every move leaves the pages without a backing nowhere, as long as the pages of loads are traced. -/
theorem Machine.Classified.move (classified : start.machine.Classified) (move : Move act start stop)
    (consistent : Consistent start) (traced : Traced start) :
    stop.machine.Classified := by
  rintro space addr ⟨after, dirty⟩ found
  have becomes := move.becomes consistent space addr
  rw [(Machine.life?_eq_some.1 found).1] at becomes
  generalize before : (start.machine.registry space).pages.get? addr = old at becomes
  cases becomes with
  | turns turns =>
    have bare := fun bare => classified.page before bare
    cases turns with
    | stays | marked => exact bare
    | classified unclassified => exact fun _ => bare unclassified
    | leaves resident =>
      intro unclassified
      cases resident.symm.trans (bare unclassified)
    | @arrives load flights pinned latest owner current =>
      subst owner
      have member : load ∈ start.ledger.loads := by
        rw [Ledger.loads, latest]
        exact .head _
      obtain ⟨_, same⟩ := traced.current member current
      rw [same]
      exact fun unclassified => absurd unclassified (consistent.fair load member).classified
  | enters way unloaded => exact fun _ => unloaded

/-- A page that no move unregisters takes steps. -/
theorem Move.lives (move : Move act start stop) (consistent : Consistent start)
    (mapped : Mapped start.machine) (traced : Traced start) (classified : start.machine.Classified)
    (untouched : act ≠ .meddle ∧ act ≠ .stray)
    (kept : ¬(act = .drop space addr ∨ act = .expel space addr)) {old : PageLife}
    (found : start.machine.life? space addr = some old) :
    ∃ new, stop.machine.life? space addr = some new ∧ Relation.ReflTransGen PageLife.Step old new := by
  obtain ⟨page, dirty⟩ := old
  obtain ⟨before, same⟩ := Machine.life?_eq_some.1 found
  have becomes := move.becomes consistent space addr
  rw [before] at becomes
  generalize now : (stop.machine.registry space).pages.get? addr = next at becomes
  cases becomes with
  | @turns _ after turns =>
    refine ⟨⟨after, stop.machine.isDirty space addr⟩, Machine.life?_eq_some.2 ⟨now, rfl⟩, ?_⟩
    have steps := turns.steps move consistent mapped traced untouched before now (classified found)
    rw [same] at steps
    exact steps
  | gone dropped => exact absurd dropped kept

end

end

end DemandPaging
