import DemandPaging.Proofs.HeldBytes
import DemandPaging.Proofs.Vacating

/-! Pages that are unregistered, one by one or with their space, give up what they held, and nothing else
changes: the registry, the directory of the space, what other pages hold, and the frames that linger. Main
statement: unregistering frees just what the pages held, in every machine that a run can be at. -/
namespace DemandPaging
open Architecture (Lawful AccessedBits)

section
variable [Architecture]

/-! Frames that were pinned when their pages went. -/

namespace Kernel

def unpins (frame : FrameNumber) (owner : SpaceId) : Nat → Kernel Unit
  | 0 => return
  | count + 1 => do
      unpin frame owner
      unpins frame owner count

/-- A frame that was released while it was pinned is free once the last of its pins is dropped, and not
before. -/
theorem unpins_lingering {machine : Machine} {index pins dropped : Nat} {owner : SpaceId}
    (inside : index < machine.pool.capacity) (kept : index ∉ machine.pool.free)
    (entry : machine.pool.entry index = { owner := some owner, pins, released := true })
    (pinned : 0 < pins) (most : dropped ≤ pins) :
    Outcome machine (unpins (machine.pool.number index) owner dropped)
      (fun _ next => index ∈ next.pool.free ↔ dropped = pins) Never := by
  induction dropped generalizing machine pins with
  | zero => exact .ret ⟨fun free => absurd free kept, fun none => by omega⟩
  | succ dropped ih =>
    have located : machine.pool.index (machine.pool.number index) = .ok index :=
      FramePool.index_ok.2 ⟨rfl, inside⟩
    have one : Outcome machine (unpin (machine.pool.number index) owner)
        (fun _ next => next = machine.unpin owner (machine.pool.number index)) Never :=
      .ended (unpin_ends located (by rw [entry]) (by rw [entry]; exact pinned)) rfl
    refine one.bind fun _ next same => ?_
    subst same
    unfold Machine.unpin
    simp only [FramePool.number_sub, entry]
    by_cases last : pins = 1
    · have none : dropped = 0 := by omega
      subst none last
      exact .ret ⟨fun _ => rfl, fun _ => List.mem_cons_self⟩
    · rw [if_neg last]
      have left : pins = pins - 1 + 1 := by omega
      rw [left, Nat.add_right_cancel_iff]
      refine ih inside kept ?_ (by omega) (by omega)
      rw [FramePool.entry_setPins, if_pos rfl, entry, Nat.add_sub_cancel]

end Kernel

/-! What is left of the directory of a space. -/

section
variable [Lawful] [AccessedBits] {directory : Architecture.Directory}

/-- Two directories say the same of a page: where it is mapped to, and its bits. -/
structure Architecture.Agree (before after : Architecture.Directory) (page : VirtualAddress) : Prop where
  mapping : Architecture.mapping after page = Architecture.mapping before page
  accessed : Architecture.isAccessed after page = Architecture.isAccessed before page
  dirty : Architecture.isDirty after page = Architecture.isDirty before page

/-- Pages are not mapped if they were in frames or were not mapped before, and the directory says the same
of all others. -/
theorem Page.unmapped_from (sane : Lawful.Sane directory) {pages : List Page}
    (proper : ∀ page ∈ pages, page.addr.IsPage) (distinct : (pages.map (·.addr)).Nodup)
    {after : Architecture.Directory}
    (unmapped : after = pages.foldl (fun directory page => page.unmappedFrom directory) directory) :
    (∀ page ∈ pages, page.isResident = true ∨ Architecture.mapping directory page.addr = none →
      Architecture.mapping after page.addr = none) ∧
      ∀ {other : VirtualAddress}, other.IsPage → other ∉ pages.map (·.addr) →
        Architecture.Agree directory after other := by
  subst unmapped
  induction pages generalizing directory with
  | nil => exact ⟨fun _ member => absurd member List.not_mem_nil, fun _ _ => ⟨rfl, rfl, rfl⟩⟩
  | cons page rest ih =>
    have here := proper page List.mem_cons_self
    have proper : ∀ page ∈ rest, page.addr.IsPage := fun page member =>
      proper page (List.mem_cons_of_mem _ member)
    have stays : Lawful.Sane (page.unmappedFrom directory) := by
      unfold Page.unmappedFrom
      split
      · exact Lawful.sane_unmap sane here
      · exact sane
    obtain ⟨apart, distinct⟩ := List.nodup_cons.1 distinct
    obtain ⟨gone, kept⟩ := ih stays proper distinct
    have step : ∀ {other : VirtualAddress}, other.IsPage →
        Architecture.mapping (page.unmappedFrom directory) other =
          if page.isResident = true ∧ page.addr = other then none
          else Architecture.mapping directory other := by
      intro other is_page
      unfold Page.unmappedFrom
      split
      · rename_i resident
        simp only [Lawful.mapping_unmap sane here is_page, resident, true_and]
      · rename_i away
        rw [if_neg fun both => away both.1]
    refine ⟨fun other member left => ?_, fun {other} is_page absent => ?_⟩
    · rcases List.mem_cons.1 member with same | later
      · subst same
        rw [List.foldl_cons, (kept here apart).mapping, step here]
        split
        · rfl
        · rename_i away
          exact left.resolve_left fun resident => away ⟨resident, rfl⟩
      · refine gone other later (left.imp_right fun unmapped => ?_)
        rw [step (proper other later), unmapped]
        exact ite_self _
    · rw [List.map_cons, List.mem_cons, not_or] at absent
      have differ : page.addr ≠ other := fun same => absent.1 same.symm
      have step : Architecture.Agree directory (page.unmappedFrom directory) other := by
        unfold Page.unmappedFrom
        split
        · exact ⟨(Lawful.mapping_unmap sane here is_page).trans (if_neg differ),
            (AccessedBits.accessed_unmap sane here is_page).trans (if_neg differ),
            Lawful.dirty_unmap sane here is_page differ⟩
        · exact ⟨rfl, rfl, rfl⟩
      obtain ⟨mapping, accessed, dirty⟩ := kept is_page absent.2
      exact ⟨mapping.trans step.mapping, accessed.trans step.accessed, dirty.trans step.dirty⟩

end

/-! Registries without the pages. -/

omit [Architecture] in
/-- Frames that a page leaves hold no page any more. -/
theorem Registry.holders_take? {registry after : Registry} {addr : VirtualAddress} {page : Page}
    (taken : registry.take? addr = some (page, after)) (frame : FrameNumber) :
    after.holders.get? frame =
      if frame ∈ Page.frames [page] then none else registry.holders.get? frame := by
  obtain ⟨_, _, same⟩ := Option.bind_eq_some_iff.1 taken
  cases same
  cases state : page.state with
  | resident other =>
    have listed : frame ∈ Page.frames [page] ↔ other = frame := by
      simp [Page.frames, Page.frame?, state, eq_comm]
    rw [SortedMap.get?_erase]
    exact if_congr ⟨fun same => listed.2 (rank_injective same), fun inside => congrArg rank (listed.1 inside)⟩
      rfl rfl
  | unloaded => simp [Page.frames, Page.frame?, state]
  | swapped slot => simp [Page.frames, Page.frame?, state]

theorem Registry.Sound.nodup_frames {registry : Registry} (sound : registry.Sound) {pages : List Page}
    (all : ∀ page ∈ pages, registry.pages.get? page.addr = some page)
    (distinct : (pages.map (·.addr)).Nodup) : (Page.frames pages).Nodup := by
  rw [List.Nodup, List.pairwise_map] at distinct
  rw [Page.frames, List.Nodup, List.pairwise_filterMap]
  refine distinct.imp_of_mem fun {page other} one two differ frame here again there same => ?_
  subst same
  have placed : ∀ {page : Page}, page ∈ pages → page.frame? = some frame →
      registry.placement page.addr = some (frame, page.writable) := by
    intro page member resident
    rw [Registry.placement_of_page (all page member), resident]
    rfl
  exact differ (sound.placement_injective (placed one here) (placed two there))

namespace Machine.Vacated
variable {machine after : Machine} {space : SpaceId} {gone : List Page}

/-- Pages that are left hold what they held. -/
theorem heldAt (vacated : machine.Vacated space gone after) (page : Page) (place : Nat) :
    after.heldAt page place = machine.heldAt page place := by
  have disk := vacated.disk
  obtain ⟨_, _, _, _, same⟩ := vacated.others
  have slots : after.swap.contents = machine.swap.contents := by
    funext slot
    rw [SwapStore.contents, SwapStore.contents, SwapStore.layout, SwapStore.layout, disk]
  rw [Machine.heldAt, Machine.heldAt, slots, same]
  rfl

/-- A frame that is pinned when its page goes is freed with the last of its pins. -/
theorem lingers {keepers : Multiset (SpaceId × FrameNumber)} {claims : Multiset Pin}
    {placement : Placement} (held : Held keepers claims machine.pool placement)
    (vacated : machine.Vacated space gone after) {index dropped : Nat}
    (listed : machine.pool.number index ∈ Page.frames gone)
    (holds : machine.pool.Holds (machine.pool.number index) space)
    (pinned : 0 < (machine.pool.entry index).pins) (most : dropped ≤ (machine.pool.entry index).pins) :
    Kernel.Outcome after (Kernel.unpins (machine.pool.number index) space dropped)
      (fun _ later => index ∈ later.pool.free ↔ dropped = (machine.pool.entry index).pins)
      Kernel.Never := by
  obtain ⟨place, inside, named, owned⟩ := holds
  cases FramePool.number_injective named
  have assigned := (held.sound.ring.1 inside).1
  have there : index < after.pool.capacity := by
    rw [vacated.size]
    exact held.sound.within assigned
  have entry : after.pool.entry index =
      { owner := some space, pins := (machine.pool.entry index).pins, released := true } := by
    rw [vacated.entries, if_pos listed, FrameEntry.vacated, if_pos pinned, owned]
  have outside : index ∉ after.pool.free := by
    obtain ⟨freed, free, _, members⟩ := vacated.free
    rw [free, List.mem_append, not_or]
    refine ⟨fun given => Nat.ne_of_gt pinned ((members index).1 given).2, fun free => ?_⟩
    have unowned := (held.sound.free.1 free).2
    rw [owned] at unowned
    cases unowned
  rw [← vacated.number]
  exact Kernel.unpins_lingering there outside entry pinned most

end Machine.Vacated

/-- Pages of a space are registered no more and hold nothing, and all else is as it was. -/
structure Machine.Unregistered (machine : Machine) (space : SpaceId) (gone : List Page)
    (next : Machine) : Prop where
  /-- No bytes are moved, and no other space is touched. -/
  vacated : (machine.setRegistry space (next.registry space)).Vacated space gone next
  log : machine.log <:+ next.log
  pages : ∀ addr, (next.registry space).pages.get? addr =
    if addr ∈ gone.map (·.addr) then none else (machine.registry space).pages.get? addr
  holders : ∀ frame, (next.registry space).holders.get? frame =
    if frame ∈ Page.frames gone then none else (machine.registry space).holders.get? frame
  unmapped : ∀ page ∈ gone, Architecture.mapping (next.directory space) page.addr = none
  shown : ∀ {other} {addr : VirtualAddress}, other < machine.spaces.length → addr.IsPage →
    (other = space → addr ∉ gone.map (·.addr)) →
      Architecture.Agree (machine.directory other) (next.directory other) addr
  held : ∀ {other} {addr : VirtualAddress}, (other = space → addr.pageBase ∉ gone.map (·.addr)) →
    next.heldByte? other addr = machine.heldByte? other addr
  /-- A frame that is pinned is freed with the last of its pins. -/
  lingers : ∀ {index dropped}, machine.pool.number index ∈ Page.frames gone →
    0 < (machine.pool.entry index).pins → dropped ≤ (machine.pool.entry index).pins →
      Kernel.Outcome next (Kernel.unpins (machine.pool.number index) space dropped)
        (fun _ later => index ∈ later.pool.free ↔ dropped = (machine.pool.entry index).pins) Kernel.Never
  /-- Where every slot belongs to one page, the slots of all other pages are kept. -/
  kept : machine.SlotsOwned → ∀ {other addr slot}, next.Swapped other addr slot →
    next.swap.isOccupied slot = true

/-- How a page is released: it is not there, its frame is pinned, or it is gone with what it held. -/
structure Machine.Releases (machine : Machine) (space : SpaceId) (addr : VirtualAddress)
    (result : Except RegistryError Page) (next : Machine) : Prop where
  absent : result = .error (.notFound addr.pageBase) ↔ (machine.registry space).lookup addr = none
  pinned : result = .error (.inUse addr.pageBase) ↔ ∃ page index,
    (machine.registry space).lookup addr = some page ∧
      page.state = .resident (machine.pool.number index) ∧ machine.pool.isPinned index = true
  refused : ∀ error, result = .error error →
    (error = .notFound addr.pageBase ∨ error = .inUse addr.pageBase) ∧ next = machine
  done : ∀ page, result = .ok page →
    (machine.registry space).lookup addr = some page ∧ machine.Unregistered space [page] next

/-- Pages of a space can be unregistered, one or all, whatever else goes on. -/
structure Machine.Unregisters (machine : Machine) (space : SpaceId) : Prop where
  release : ∀ addr, Kernel.Outcome machine (Kernel.releasePage space addr)
    (machine.Releases space addr) Kernel.Never
  destroy : Kernel.Outcome machine (Kernel.destroySpace space)
    (fun _ next => next.registry space = default ∧
      machine.Unregistered space (machine.registry space).pages.values next) Kernel.Never

namespace Machine.Releases
variable {machine next : Machine} {space : SpaceId} {addr : VirtualAddress} {page : Page}

theorem of_absent (absent : (machine.registry space).lookup addr = none) :
    machine.Releases space addr (.error (.notFound addr.pageBase)) machine where
  absent := iff_of_true rfl absent
  pinned := iff_of_false nofun fun ⟨page, _, found, _⟩ => by
    rw [absent] at found
    cases found
  refused error same := by
    cases same
    exact ⟨.inl rfl, rfl⟩
  done _ same := by cases same

theorem of_pinned {index : Nat} (found : (machine.registry space).lookup addr = some page)
    (resident : page.state = .resident (machine.pool.number index))
    (pinned : machine.pool.isPinned index = true) :
    machine.Releases space addr (.error (.inUse addr.pageBase)) machine where
  absent := iff_of_false nofun fun absent => by
    rw [absent] at found
    cases found
  pinned := iff_of_true rfl ⟨page, index, found, resident, pinned⟩
  refused error same := by
    cases same
    exact ⟨.inr rfl, rfl⟩
  done _ same := by cases same

theorem of_unpinned (found : (machine.registry space).lookup addr = some page)
    (unpinned : ∀ index, page.state = .resident (machine.pool.number index) →
      machine.pool.isPinned index = false)
    (gone : machine.Unregistered space [page] next) : machine.Releases space addr (.ok page) next where
  absent := iff_of_false nofun fun absent => by
    rw [absent] at found
    cases found
  pinned := iff_of_false nofun fun ⟨other, index, there, resident, pinned⟩ => by
    rw [found] at there
    cases there
    rw [unpinned index resident] at pinned
    cases pinned
  refused _ same := by cases same
  done other same := by
    cases same
    exact ⟨found, gone⟩

end Machine.Releases

section
variable [Lawful] [AccessedBits]

theorem Machine.Vacated.unregistered {ledger : Ledger} {machine next : Machine} {space : SpaceId}
    {gone : List Page} {registry : Registry} (consistent : Consistent ⟨ledger, machine⟩)
    (mapped : Mapped machine) (present : space < machine.spaces.length)
    (all : ∀ page ∈ gone, (machine.registry space).pages.get? page.addr = some page)
    (distinct : (gone.map (·.addr)).Nodup)
    (pages : ∀ addr, registry.pages.get? addr =
      if addr ∈ gone.map (·.addr) then none else (machine.registry space).pages.get? addr)
    (holders : ∀ frame, registry.holders.get? frame =
      if frame ∈ Page.frames gone then none else (machine.registry space).holders.get? frame)
    (vacated : (machine.setRegistry space registry).Vacated space gone next)
    (log : machine.log <:+ next.log) : machine.Unregistered space gone next := by
  have replaced : next.registry space = registry := by
    rw [Machine.registry, vacated.space_eq]
    exact machine.registry_setRegistry_self registry present
  have sound : (machine.registry space).Sound := consistent.sound space
  have proper : ∀ page ∈ gone, page.addr.IsPage := fun page member =>
    sound.isPage (all page member)
  have sane : Lawful.Sane (machine.directory space) := mapped.sane present
  have left := vacated.own
  rw [Machine.directory_setRegistry] at left
  obtain ⟨unmapped, shown⟩ := Page.unmapped_from sane proper distinct left
  have elsewhere : ∀ {other}, other ≠ space → next.space other = machine.space other := by
    intro other differ
    rw [vacated.space_eq]
    exact machine.space_setSpace_of_ne _ differ.symm
  have lookups : ∀ {other addr}, (other = space → addr ∉ gone.map (·.addr)) →
      (next.registry other).pages.get? addr = (machine.registry other).pages.get? addr := by
    intro other addr spared
    by_cases same : other = space
    · subst same
      rw [replaced, pages, if_neg (spared rfl)]
    · rw [Machine.registry, elsewhere same]
      rfl
  exact {
    vacated := replaced ▸ vacated
    log
    pages := replaced ▸ pages
    holders := replaced ▸ holders
    unmapped := fun page member => by
      refine unmapped page member ?_
      cases resident : page.isResident with
      | true => exact .inl rfl
      | false =>
        refine .inr ?_
        have placed := Registry.placement_of_page (all page member)
        rw [Page.isResident, Option.isSome_eq_false_iff, Option.isNone_iff_eq_none] at resident
        rw [mapped.shows present (proper page member), Registry.expected, placed, resident]
        rfl
    shown := by
      intro other addr known is_page spared
      by_cases same : other = space
      · subst same
        exact shown is_page (spared rfl)
      · rw [vacated.elsewhere other, Machine.directory_setRegistry]
        · exact ⟨rfl, rfl, rfl⟩
        · rw [Machine.space_directory_setRegistry, Machine.space_directory_setRegistry]
          exact fun shared => same (mapped.own present known shared).symm
    held := by
      intro other addr spared
      rw [Machine.heldByte?, Machine.heldByte?, Registry.lookup, lookups spared]
      exact congrArg _ (funext fun page => vacated.heldAt page _)
    lingers := by
      intro index dropped listed pinned most
      obtain ⟨page, member, resident⟩ := List.mem_filterMap.1 listed
      have placed : machine.placement space page.addr = some (machine.pool.number index, page.writable) := by
        rw [Machine.placement, Registry.placement_of_page (all page member), resident]
        rfl
      have held : Held (ledger.keepers machine.callers) (ledger.pins + machine.callers.pins)
          (machine.setRegistry space registry).pool machine.placement := consistent.held
      exact vacated.lingers held listed (held.placed placed) pinned most
    kept := by
      intro owners other addr slot swapped
      obtain ⟨page, found, state⟩ := swapped
      have spared : other = space → addr ∉ gone.map (·.addr) := by
        rintro rfl listed
        rw [replaced, pages, if_pos listed] at found
        cases found
      rw [lookups spared] at found
      refine (vacated.marks slot).2 ⟨(owners.occupied slot).2 ⟨other, addr, page, found, state⟩,
        fun left member same => ?_⟩
      obtain ⟨rfl, rfl⟩ := owners.single ⟨page, found, state⟩ ⟨left, all left member, same⟩
      exact spared rfl (List.mem_map_of_mem member) }

namespace Kernel
variable {ledger : Ledger} {machine : Machine} {space : SpaceId}

/-- A page that is taken out of its registry gives up what it holds. -/
theorem releaseHolding_unregisters (consistent : Consistent ⟨ledger, machine⟩) (mapped : Mapped machine)
    (present : space < machine.spaces.length) {addr : VirtualAddress} {page : Page} {registry : Registry}
    (taken : (machine.registry space).take? addr = some (page, registry)) :
    Outcome (machine.setRegistry space registry) (releaseHolding space page)
      (fun _ next => machine.Unregistered space [page] next) Never := by
  have sound : (machine.registry space).Sound := consistent.sound space
  have ring := consistent.held.sound
  obtain ⟨found, _, pages, _⟩ := sound.take? taken
  have keyed := sound.keyed found
  have held : ∀ frame, page.state = .resident frame → machine.pool.Holds frame space :=
    fun frame resident => consistent.held.placed
      (Registry.placement_eq_some.2 ⟨page, found, resident, rfl⟩ : machine.placement space _ = _)
  have gives : Outcome (machine.setRegistry space registry) (releaseHolding space page) _ Never :=
    releaseHolding_vacates (fun _ inside => ring.within (ring.ring.1 inside).1) held
  refine gives.weaken fun _ next ended => ?_
  obtain ⟨log, grows, rfl⟩ := ended
  refine Machine.Vacated.unregistered consistent mapped present (fun other member => ?_)
    (List.nodup_singleton _) (fun other => ?_) (Registry.holders_take? taken) (.logged ?_ log) grows
  · rw [List.mem_singleton.1 member, keyed]
    exact found
  · rw [pages, keyed.symm]
    simp [eq_comm]
  · exact (Machine.Vacated.refl (machine.setRegistry space registry) space ring.hand).next
      (by rw [Machine.space_directory_setRegistry]; exact consistent.present present) ring.distinct held
      fun _ _ => List.not_mem_nil

theorem releasePage_unregisters (consistent : Consistent ⟨ledger, machine⟩) (mapped : Mapped machine)
    (present : space < machine.spaces.length) (addr : VirtualAddress) :
    Outcome machine (releasePage space addr) (machine.Releases space addr) Never := by
  have sound : (machine.registry space).Sound := consistent.sound space
  have ring := consistent.held.sound
  refine .look ?_
  cases taken : (machine.registry space).take? addr.pageBase with
  | none =>
    refine .ret (.of_absent ?_)
    cases found : (machine.registry space).lookup addr with
    | none => rfl
    | some page =>
      obtain ⟨after, some⟩ := Registry.exists_take? found
      rw [taken] at some
      cases some
  | some found =>
    obtain ⟨page, registry⟩ := found
    obtain ⟨found, _⟩ := sound.take? taken
    have held : ∀ frame, page.state = .resident frame → machine.pool.Holds frame space :=
      fun frame resident => consistent.held.placed
        (Registry.placement_eq_some.2 ⟨page, found, resident, rfl⟩ : machine.placement space _ = _)
    -- A page that is not pinned gives up what it holds.
    have leaves (unpinned : ∀ index, page.state = .resident (machine.pool.number index) →
          machine.pool.isPinned index = false) :
        Outcome machine (do
          modify (·.setRegistry space registry)
          releaseHolding space page
          return .ok page : Kernel (Except RegistryError Page)) (machine.Releases space addr) Never := by
      refine .step ((releaseHolding_unregisters consistent mapped present taken).bind fun _ next gone => ?_)
      exact .ret (.of_unpinned found unpinned gone)
    cases state : page.frame? with
    | none =>
      simp only [state]
      refine leaves fun index resident => ?_
      rw [Page.frame?, resident] at state
      cases state
    | some frame =>
      simp only [state]
      have resident : page.state = .resident frame := by
        unfold Page.frame? at state
        split at state
        · cases state
          assumption
        · cases state
      obtain ⟨index, inside, rfl, _⟩ := held frame resident
      have located : machine.pool.index (machine.pool.number index) = .ok index :=
        FramePool.index_ok.2 ⟨rfl, ring.within (ring.ring.1 inside).1⟩
      have place : Outcome machine (poolIndex (machine.pool.number index))
          (fun place next => place = index ∧ next = machine) Never := .orStop located ⟨rfl, rfl⟩
      refine place.bind fun place next here => .look ?_
      rw [here.1, here.2]
      have only : ∀ other, page.state = .resident (machine.pool.number other) → index = other := by
        intro other again
        rw [resident] at again
        exact FramePool.number_injective (PageState.resident.inj again)
      cases pinned : machine.pool.isPinned index with
      | true => exact .ret (.of_pinned found resident pinned)
      | false => exact leaves fun other again => only other again ▸ pinned

theorem destroySpace_unregisters (consistent : Consistent ⟨ledger, machine⟩) (mapped : Mapped machine)
    (present : space < machine.spaces.length) :
    Outcome machine (destroySpace space) (fun _ next => next.registry space = default ∧
      machine.Unregistered space (machine.registry space).pages.values next) Never := by
  have sound : (machine.registry space).Sound := consistent.sound space
  have all : ∀ page ∈ (machine.registry space).pages.values,
      (machine.registry space).pages.get? page.addr = some page := fun page => sound.mem_values.1
  have held : ∀ page ∈ (machine.registry space).pages.values, ∀ frame, page.state = .resident frame →
      (machine.setRegistry space default).pool.Holds frame space :=
    fun page member frame resident => consistent.held.placed (Registry.placement_eq_some.2
      ⟨page, all page member, resident, rfl⟩ : machine.placement space _ = _)
  have ring : (machine.setRegistry space default).pool.Sound := consistent.held.sound
  have frames : (Page.frames ([] ++ (machine.registry space).pages.values)).Nodup :=
    sound.nodup_frames all sound.nodup_values
  refine .look (.step ?_)
  have gives : Outcome (machine.setRegistry space default)
      ((machine.registry space).pages.values.forM (releaseHolding space)) _ Never :=
    releaseAll_vacates (by rw [Machine.space_directory_setRegistry]; exact consistent.present present)
      ring held frames (.refl _ space ring.hand) (List.suffix_refl _)
  refine gives.bind fun _ next ⟨vacated, told⟩ => .change ⟨?_, ?_⟩
  · change next.registry space = default
    rw [Machine.registry, vacated.space_eq]
    exact machine.registry_setRegistry_self default present
  · refine Machine.Vacated.unregistered consistent mapped present all sound.nodup_values
      (fun addr => ?_) (fun frame => ?_) (vacated.logged _) (told.trans (List.suffix_cons _ _))
    · split
      · rfl
      · rename_i absent
        refine (Option.eq_none_iff_forall_ne_some.2 fun page found => absent ?_).symm
        exact List.mem_map.2 ⟨page, sound.mem_values.2 (sound.keyed found ▸ found), sound.keyed found⟩
    · split
      · rfl
      · rename_i absent
        refine (Option.eq_none_iff_forall_ne_some.2 fun addr holds => absent ?_).symm
        obtain ⟨writable, placed⟩ := sound.holders.1 holds
        obtain ⟨page, found, resident, _⟩ := Registry.placement_eq_some.1 placed
        exact List.mem_filterMap.2 ⟨page, sound.mem_values.2 (sound.keyed found ▸ found),
          by rw [Page.frame?, resident]⟩

end Kernel

/-- In every machine that a run can be at, also while loads are under way, unregistering pages frees just
what they held. -/
theorem Reached.unregisters_exactly {rule : Rule} {loads : List Load} {machine : Machine}
    (sensible : rule.Sensible) (trusting : rule.Trusting) (reached : Reached rule loads machine)
    {space : SpaceId} (present : space < machine.spaces.length) : machine.Unregisters space := by
  obtain ⟨ledger, rfl, between, _⟩ := Reached.keeps (fun _ => True) sensible (fun _ => trivial)
    (fun _ _ _ _ _ => trivial) (fun _ _ _ _ => trivial) reached
  exact ⟨Kernel.releasePage_unregisters between.toConsistent (between.mapped trusting) present,
    Kernel.destroySpace_unregisters between.toConsistent (between.mapped trusting) present⟩

end

end

section
attribute [local instance] Architecture.small

/-- Four pages: one was never touched, one is swapped out, one is in a frame, and one is pinned in its. -/
def motley : Machine :=
  [.createSpace none ⟨0, []⟩, .registerZero 0 0x1000 4 true, .poke 0 0x1000 1, .poke 0 0x1010 2,
    .poke 0 0x1020 3, .pin 0 0x1010 1 .read].foldl Machine.undisturbed twoFrames

theorem motley_unregisters : Reached .offered [] motley ∧ Rule.offered.Sensible ∧ Rule.offered.Trusting ∧
    0 < motley.spaces.length ∧ motley.Swapped 0 ⟨0x1000⟩ ⟨0⟩ ∧ motley.pool.isPinned 1 = true ∧
    motley.Unregisters 0 := by
  have reached : Reached .offered [] motley := twoFrames_reached.carried id (by decide +kernel)
  have present : 0 < motley.spaces.length := by decide +kernel
  exact ⟨reached, Rule.sensible_offered, Rule.trusting_offered, present,
    Machine.storage_eq_some.1 (by decide +kernel), by decide +kernel,
    reached.unregisters_exactly Rule.sensible_offered Rule.trusting_offered present⟩

def wideSectors : Machine where
  config := .ofFrames 2
  pool := .ofCount ⟨4⟩ 2
  memory := .mapped 4 2
  swap := { disk := { sectorSize := 16, count := 4 }, bitmap := .blank 4 }
  log := [.swapReady 4 1 16, .started 0x8000 0x800]

theorem wideSectors_reached {rule : Rule} : Reached rule [] wideSectors := by
  have booted : Machine.boot none (.ofFrames 2) (.mapped 4 2) ⟨4⟩ { sectorSize := 16, count := 4 } =
      .ok wideSectors := rfl
  exact .boot booted

def outgrown : Machine :=
  [.createSpace none ⟨0, []⟩, .registerZero 0 0x1000 3 true, .poke 0 0x1000 1, .poke 0 0x1010 2,
    .poke 0 0x1020 3].foldl Machine.undisturbed wideSectors

theorem outgrown_reached : Reached .offered [] outgrown :=
  wideSectors_reached.carried id (by decide +kernel)

/-- While a page is read from its slot, it is replaced by another, which comes to as many changes. -/
def supplanting : Interference :=
  .performing [] [.release 0 0x1000, .registerZero 0 0x1000 1 true, .poke 0 0x1000 4, .touch 0 0x1010 .read]

/-- The load was not given up, and freed a slot that had come to another page by then. -/
def misled : Machine :=
  (Kernel.perform supplanting (.fault 0 ⟨0x1000, .read, false⟩ none)).leaves outgrown

def doubled : Machine :=
  [.registerZero 0 0x1030 1 true, .poke 0 0x1030 5].foldl Machine.undisturbed misled

/-- After a load that took one page for another, two pages are in one slot, and the release of one of them
frees the slot of the other, which then reads the bytes of a third. -/
theorem doubled_release :
    let freed := doubled.undisturbed (.release 0 0x1000)
    Reached .offered [] doubled ∧ doubled.Swapped 0 ⟨0x1000⟩ ⟨0⟩ ∧ doubled.Swapped 0 ⟨0x1020⟩ ⟨0⟩ ∧
      freed.Swapped 0 ⟨0x1020⟩ ⟨0⟩ ∧
      doubled.swap.isOccupied ⟨0⟩ = true ∧ freed.swap.isOccupied ⟨0⟩ = false ∧
      (Kernel.perform .none (.copyFrom 0 0x1020 4)).bytes? doubled = some [3, 0, 0, 0] ∧
      (Kernel.perform .none (.copyFrom 0 0x1020 4)).bytes? freed = some [2, 0, 0, 0] := by
  have misled : Reached .offered [] misled :=
    .leaves outgrown_reached (by decide +kernel) (Interference.orderly_performing _ _ _ _)
      (by decide +kernel)
  have doubled : Reached .offered [] doubled := misled.carried id (by decide +kernel)
  exact ⟨doubled, Machine.storage_eq_some.1 (by decide +kernel), Machine.storage_eq_some.1 (by decide +kernel),
    Machine.storage_eq_some.1 (by decide +kernel), by decide +kernel, by decide +kernel, by decide +kernel,
    by decide +kernel⟩

end

end DemandPaging
