import DemandPaging.Proofs.Bijection
import DemandPaging.Proofs.Snapshots
import DemandPaging.Proofs.SwapStores

/-! Slots of the swap store belong to pages that are swapped out: a slot is in use just if a page of
some space is in it, no slot is shared, and none is freed that is not in use. A load frees the slot of
its page only if no address is registered again while the page that was there is being loaded. -/
namespace DemandPaging
open Architecture (Lawful)

def Page.slot? (page : Page) : Option SwapSlot :=
  match page.state with
  | .swapped slot => some slot
  | _ => none

theorem Page.slot?_eq_some {page : Page} {slot : SwapSlot} :
    page.slot? = some slot ↔ page.state = .swapped slot := by
  unfold slot?
  cases page.state <;> simp

namespace Registry

def storage (registry : Registry) (addr : VirtualAddress) : Option SwapSlot :=
  (registry.pages.get? addr).bind Page.slot?

theorem storage_of_page {registry : Registry} {addr : VirtualAddress} {page : Page}
    (found : registry.pages.get? addr = some page) : registry.storage addr = page.slot? := by
  rw [storage, found, Option.bind_some]

theorem storage_replaced {registry after : Registry} {addr : VirtualAddress} {page : Option Page}
    (same : ∀ other, after.pages.get? other =
      if addr = other then page else registry.pages.get? other) (other : VirtualAddress) :
    after.storage other = if addr = other then page.bind Page.slot? else registry.storage other := by
  rw [storage, same]
  split <;> rfl

/-- A page is replaced by another that is in the same slot, or in none either. -/
theorem storage_revised {registry after : Registry} {addr : VirtualAddress} {page : Option Page}
    (same : ∀ other, after.pages.get? other =
      if addr = other then page else registry.pages.get? other)
    (kept : registry.storage addr = page.bind Page.slot?) (other : VirtualAddress) :
    after.storage other = registry.storage other := by
  rw [storage_replaced same]
  split
  · rename_i here
    rw [← here, kept]
  · rfl

theorem storage_marked {registry after : Registry} {addr : VirtualAddress} {old new : Page}
    (found : registry.pages.get? addr = some old)
    (same : ∀ other, after.pages.get? other =
      if addr = other then some new else registry.pages.get? other)
    (state : new.state = old.state) (other : VirtualAddress) :
    after.storage other = registry.storage other := by
  refine storage_revised same ?_ other
  rw [storage_of_page found, Option.bind_some, Page.slot?, Page.slot?, state]

theorem storage_add [Geometry] {registry : Registry} {page : Page}
    (accepted : registry.refusal? page.addr = none) (unloaded : page.state = .unloaded)
    (other : VirtualAddress) : (registry.add page).storage other = registry.storage other := by
  refine storage_revised (fun other => get?_insert _ _ _ _) ?_ other
  rw [storage, (refusal?_eq_none accepted).1, Option.bind_some, Page.slot?, unloaded]
  rfl

theorem storage_unpinFrame [Geometry] {registry : Registry} (sound : registry.Sound)
    (frame : FrameNumber) (addr : VirtualAddress) :
    (registry.unpinFrame frame).storage addr = registry.storage addr := by
  unfold storage
  rcases get?_unpinFrame sound frame addr with same | ⟨page, found, _, now⟩
  · rw [same]
  · rw [found, now]
    rfl

def slots (registry : Registry) : List SwapSlot :=
  registry.pages.values.filterMap Page.slot?

theorem mem_slots {registry : Registry} {slot : SwapSlot} :
    slot ∈ registry.slots ↔ ∃ addr, registry.storage addr = some slot := by
  simp only [slots, List.mem_filterMap, SortedMap.values_eq, List.mem_map]
  constructor
  · rintro ⟨page, ⟨⟨addr, page⟩, entry, rfl⟩, saved⟩
    exact ⟨addr, (storage_of_page (SortedMap.mem_toList.1 entry)).trans saved⟩
  · rintro ⟨addr, saved⟩
    obtain ⟨page, found, saved⟩ := Option.bind_eq_some_iff.1 saved
    exact ⟨page, ⟨_, SortedMap.mem_toList.2 found, rfl⟩, saved⟩

end Registry

section
variable [Architecture]

namespace Machine

def storage (machine : Machine) (space : SpaceId) (addr : VirtualAddress) : Option SwapSlot :=
  (machine.registry space).storage addr

def Swapped (machine : Machine) (space : SpaceId) (addr : VirtualAddress) (slot : SwapSlot) : Prop :=
  ∃ page, (machine.registry space).pages.get? addr = some page ∧ page.state = .swapped slot

theorem storage_eq_some {machine : Machine} {space : SpaceId} {addr : VirtualAddress}
    {slot : SwapSlot} : machine.storage space addr = some slot ↔ machine.Swapped space addr slot := by
  unfold storage Registry.storage Swapped
  rw [Option.bind_eq_some_iff]
  exact exists_congr fun page => and_congr Iff.rfl Page.slot?_eq_some

theorem storage_of_spaces {machine after : Machine} (spaces : after.spaces = machine.spaces) :
    after.storage = machine.storage := by
  funext space addr
  rw [storage, storage, Machine.registry, Machine.registry, Machine.space, Machine.space, spaces]

end Machine

/-- What a move does to the slots. -/
inductive Stows (start stop : Machine) : Prop
  | rests (marks : ∀ slot, stop.swap.isOccupied slot = start.swap.isOccupied slot)
      (storage : ∀ space addr, stop.storage space addr = start.storage space addr)
  /-- A page goes to a slot that was free. -/
  | saves {space addr slot} (vacant : start.swap.isOccupied slot = false)
      (unsaved : start.storage space addr = none)
      (marks : ∀ other, stop.swap.isOccupied other =
        if other = slot then true else start.swap.isOccupied other)
      (storage : ∀ s a, stop.storage s a =
        if space = s ∧ addr = a then some slot else start.storage s a)
  /-- A page leaves its slot. -/
  | frees {space addr slot} (saved : start.storage space addr = some slot)
      (marks : ∀ other, stop.swap.isOccupied other =
        if other = slot then false else start.swap.isOccupied other)
      (storage : ∀ s a, stop.storage s a =
        if space = s ∧ addr = a then none else start.storage s a)

/-- The registry of a space is replaced by one with the same slots. -/
theorem Stows.revised {machine after : Machine} {space : SpaceId} {registry : Registry}
    (swap : after.swap = machine.swap) (spaces : after.spaces = (machine.setRegistry space registry).spaces)
    (same : ∀ addr, registry.storage addr = (machine.registry space).storage addr) :
    Stows machine after := by
  refine .rests (fun _ => by rw [swap]) fun other addr => ?_
  rw [Machine.storage_of_spaces spaces]
  exact machine.told_revised same other addr

/-- A device that only counts, and registries that stay. -/
theorem Stows.counted {machine after : Machine}
    (swap : ∃ reads readsLeft writesLeft, after.swap =
      { machine.swap with disk := { machine.swap.disk with reads, readsLeft, writesLeft } })
    (registries : ∀ space, after.registry space = machine.registry space) : Stows machine after := by
  obtain ⟨_, _, _, swap⟩ := swap
  refine .rests (fun slot => by rw [swap]; rfl) fun space addr => ?_
  rw [Machine.storage, Machine.storage, registries]

/-- The slot of a page is free once the page is no longer registered, or is loaded again. -/
def SwapStore.without (swap : SwapStore) (page : Page) : SwapStore :=
  match page.state with
  | .swapped slot => (swap.free slot).2
  | _ => swap

/-- A page leaves its slot, if it has one. -/
theorem Stows.left {machine after : Machine} {space : SpaceId} {addr : VirtualAddress} {page : Page}
    (before : machine.storage space addr = page.slot?) (swap : after.swap = machine.swap.without page)
    (moved : ∀ s a, after.storage s a =
      if space = s ∧ addr = a then none else machine.storage s a) : Stows machine after := by
  unfold SwapStore.without at swap
  cases state : page.state with
  | swapped slot =>
    simp only [state] at swap
    refine .frees (before.trans (Page.slot?_eq_some.2 state)) (fun other => ?_) moved
    rw [swap, SwapStore.isOccupied_free]
  | unloaded | resident =>
    simp only [state] at swap
    refine .rests (fun slot => by rw [swap]) fun s a => ?_
    rw [moved]
    split
    · rename_i here
      rw [← here.1, ← here.2, before, Page.slot?, state]
    · rfl

/-- The slots in use and the pages that are swapped out are the same thing, and no slot was ever freed
for nothing. -/
structure Owned (machine : Machine) : Prop where
  occupied : ∀ slot, machine.swap.isOccupied slot = true ↔ ∃ space addr, machine.storage space addr = some slot
  single : ∀ {s t a b slot}, machine.storage s a = some slot → machine.storage t b = some slot →
    s = t ∧ a = b

theorem Owned.in_use {machine : Machine} (owned : Owned machine) {space : SpaceId} {addr : VirtualAddress}
    {page : Page} (found : (machine.registry space).pages.get? addr = some page) {slot : SwapSlot}
    (swapped : page.state = .swapped slot) :
    machine.swap.isOccupied slot = true ∧ slot.index < machine.swap.capacity := by
  have used := (owned.occupied slot).2 ⟨space, addr, Machine.storage_eq_some.2 ⟨page, found, swapped⟩⟩
  exact ⟨used, SwapStore.lt_of_isOccupied used⟩

/-- A store that was just opened is empty, as long as there are no spaces. -/
theorem Owned.opened {machine : Machine} {disk : Disk}
    (opened : SwapStore.ofDisk disk = .ok machine.swap) (none : machine.spaces = []) : Owned machine := by
  have vacant := SwapStore.isOccupied_ofDisk opened
  have unsaved : ∀ {space addr slot}, machine.storage space addr ≠ some slot := by
    intro space addr slot saved
    obtain ⟨page, found, _⟩ := Option.bind_eq_some_iff.1 saved
    have present := machine.space_present found
    rw [none] at present
    exact Nat.not_lt_zero _ present
  refine ⟨fun slot => ?_, fun left _ => absurd left unsaved⟩
  rw [vacant]
  exact ⟨fun used => Bool.noConfusion used, fun ⟨_, _, saved⟩ => absurd saved unsaved⟩

namespace Owned
variable {start stop : Machine} {space : SpaceId} {addr : VirtualAddress} {slot : SwapSlot}
  (owned : Owned start)
include owned

theorem rests (marks : ∀ slot, stop.swap.isOccupied slot = start.swap.isOccupied slot)
    (storage : ∀ space addr, stop.storage space addr = start.storage space addr) : Owned stop := by
  refine ⟨fun slot => ?_, fun {s t a b slot} => ?_⟩
  · simp only [marks, storage]
    exact owned.occupied slot
  · simp only [storage]
    exact owned.single

/-- The owner of a slot that was free is the page that goes to it. -/
theorem saves (vacant : start.swap.isOccupied slot = false)
    (unsaved : start.storage space addr = none)
    (marks : ∀ other, stop.swap.isOccupied other =
      if other = slot then true else start.swap.isOccupied other)
    (storage : ∀ s a, stop.storage s a =
      if space = s ∧ addr = a then some slot else start.storage s a) : Owned stop := by
  have fresh : ∀ {s a}, start.storage s a ≠ some slot := fun {s a} saved => by
    have used := (owned.occupied slot).2 ⟨s, a, saved⟩
    rw [vacant] at used
    cases used
  constructor
  · intro other
    rw [marks]
    constructor
    · intro used
      by_cases same : other = slot
      · exact ⟨space, addr, by rw [storage, if_pos ⟨rfl, rfl⟩, same]⟩
      · rw [if_neg same] at used
        obtain ⟨s, a, saved⟩ := (owned.occupied other).1 used
        refine ⟨s, a, ?_⟩
        rw [storage, if_neg ?_, saved]
        rintro ⟨rfl, rfl⟩
        rw [unsaved] at saved
        cases saved
    · rintro ⟨s, a, saved⟩
      rw [storage] at saved
      split at saved
      · cases saved
        exact if_pos rfl
      · rw [(owned.occupied other).2 ⟨s, a, saved⟩, ite_self]
  · intro s t a b other left right
    rw [storage] at left right
    have single := @owned.single s t a b other
    grind

/-- A slot that its page leaves has no other owner. -/
theorem frees (saved : start.storage space addr = some slot)
    (marks : ∀ other, stop.swap.isOccupied other =
      if other = slot then false else start.swap.isOccupied other)
    (storage : ∀ s a, stop.storage s a =
      if space = s ∧ addr = a then none else start.storage s a) : Owned stop := by
  constructor
  · intro other
    rw [marks]
    constructor
    · intro used
      split at used
      · cases used
      · rename_i differ
        obtain ⟨s, a, held⟩ := (owned.occupied other).1 used
        refine ⟨s, a, ?_⟩
        rw [storage, if_neg ?_, held]
        rintro ⟨rfl, rfl⟩
        rw [saved] at held
        cases held
        exact differ rfl
    · rintro ⟨s, a, held⟩
      rw [storage] at held
      split at held
      · cases held
      · rename_i apart
        rw [if_neg ?_]
        · exact (owned.occupied other).2 ⟨s, a, held⟩
        · rintro rfl
          exact apart (owned.single saved held)
  · intro s t a b other left right
    rw [storage] at left right
    split at left
    · cases left
    · split at right
      · cases right
      · exact owned.single left right

theorem stows (stows : Stows start stop) : Owned stop := by
  cases stows with
  | rests marks storage => exact owned.rests marks storage
  | saves vacant unsaved marks storage => exact owned.saves vacant unsaved marks storage
  | frees saved marks storage => exact owned.frees saved marks storage

end Owned

def Machine.swappedPages (machine : Machine) : List Page :=
  (List.range machine.spaces.length).flatMap fun space =>
    (machine.registry space).pages.values.filter (·.slot?.isSome)

def Machine.slots (machine : Machine) : List SwapSlot :=
  (List.range machine.spaces.length).flatMap fun space => (machine.registry space).slots

theorem Machine.mem_slots {machine : Machine} {slot : SwapSlot} :
    slot ∈ machine.slots ↔ ∃ space addr, machine.storage space addr = some slot := by
  simp only [slots, List.mem_flatMap, List.mem_range, Registry.mem_slots]
  refine exists_congr fun space => ⟨And.right, fun ⟨addr, saved⟩ => ⟨?_, addr, saved⟩⟩
  obtain ⟨page, found, _⟩ := Option.bind_eq_some_iff.1 saved
  exact machine.space_present found

/-- No slot is listed twice, neither in one space nor in two. -/
theorem Owned.nodup_slots {machine : Machine} (owned : Owned machine) : machine.slots.Nodup := by
  refine List.nodup_flatMap.2 ⟨fun space _ => ?_, List.nodup_range.imp fun differ slot left right => ?_⟩
  · rw [Registry.slots, SortedMap.values_eq, List.filterMap_map]
    refine List.pairwise_filterMap.2 ((SortedMap.toList_ascending _).imp_of_mem ?_)
    rintro ⟨addr, page⟩ ⟨other, later⟩ left right less slot saved same again rfl
    have before := (Registry.storage_of_page (SortedMap.mem_toList.1 left)).trans saved
    have after := (Registry.storage_of_page (SortedMap.mem_toList.1 right)).trans again
    rw [(@Owned.single _ _ owned space space addr other slot before after).2] at less
    exact Nat.lt_irrefl _ less
  · obtain ⟨addr, left⟩ := Registry.mem_slots.1 left
    obtain ⟨other, right⟩ := Registry.mem_slots.1 right
    exact differ (owned.single left right).1

theorem Owned.used {machine : Machine} (owned : Owned machine) :
    machine.swap.used = machine.swappedPages.length := by
  have perm : machine.swap.inUse.Perm machine.slots := by
    refine (List.perm_ext_iff_of_nodup machine.swap.nodup_inUse owned.nodup_slots).2 fun slot => ?_
    rw [SwapStore.mem_inUse, Machine.mem_slots, owned.occupied]
  rw [machine.swap.used_eq, perm.length_eq, Machine.slots, Machine.swappedPages, List.length_flatMap,
    List.length_flatMap]
  simp only [Registry.slots, List.length_filterMap_eq_countP, List.countP_eq_length_filter]

theorem Stows.taken {ledger : Ledger} {machine : Machine} {space : SpaceId} {addr : VirtualAddress}
    {page : Page} {after : Registry} (consistent : Consistent ⟨ledger, machine⟩)
    (taken : (machine.registry space).take? addr = some (page, after)) :
    Stows machine ((machine.vacate space page).setRegistry space after) := by
  obtain ⟨found, _, same, _⟩ := (consistent.sound space).take? taken
  have present := machine.space_present found
  have registry : (machine.vacate space page).registry space = machine.registry space := by
    rw [Machine.registry, Machine.space, Machine.spaces_vacate, Machine.registry, Machine.space]
  have moved := Registry.storage_replaced same
  rw [← registry] at moved
  refine .left (Registry.storage_of_page found) ?_ fun s a => ?_
  · change (machine.vacate space page).swap = _
    unfold Machine.vacate SwapStore.without
    cases page.state <;> rfl
  · rw [← Machine.storage_of_spaces (machine.spaces_vacate space page)]
    refine (machine.vacate space page).told_moved ?_ moved s a
    rw [Machine.spaces_vacate]
    exact present

variable [Lawful]

/-- What every move does to the slots, unless callers reach into the swap store. -/
theorem Move.stows {act : Act} {start stop : Moment} (move : Move act start stop)
    (untampered : act ≠ .tamper) (consistent : Consistent start) (traced : Traced start)
    (sectors : 0 < start.machine.swap.disk.sectorSize) :
    Stows start.machine stop.machine := by
  cases move with
  | idle idle => exact .counted idle.swap idle.registries
  | store owned written idle => exact .counted idle.swap idle.registries
  | scribble scribbled | stray scribbled =>
    refine .rests (fun slot => ?_) fun space addr => ?_
    · rw [SwapStore.isOccupied, SwapStore.isOccupied, scribbled.bitmap]
    · rw [Machine.storage, Machine.storage, scribbled.registries]
  | tamper => exact absurd rfl untampered
  | @register ledger machine space page accepted unloaded =>
    exact .revised rfl rfl (Registry.storage_add accepted unloaded)
  | @grow ledger machine space page accepted unloaded =>
    exact .revised rfl rfl (Registry.storage_add accepted unloaded)
  | @classify ledger machine space addr backing after done =>
    obtain ⟨page, found, _, same⟩ := Registry.get?_classify done
    exact .revised rfl rfl (Registry.storage_marked found same rfl)
  | drop taken | expel taken => exact .taken consistent taken
  | @evict ledger machine space page frame hand state swap found unpinned saves =>
    have sound := consistent.sound space
    obtain ⟨registered, resident⟩ := sound.lookupFrame_eq_some found
    have unsaved : machine.storage space page.addr = none := by
      rw [Machine.storage, Registry.storage_of_page registered, Page.slot?, resident]
    have moved := (machine.setDirectory space
      (Architecture.unmap (machine.directory space) page.addr).2).told_moved
        (machine.space_present registered)
        (Registry.storage_replaced (sound.get?_detach found state))
    cases saves with
    | discard =>
      refine .rests (fun _ => rfl) fun s a => (moved s a).trans ?_
      split
      · rename_i here
        rw [← here.1, ← here.2, unsaved]
        rfl
      · rfl
    | save read written =>
      have wrote := SwapStore.write_wrote sectors written
      exact .saves wrote.vacant unsaved wrote.occupied moved
  | @attach flights pins machine load page first directory pinned current =>
    obtain ⟨found, rfl⟩ := traced.current (.head _) current
    have settled : ∀ other, ((machine.registry load.space).settle load.page load.frame pinned).pages.get?
        other = if load.page.addr = other then some { load.page with
          state := .resident load.frame, pinned, generation := load.page.generation + 1 }
        else (machine.registry load.space).pages.get? other := fun other => Registry.get?_insert _ _ _ _
    have moved := (machine.setDirectory load.space (Machine.marked load directory)).told_moved
      (machine.space_present found) (Registry.storage_replaced settled)
    exact .left (Registry.storage_of_page found) (by rfl) moved
  | @pin flights pins machine space addr frame after pinned =>
    obtain ⟨page, found, _, same⟩ := Registry.get?_pin? pinned
    exact .revised rfl rfl (Registry.storage_marked found same rfl)
  | @unpin flights pins machine pin =>
    have same := Registry.storage_unpinFrame (consistent.sound pin.space) pin.frame
    unfold Machine.unpin
    dsimp only
    split
    · split
      · exact .rests (fun _ => rfl) fun _ _ => rfl
      · exact .revised rfl rfl same
    · exact .rests (fun _ => rfl) fun _ _ => rfl
  | @create ledger machine tables stackPointer =>
    refine .rests (fun _ => rfl) fun space addr => ?_
    exact congrArg (Registry.storage · addr) (machine.registry_create rfl space)
  | @share ledger machine directory stackPointer =>
    refine .rests (fun _ => rfl) fun space addr => ?_
    exact congrArg (Registry.storage · addr) (machine.registry_create rfl space)
  | misfree | meddle | take | fill | abandon | handOut | takeBack | lend | recover | refuse =>
    exact .rests (fun _ => rfl) fun _ _ => rfl

/-- Slots that belong to pages are not freed for nothing. -/
theorem Move.silent {act : Act} {start stop : Moment} (move : Move act start stop)
    (untampered : act ≠ .tamper) (traced : Traced start) (owned : Owned start.machine)
    (silent : ∀ slot, .slotNotInUse slot ∉ start.machine.log) (slot : SwapSlot) :
    .slotNotInUse slot ∉ stop.machine.log := by
  cases move with
  | idle idle => exact idle.grows.silent silent slot
  | scribble scribbled | stray scribbled => exact scribbled.grows.silent silent slot
  | store owned written idle => exact idle.grows.silent silent slot
  | tamper => exact absurd rfl untampered
  | @misfree ledger machine freed unused named =>
    have held : ∃ space addr, machine.Swapped space addr freed := by
      rcases named with ⟨space, addr, page, found, state⟩ | ⟨load, member, page, current, state⟩
      · exact ⟨space, addr, page, found, state⟩
      · exact ⟨_, _, load.page, (traced.current member current).1, state⟩
    obtain ⟨space, addr, swapped⟩ := held
    have used := (owned.occupied freed).2 ⟨space, addr, Machine.storage_eq_some.2 swapped⟩
    rw [unused] at used
    cases used
  | grow => exact Log.Grows.silent (.cons (fun _ same => by cases same) (.refl _)) silent slot
  | drop taken | expel taken =>
    change _ ∉ (Machine.vacate _ _ _).log
    rw [Machine.log_vacate]
    exact silent slot
  | unpin =>
    rw [Machine.log_unpin]
    exact silent slot
  | register | classify | evict | take | fill | attach | abandon | pin | handOut | takeBack | create
  | meddle | share | lend | recover | refuse => exact silent slot

/-- The operations by which callers take and free slots themselves. -/
def Op.tampers : Op → Bool
  | .swap (.write _) | .swap (.free _) => true
  | _ => false

omit [Lawful] in
theorem Op.Acts.tampers {op : Op} {loads : List Load} {machine : Machine}
    (acts : op.Acts loads machine .tamper) : op.tampers = true := by
  unfold Op.Acts at acts
  split at acts
  all_goals first | rfl | simp [Act.Registers] at acts

theorem Rule.Lets.not_tamper {rule : Rule} {floor : List Load} {act : Act}
    (lets : rule.Lets floor act)
    (left : ∀ {loads machine op after}, rule loads machine op after → op.tampers = false) :
    act ≠ .tamper := by
  rintro rfl
  cases lets with
  | op above allowed does => exact Bool.false_ne_true ((left allowed).symm.trans does.1.tampers)

/-- All operations of the memory manager, as long as no address is registered again while the page that
was there is being loaded. Callers leave the slots of the swap store alone. -/
def Rule.unrepeated : Rule := fun loads machine op after =>
  op.Regular machine.spaces.length machine.files.length ∧ op.rightful machine = true ∧ op.tampers = false ∧
    ∀ load ∈ loads, ¬op.Registers loads machine after load.space load.page.addr

/-- The slots in use are just those of the pages that are swapped out, one for each, and nobody ever
freed a slot that was not in use. -/
structure Machine.SlotsOwned (machine : Machine) : Prop where
  occupied : ∀ slot,
    machine.swap.isOccupied slot = true ↔ ∃ space addr, machine.Swapped space addr slot
  single : ∀ {s t a b slot}, machine.Swapped s a slot → machine.Swapped t b slot → s = t ∧ a = b
  below : ∀ {space addr slot}, machine.Swapped space addr slot → slot.index < machine.swap.capacity
  used : machine.swap.used = machine.swappedPages.length
  silent : ∀ slot, .slotNotInUse slot ∉ machine.log

omit [Lawful] in
/-- With no load under way, all that can go wrong is that callers reach into the swap store. -/
theorem Rule.unrepeated_idle {machine after : Machine} {op : Op}
    (fine : machine.Offers op ∧ op.tampers = false) : Rule.unrepeated [] machine op after := by
  have offered : Rule.offered [] machine op after := fine.1
  exact ⟨offered.1, Rule.sensible_offered.rightful offered, fine.2,
    fun _ member => absurd member List.not_mem_nil⟩

/-- In every machine that a run can be at, slots and swapped pages are the same thing. -/
theorem Reached.slots_owned {loads : List Load} {machine : Machine}
    (reached : Reached .unrepeated loads machine) : machine.SlotsOwned := by
  have unrepeated : Rule.unrepeated.Unrepeated := fun allowed => allowed.2.2.2
  obtain ⟨ledger, rfl, _, traced, owned, silent⟩ := Reached.keeps
    (fun now => Traced now ∧ Owned now.machine ∧ ∀ slot, .slotNotInUse slot ∉ now.machine.log)
    ⟨fun allowed => allowed.1, fun allowed => allowed.2.1⟩
    (fun booted => by
      obtain ⟨swap, log, opened, quiet, rfl⟩ := Machine.boot_ok booted
      exact ⟨fun _ member => absurd member List.not_mem_nil, .opened opened rfl, quiet⟩)
    (fun lets move consistent sectors ⟨traced, owned, silent⟩ => by
      have untampered := lets.not_tamper fun allowed => allowed.2.2.1
      exact ⟨traced.move move consistent unrepeated lets,
        owned.stows (move.stows untampered consistent traced sectors),
        move.silent untampered traced owned silent⟩)
    (fun fewer _ _ ⟨traced, owned, silent⟩ =>
      ⟨traced, ⟨owned.occupied, owned.single⟩,
        fun slot member => silent slot (fewer.subset member)⟩) reached
  refine ⟨fun slot => ?_, fun left right => ?_, fun swapped => ?_, owned.used, silent⟩
  · simp only [owned.occupied, Machine.storage_eq_some]
  · exact owned.single (Machine.storage_eq_some.2 left) (Machine.storage_eq_some.2 right)
  · exact SwapStore.lt_of_isOccupied ((owned.occupied _).2 ⟨_, _, Machine.storage_eq_some.2 swapped⟩)

end

section
attribute [local instance] Architecture.small

/-- Three pages were written to, one after another, where there is room for two. -/
def thirdWritten : Machine :=
  [.createSpace none ⟨0, []⟩, .registerZero 0 0x1000 3 true, .poke 0 0x1000 1, .poke 0 0x1010 2,
    .poke 0 0x1020 3].foldl Machine.undisturbed twoFrames

/-- The first of them was swapped out. -/
theorem slots_owned_thirdWritten : Reached .unrepeated [] thirdWritten ∧ thirdWritten.SlotsOwned ∧
    thirdWritten.Swapped 0 ⟨0x1000⟩ ⟨0⟩ := by
  have reached : Reached .unrepeated [] thirdWritten :=
    twoFrames_reached.carried Rule.unrepeated_idle (by decide +kernel)
  exact ⟨reached, reached.slots_owned, Machine.storage_eq_some.1 (by decide +kernel)⟩

end

end DemandPaging
