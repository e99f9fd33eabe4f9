import DemandPaging.Proofs.Populating
import Mathlib.Algebra.GroupWithZero.Nat

/-! Frames and slots that are taken, and the pages that live there. While no caller obtains frames or writes to
the swap store, a registered page is in every frame that is not free and in every slot that is occupied, so that
all of them can be taken only if there are as many pages. Nothing else is asked of callers: they may map pages
themselves, free the slots of pages, and give back frames that are not theirs. -/
namespace DemandPaging

/-! Registries. -/

namespace Registry

/-- Pages are registered at their addresses, and frames lead to pages that are in them. Two pages may be in one
frame: this is what is left of a sound registry when callers give back frames that are not theirs. -/
structure Orderly (registry : Registry) : Prop where
  keyed : ∀ {addr page}, registry.pages.get? addr = some page → page.addr = addr
  holds : ∀ {frame addr}, registry.holders.get? frame = some addr →
    ∃ page, registry.pages.get? addr = some page ∧ page.state = .resident frame

/-- Pages that are in frames or slots stay there. -/
structure Stays (before after : Registry) : Prop where
  holders : after.holders = before.holders
  pages : ∀ {addr page}, before.pages.get? addr = some page → page.state ≠ .unloaded →
    ∃ other, after.pages.get? addr = some other ∧ other.state = page.state
  keyed : ∀ {addr page}, after.pages.get? addr = some page →
    page.addr = addr ∨ before.pages.get? addr = some page

theorem orderly_empty : (default : Registry).Orderly where
  keyed found := by cases (SortedMap.get?_empty _).symm.trans found
  holds found := by cases (SortedMap.get?_empty _).symm.trans found

section
variable {before mid after registry : Registry} {addr : VirtualAddress} {page : Page} {frame : FrameNumber}

namespace Stays

theorem refl (registry : Registry) : registry.Stays registry where
  holders := rfl
  pages found _ := ⟨_, found, rfl⟩
  keyed found := .inr found

theorem trans (first : before.Stays mid) (second : mid.Stays after) : before.Stays after where
  holders := second.holders.trans first.holders
  pages found away := by
    obtain ⟨other, there, same⟩ := first.pages found away
    obtain ⟨last, here, kept⟩ := second.pages there (by rw [same]; exact away)
    exact ⟨last, here, kept.trans same⟩
  keyed found := (second.keyed found).elim .inl first.keyed

theorem orderly (stays : before.Stays after) (orderly : before.Orderly) : after.Orderly where
  keyed found := (stays.keyed found).elim id orderly.keyed
  holds held := by
    rw [stays.holders] at held
    obtain ⟨page, found, resident⟩ := orderly.holds held
    obtain ⟨other, there, same⟩ := stays.pages found (by rw [resident]; nofun)
    exact ⟨other, there, same.trans resident⟩

end Stays

/-- A descriptor may be put in place of another one that is at the same place. -/
theorem stays_insert (here : page.addr = addr)
    (same : ∀ {other}, registry.pages.get? addr = some other → page.state = other.state) :
    registry.Stays { registry with pages := registry.pages.insert addr page } where
  holders := rfl
  pages {there other} found _ := by
    by_cases both : addr = there
    · subst both
      exact ⟨page, SortedMap.get?_insert_self .., same found⟩
    · exact ⟨other, (SortedMap.get?_insert_of_ne _ _ both).trans found, rfl⟩
  keyed found := by
    rcases get?_insert_cases found with ⟨rfl, rfl⟩ | ⟨_, before⟩
    · exact .inl here
    · exact .inr before

/-- A descriptor may change if it says the same of where the page is. -/
theorem Orderly.revise (orderly : registry.Orderly) {revised : Page}
    (found : registry.pages.get? addr = some page) (here : revised.addr = page.addr)
    (same : revised.state = page.state) :
    registry.Stays { registry with pages := registry.pages.insert addr revised } :=
  stays_insert (here.trans (orderly.keyed found)) fun there => by
    cases found.symm.trans there
    exact same

theorem stays_add (absent : registry.pages.get? page.addr = none) : registry.Stays (registry.add page) :=
  stays_insert rfl fun found => by cases absent.symm.trans found

theorem stays_erase
    (unloaded : ∀ {other}, registry.pages.get? addr = some other → other.state = .unloaded) :
    registry.Stays { registry with pages := registry.pages.erase addr } where
  holders := rfl
  pages {there other} found away := by
    refine ⟨other, (SortedMap.get?_erase_of_ne _ fun both => ?_).trans found, rfl⟩
    subst both
    exact away (unloaded found)
  keyed {there other} found := by
    rw [SortedMap.get?_erase] at found
    split at found
    · cases found
    · exact .inr found

theorem stays_remove {gone : Page} (removed : registry.remove addr = .ok (gone, after)) :
    registry.Stays after := by
  unfold remove at removed
  split at removed
  · cases removed
  · rename_i page found
    split at removed
    · rename_i unloaded
      cases removed
      refine stays_erase fun there => ?_
      cases found.symm.trans there
      exact unloaded
    · cases removed

theorem stays_classify {backing : Backing} (orderly : registry.Orderly)
    (classified : registry.classify addr backing = .ok after) : registry.Stays after := by
  unfold classify at classified
  split at classified
  · cases classified
  · rename_i page found
    split at classified
    · cases classified
      exact orderly.revise found rfl rfl
    · cases classified

theorem stays_pin? (orderly : registry.Orderly) (pinned : registry.pin? addr = some (frame, after)) :
    registry.Stays after := by
  unfold pin? at pinned
  obtain ⟨page, found, pinned⟩ := Option.bind_eq_some_iff.1 pinned
  obtain ⟨_, _, pinned⟩ := Option.bind_eq_some_iff.1 pinned
  cases pinned
  exact orderly.revise found rfl rfl

theorem stays_unpinFrame (orderly : registry.Orderly) (frame : FrameNumber) :
    registry.Stays (registry.unpinFrame frame) := by
  unfold unpinFrame
  split
  · exact .refl registry
  · split
    · exact .refl registry
    · rename_i page found
      exact orderly.revise found rfl rfl

theorem Orderly.detach (orderly : registry.Orderly) (found : registry.lookupFrame frame = some page)
    (state : PageState) :
    page.state = .resident frame ∧ registry.pages.get? page.addr = some page ∧
      (registry.detach frame state).Orderly ∧ ∀ addr, (registry.detach frame state).pages.get? addr =
        if page.addr = addr then
          some { page with state, pinned := false, generation := page.generation + 1 }
        else registry.pages.get? addr := by
  obtain ⟨addr, holder, there⟩ := Option.bind_eq_some_iff.1 found
  obtain ⟨other, same, resident⟩ := orderly.holds holder
  cases there.symm.trans same
  obtain rfl := orderly.keyed there
  simp only [Registry.detach, holder, there]
  refine ⟨resident, trivial, ⟨fun {addr other} lookup => ?_, fun {other addr} held => ?_⟩, fun addr => ?_⟩
  · rcases get?_insert_cases lookup with ⟨rfl, rfl⟩ | ⟨_, before⟩
    · rfl
    · exact orderly.keyed before
  · rw [SortedMap.get?_erase] at held
    split at held
    · cases held
    · rename_i differ
      obtain ⟨other, found, resident'⟩ := orderly.holds held
      refine ⟨other, (SortedMap.get?_insert_of_ne _ _ fun both => ?_).trans found, resident'⟩
      subst both
      cases there.symm.trans found
      cases resident.symm.trans resident'
      exact differ rfl
  · by_cases same : page.addr = addr
    · subst same
      rw [SortedMap.get?_insert_self, if_pos rfl]
    · rw [SortedMap.get?_insert_of_ne _ _ same, if_neg same]

theorem Orderly.settle (orderly : registry.Orderly) (found : registry.pages.get? page.addr = some page)
    (away : page.isResident = false) {pinned : Bool} : (registry.settle page frame pinned).Orderly where
  keyed {addr other} lookup := by
    rcases get?_insert_cases lookup with ⟨rfl, rfl⟩ | ⟨_, before⟩
    · rfl
    · exact orderly.keyed before
  holds {other addr} held := by
    simp only [Registry.settle] at held ⊢
    rw [SortedMap.get?_insert] at held
    split at held
    · rename_i same
      cases rank_injective same
      cases held
      exact ⟨_, SortedMap.get?_insert_self .., rfl⟩
    · obtain ⟨there, before, resident⟩ := orderly.holds held
      refine ⟨there, (SortedMap.get?_insert_of_ne _ _ fun both => ?_).trans before, resident⟩
      subst both
      cases found.symm.trans before
      rw [Page.isResident, Page.frame?, resident] at away
      cases away

theorem Orderly.take? (orderly : registry.Orderly) (taken : registry.take? addr = some (page, after)) :
    registry.pages.get? addr = some page ∧ after.Orderly ∧ ∀ other,
      after.pages.get? other = if addr = other then none else registry.pages.get? other := by
  unfold Registry.take? at taken
  obtain ⟨_, found, taken⟩ := Option.bind_eq_some_iff.1 taken
  cases taken
  have pages : ∀ other, (registry.pages.erase addr).get? other =
      if addr = other then none else registry.pages.get? other := fun other => by
    by_cases same : addr = other
    · subst same
      rw [SortedMap.get?_erase_self, if_pos rfl]
    · rw [SortedMap.get?_erase_of_ne _ same, if_neg same]
  refine ⟨found, ⟨fun {other there} lookup => ?_, fun {frame other} held => ?_⟩, pages⟩
  · dsimp only at lookup
    rw [pages] at lookup
    split at lookup
    · cases lookup
    · exact orderly.keyed lookup
  · dsimp only at held ⊢
    have before : registry.holders.get? frame = some other ∧ page.state ≠ .resident frame := by
      cases state : page.state with
      | resident left =>
        rw [state] at held
        dsimp only at held
        rw [SortedMap.get?_erase] at held
        split at held
        · cases held
        · rename_i differ
          refine ⟨held, fun same => differ ?_⟩
          cases same
          rfl
      | unloaded | swapped =>
        rw [state] at held
        exact ⟨held, nofun⟩
    obtain ⟨there, lookup, resident⟩ := orderly.holds before.1
    rw [pages, if_neg]
    · exact ⟨there, lookup, resident⟩
    · rintro rfl
      cases found.symm.trans lookup
      exact before.2 resident

end

variable [Geometry] {registry after : Registry}

theorem stays_create {addr : VirtualAddress} {backing : Backing} {writable : Bool} {page : Page}
    (created : registry.create addr backing writable = .ok (page, after)) : registry.Stays after := by
  obtain ⟨accepted, _, rfl⟩ := create_ok created
  exact stays_add (refusal?_eq_none accepted).1

theorem stays_run {op : RegistryOp} {reply : Reply} (orderly : registry.Orderly)
    (ran : op.run registry = .ok (reply, after)) : registry.Stays after := by
  cases op with
  | create addr backing writable =>
    obtain ⟨_, _, ran⟩ := Fatal.bind_ok.1 ran
    obtain ⟨_, _, ran⟩ := Fatal.bind_ok.1 ran
    split at ran
    · rename_i created
      cases ran
      exact stays_create created
    · cases ran
      exact .refl registry
  | lookup addr =>
    obtain ⟨_, _, ran⟩ := Fatal.bind_ok.1 ran
    cases ran
    exact .refl registry
  | remove addr =>
    obtain ⟨_, _, ran⟩ := Fatal.bind_ok.1 ran
    split at ran
    · rename_i removed
      cases ran
      exact stays_remove removed
    · cases ran
      exact .refl registry
  | classify addr backing =>
    obtain ⟨_, _, ran⟩ := Fatal.bind_ok.1 ran
    obtain ⟨_, _, ran⟩ := Fatal.bind_ok.1 ran
    split at ran
    · rename_i classified
      cases ran
      exact stays_classify orderly classified
    · cases ran
      exact .refl registry
  | lookupFrame | length | resident =>
    cases ran
    exact .refl registry

end Registry

namespace Registry
variable [Architecture] {registry after : Registry} {addr : VirtualAddress}

theorem stays_removePages (count : Nat) : registry.Stays (registry.removePages addr count) := by
  unfold removePages
  induction List.range count generalizing registry with
  | nil => exact .refl registry
  | cons i rest ih =>
    rw [List.foldl_cons]
    refine .trans ?_ ih
    split
    · rename_i removed
      exact stays_remove removed
    · exact .refl registry

theorem stays_createPages {file : FileId} {offset readBytes done remaining : Nat} {writable : Bool}
    {result : Except RegistryError Unit}
    (created : createPages addr file offset readBytes writable done remaining registry = .ok (result, after)) :
    registry.Stays after := by
  induction remaining generalizing done registry with
  | zero =>
    cases created
    exact .refl _
  | succ remaining ih =>
    obtain ⟨_, _, created⟩ := Fatal.bind_ok.1 created
    obtain ⟨_, _, created⟩ := Fatal.bind_ok.1 created
    obtain ⟨page, _, created⟩ := Fatal.bind_ok.1 created
    split at created
    · cases created
      exact stays_removePages done
    · rename_i accepted
      exact (stays_add (refusal?_eq_none accepted).1).trans (ih created)

theorem stays_createSegment {file : FileId} {offset readBytes zeroBytes : Nat} {writable : Bool}
    {result : Except RegistryError Nat}
    (created : registry.createSegment file offset addr readBytes zeroBytes writable = .ok (result, after)) :
    registry.Stays after := by
  unfold createSegment at created
  split at created
  · cases created
    exact .refl _
  · obtain ⟨_, _, created⟩ := Fatal.bind_ok.1 created
    split at created
    · cases created
      exact .refl _
    · obtain ⟨⟨result, registry⟩, pages, created⟩ := Fatal.bind_ok.1 created
      cases result with
      | ok =>
        cases created
        exact stays_createPages pages
      | error error =>
        cases created
        exact stays_createPages pages

end Registry


/-! Slots that a page is written to, and values of maps. -/

/-- A page is written to a slot that was free, unless the device fails or none is. -/
theorem SwapStore.write_takes [Geometry] {swap after : SwapStore} {page : Bytes}
    {result : Except SwapError SwapSlot} (wrote : swap.write page = (result, after)) :
    after.capacity = swap.capacity ∧
      (∀ other, after.isOccupied other = true → result = .ok other ∨ swap.isOccupied other = true) ∧
      (result = .error .full → ∀ slot : SwapSlot, slot.index < swap.capacity →
        swap.isOccupied slot = true) := by
  have writing := swap.writing_write page
  rw [wrote] at writing
  cases writing with
  | misfit => exact ⟨rfl, fun _ => .inr, nofun⟩
  | full _ none =>
    exact ⟨rfl, fun _ => .inr, fun _ slot inside => Bitmap.firstClear?_eq_none none inside⟩
  | @stored _ index _ inside clear =>
    refine ⟨rfl, fun other occupied => ?_, nofun⟩
    have taken : (swap.bitmap.set index inside clear).isSet other.index = true := occupied
    rw [Bitmap.isSet_set, Bool.or_eq_true, decide_eq_true_eq] at taken
    rcases taken with rfl | before
    · exact .inl rfl
    · exact .inr before
  | failed => exact ⟨rfl, fun _ => .inr, nofun⟩

namespace SortedMap
variable {κ ν : Type} [Ranked κ] {map : SortedMap κ ν}

theorem length_values (map : SortedMap κ ν) : map.values.length = map.size := by
  simp [values, size]

theorem mem_values {key : κ} {value : ν} (found : map.get? key = some value) : value ∈ map.values := by
  rw [values_eq, List.mem_map]
  exact ⟨_, mem_toList.2 found, rfl⟩

theorem size_insert_of_some {key : κ} {value other : ν} (found : map.get? key = some other) :
    (map.insert key value).size = map.size := by
  have there : map.tree.contains (rank key) = true := by
    rw [Std.ExtTreeMap.contains_eq_isSome_getElem?]
    change (map.get? key).isSome = true
    rw [found]
    rfl
  simp [size, insert, Std.ExtTreeMap.size_insert, there]

end SortedMap

/-! Machines. -/

/-- Frames without pins get none. -/
def FramePool.Slackens (before after : FramePool) : Prop :=
  after.base = before.base ∧ ∀ index, (before.entry index).pins = 0 → (after.entry index).pins = 0

section
variable [Architecture]

namespace Machine

/-- A place that is taken: a frame that is not on the free list, or a slot that is occupied. -/
def Taken (machine : Machine) : PageState → Prop
  | .unloaded => False
  | .resident frame => ∃ index < machine.pool.capacity,
      frame = machine.pool.number index ∧ index ∉ machine.pool.free
  | .swapped slot => machine.swap.isOccupied slot = true

def Lodges (machine : Machine) (place : PageState) : Prop :=
  ∃ space addr page, (machine.registry space).pages.get? addr = some page ∧ page.state = place

def registered (machine : Machine) : Nat := (machine.spaces.map fun space => space.registry.size).sum

def isPinned (machine : Machine) (page : Page) : Bool :=
  match page.state with
  | .resident frame => machine.pool.isPinned (frame.value - machine.pool.base.value)
  | _ => false

theorem unpinned_of_slack {machine after : Machine} (slackens : machine.pool.Slackens after.pool) {page : Page}
    (unpinned : machine.isPinned page = false) : after.isPinned page = false := by
  unfold isPinned at unpinned ⊢
  split
  · rename_i frame resident
    rw [resident] at unpinned
    dsimp only at unpinned
    rw [FramePool.isPinned, decide_eq_false_iff_not, Nat.not_lt, Nat.le_zero] at unpinned ⊢
    rw [slackens.1]
    exact slackens.2 _ unpinned
  · rfl

def places (machine : Machine) : FramePool × Bitmap × Nat × (SpaceId → Registry) :=
  (machine.pool, machine.swap.bitmap, machine.spaces.length, machine.registry)

/-- There are so many frames and slots, and all that are taken lodge pages, apart from some to spare. There are
at least so many spaces. -/
structure Lodged (frames slots spaces : Nat) (spare : List PageState) (machine : Machine) : Prop where
  frames : machine.pool.capacity = frames
  slots : machine.swap.capacity = slots
  known : spaces ≤ machine.spaces.length
  taken : ∀ {place}, machine.Taken place → place ∈ spare ∨ machine.Lodges place
  owned : ∀ {index}, index < machine.pool.capacity → (machine.pool.entry index).owner = none →
    index ∈ machine.pool.free
  orderly : ∀ space, (machine.registry space).Orderly

def rooms (machine : Machine) : List PageState :=
  (List.range machine.pool.capacity).map (.resident ∘ machine.pool.number) ++
    (List.range machine.swap.capacity).map (.swapped ∘ .mk)

theorem length_rooms (machine : Machine) :
    machine.rooms.length = machine.pool.capacity + machine.swap.capacity := by
  simp [rooms]

theorem nodup_rooms (machine : Machine) : machine.rooms.Nodup := by
  refine List.nodup_append.2 ⟨List.nodup_range.map fun a b same => ?_,
    List.nodup_range.map fun a b same => ?_, fun a left b right same => ?_⟩
  · injection same with same
    exact FramePool.number_injective same
  · injection same with same
    injection same
  · obtain ⟨_, _, rfl⟩ := List.mem_map.1 left
    obtain ⟨_, _, rfl⟩ := List.mem_map.1 right
    cases same

/-- When the kernel stops for want of a slot, there are as many pages as frames and slots. -/
def Crowds (frames slots : Nat) (cause : Fatal) (machine : Machine) : Prop :=
  cause = .swapExhausted → frames + slots ≤ machine.registered

namespace Lodged
variable {frames slots spaces : Nat} {spare : List PageState} {machine after : Machine} {space : SpaceId}
  {place : PageState}

theorem of_places (lodged : machine.Lodged frames slots spaces spare) (same : after.places = machine.places) :
    after.Lodged frames slots spaces spare := by
  obtain ⟨pool, swap, known, registry⟩ : after.pool = machine.pool ∧
      after.swap.bitmap = machine.swap.bitmap ∧
        after.spaces.length = machine.spaces.length ∧ after.registry = machine.registry := by
    simpa [places] using same
  constructor
  case frames =>
    rw [pool]
    exact lodged.frames
  case slots =>
    rw [SwapStore.capacity, swap]
    exact lodged.slots
  case known =>
    rw [known]
    exact lodged.known
  case taken =>
    intro place taken
    unfold Lodges
    rw [registry]
    refine lodged.taken (show machine.Taken place from ?_)
    cases place with
    | unloaded => exact taken
    | resident frame =>
      unfold Taken at taken ⊢
      rw [pool] at taken
      exact taken
    | swapped slot =>
      unfold Taken SwapStore.isOccupied at taken ⊢
      rw [swap] at taken
      exact taken
  case owned =>
    rw [pool]
    exact lodged.owned
  case orderly =>
    rw [registry]
    exact lodged.orderly

/-- A place where there is a page need not be spared. -/
theorem occupy (lodged : machine.Lodged frames slots spaces (place :: spare))
    (lodges : machine.Taken place → machine.Lodges place) : machine.Lodged frames slots spaces spare :=
  { lodged with
    taken := fun {other} taken => by
      rcases lodged.taken taken with member | there
      · cases member with
        | head => exact .inr (lodges taken)
        | tail _ member => exact .inl member
      · exact .inr there }

theorem drop (lodged : machine.Lodged frames slots spaces (place :: spare)) (free : ¬machine.Taken place) :
    machine.Lodged frames slots spaces spare :=
  lodged.occupy fun taken => absurd taken free

/-- Places that lodge pages may be spared as well. -/
theorem mono {more : List PageState} (lodged : machine.Lodged frames slots spaces spare) (le : spare ⊆ more) :
    machine.Lodged frames slots spaces more :=
  { lodged with taken := fun taken => (lodged.taken taken).imp_left fun member => le member }

/-- The free list may grow, or lose a frame that is to spare. -/
theorem repool (lodged : machine.Lodged frames slots spaces spare) {pool : FramePool}
    (capacity : pool.capacity = machine.pool.capacity) (base : pool.base = machine.pool.base)
    (free : ∀ index ∈ machine.pool.free, index ∈ pool.free ∨ .resident (pool.number index) ∈ spare)
    (owned : ∀ {index}, index < pool.capacity → (pool.entry index).owner = none → index ∈ pool.free) :
    Lodged frames slots spaces spare { machine with pool } where
  frames := capacity.trans lodged.frames
  slots := lodged.slots
  known := lodged.known
  owned := owned
  orderly := lodged.orderly
  taken {place} taken := by
    cases place with
    | unloaded => exact taken.elim
    | swapped slot => exact lodged.taken (show machine.Taken (.swapped slot) from taken)
    | resident frame =>
      obtain ⟨index, inside, rfl, absent⟩ := taken
      have number : pool.number index = machine.pool.number index := by
        rw [FramePool.number, base]
        rfl
      by_cases before : index ∈ machine.pool.free
      · exact .inl ((free index before).resolve_left absent)
      · have still : machine.Taken (.resident (pool.number index)) :=
          ⟨index, Nat.lt_of_lt_of_eq inside capacity, number, before⟩
        exact lodged.taken still

/-- Slots may be given up, or taken for pages that are there. -/
theorem reswap (lodged : machine.Lodged frames slots spaces spare) {swap : SwapStore}
    (capacity : swap.capacity = machine.swap.capacity)
    (occupied : ∀ slot, swap.isOccupied slot = true →
      machine.swap.isOccupied slot = true ∨ machine.Lodges (.swapped slot)) :
    Lodged frames slots spaces spare { machine with swap } where
  frames := lodged.frames
  slots := capacity.trans lodged.slots
  known := lodged.known
  owned := lodged.owned
  orderly := lodged.orderly
  taken {place} taken := by
    cases place with
    | unloaded => exact taken.elim
    | resident frame => exact lodged.taken (show machine.Taken (.resident frame) from taken)
    | swapped slot =>
      rcases occupied slot taken with before | lodges
      · exact lodged.taken (show machine.Taken (.swapped slot) from before)
      · exact .inr lodges

/-- Pages may leave their places where these are to spare. -/
theorem rehouse (lodged : machine.Lodged frames slots spaces spare) {registry : Registry}
    (orderly : registry.Orderly)
    (kept : ∀ {addr page}, (machine.registry space).pages.get? addr = some page → page.state ≠ .unloaded →
      page.state ∈ spare ∨ ∃ other, registry.pages.get? addr = some other ∧ other.state = page.state) :
    (machine.setRegistry space registry).Lodged frames slots spaces spare where
  frames := lodged.frames
  slots := lodged.slots
  known := by
    rw [machine.length_setRegistry]
    exact lodged.known
  owned := lodged.owned
  orderly other := by
    rcases machine.registry_setRegistry_cases space other registry with same | ⟨_, same⟩
    · rw [same]
      exact lodged.orderly other
    · rw [same]
      exact orderly
  taken {place} taken := by
    have loaded : place ≠ .unloaded := by
      rintro rfl
      exact taken
    have before : machine.Taken place := by
      cases place <;> exact taken
    refine (lodged.taken before).elim .inl fun ⟨owner, addr, page, found, there⟩ => ?_
    subst there
    by_cases same : space = owner
    · subst same
      refine (kept found loaded).imp_right fun ⟨other, here, state⟩ => ⟨space, addr, other, ?_, state⟩
      rw [machine.registry_setRegistry_self registry (machine.space_present found)]
      exact here
    · refine .inr ⟨owner, addr, page, ?_, rfl⟩
      rw [machine.registry_setRegistry_of_ne registry same]
      exact found

theorem stays (lodged : machine.Lodged frames slots spaces spare) {registry : Registry}
    (stays : (machine.registry space).Stays registry) :
    (machine.setRegistry space registry).Lodged frames slots spaces spare :=
  lodged.rehouse (stays.orderly (lodged.orderly space)) fun found loaded => .inr (stays.pages found loaded)

/-- If all frames and slots are taken, there are as many pages. -/
theorem crowds (lodged : machine.Lodged frames slots spaces []) (spent : machine.pool.free = [])
    (full : ∀ slot : SwapSlot, slot.index < machine.swap.capacity → machine.swap.isOccupied slot = true) :
    frames + slots ≤ machine.registered := by
  have taken : ∀ place ∈ machine.rooms, machine.Taken place := by
    intro place member
    rcases List.mem_append.1 member with left | right
    · obtain ⟨index, inside, rfl⟩ := List.mem_map.1 left
      refine ⟨index, List.mem_range.1 inside, rfl, ?_⟩
      rw [spent]
      exact List.not_mem_nil
    · obtain ⟨index, inside, rfl⟩ := List.mem_map.1 right
      exact full ⟨index⟩ (List.mem_range.1 inside)
  have lodging : machine.rooms ⊆
      (machine.spaces.flatMap fun space => space.registry.pages.values).map (·.state) := by
    intro place member
    have lodges := (lodged.taken (taken place member)).resolve_left List.not_mem_nil
    obtain ⟨space, addr, page, found, rfl⟩ := lodges
    have present := machine.space_present found
    have listed : machine.space space ∈ machine.spaces := by
      rw [Machine.space, List.getD_eq_getElem?_getD, List.getElem?_eq_getElem present]
      exact List.getElem_mem present
    exact List.mem_map.2 ⟨page, List.mem_flatMap.2 ⟨_, listed, SortedMap.mem_values found⟩, rfl⟩
  have fits := (machine.nodup_rooms.subperm lodging).length_le
  rwa [length_rooms, lodged.frames, lodged.slots, List.length_map, List.length_flatMap,
    funext fun space : AddressSpace => SortedMap.length_values space.registry.pages] at fits

end Lodged

end Machine

end

end DemandPaging
