import DemandPaging.Proofs.Footprints

/-! What a move does to the entry of a frame, and the marks of pinned pages: a page is marked just if
its frame has pins. -/
namespace DemandPaging
open Architecture (Lawful)

inductive FrameEntry.Becomes (act : Act) (before after : FrameEntry) : Prop
  | stays (owner : after.owner = before.owner) (released : after.released = before.released)
  | outlives {space : SpaceId} {addr : VirtualAddress} (way : act = .expel space addr)
      (owned : before.owner = some space) (owner : after.owner = some space)
      (released : after.released = true)
  | blank (gone : after = {})
  | assigned (free : before.owner = none) (kept : after.released = false)

theorem Registry.Sound.get?_unpinFrame_of [Geometry] {registry : Registry} (sound : registry.Sound)
    {frame : FrameNumber} {addr : VirtualAddress} {page : Page}
    (found : registry.pages.get? addr = some page) (state : page.state = .resident frame)
    (other : VirtualAddress) :
    (registry.unpinFrame frame).pages.get? other =
      if addr = other then some { page with pinned := false } else registry.pages.get? other := by
  have holder := sound.holders.2 ⟨_, placement_eq_some.2 ⟨page, found, state, rfl⟩⟩
  simp only [Registry.unpinFrame, holder, found]
  exact get?_insert _ _ _ _

namespace FramePool

theorem base_withdraw (pool : FramePool) (index : Nat) : (pool.withdraw index).base = pool.base := by
  obtain ⟨hand, same, _⟩ := pool.withdraw_eq index
  rw [same]
  rfl

theorem base_retire (pool : FramePool) (index : Nat) : (pool.retire index).base = pool.base := by
  obtain ⟨hand, same, _⟩ := pool.retire_eq index
  rw [same]
  rfl

section
variable {act : Act} (pool : FramePool) (index other : Nat)

theorem becomes_withdraw :
    FrameEntry.Becomes act (pool.entry other) ((pool.withdraw index).entry other) := by
  rw [entry_withdraw]
  split
  · exact .blank rfl
  · exact .stays rfl rfl

theorem becomes_giveBack :
    FrameEntry.Becomes act (pool.entry other) ((pool.giveBack index).entry other) := by
  rw [entry_giveBack]
  split
  · exact .blank rfl
  · exact .stays rfl rfl

theorem becomes_setPins (pins : Nat) :
    FrameEntry.Becomes act (pool.entry other) ((pool.setPins index pins).entry other) :=
  .stays (pool.setPins_same index pins other).1 (pool.setPins_same index pins other).2

theorem becomes_assign {rest : FramePool} (sound : pool.Sound)
    (taken : pool.takeFree? = some (index, rest)) (space : SpaceId) :
    FrameEntry.Becomes act (pool.entry other) ((rest.assign index space).entry other) := by
  obtain ⟨returned, fresh, rfl⟩ := takeFree?_eq taken
  rw [entry_assign]
  split
  · rename_i here
    rw [← here]
    exact .assigned (sound.taken_free taken).2 rfl
  · exact .stays rfl rfl

end

end FramePool

variable [Architecture]

theorem Machine.becomes_vacate {act : Act} (machine : Machine) {space : SpaceId} {page : Page}
    (owned : ∀ frame, page.state = .resident frame →
      (machine.pool.entry (frame.value - machine.pool.base.value)).owner = some space)
    (way : (∃ addr, act = .expel space addr) ∨ ∀ frame, page.state = .resident frame →
      (machine.pool.entry (frame.value - machine.pool.base.value)).pins = 0) (index : Nat) :
    FrameEntry.Becomes act (machine.pool.entry index)
      ((machine.vacate space page).pool.entry index) := by
  cases state : page.state with
  | unloaded | swapped =>
    simp only [vacate, state]
    exact .stays rfl rfl
  | resident frame =>
    simp only [vacate, state]
    split
    · rename_i pinned
      rcases way with ⟨addr, way⟩ | unpinned
      · rw [FramePool.entry_retire]
        split
        · rename_i here
          subst here
          exact .outlives way (owned frame state) (owned frame state) rfl
        · exact .stays rfl rfl
      · rw [unpinned frame state] at pinned
        exact absurd pinned (Nat.lt_irrefl 0)
    · exact machine.pool.becomes_withdraw _ _

theorem Machine.base_vacate (machine : Machine) (space : SpaceId) (page : Page) :
    (machine.vacate space page).pool.base = machine.pool.base := by
  unfold vacate
  split
  · rfl
  · rfl
  · dsimp only
    split
    · exact machine.pool.base_retire _
    · exact machine.pool.base_withdraw _

/-- A page in a frame owns it. -/
theorem Consistent.seat {now : Moment} (consistent : Consistent now) {space : SpaceId}
    {addr : VirtualAddress} {page : Page} {frame : FrameNumber}
    (found : (now.machine.registry space).pages.get? addr = some page)
    (state : page.state = .resident frame) : now.machine.pool.Holds frame space :=
  have placed : now.machine.placement space addr = some (frame, page.writable) :=
    Registry.placement_eq_some.2 ⟨page, found, state, rfl⟩
  consistent.held.placed placed

/-- A page in a frame is marked as pinned just if its frame has pins. -/
structure Machine.Marked (machine : Machine) : Prop where
  agrees : ∀ {space addr page frame}, (machine.registry space).pages.get? addr = some page →
    page.state = .resident frame →
    (page.pinned = true ↔ 0 < (machine.pool.entry (frame.value - machine.pool.base.value)).pins)

namespace Machine.Marked
variable {machine after : Machine}

/-- The frames that pages are in have pins just as before. -/
theorem repool (marked : machine.Marked)
    (registries : ∀ space, after.registry space = machine.registry space)
    (base : after.pool.base = machine.pool.base)
    (pins : ∀ {space addr page frame}, (machine.registry space).pages.get? addr = some page →
      page.state = .resident frame →
      (0 < (after.pool.entry (frame.value - machine.pool.base.value)).pins ↔
        0 < (machine.pool.entry (frame.value - machine.pool.base.value)).pins)) : after.Marked := by
  refine ⟨fun {space addr page frame} found state => ?_⟩
  rw [registries] at found
  rw [base, pins found state]
  exact marked.agrees found state

/-- What is registered at one address is replaced, and the frames of other pages have pins just as
before. -/
theorem replace (marked : machine.Marked) {space : SpaceId} {registry : Registry}
    {addr : VirtualAddress} {told : Option Page} (present : space < machine.spaces.length)
    (spaces : after.spaces = (machine.setRegistry space registry).spaces)
    (moved : ∀ other, registry.pages.get? other =
      if addr = other then told else (machine.registry space).pages.get? other)
    (base : after.pool.base = machine.pool.base)
    (here : ∀ {page frame}, told = some page → page.state = .resident frame →
      (page.pinned = true ↔ 0 < (after.pool.entry (frame.value - machine.pool.base.value)).pins))
    (pins : ∀ {other b page frame}, ¬(space = other ∧ addr = b) →
      (machine.registry other).pages.get? b = some page → page.state = .resident frame →
      (0 < (after.pool.entry (frame.value - machine.pool.base.value)).pins ↔
        0 < (machine.pool.entry (frame.value - machine.pool.base.value)).pins)) : after.Marked := by
  refine ⟨fun {other b page frame} found state => ?_⟩
  have registries : after.registry other = (machine.setRegistry space registry).registry other := by
    rw [Machine.registry, Machine.registry, Machine.space, Machine.space, spaces]
  have tells : ((machine.setRegistry space registry).registry other).pages.get? b =
      if space = other ∧ addr = b then told else (machine.registry other).pages.get? b :=
    @Machine.told_moved _ machine space _ (fun registry addr => registry.pages.get? addr) present
      registry addr told moved other b
  rw [registries, tells] at found
  rw [base]
  split at found
  · exact here found state
  · rename_i elsewhere
    rw [pins elsewhere found state]
    exact marked.agrees found state

end Machine.Marked

namespace Consistent
variable {now : Moment} (consistent : Consistent now) {space other : SpaceId}
  {addr b : VirtualAddress} {page another : Page} {frame kept : FrameNumber}
include consistent

theorem seats_differ (found : (now.machine.registry space).pages.get? addr = some page)
    (state : page.state = .resident frame)
    (also : (now.machine.registry other).pages.get? b = some another)
    (there : another.state = .resident kept) (differ : ¬(space = other ∧ addr = b)) :
    frame.value - now.machine.pool.base.value ≠ kept.value - now.machine.pool.base.value := by
  intro same
  have named := (consistent.seat found state).index.1
  rw [same, ← (consistent.seat also there).index.1] at named
  subst named
  have left : now.machine.placement space addr = some (frame, page.writable) :=
    Registry.placement_eq_some.2 ⟨page, found, state, rfl⟩
  have right : now.machine.placement other b = some (frame, another.writable) :=
    Registry.placement_eq_some.2 ⟨another, also, there, rfl⟩
  exact differ (consistent.held.page_unique left right)

/-- A frame that is kept for something else holds no page. -/
theorem seat_kept (member : (other, kept) ∈ now.ledger.keepers now.machine.callers)
    (found : (now.machine.registry space).pages.get? addr = some page)
    (state : page.state = .resident frame) :
    kept.value - now.machine.pool.base.value ≠ frame.value - now.machine.pool.base.value := by
  intro same
  have named := (consistent.held.kept member).index.1
  rw [same, ← (consistent.seat found state).index.1] at named
  have placed : now.machine.placement space addr = some (frame, page.writable) :=
    Registry.placement_eq_some.2 ⟨page, found, state, rfl⟩
  exact consistent.held.apart member placed named.symm

theorem seat_owned {index : Nat} (unowned : (now.machine.pool.entry index).owner = none)
    (found : (now.machine.registry space).pages.get? addr = some page)
    (state : page.state = .resident frame) :
    index ≠ frame.value - now.machine.pool.base.value := by
  rintro rfl
  rw [(consistent.seat found state).index.2.2] at unowned
  cases unowned

end Consistent

section
variable {ledger : Ledger} {machine : Machine} {space : SpaceId} {page : Page}

theorem Machine.Marked.drop (marked : machine.Marked) (consistent : Consistent ⟨ledger, machine⟩)
    {addr : VirtualAddress} {after : Registry}
    (taken : (machine.registry space).take? addr = some (page, after)) :
    ((machine.vacate space page).setRegistry space after).Marked := by
  obtain ⟨found, _, left, _⟩ := (consistent.sound space).take? taken
  refine marked.replace (machine.space_present found) ?_ left (machine.base_vacate space page)
    (fun same => by cases same) fun {other b another frame} elsewhere also there => ?_
  · unfold Machine.vacate
    split <;> rfl
  change 0 < ((machine.vacate space page).pool.entry _).pins ↔ _
  cases state : page.state with
  | unloaded | swapped => simp only [Machine.vacate, state]
  | resident held =>
    have differ := consistent.seats_differ found state also there elsewhere
    simp only [Machine.vacate, state]
    split
    · rw [FramePool.entry_retire, if_neg differ]
    · rw [FramePool.entry_withdraw, if_neg differ]

theorem Machine.Marked.register {after : Machine} (marked : machine.Marked)
    (unloaded : page.state = .unloaded)
    (spaces : after.spaces = (machine.setRegistry space ((machine.registry space).add page)).spaces)
    (pool : after.pool = machine.pool) : after.Marked := by
  by_cases present : space < machine.spaces.length
  · have added : ∀ other, ((machine.registry space).add page).pages.get? other =
        if page.addr = other then some page else (machine.registry space).pages.get? other :=
      fun _ => Registry.get?_insert _ _ _ _
    refine marked.replace present spaces added (congrArg _ pool) ?_ fun _ _ _ => by rw [pool]
    intro _ frame told state
    cases told
    cases unloaded.symm.trans state
  · have absent : machine.setRegistry space ((machine.registry space).add page) = machine := by
      rw [Machine.setRegistry, Machine.setSpace, List.set_eq_of_length_le (Nat.le_of_not_lt present)]
    rw [absent] at spaces
    refine marked.repool (fun other => ?_) (congrArg _ pool) fun _ _ => by rw [pool]
    rw [Machine.registry, Machine.registry, Machine.space, Machine.space, spaces]

theorem Machine.Marked.evict (marked : machine.Marked) (consistent : Consistent ⟨ledger, machine⟩)
    {frame : FrameNumber} {hand : Nat} {state : PageState} {swap : SwapStore}
    (found : (machine.registry space).lookupFrame frame = some page)
    (saves : machine.Saves space page frame state swap) :
    (machine.reclaim space page frame hand state swap).Marked := by
  have sound := consistent.sound space
  obtain ⟨registered, resident⟩ := sound.lookupFrame_eq_some found
  refine marked.replace (machine.space_present registered) rfl (sound.get?_detach found state)
    (FramePool.base_withdraw _ _) ?_ fun {other b another kept} elsewhere also there => ?_
  · intro _ other told placed
    cases told
    cases saves <;> cases placed
  · have differ := consistent.seats_differ registered resident also there elsewhere
    change 0 < ((({ machine.pool with hand } : FramePool).withdraw _).entry _).pins ↔ _
    rw [FramePool.entry_withdraw, if_neg differ]
    rfl

theorem Machine.Marked.assign {after : Machine} (marked : machine.Marked)
    (consistent : Consistent ⟨ledger, machine⟩) {index : Nat} {rest : FramePool}
    (taken : machine.pool.takeFree? = some (index, rest)) (spaces : after.spaces = machine.spaces)
    (pool : after.pool = rest.assign index space) : after.Marked := by
  have unowned := (consistent.held.sound.taken_free taken).2
  obtain ⟨returned, fresh, rfl⟩ := FramePool.takeFree?_eq taken
  refine marked.repool (fun other => ?_) (by rw [pool]; rfl) fun found state => ?_
  · rw [Machine.registry, Machine.registry, Machine.space, Machine.space, spaces]
  · rw [pool, FramePool.entry_assign, if_neg (consistent.seat_owned unowned found state)]
    rfl

theorem Machine.Marked.withdraw {after : Machine} (marked : machine.Marked)
    (consistent : Consistent ⟨ledger, machine⟩) {frame : FrameNumber}
    (member : (space, frame) ∈ ledger.keepers machine.callers) (spaces : after.spaces = machine.spaces)
    (pool : after.pool = machine.pool.withdraw (frame.value - machine.pool.base.value)) :
    after.Marked := by
  refine marked.repool (fun other => ?_) (by rw [pool, FramePool.base_withdraw]) fun found state => ?_
  · rw [Machine.registry, Machine.registry, Machine.space, Machine.space, spaces]
  · rw [pool, FramePool.entry_withdraw, if_neg (consistent.seat_kept member found state)]

end

section
variable {flights : List Flight} {pins : Multiset Pin} {machine : Machine}

theorem Machine.Marked.attach {load : Load} {arrived : Nat}
    (marked : machine.Marked) (consistent : Consistent ⟨⟨⟨load, arrived⟩ :: flights, pins⟩, machine⟩)
    {page : Page} {directory : Architecture.Directory} {pinned : Bool}
    (current : (machine.registry load.space).current? load.page = some page) :
    (machine.arrive load page directory pinned).Marked := by
  obtain ⟨found, _⟩ := Consistent.current?_eq_some current
  have keyed := (consistent.sound load.space).keyed found
  have member : (load.space, load.frame) ∈
      (Ledger.mk (⟨load, arrived⟩ :: flights) pins).keepers machine.callers :=
    Ledger.mem_keepers (.head _)
  have single := consistent.held.kept_pins member (consistent.held.kept member).index.1
  have base : (machine.arrive load page directory pinned).pool.base = machine.pool.base := by
    unfold Machine.arrive
    dsimp only
    split <;> rfl
  have settled : ∀ other, ((machine.registry load.space).settle page load.frame pinned).pages.get? other =
      if page.addr = other then some { page with
        state := .resident load.frame, pinned, generation := page.generation + 1 }
      else (machine.registry load.space).pages.get? other := fun _ => Registry.get?_insert _ _ _ _
  refine marked.replace (machine.space_present found) rfl settled base ?_
    fun {other b another frame} elsewhere also there => ?_
  · intro _ frame told state
    cases told
    cases state
    unfold Machine.arrive
    cases pinned with
    | true =>
      change _ ↔ 0 < (machine.pool.entry _).pins
      rw [single]
      simp
    | false =>
      change _ ↔ 0 < ((machine.pool.setPins _ 0).entry _).pins
      rw [FramePool.entry_setPins, if_pos rfl]
      simp
  · have differ := consistent.seat_kept member also there
    unfold Machine.arrive
    cases pinned with
    | true => rfl
    | false =>
      change 0 < ((machine.pool.setPins _ 0).entry _).pins ↔ _
      rw [FramePool.entry_setPins, if_neg differ]

theorem Machine.Marked.pin (marked : machine.Marked)
    (consistent : Consistent ⟨⟨flights, pins⟩, machine⟩) {space : SpaceId} {addr : VirtualAddress}
    {frame : FrameNumber} {after : Registry}
    (pinned : (machine.registry space).pin? addr = some (frame, after)) :
    ({ machine.setRegistry space after with
      pool := machine.pool.setPins (frame.value - machine.pool.base.value)
        ((machine.pool.entry (frame.value - machine.pool.base.value)).pins + 1) } : Machine).Marked := by
  obtain ⟨page, found, resident, same⟩ := Registry.get?_pin? pinned
  refine marked.replace (machine.space_present found) rfl same rfl ?_
    fun {other b another kept} elsewhere also there => ?_
  · intro _ other told state
    cases told
    cases resident.symm.trans state
    rw [FramePool.entry_setPins, if_pos rfl]
    simp
  · have differ := consistent.seats_differ found resident also there elsewhere
    rw [FramePool.entry_setPins, if_neg differ]

theorem Machine.Marked.unpin {pin : Pin} (marked : machine.Marked)
    (consistent : Consistent ⟨⟨flights, pin ::ₘ pins⟩, machine⟩) :
    (machine.unpin pin.space pin.frame).Marked := by
  have held := consistent.held
  change Held _ (pin ::ₘ pins + machine.callers.pins) _ _ at held
  rw [Multiset.cons_add] at held
  obtain ⟨index, named, owned, here⟩ := held.claimed (Multiset.mem_cons_self _ _)
  have place : pin.frame.value - machine.pool.base.value = index := by
    rw [named]
    exact FramePool.number_sub _ _
  have counts := Held.claimed_pins named held
  unfold Machine.unpin
  dsimp only
  rw [place]
  split
  · split
    · rename_i released
      refine marked.repool (fun _ => rfl) rfl fun found state => ?_
      change 0 < ((machine.pool.giveBack index).entry _).pins ↔ _
      rw [FramePool.entry_giveBack, if_neg]
      rintro rfl
      have inside := (consistent.seat found state).index.2.1
      rw [(held.sound.ring.1 inside).2] at released
      cases released
    · rename_i kept
      obtain ⟨writable, placed⟩ := here (Bool.eq_false_of_not_eq_true kept)
      obtain ⟨page, found, resident, _⟩ := Registry.placement_eq_some.1 placed
      refine marked.replace (machine.space_present found) rfl
        ((consistent.sound pin.space).get?_unpinFrame_of found resident) rfl ?_
        fun {other b another frame} elsewhere also there => ?_
      · intro _ frame told state
        cases told
        cases resident.symm.trans state
        change _ ↔ 0 < ((machine.pool.setPins index 0).entry _).pins
        rw [FramePool.entry_setPins, place, if_pos rfl]
        simp
      · have differ := consistent.seats_differ found resident also there elsewhere
        rw [place] at differ
        change 0 < ((machine.pool.setPins index 0).entry _).pins ↔ _
        rw [FramePool.entry_setPins, if_neg differ]
  · rename_i several
    refine marked.repool (fun _ => rfl) rfl fun found state => ?_
    change 0 < ((machine.pool.setPins index _).entry _).pins ↔ _
    rw [FramePool.entry_setPins]
    split
    · rename_i same
      rw [← same]
      dsimp only
      omega
    · rfl

end

variable [Lawful] {act : Act} {start stop : Moment}

theorem Move.base (move : Move act start stop) :
    stop.machine.pool.base = start.machine.pool.base := by
  cases move with
  | idle idle => exact congrArg _ idle.pool
  | scribble scribbled | stray scribbled => exact congrArg _ scribbled.pool
  | tamper aside => exact congrArg _ aside.pool
  | store owned written idle => exact congrArg _ idle.pool
  | drop | expel => exact Machine.base_vacate ..
  | evict | abandon | recover => exact FramePool.base_withdraw _ _
  | take present current away classified taken =>
    obtain ⟨returned, fresh, rfl⟩ := FramePool.takeFree?_eq taken
    rfl
  | lend taken =>
    obtain ⟨returned, fresh, rfl⟩ := FramePool.takeFree?_eq taken
    rfl
  | attach =>
    unfold Machine.arrive
    dsimp only
    split <;> rfl
  | unpin =>
    unfold Machine.unpin
    dsimp only
    split
    · split <;> rfl
    · rfl
  | misfree | meddle | share | register | grow | classify | fill | pin | handOut | takeBack | create
  | refuse => rfl

/-- A frame stays with its owner until it is free, and it outlives its page only where a space is
destroyed. -/
theorem Move.entry (move : Move act start stop) (consistent : Consistent start) (index : Nat) :
    FrameEntry.Becomes act (start.machine.pool.entry index) (stop.machine.pool.entry index) := by
  have same : ∀ {pool : FramePool}, pool = start.machine.pool →
      FrameEntry.Becomes act (start.machine.pool.entry index) (pool.entry index) := by
    rintro _ rfl
    exact .stays rfl rfl
  cases move with
  | idle idle => exact same idle.pool
  | scribble scribbled | stray scribbled => exact same scribbled.pool
  | tamper aside => exact same aside.pool
  | store owned written idle => exact same idle.pool
  | @drop ledger machine space addr page after taken unpinned =>
    have found := ((consistent.sound space).take? taken).1
    exact machine.becomes_vacate (fun _ state => (consistent.seat found state).index.2.2)
      (.inr unpinned) index
  | @expel ledger machine space addr page after taken =>
    have found := ((consistent.sound space).take? taken).1
    exact machine.becomes_vacate (fun _ state => (consistent.seat found state).index.2.2)
      (.inl ⟨addr, rfl⟩) index
  | @evict ledger machine space page frame hand =>
    exact ({ machine.pool with hand } : FramePool).becomes_withdraw _ _
  | abandon | recover => exact FramePool.becomes_withdraw _ _ _
  | take present current away classified taken =>
    exact FramePool.becomes_assign _ _ _ consistent.held.sound taken _
  | lend taken => exact FramePool.becomes_assign _ _ _ consistent.held.sound taken _
  | @attach flights pins machine load page first directory pinned =>
    unfold Machine.arrive
    dsimp only
    split
    · exact .stays rfl rfl
    · exact FramePool.becomes_setPins _ _ _ _
  | pin => exact FramePool.becomes_setPins _ _ _ _
  | unpin =>
    unfold Machine.unpin
    dsimp only
    split
    · split
      · exact FramePool.becomes_giveBack _ _ _
      · exact FramePool.becomes_setPins _ _ _ _
    · exact FramePool.becomes_setPins _ _ _ _
  | @refuse ledger machine place unowned =>
    rw [FramePool.entry_setEntry]
    split
    · exact .blank rfl
    · exact .stays rfl rfl
  | misfree | meddle | share | register | grow | classify | fill | handOut | takeBack | create =>
    exact .stays rfl rfl

/-- A frame that is to go back to the pool was so before, or its page has just been expelled. -/
theorem Move.released_before (move : Move act start stop) (consistent : Consistent start) {owner : SpaceId}
    (spares : ∀ addr, act ≠ .expel owner addr) {index : Nat}
    (owned : (stop.machine.pool.entry index).owner = some owner)
    (released : (stop.machine.pool.entry index).released = true) :
    (start.machine.pool.entry index).owner = some owner ∧
      (start.machine.pool.entry index).released = true := by
  cases move.entry consistent index with
  | stays owner_eq released_eq => exact ⟨owner_eq ▸ owned, released_eq ▸ released⟩
  | @outlives space addr way _ owner_eq =>
    cases owner_eq.symm.trans owned
    exact absurd way (spares addr)
  | blank gone =>
    rw [gone] at owned
    cases owned
  | assigned _ kept =>
    rw [kept] at released
    cases released

theorem Machine.Marked.move (move : Move act start stop) (consistent : Consistent start)
    (marked : start.machine.Marked) : stop.machine.Marked := by
  have aside : ∀ {after : Machine}, start.machine.Aside after → after.Marked := fun aside =>
    marked.repool aside.registries (congrArg _ aside.pool) fun _ _ => by rw [aside.pool]
  have kept : ∀ {after : Machine}, (∀ space, after.registry space = start.machine.registry space) →
      after.pool = start.machine.pool → after.Marked := fun registries pool =>
    marked.repool registries (congrArg _ pool) fun _ _ => by rw [pool]
  cases move with
  | idle idle => exact aside idle.toAside
  | scribble scribbled | stray scribbled => exact aside scribbled.toAside
  | tamper apart => exact aside apart
  | store owned written idle => exact kept idle.registries idle.pool
  | @register ledger machine space page accepted unloaded =>
    exact marked.register unloaded rfl rfl
  | @grow ledger machine space page accepted unloaded =>
    exact marked.register unloaded rfl rfl
  | @classify ledger machine space addr backing after done =>
    obtain ⟨page, found, _, same⟩ := Registry.get?_classify done
    refine marked.replace (machine.space_present found) rfl same rfl ?_ fun _ _ _ => Iff.rfl
    intro _ frame told state
    cases told
    have agrees := marked.agrees found state
    exact agrees
  | drop taken | expel taken => exact marked.drop consistent taken
  | evict found unpinned saves => exact marked.evict consistent found saves
  | take present current away classified taken => exact marked.assign consistent taken rfl rfl
  | lend taken => exact marked.assign consistent taken rfl rfl
  | attach current => exact marked.attach consistent current
  | abandon => exact marked.withdraw consistent (Ledger.mem_keepers (.head _)) rfl rfl
  | @recover ledger machine space frame newer older held =>
    have member : (space, frame) ∈ ledger.keepers machine.callers :=
      Multiset.mem_coe.2 (List.mem_append_right _ (by rw [held]; simp))
    exact marked.withdraw consistent member rfl rfl
  | pin pinned => exact marked.pin consistent pinned
  | unpin => exact marked.unpin consistent
  | @refuse ledger machine index unowned =>
    refine marked.repool (fun _ => rfl) rfl fun found state => ?_
    rw [FramePool.entry_setEntry, if_neg (consistent.seat_owned unowned found state)]
  | create => exact kept (Machine.registry_create _ rfl) rfl
  | share => exact kept (Machine.registry_create _ rfl) rfl
  | misfree | meddle | fill | handOut | takeBack => exact kept (fun _ => rfl) rfl

end DemandPaging
