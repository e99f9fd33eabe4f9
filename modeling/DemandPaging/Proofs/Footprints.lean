import DemandPaging.Proofs.Evictions

/-! What a move can do to one page, one slot, one frame and one file. Whatever is to be shown of a page
along a run follows from these four views, without going through the moves again. -/
namespace DemandPaging
open Architecture (Lawful)

namespace Registry

theorem get?_insert (pages : SortedMap VirtualAddress Page) (key addr : VirtualAddress) (page : Page) :
    (pages.insert key page).get? addr = if key = addr then some page else pages.get? addr := by
  by_cases same : key = addr
  · rw [if_pos same, same, SortedMap.get?_insert_self]
  · rw [if_neg same, SortedMap.get?_insert_of_ne _ _ same]

theorem get?_classify {registry after : Registry} {addr : VirtualAddress} {backing : Backing}
    (done : registry.classify addr backing = .ok after) :
    ∃ page, registry.pages.get? addr = some page ∧ page.backing = .unclassified ∧
      ∀ other, after.pages.get? other =
        if addr = other then some { page with backing } else registry.pages.get? other := by
  unfold classify at done
  split at done
  · cases done
  · rename_i page found
    split at done
    · rename_i bare
      cases done
      exact ⟨page, found, bare, fun other => get?_insert _ _ _ _⟩
    · cases done

theorem get?_pin? {registry after : Registry} {addr : VirtualAddress} {frame : FrameNumber}
    (pinned : registry.pin? addr = some (frame, after)) :
    ∃ page, registry.pages.get? addr = some page ∧ page.state = .resident frame ∧
      ∀ other, after.pages.get? other =
        if addr = other then some { page with pinned := true } else registry.pages.get? other := by
  cases found : registry.pages.get? addr with
  | none => simp [pin?, found] at pinned
  | some page =>
    cases state : page.state with
    | resident held =>
      simp only [pin?, found, Page.frame?, state, Option.bind_eq_bind, Option.bind_some,
        Option.pure_def, Option.some.injEq, Prod.mk.injEq] at pinned
      obtain ⟨rfl, rfl⟩ := pinned
      refine ⟨page, rfl, state, fun other => ?_⟩
      rw [state]
      exact get?_insert _ _ _ _
    | unloaded => simp [pin?, found, Page.frame?, state] at pinned
    | swapped => simp [pin?, found, Page.frame?, state] at pinned

theorem get?_unpinFrame [Geometry] {registry : Registry} (sound : registry.Sound) (frame : FrameNumber)
    (other : VirtualAddress) :
    (registry.unpinFrame frame).pages.get? other = registry.pages.get? other ∨
      ∃ page, registry.pages.get? other = some page ∧ page.isResident = true ∧
        (registry.unpinFrame frame).pages.get? other = some { page with pinned := false } := by
  cases holder : registry.holders.get? frame with
  | none => exact .inl (by simp only [unpinFrame, holder])
  | some addr =>
    obtain ⟨writable, placed⟩ := sound.holders.1 holder
    obtain ⟨page, found, resident, _⟩ := placement_eq_some.1 placed
    simp only [unpinFrame, holder, found, get?_insert]
    split
    · rename_i same
      subst same
      exact .inr ⟨page, found, by simp [Page.isResident, Page.frame?, resident], rfl⟩
    · exact .inl rfl

end Registry

variable [Architecture]

/-- What a move from `start` to `stop` makes of a page of a space. -/
inductive Turns (start stop : Moment) (space : SpaceId) : Page → Page → Prop
  | stays (page) : Turns start stop space page page
  | classified {page backing} (bare : page.backing = .unclassified)
      (backs : start.machine.Backs backing) : Turns start stop space page { page with backing }
  | marked {page} (pinned) (resident : page.isResident = true) :
      Turns start stop space page { page with pinned }
  | leaves {page frame state swap} (resident : page.state = .resident frame)
      (unpinned : (start.machine.pool.entry (frame.value - start.machine.pool.base.value)).pins = 0)
      (saves : start.machine.Saves space page frame state swap) (stored : stop.machine.swap = swap) :
      Turns start stop space page
        { page with state, pinned := false, generation := page.generation + 1 }
  | arrives {page load flights} (pinned) (latest : start.ledger.flights = ⟨load, pageSize⟩ :: flights)
      (owner : load.space = space)
      (current : (start.machine.registry space).current? load.page = some page) {first directory}
      (mapped : Architecture.install (start.machine.directory load.space) page.addr first page.writable =
        (.ok (), directory))
      (left : stop.machine = start.machine.arrive load page directory pinned) :
      Turns start stop space page
        { page with state := .resident load.frame, pinned, generation := page.generation + 1 }

inductive Becomes (act : Act) (start stop : Moment) (space : SpaceId) (addr : VirtualAddress) :
    Option Page → Option Page → Prop
  | absent : Becomes act start stop space addr none none
  | turns {page after} (turns : Turns start stop space page after) :
      Becomes act start stop space addr (some page) (some after)
  | enters {page} (way : act = .register start.ledger.loads space addr ∨
        (act = .grow start.ledger.loads space addr ∧ .stackGrown space addr ∈ stop.machine.log))
      (unloaded : page.state = .unloaded) (first : page.generation = 0)
      (backs : start.machine.Backs page.backing) :
      Becomes act start stop space addr none (some page)
  | gone {page} (dropped : act = .drop space addr ∨ act = .expel space addr) :
      Becomes act start stop space addr (some page) none

theorem Becomes.refl {act : Act} {start stop : Moment} {space : SpaceId} {addr : VirtualAddress}
    (page : Option Page) : Becomes act start stop space addr page page := by
  cases page with
  | none => exact .absent
  | some page => exact .turns (.stays page)

/-- If each page of one registry becomes what is put in its place, so does every page. -/
theorem Becomes.update {act : Act} {start stop : Moment} {space : SpaceId} {registry : Registry}
    (base : Machine) (spaces : base.spaces = start.machine.spaces)
    (after : stop.machine.spaces = (base.setRegistry space registry).spaces)
    (each : ∀ addr, Becomes act start stop space addr
      ((start.machine.registry space).pages.get? addr) (registry.pages.get? addr))
    (other : SpaceId) (addr : VirtualAddress) :
    Becomes act start stop other addr ((start.machine.registry other).pages.get? addr)
      ((stop.machine.registry other).pages.get? addr) := by
  have before : base.registry other = start.machine.registry other := by
    rw [Machine.registry, Machine.registry, Machine.space, Machine.space, spaces]
  have now : stop.machine.registry other = (base.setRegistry space registry).registry other := by
    rw [Machine.registry, Machine.registry, Machine.space, Machine.space, after]
  rw [now]
  rcases base.registry_setRegistry_cases space other registry with same | ⟨rfl, here⟩
  · rw [same, before]
    exact .refl _
  · rw [here]
    exact each addr

theorem Becomes.at {act : Act} {start stop : Moment} {space : SpaceId} {registry : Registry}
    {addr : VirtualAddress} {page after : Page}
    (found : (start.machine.registry space).pages.get? addr = some page)
    (turns : Turns start stop space page after)
    (same : ∀ other, registry.pages.get? other = if addr = other then some after
      else (start.machine.registry space).pages.get? other) (other : VirtualAddress) :
    Becomes act start stop space other ((start.machine.registry space).pages.get? other)
      (registry.pages.get? other) := by
  rw [same]
  split
  · rename_i here
    rw [← here, found]
    exact .turns turns
  · exact .refl _

theorem Becomes.added {act : Act} {start stop : Moment} {space : SpaceId} {page : Page}
    (accepted : (start.machine.registry space).refusal? page.addr = none)
    (unloaded : page.state = .unloaded) (first : page.generation = 0)
    (backs : start.machine.Backs page.backing)
    (way : act = .register start.ledger.loads space page.addr ∨
      (act = .grow start.ledger.loads space page.addr ∧
        .stackGrown space page.addr ∈ stop.machine.log)) (other : VirtualAddress) :
    Becomes act start stop space other ((start.machine.registry space).pages.get? other)
      (((start.machine.registry space).add page).pages.get? other) := by
  rw [Registry.add, Registry.get?_insert]
  split
  · rename_i same
    subst same
    rw [(Registry.refusal?_eq_none accepted).1]
    exact .enters way unloaded first backs
  · exact .refl _

theorem Becomes.taken {act : Act} {ledger last : Ledger} {machine : Machine} {owner : SpaceId}
    {place : VirtualAddress} {page : Page} {after : Registry} (consistent : Consistent ⟨ledger, machine⟩)
    (taken : (machine.registry owner).take? place = some (page, after))
    (dropped : act = .drop owner place ∨ act = .expel owner place) (space : SpaceId)
    (addr : VirtualAddress) :
    Becomes act ⟨ledger, machine⟩ ⟨last, (machine.vacate owner page).setRegistry owner after⟩ space addr
      ((machine.registry space).pages.get? addr)
      ((((machine.vacate owner page).setRegistry owner after).registry space).pages.get? addr) := by
  obtain ⟨found, _, same, _⟩ := (consistent.sound owner).take? taken
  have each : ∀ other, Becomes act ⟨ledger, machine⟩
      ⟨last, (machine.vacate owner page).setRegistry owner after⟩ owner other
      ((machine.registry owner).pages.get? other) (after.pages.get? other) := by
    intro other
    rw [same]
    split
    · rename_i here
      subst here
      rw [found]
      exact .gone dropped
    · exact .refl _
  exact .update (machine.vacate owner page) (Machine.spaces_vacate ..) rfl each space addr

theorem Becomes.of_eq {act : Act} {start stop : Moment} {space : SpaceId} {addr : VirtualAddress}
    {before after : Option Page} (same : after = before) :
    Becomes act start stop space addr before after := by
  rw [same]
  exact .refl before

variable [Lawful]

/-- Every move makes of a page one of a few things. -/
theorem Move.becomes {act : Act} {start stop : Moment} (move : Move act start stop)
    (consistent : Consistent start) (space : SpaceId) (addr : VirtualAddress) :
    Becomes act start stop space addr ((start.machine.registry space).pages.get? addr)
      ((stop.machine.registry space).pages.get? addr) := by
  cases move with
  | idle idle =>
    dsimp only
    rw [idle.registries]
    exact .refl _
  | scribble scribbled | stray scribbled =>
    dsimp only
    rw [scribbled.registries]
    exact .refl _
  | tamper aside =>
    dsimp only
    rw [aside.registries]
    exact .refl _
  | store owned written idle =>
    dsimp only
    rw [idle.registries]
    exact .refl _
  | @register ledger machine owner page accepted unloaded first free backs =>
    refine .update machine rfl rfl ?_ space addr
    exact .added accepted unloaded first backs (.inl rfl)
  | @grow ledger machine owner page accepted unloaded first free backs =>
    refine .update machine rfl rfl ?_ space addr
    exact .added accepted unloaded first backs (.inr ⟨rfl, List.mem_cons_self⟩)
  | @classify ledger machine owner place backing after done backs =>
    obtain ⟨page, found, bare, same⟩ := Registry.get?_classify done
    refine .update machine rfl rfl ?_ space addr
    exact .at found (.classified bare backs) same
  | drop taken => exact .taken consistent taken (.inl rfl) space addr
  | expel taken => exact .taken consistent taken (.inr rfl) space addr
  | @evict ledger machine owner page frame hand state swap found unpinned saves =>
    have sound := consistent.sound owner
    obtain ⟨registered, resident⟩ := sound.lookupFrame_eq_some found
    refine .update (machine.setDirectory owner _) rfl rfl ?_ space addr
    exact .at registered (.leaves resident unpinned saves rfl) (sound.get?_detach found state)
  | @attach flights pins machine load page first directory pinned current begins mapped =>
    obtain ⟨found, _⟩ := Consistent.current?_eq_some current
    have keyed := (consistent.sound load.space).keyed found
    refine .update (machine.setDirectory load.space _) rfl rfl ?_ space addr
    refine .at found (.arrives pinned rfl rfl current mapped rfl) fun other => ?_
    rw [← keyed]
    exact Registry.get?_insert _ _ _ _
  | @pin flights pins machine owner place frame after pinned =>
    obtain ⟨page, found, resident, same⟩ := Registry.get?_pin? pinned
    refine .update machine rfl rfl ?_ space addr
    exact .at found (.marked true (by simp [Page.isResident, Page.frame?, resident])) same
  | @unpin flights pins machine pin =>
    unfold Machine.unpin
    dsimp only
    split
    · split
      · exact .refl _
      · refine .update machine rfl rfl (fun other => ?_) space addr
        rcases Registry.get?_unpinFrame (consistent.sound pin.space) pin.frame other with
          same | ⟨page, found, resident, now⟩
        · rw [same]
          exact .refl _
        · dsimp only
          rw [found, now]
          exact .turns (.marked false resident)
    · exact .refl _
  | @create ledger machine tables stackPointer =>
    exact .of_eq (congrArg (·.pages.get? addr) (machine.registry_create rfl space))
  | @share ledger machine directory stackPointer =>
    exact .of_eq (congrArg (·.pages.get? addr) (machine.registry_create rfl space))
  | misfree | meddle | take | fill | abandon | handOut | takeBack | lend | recover | refuse =>
    exact .refl _

section
variable {start stop : Moment} {space : SpaceId} {page after : Page}

omit [Lawful] in
/-- The generation of a page never goes back, and a page that could be loaded gets a new one whenever
it changes. -/
theorem Turns.generation (turns : Turns start stop space page after) :
    page.generation ≤ after.generation ∧ (page.isResident = false → page.backing ≠ .unclassified →
      after.generation = page.generation → after = page) := by
  cases turns with
  | stays => exact ⟨Nat.le_refl _, fun _ _ _ => rfl⟩
  | classified bare => exact ⟨Nat.le_refl _, fun _ classified => absurd bare classified⟩
  | marked pinned resident =>
    refine ⟨Nat.le_refl _, fun away => ?_⟩
    rw [resident] at away
    cases away
  | leaves | arrives => exact ⟨Nat.le_succ _, fun _ _ same => absurd same (Nat.succ_ne_self _)⟩

omit [Lawful] in
/-- A page keeps its backing, and one without gets a backing that it can be loaded from. -/
theorem Turns.backing (turns : Turns start stop space page after) :
    after.backing = page.backing ∨
      (page.backing = .unclassified ∧ start.machine.Backs after.backing) := by
  cases turns with
  | classified bare backs => exact .inr ⟨bare, backs⟩
  | stays | marked | leaves | arrives => exact .inl rfl

end

end DemandPaging
