import DemandPaging.Proofs.Arrivals
import DemandPaging.Proofs.Pins

/-! Releasing pages as moves: a page is unregistered and its frame or slot is given up, one page at a
time, also where the registry of a whole space is emptied at once. -/
namespace DemandPaging
open Architecture (Lawful)

variable [Architecture]

/-- Holdings are given up alike before and after a registry is replaced. -/
theorem Machine.vacate_setRegistry (machine : Machine) (space : SpaceId) (registry : Registry)
    (page : Page) : (machine.setRegistry space registry).vacate space page =
      (machine.vacate space page).setRegistry space registry := by
  cases state : page.state with
  | resident frame =>
    simp only [vacate, state]
    rw [setRegistry_setDirectory, directory_setRegistry]
    rfl
  | _ => simp only [vacate, state] <;> rfl

theorem Machine.vacate_log (machine : Machine) (space : SpaceId) (page : Page) (log : List Event) :
    Machine.vacate { machine with log } space page = { machine.vacate space page with log } := by
  unfold vacate
  split <;> rfl

omit [Architecture] in
theorem Registry.exists_take? {registry : Registry} {addr : VirtualAddress} {page : Page}
    (found : registry.pages.get? addr = some page) :
    ∃ after, registry.take? addr = some (page, after) := by
  unfold take?
  rw [found]
  exact ⟨_, rfl⟩

theorem Registry.Sound.eq_default {registry : Registry} (sound : registry.Sound)
    (empty : ∀ addr, registry.pages.get? addr = none) : registry = default := by
  have pages : registry.pages = .empty := SortedMap.ext fun addr => by
    rw [empty, SortedMap.get?_empty]
  have holders : registry.holders = .empty := SortedMap.ext fun frame => by
    rw [SortedMap.get?_empty]
    cases holder : registry.holders.get? frame with
    | none => rfl
    | some addr =>
      obtain ⟨writable, placed⟩ := sound.holders.1 holder
      obtain ⟨page, found, _⟩ := placement_eq_some.1 placed
      rw [empty] at found
      cases found
  obtain ⟨_, _⟩ := registry
  cases pages
  cases holders
  rfl

omit [Architecture] in
theorem Registry.Sound.mem_values [Geometry] {registry : Registry} (sound : registry.Sound) {page : Page} :
    page ∈ registry.pages.values ↔ registry.pages.get? page.addr = some page := by
  rw [SortedMap.values_eq, List.mem_map]
  constructor
  · rintro ⟨⟨addr, page⟩, listed, rfl⟩
    have found := SortedMap.mem_toList.1 listed
    rw [sound.keyed found]
    exact found
  · intro found
    exact ⟨_, SortedMap.mem_toList.2 found, rfl⟩

omit [Architecture] in
theorem Registry.Sound.nodup_values [Geometry] {registry : Registry} (sound : registry.Sound) :
    (registry.pages.values.map (·.addr)).Nodup := by
  rw [SortedMap.values_eq, List.map_map, List.Nodup, List.pairwise_map]
  refine (SortedMap.toList_ascending _).imp_of_mem fun {a b} left right less same => ?_
  have first := sound.keyed (SortedMap.mem_toList.1 left)
  have second := sound.keyed (SortedMap.mem_toList.1 right)
  have equal : a.1 = b.1 := first.symm.trans (Eq.trans same second)
  rw [equal] at less
  exact Nat.lt_irrefl _ less

namespace Kernel

/-- Giving up a holding changes the log besides. -/
theorem releaseHolding_ok {space : SpaceId} {page : Page} {start next : Machine} {u : Unit}
    (ended : releaseHolding space page start = .ok u next)
    (held : ∀ frame, page.state = .resident frame → start.pool.Holds frame space) :
    ∃ log, Log.Grows (start.freeing page.state) log ∧
      next = { start.vacate space page with log } := by
  cases state : page.state with
  | unloaded =>
    simp only [releaseHolding, state, pure_ok] at ended
    obtain ⟨_, rfl⟩ := ended
    refine ⟨start.log, .refl _, ?_⟩
    simp only [Machine.vacate, state]
  | swapped slot =>
    simp only [releaseHolding, state] at ended
    rw [freeSlot_ok ended]
    exact ⟨_, .refl _, by simp only [Machine.vacate, state]⟩
  | resident frame =>
    have holds := held frame state
    simp only [releaseHolding, state, bind_ok, poolIndex_ok, get_ok] at ended
    obtain ⟨_, _, unmapped, index, _, ⟨found, rfl⟩, _, _, ⟨rfl, rfl⟩, ended⟩ := ended
    obtain ⟨rfl, rfl⟩ := modifyGet_ok.1 unmapped
    have place : frame.value - start.pool.base.value = index := by
      rw [(FramePool.index_ok.1 found).1]
      exact FramePool.number_sub _ _
    change (if 0 < (start.pool.entry index).pins then _ else _ : Kernel Unit) _ = _ at ended
    simp only [Machine.vacate, state]
    rw [place]
    by_cases pinned : 0 < (start.pool.entry index).pins
    · rw [if_pos pinned] at ended
      simp only [bind_ok, emit_ok, modifyPool_ok] at ended
      obtain ⟨_, _, rfl, rfl⟩ := ended
      refine ⟨.releasedPinned frame :: start.log,
        (Log.Grows.refl _).cons (fun _ same => by cases same), ?_⟩
      rw [if_pos pinned]
      rfl
    · rw [if_neg pinned] at ended
      refine ⟨start.log, .refl _, ?_⟩
      rw [if_neg pinned, free_ok ended holds, ← place]
      rfl

variable [Lawful] {scope : Scope} {start : Moment}

/-- A page that was taken out of its registry gives up what it held: one move, after the log has told
of a slot that was not in use. -/
theorem leave_moves {act : Act} {space : SpaceId} {addr : VirtualAddress} {page : Page}
    {registry : Registry} {next : Machine} {u : Unit} (ready : scope.Ready start)
    (allowed : scope.may act) (taken : (start.machine.registry space).take? addr = some (page, registry))
    (leaves : ∀ log, Move act ⟨start.ledger, { start.machine with log }⟩ ⟨start.ledger,
      (Machine.vacate { start.machine with log } space page).setRegistry space registry⟩)
    {rest : Registry}
    (ended : releaseHolding space page (start.machine.setRegistry space rest) = .ok u next) :
    ∃ log, next = { (start.machine.vacate space page).setRegistry space rest with log } ∧
      Path scope.may start ⟨start.ledger,
        { (start.machine.vacate space page).setRegistry space registry with log }⟩ := by
  obtain ⟨found, _, _, _⟩ := (ready.sound space).take? taken
  have held : ∀ frame, page.state = .resident frame → start.machine.pool.Holds frame space :=
    fun frame state => ready.held.placed
      (Registry.placement_eq_some.2 ⟨page, found, state, rfl⟩ : start.machine.placement space addr = _)
  obtain ⟨log, grows, rfl⟩ := releaseHolding_ok ended held
  rw [Machine.vacate_setRegistry]
  have told : Path scope.may start
      ⟨start.ledger, { start.machine with log := start.machine.freeing page.state }⟩ :=
    scope.freeing fun slot state => .inl ⟨space, addr, page, found, state⟩
  have left := leaves (start.machine.freeing page.state)
  rw [Machine.vacate_log] at left
  exact ⟨log, rfl, told.trans (.next allowed left (scope.idles _ (Machine.idle_logs _ grows)))⟩

theorem releasePage_follows {space : SpaceId} {addr : VirtualAddress}
    (dropping : (∃ page, (start.machine.registry space).pages.get? addr.pageBase = some page ∧
      ∀ frame, page.state = .resident frame →
        (start.machine.pool.entry (frame.value - start.machine.pool.base.value)).pins = 0) →
      scope.may (.drop space addr.pageBase)) :
    Follows scope start (releasePage space addr) (releasePage space addr)
      fun _ now => now.ledger = start.ledger := by
  refine .of_ok fun ready result next ended => ?_
  simp only [releasePage, bind_ok, get_ok] at ended
  obtain ⟨_, _, ⟨rfl, rfl⟩, ended⟩ := ended
  cases taken : (start.machine.registry space).take? addr.pageBase with
  | none =>
    simp only [taken, pure_ok] at ended
    obtain ⟨_, rfl⟩ := ended
    exact ⟨_, .refl _, rfl⟩
  | some found =>
    obtain ⟨page, registry⟩ := found
    -- Whether the frame is pinned is only looked at.
    have go : ∀ pinned : Bool, (pinned = false → ∀ frame, page.state = .resident frame →
        (start.machine.pool.entry (frame.value - start.machine.pool.base.value)).pins = 0) → (do
        if pinned then return .error (.inUse addr.pageBase)
        modify (·.setRegistry space registry)
        releaseHolding space page
        return .ok page : Kernel (Except RegistryError Page)) start.machine = .ok result next →
        ∃ ledger, Path scope.may start ⟨ledger, next⟩ ∧ ledger = start.ledger := by
      intro pinned unpinned ended
      cases pinned with
      | true =>
        obtain ⟨_, rfl⟩ := pure_ok.1 ended
        exact ⟨_, .refl _, rfl⟩
      | false =>
        simp only [Bool.false_eq_true, if_false, bind_ok, modify_ok, pure_ok] at ended
        obtain ⟨_, _, rfl, _, _, released, _, rfl⟩ := ended
        have found := ((ready.sound space).take? taken).1
        obtain ⟨log, rfl, path⟩ := leave_moves ready (dropping ⟨page, found, unpinned rfl⟩) taken
          (fun _ => .drop taken (unpinned rfl)) released
        exact ⟨_, path, rfl⟩
    cases frame : page.frame? with
    | none =>
      simp only [taken, frame] at ended
      refine go false (fun _ held state => ?_) ended
      rw [Page.frame?, state] at frame
      cases frame
    | some held =>
      simp only [taken, frame] at ended
      obtain ⟨index, _, located, ended⟩ := bind_ok.1 ended
      obtain ⟨found, rfl⟩ := poolIndex_ok.1 located
      obtain ⟨_, _, looked, ended⟩ := bind_ok.1 ended
      obtain ⟨rfl, rfl⟩ := get_ok.1 looked
      refine go (start.machine.pool.isPinned index) (fun unpinned other state => ?_) ended
      rw [Page.frame?, state] at frame
      cases frame
      rw [(FramePool.index_ok.1 found).1, FramePool.number_sub]
      exact Nat.eq_zero_of_not_pos (of_decide_eq_false unpinned)

theorem releaseAll_moves {space : SpaceId} {pages : List Page} {next : Machine} {u : Unit}
    (ready : scope.Ready start) (expelling : ∀ addr, scope.may (.expel space addr))
    (all : ∀ page, page ∈ pages ↔
      (start.machine.registry space).pages.get? page.addr = some page)
    (distinct : (pages.map (·.addr)).Nodup)
    (ended : pages.forM (releaseHolding space) (start.machine.setRegistry space default) =
      .ok u next) : Path scope.may start ⟨start.ledger, next⟩ := by
  induction pages generalizing start with
  | nil =>
    obtain ⟨_, rfl⟩ := pure_ok.1 ended
    have empty := (ready.sound space).eq_default fun addr => by
      cases found : (start.machine.registry space).pages.get? addr with
      | none => rfl
      | some page =>
        have here := (ready.sound space).keyed found
        rw [← here] at found
        exact absurd ((all page).2 found) List.not_mem_nil
    rw [← empty, Machine.setRegistry_registry]
    exact .refl start
  | cons page rest ih =>
    obtain ⟨_, mid, released, ended⟩ := bind_ok.1 ended
    have found := (all page).1 List.mem_cons_self
    have present := start.machine.space_present found
    obtain ⟨registry, taken⟩ := Registry.exists_take? found
    obtain ⟨_, _, left, _⟩ := (ready.sound space).take? taken
    obtain ⟨log, rfl, path⟩ := leave_moves ready (expelling page.addr) taken
      (fun _ => .expel taken) released
    refine path.trans (ih (ready.path path) (fun other => ?_) (List.nodup_cons.1 distinct).2 ?_)
    · have here : ((start.machine.vacate space page).setRegistry space registry).registry space =
          registry := Machine.registry_setRegistry_self _ _ (by rw [Machine.spaces_vacate]; exact present)
      change other ∈ rest ↔ (((start.machine.vacate space page).setRegistry space
        registry).registry space).pages.get? other.addr = some other
      rw [here, left]
      have apart := (List.nodup_cons.1 distinct).1
      split
      · rename_i same
        refine ⟨fun member => absurd (List.mem_map.2 ⟨other, member, same.symm⟩) apart, nofun⟩
      · rename_i differ
        rw [← all other, List.mem_cons]
        exact ⟨.inr, fun listed => listed.resolve_left fun same => differ (by rw [same])⟩
    · change rest.forM (releaseHolding space) { ((start.machine.vacate space page).setRegistry space
        registry).setRegistry space default with log } = _
      rw [Machine.setRegistry_setRegistry]
      exact ended

theorem destroySpace_follows {space : SpaceId} (expelling : ∀ addr, scope.may (.expel space addr)) :
    Follows scope start (destroySpace space) (destroySpace space)
      fun _ now => now.ledger = start.ledger := by
  refine .of_ok fun ready result next ended => ?_
  simp only [destroySpace, bind_ok, get_ok, modifyRegistry_ok, emit_ok] at ended
  obtain ⟨_, _, ⟨rfl, rfl⟩, _, _, rfl, _, _, released, rfl⟩ := ended
  have sound : (start.machine.registry space).Sound := ready.sound space
  refine ⟨_, (releaseAll_moves ready expelling (fun page => sound.mem_values) sound.nodup_values released).trans
    (scope.idles _ (Machine.idle_log _ fun _ same => by cases same)), rfl⟩

end Kernel

end DemandPaging
