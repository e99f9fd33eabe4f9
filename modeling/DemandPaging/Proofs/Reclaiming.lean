import DemandPaging.Proofs.Conservation
import DemandPaging.Proofs.SecondChances

/-! What asking for a frame comes to, exactly. -/
namespace DemandPaging
open Architecture (Lawful SecondChance AccessedBits)

namespace FramePool
variable {pool : FramePool} {index : Nat}

theorem takeFree?_none (spent : pool.free = []) : pool.takeFree? = none := by
  cases taken : pool.takeFree? with
  | none => rfl
  | some found =>
    obtain ⟨first, left⟩ := found
    have free := free_of_takeFree? taken
    rw [spent] at free
    cases free

theorem takeFree?_some {rest : List Nat} (free : pool.free = index :: rest) :
    ∃ left, pool.takeFree? = some (index, left) ∧ left.free = rest := by
  cases taken : pool.takeFree? with
  | none =>
    rw [free_of_takeFree?_none taken] at free
    cases free
  | some found =>
    obtain ⟨first, left⟩ := found
    rw [free_of_takeFree? taken] at free
    cases free
    exact ⟨left, rfl, rfl⟩

end FramePool

/-- What a whole frame is overwritten with is what it holds then. -/
theorem Memory.read_overwritten [Geometry] {memory after : Memory} {frame : FrameNumber}
    {held bytes : Bytes} (written : memory.write frame 0 bytes = .ok after)
    (read : memory.read frame = .ok held) (whole : held.length = bytes.length) :
    after.read frame = .ok bytes := by
  obtain ⟨before, same, now⟩ := Memory.read_write_self written
  rw [read] at same
  cases same
  rw [now, Bytes.patch]
  simp [whole]

section
variable [Architecture]

/-- A frame holds zeros if that was asked for, and no other frame has changed. -/
structure Machine.Cleared (machine : Machine) (frame : FrameNumber) (zeroed : Bool) (memory : Memory) :
    Prop where
  zeros : zeroed = true → memory.read frame = .ok (List.replicate pageSize 0)
  kept : zeroed = false → memory = machine.memory
  others : ∀ other, other ≠ frame → memory.read other = machine.memory.read other

/-- The machine with a free frame assigned. Nothing but the pool and the frame has changed: no page, no
page directory, and no slot. -/
structure Machine.Assigned (machine : Machine) (index : Nat) (rest : List Nat) (owner : SpaceId)
    (zeroed : Bool) (after : Machine) : Prop where
  others : ∃ pool memory, after = { machine with pool, memory }
  free : after.pool.free = rest
  ring : after.pool.clock = machine.pool.clock ++ [index]
  hand : after.pool.hand = machine.pool.hand
  entries : ∀ other, after.pool.entry other =
    if index = other then { owner := some owner, pins := 1 } else machine.pool.entry other
  memory : machine.Cleared (machine.pool.number index) zeroed after.memory

/-- The machine with a frame reclaimed and assigned again. The page in it has left, and no other page
has changed. -/
structure Machine.Reclaimed (machine : Machine) (victim : Nat) (holder : SpaceId) (page : Page)
    (owner : SpaceId) (zeroed : Bool) (after : Machine) : Prop where
  others : after.config = machine.config ∧ after.files = machine.files ∧
    after.callers = machine.callers
  ring : after.pool.clock = machine.pool.clock.erase victim ++ [victim]
  /-- The hand is on the successor of the victim. -/
  hand : ∃ place, machine.pool.clock[place]? = some victim ∧
    after.pool.clock[after.pool.hand]? = machine.pool.clock[(place + 1) % machine.pool.clock.length]?
  free : after.pool.free = machine.pool.free
  entries : ∀ other, after.pool.entry other =
    if victim = other then { owner := some owner, pins := 1 } else machine.pool.entry other
  pages : ∃ state, machine.Saves holder page (machine.pool.number victim) state after.swap ∧
    ∀ space addr, (after.registry space).pages.get? addr =
      if holder = space ∧ page.addr = addr then
        some { page with state, pinned := false, generation := page.generation + 1 }
      else (machine.registry space).pages.get? addr
  mapping : ∀ {space} {addr : VirtualAddress}, space < machine.spaces.length → addr.IsPage →
    Architecture.mapping (after.directory space) addr =
      if holder = space ∧ page.addr = addr then none
      else Architecture.mapping (machine.directory space) addr
  accessed : ∀ {space} {addr : VirtualAddress}, space < machine.spaces.length → addr.IsPage →
    (after.isAccessed space addr = true ↔ machine.isAccessed space addr = true ∧
      ¬(holder = space ∧ page.addr = addr) ∧
        ∀ index ∈ machine.pardoned, ¬machine.Evictable index space addr)
  dirty : ∀ {space} {addr : VirtualAddress}, space < machine.spaces.length → addr.IsPage →
    ¬(holder = space ∧ page.addr = addr) → after.isDirty space addr = machine.isDirty space addr
  memory : machine.Cleared (machine.pool.number victim) zeroed after.memory

namespace Kernel
variable {pool : FramePool} {start next : Machine} {index : Nat}

/-- A frame that was found is assigned, and cleared if that was asked for. -/
theorem assign_outcome (houses : next.Houses pool) (inside : index < pool.capacity) (owner : SpaceId)
    (zeroed : Bool) : Outcome next (do
      modifyPool (·.assign index owner)
      let frame ← orStop ((← get).pool.frameAt index)
      if zeroed then writeFrame frame 0 (List.replicate pageSize 0)
      return frame) (fun frame after => frame = pool.number index ∧ ∃ memory,
        after = { next with pool := next.pool.assign index owner, memory } ∧
          next.Cleared (pool.number index) zeroed memory) Never := by
  have assigned : Machine.Houses { next with pool := next.pool.assign index owner } pool :=
    houses.of_same rfl rfl rfl
  refine .step (.look (.pass (assigned.frameAt inside) ?_))
  cases zeroed with
  | false => exact .ret ⟨rfl, _, rfl, nofun, fun _ => rfl, fun _ _ => rfl⟩
  | true =>
    have has : pool.Has (pool.number index) := ⟨index, inside, rfl⟩
    have whole : 0 + (List.replicate pageSize (0 : UInt8)).length ≤ pageSize := by simp
    obtain ⟨memory, written, _⟩ := houses.write has whole
    obtain ⟨held, read, length⟩ := houses.backed has
    have wrote : Outcome { next with pool := next.pool.assign index owner }
        (writeFrame (pool.number index) 0 (List.replicate pageSize 0))
        (fun _ after => after = { next with pool := next.pool.assign index owner, memory }) Never :=
      .look (.pass written (.change rfl))
    refine wrote.bind fun _ _ same => .ret ⟨rfl, memory, same, fun _ => ?_, nofun, fun other differ => ?_⟩
    · exact Memory.read_overwritten written read (by rw [length, List.length_replicate])
    · exact Memory.read_write_of_ne written differ

end Kernel

variable [Lawful]

namespace Ordered
variable {pool : FramePool} {start : Moment} {now : Machine} {holder : SpaceId} {page : Page}
  {frame : FrameNumber} {place : Nat} (ordered : Ordered pool start) (swept : start.machine.Swept now)
include ordered swept

/-- A page that cannot be saved when the clock has given second chances could not be from the start. -/
theorem unsaved {cause : Fatal} {event : Event}
    (unsaved : (Kernel.turned now place).Unsaved holder page frame cause event) :
    start.machine.Unsaved holder page frame cause event := by
  have same : (Kernel.turned now place).swap = start.machine.swap := swept.swap
  cases unsaved with
  | full must taken =>
    rw [same] at taken
    exact .full (ordered.mustSave swept must) taken
  | failed must read failed limited =>
    rw [same] at failed limited
    refine .failed (ordered.mustSave swept must) ?_ failed limited
    rw [← swept.memory]
    exact read

/-- Second chances do not decide where the page goes. -/
theorem saves (found : (start.machine.registry holder).lookupFrame frame = some page) {state : PageState}
    {swap : SwapStore} (saves : (Kernel.turned now place).Saves holder page frame state swap) :
    start.machine.Saves holder page frame state swap := by
  obtain ⟨registered, _⟩ := (ordered.sound holder).lookupFrame_eq_some found
  have is_page := (ordered.sound holder).isPage registered
  have sane := ordered.sane (start.machine.space_present registered)
  have dirty : (Kernel.turned now place).isDirty holder page.addr =
      start.machine.isDirty holder page.addr := swept.dirty holder is_page sane
  have same : (Kernel.turned now place).swap = start.machine.swap := swept.swap
  have memory : (Kernel.turned now place).memory = start.machine.memory := swept.memory
  cases saves with
  | discard clean kept =>
    rw [same]
    rw [dirty] at clean
    exact .discard clean kept
  | save read written needed =>
    rw [memory] at read
    rw [same] at written
    rw [dirty] at needed
    exact .save read written needed

end Ordered

namespace Kernel
variable {pool : FramePool} {start : Moment}

omit [Lawful] in
theorem allocate_free {machine : Machine} (sound : machine.pool.Sound) (houses : machine.Houses pool)
    {index : Nat} {rest : List Nat} (free : machine.pool.free = index :: rest) (owner : SpaceId)
    (zeroed : Bool) : Outcome machine (allocate owner zeroed) (fun frame after =>
      frame = machine.pool.number index ∧ machine.Assigned index rest owner zeroed after) Never := by
  obtain ⟨left, taken, rfl⟩ := FramePool.takeFree?_some free
  obtain ⟨inside, _⟩ := sound.taken_free taken
  rw [houses.capacity] at inside
  obtain ⟨returned, fresh, rfl⟩ := FramePool.takeFree?_eq taken
  refine .look ?_
  rw [taken]
  have left : Machine.Houses { machine with pool := { machine.pool with returned, fresh } } pool :=
    houses.of_same rfl rfl rfl
  refine .step ((assign_outcome left inside owner zeroed).weaken ?_)
  rintro _ _ ⟨rfl, memory, rfl, cleared⟩
  rw [houses.number]
  refine ⟨rfl, ⟨_, _, rfl⟩, rfl, rfl, rfl, fun other => ?_, ?_⟩
  · exact FramePool.entry_assign _ _ _ _
  · rw [houses.number]
    exact ⟨cleared.zeros, cleared.kept, cleared.others⟩

variable [AccessedBits]

/-- The clock reclaims its victim, or stops the kernel since the page cannot be saved. -/
theorem evict_reclaims (arranged : Arranged pool start)
    (free : ∃ index ∈ start.machine.pool.clock, start.machine.pool.isPinned index = false) :
    ∃ victim holder page, start.machine.victim? = some victim ∧
      (start.machine.registry holder).lookupFrame (pool.number victim) = some page ∧
      start.machine.Evictable victim holder page.addr ∧
      Outcome start.machine evict (fun index next => index = victim ∧
        ∃ now place state swap stats log, start.machine.pool.clock[place]? = some victim ∧
          start.machine.Pardons start.machine.pardoned now ∧
          start.machine.Saves holder page (pool.number victim) state swap ∧
          next = { now.reclaim holder page (pool.number victim) place state swap with
            pool := (({ now.pool with hand := place } : FramePool).setEntry victim {}).removeFromClock victim
            stats, log })
        fun cause _ => ∃ event, start.machine.Unsaved holder page (pool.number victim) cause event := by
  obtain ⟨victim, holder, addr, now, place, chosen, evictable, there, pardons, swept⟩ :=
    sweep_finds arranged free
  have member := List.mem_of_getElem? there
  have inside := arranged.inside member
  have holds := evictable.holder
  rw [arranged.houses.number] at holds
  obtain ⟨page, found, rfl⟩ := (arranged.sound holder).lookupFrame_of_holder holds
  refine ⟨victim, holder, page, chosen, found, evictable, .look ?_⟩
  have some_free : ¬start.machine.pool.clock.all start.machine.pool.isPinned = true := by
    obtain ⟨index, member, unpinned⟩ := free
    intro all
    rw [List.all_eq_true.1 all index member] at unpinned
    cases unpinned
  dsimp only
  rw [if_neg some_free]
  refine .of_eq (swept _ (Nat.le_refl _)) ?_
  have known : ((turned now place).registry holder).lookupFrame (pool.number victim) = some page := by
    change (now.registry holder).lookupFrame _ = _
    rw [pardons.registry_eq]
    exact found
  have houses : (turned now place).Houses pool := by
    refine arranged.houses.of_same ?_ ?_ pardons.memory
    · change now.pool.base = _
      rw [pardons.pool]
    · change now.pool.capacity = _
      rw [pardons.pool]
  obtain ⟨bytes, read, whole⟩ := houses.backed ⟨victim, inside, rfl⟩
  have unpinned : ((turned now place).pool.entry
      ((pool.number victim).value - (turned now place).pool.base.value)).pins = 0 := by
    rw [houses.base, FramePool.number_sub]
    change (now.pool.entry victim).pins = 0
    rw [pardons.pool]
    exact evictable.unpinned
  have placed : (turned now place).swap.OnDisk := by
    change now.swap.OnDisk
    rw [pardons.swap]
    exact arranged.placed
  have wrote := (writeBack_unsaved known unpinned read whole placed).and_ok fun _ _ => writeBack_ok known
  have wrote := wrote.imp (fun _ _ done => done.2) fun _ _ ⟨⟨event, _, _, unsaved⟩, _⟩ =>
    Exists.intro event (arranged.unsaved pardons.toSwept unsaved)
  refine wrote.bind ?_
  rintro _ _ ⟨state, swap, event, saves, _, rfl⟩
  exact .step (.step (.ret ⟨rfl, now, place, state, swap, _, _, there, pardons,
    arranged.saves pardons.toSwept found saves, rfl⟩))

end Kernel

namespace Arranged
variable {pool : FramePool} {start : Moment} {now : Machine} {victim place : Nat} {holder : SpaceId}
  {page : Page}

/-- The directory of the holder loses the page, and all others stay. -/
theorem directory_reclaim (arranged : Arranged pool start) (swept : start.machine.Swept now)
    (known : holder < start.machine.spaces.length) (frame : FrameNumber) (state : PageState)
    (swap : SwapStore) {space : SpaceId} (there : space < start.machine.spaces.length) :
    (now.reclaim holder page frame place state swap).directory space =
      if holder = space then (Architecture.unmap (now.directory holder) page.addr).2
      else now.directory space := by
  change ((now.setDirectory holder _).setRegistry holder _).directory space = _
  rw [Machine.directory_setRegistry]
  split
  · rename_i same
    subst same
    apply now.directory_setDirectory_self
    rw [swept.space_eq, swept.directories]
    exact arranged.present known
  · rename_i differ
    apply now.directory_setDirectory_of_ne
    rw [swept.space_eq, swept.space_eq]
    intro same
    exact differ (arranged.mapped.own known there same)

/-! The bits that the pages have then. -/

section
variable (arranged : Arranged pool start) (pardons : start.machine.Pardons start.machine.pardoned now)
  (known : holder < start.machine.spaces.length) (is_page : page.addr.IsPage) (frame : FrameNumber)
  (state : PageState) (swap : SwapStore) {space : SpaceId} {addr : VirtualAddress}
  (present : space < start.machine.spaces.length) (other_page : addr.IsPage)
include arranged pardons known is_page present other_page

theorem mapping_reclaim :
    Architecture.mapping ((now.reclaim holder page frame place state swap).directory space) addr =
      if holder = space ∧ page.addr = addr then none
      else Architecture.mapping (start.machine.directory space) addr := by
  have sane := pardons.sane holder (arranged.sane known)
  rw [arranged.directory_reclaim pardons.toSwept known frame state swap present,
    ← pardons.mapping present other_page]
  by_cases same : holder = space
  · subst same
    rw [if_pos rfl, Lawful.mapping_unmap sane is_page other_page]
    simp
  · rw [if_neg same, if_neg fun both => same both.1]

theorem dirty_reclaim (differ : ¬(holder = space ∧ page.addr = addr)) :
    (now.reclaim holder page frame place state swap).isDirty space addr =
      start.machine.isDirty space addr := by
  have sane := pardons.sane holder (arranged.sane known)
  rw [← pardons.dirty space other_page (arranged.sane present), Machine.isDirty,
    arranged.directory_reclaim pardons.toSwept known frame state swap present]
  by_cases same : holder = space
  · subst same
    rw [if_pos rfl, Lawful.dirty_unmap sane is_page other_page fun equal => differ ⟨rfl, equal⟩]
    rfl
  · rw [if_neg same]
    rfl

theorem accessed_reclaim [AccessedBits] :
    (now.reclaim holder page frame place state swap).isAccessed space addr = true ↔
      start.machine.isAccessed space addr = true ∧ ¬(holder = space ∧ page.addr = addr) ∧
        ∀ index ∈ start.machine.pardoned, ¬start.machine.Evictable index space addr := by
  have sane := pardons.sane holder (arranged.sane known)
  rw [and_left_comm, ← pardons.accessed present other_page, Machine.isAccessed,
    arranged.directory_reclaim pardons.toSwept known frame state swap present]
  by_cases same : holder = space
  · subst same
    rw [if_pos rfl, AccessedBits.accessed_unmap sane is_page other_page]
    by_cases equal : page.addr = addr
    · simp [equal]
    · simp [equal, Machine.isAccessed]
  · rw [if_neg same]
    simp [same, Machine.isAccessed]

end

theorem reclaimed [AccessedBits] (arranged : Arranged pool start)
    (found : (start.machine.registry holder).lookupFrame (pool.number victim) = some page)
    (there : start.machine.pool.clock[place]? = some victim)
    (pardons : start.machine.Pardons start.machine.pardoned now) {state : PageState} {swap : SwapStore}
    (saves : start.machine.Saves holder page (pool.number victim) state swap) (stats : Stats)
    (log : List Event) (owner : SpaceId) {zeroed : Bool} {memory : Memory}
    (cleared : start.machine.Cleared (pool.number victim) zeroed memory) :
    start.machine.Reclaimed victim holder page owner zeroed
      { now.reclaim holder page (pool.number victim) place state swap with
        pool := ((({ now.pool with hand := place } : FramePool).setEntry victim {}).removeFromClock
          victim).assign victim owner
        memory, stats, log } := by
  obtain ⟨registered, _⟩ := (arranged.sound holder).lookupFrame_eq_some found
  have is_page := (arranged.sound holder).isPage registered
  have known := start.machine.space_present registered
  have distinct := arranged.held.sound.distinct
  have left : (({ now.pool with hand := place } : FramePool).setEntry victim {}).removeFromClock victim =
      { start.machine.pool.setEntry victim {} with
        clock := start.machine.pool.clock.erase victim
        hand := if place + 1 < start.machine.pool.clock.length then place else 0 } := by
    have turned : (({ start.machine.pool with hand := place } : FramePool).setEntry victim {}).clock[
      (({ start.machine.pool with hand := place } : FramePool).setEntry victim {}).hand]? =
        some victim := there
    rw [pardons.pool]
    exact FramePool.removeFromClock_hand distinct turned
  have moved : ∀ other, ((start.machine.registry holder).detach (pool.number victim) state).pages.get?
      other = if page.addr = other then
        some { page with state, pinned := false, generation := page.generation + 1 }
      else (start.machine.registry holder).pages.get? other :=
    (arranged.sound holder).get?_detach found state
  have mapping := @mapping_reclaim _ _ _ _ _ place _ _ arranged pardons known is_page
    (pool.number victim) state swap
  have accessed := @accessed_reclaim _ _ _ _ _ place _ _ arranged pardons known is_page
    (pool.number victim) state swap
  have dirty := @dirty_reclaim _ _ _ _ _ place _ _ arranged pardons known is_page
    (pool.number victim) state swap
  rw [left]
  obtain ⟨directories, told, rfl⟩ := pardons.changes
  constructor
  case others => exact ⟨rfl, rfl, rfl⟩
  case ring => rfl
  case hand => exact ⟨place, there, FramePool.getElem?_successor distinct there⟩
  case free => rfl
  case entries =>
    intro other
    refine (FramePool.entry_assign _ _ _ _).trans ?_
    split
    · rfl
    · rename_i differ
      refine (FramePool.entry_setEntry _ _ _ _).trans ?_
      rw [if_neg differ]
  case pages =>
    refine ⟨state, ?_, fun space addr => ?_⟩
    · rw [arranged.houses.number]
      exact saves
    · exact @Machine.told_moved _ start.machine holder _ (fun registry addr => registry.pages.get? addr)
        known _ _ _ moved space addr
  case mapping => exact mapping
  case accessed =>
    intro space addr present other_page
    exact accessed present other_page
  case dirty => exact dirty
  case memory =>
    rw [arranged.houses.number]
    exact cleared

end Arranged

variable [AccessedBits]

namespace Kernel
variable {pool : FramePool} {start : Moment}

/-- If no frame is free, the victim of the clock is reclaimed and assigned. -/
theorem allocate_reclaims (arranged : Arranged pool start) (spent : start.machine.pool.free = [])
    (free : ∃ index ∈ start.machine.pool.clock, start.machine.pool.isPinned index = false) :
    ∃ victim holder page, start.machine.victim? = some victim ∧
      (start.machine.registry holder).lookupFrame (start.machine.pool.number victim) = some page ∧
      start.machine.Evictable victim holder page.addr ∧
      ∀ owner zeroed, Outcome start.machine (allocate owner zeroed)
        (fun frame after => frame = start.machine.pool.number victim ∧
          start.machine.Reclaimed victim holder page owner zeroed after)
        fun cause _ => ∃ event,
          start.machine.Unsaved holder page (start.machine.pool.number victim) cause event := by
  obtain ⟨victim, holder, page, chosen, found, evictable, evicts⟩ := evict_reclaims arranged free
  simp only [arranged.houses.number]
  refine ⟨victim, holder, page, chosen, found, evictable, fun owner zeroed => .look ?_⟩
  rw [FramePool.takeFree?_none spent]
  refine evicts.bind ?_
  rintro victim _ ⟨rfl, now, place, state, swap, stats, log, there, pardons, saves, rfl⟩
  have inside := arranged.inside (List.mem_of_getElem? there)
  have houses : Machine.Houses { now.reclaim holder page (pool.number victim) place state swap with
      pool := (({ now.pool with hand := place } : FramePool).setEntry victim {}).removeFromClock victim
      stats, log } pool := by
    obtain ⟨base, capacity⟩ := FramePool.removeFromClock_range
      (({ now.pool with hand := place } : FramePool).setEntry victim {}) victim
    refine arranged.houses.of_same (base.trans ?_) (capacity.trans ?_) pardons.memory
    · change now.pool.base = _
      rw [pardons.pool]
    · change now.pool.capacity = _
      rw [pardons.pool]
  refine (assign_outcome houses inside owner zeroed).always.weaken ?_
  rintro _ _ ⟨rfl, memory, rfl, cleared⟩
  have cleared : start.machine.Cleared (pool.number victim) zeroed memory := by
    have same : now.memory = start.machine.memory := pardons.memory
    refine ⟨cleared.zeros, ?_, ?_⟩
    · rw [← same]
      exact cleared.kept
    · rw [← same]
      exact cleared.others
  exact ⟨rfl, arranged.reclaimed found there pardons saves stats log owner cleared⟩

end Kernel

/-- How the pool of frames goes about it when it is asked for one, and how its ring is ordered. -/
structure Machine.ClockRules (machine : Machine) (loads : List Load) : Prop where
  /-- A free frame is assigned if there is one, and nothing else changes. -/
  free : ∀ {index rest}, machine.pool.free = index :: rest → ∀ owner zeroed,
    Kernel.Outcome machine (Kernel.allocate owner zeroed) (fun frame after =>
      frame = machine.pool.number index ∧ machine.Assigned index rest owner zeroed after) Kernel.Never
  /-- Otherwise the victim is reclaimed if a frame has no pin, and the kernel stops only if the page in it
  has to be saved and cannot be. -/
  reclaim : machine.pool.free = [] →
    (∃ index ∈ machine.pool.clock, machine.pool.isPinned index = false) →
    ∃ victim holder page, machine.victim? = some victim ∧
      (machine.registry holder).lookupFrame (machine.pool.number victim) = some page ∧
      machine.Evictable victim holder page.addr ∧
      ∀ owner zeroed, Kernel.Outcome machine (Kernel.allocate owner zeroed)
        (fun frame after => frame = machine.pool.number victim ∧
          machine.Reclaimed victim holder page owner zeroed after)
        fun cause _ => ∃ event,
          machine.Unsaved holder page (machine.pool.number victim) cause event
  /-- The clock needs no more than two rounds for that. -/
  rounds : (∃ index ∈ machine.pool.clock, machine.pool.isPinned index = false) →
    ∀ visits, 2 * machine.pool.clock.length ≤ visits →
      Kernel.sweep visits machine = Kernel.sweep (2 * machine.pool.clock.length) machine
  /-- Pages in pinned frames have no second chance to use up. -/
  pinned : ∀ index ∈ machine.pardoned, machine.pool.isPinned index = false
  /-- The ring is in order of assignment. -/
  order : (∃ history ledger, ledger.loads = loads ∧ Chronicle history ⟨ledger, machine⟩) ∧
    ∀ {history ledger}, Chronicle history ⟨ledger, machine⟩ →
      machine.pool.clock = machine.pool.inOrder history

/-- Wherever a run has led to, frames are assigned by the rules of the clock. -/
theorem Reached.clock_rules {rule : Rule} {loads : List Load} {machine : Machine}
    (sensible : rule.Sensible) (trusting : rule.Trusting) (reached : Reached rule loads machine)
    (backed : machine.Backed) : machine.ClockRules loads := by
  obtain ⟨ledger, rfl, between, placed, history, chronicle⟩ := Reached.keeps
    (fun now => now.machine.swap.OnDisk ∧ ∃ history, Chronicle history now) sensible
    (fun booted => by
      refine ⟨?_, [], .boot booted⟩
      obtain ⟨_, _, opened, _, rfl⟩ := Machine.boot_ok booted
      exact SwapStore.onDisk_ofDisk opened)
    (fun _ move _ _ ⟨placed, _, chronicle⟩ => ⟨placed.of_shape move.sizes.2.2, chronicle.next move⟩)
    (fun _ guards frames ⟨placed, _, chronicle⟩ => ⟨placed, _, chronicle.note guards frames⟩) reached
  have mapped := between.mapped trusting
  have houses : machine.Houses machine.pool := ⟨rfl, rfl, fun ⟨index, inside, named⟩ => by
    rw [named]
    exact backed index inside⟩
  have ordered : Ordered machine.pool ⟨ledger, machine⟩ :=
    { toConsistent := between.toConsistent, sane := mapped.sane, houses, placed }
  have arranged : Arranged machine.pool ⟨ledger, machine⟩ := { toOrdered := ordered, mapped }
  constructor
  case free => exact fun free => Kernel.allocate_free ordered.held.sound houses free
  case reclaim => exact Kernel.allocate_reclaims arranged
  case rounds =>
    intro free visits enough
    obtain ⟨_, _, _, _, _, _, _, _, _, swept⟩ := Kernel.sweep_finds arranged free
    rw [swept visits enough, swept _ (Nat.le_refl _)]
  case pinned =>
    intro index member
    have candidate := (List.takeWhile_sublist _).subset member
    simpa using (List.mem_filter.1 candidate).2
  case order => exact ⟨⟨history, ledger, rfl, chronicle⟩, fun chronicle => chronicle.ring⟩

end

section
attribute [local instance] Architecture.small

/-- Two frames with pages in them, both accessed and one of them written to, and a third page. -/
def crowded : Machine :=
  [.createSpace none ⟨0, []⟩, .registerZero 0 0x1000 3 true, .poke 0 0x1000 1,
    .touch 0 0x1010 .read].foldl Machine.undisturbed twoFrames

theorem crowded_clock_rules : Rule.offered.Sensible ∧ Rule.offered.Trusting ∧
    Reached .offered [] crowded ∧ crowded.Backed ∧ crowded.ClockRules [] := by
  have reached : Reached .offered [] crowded := twoFrames_reached.carried id (by decide +kernel)
  have backed : crowded.Backed := by
    intro index inside
    have capacity : crowded.pool.capacity = 2 := rfl
    rw [capacity] at inside
    match index, inside with
    | 0, _ => exact ⟨_, rfl, rfl⟩
    | 1, _ => exact ⟨_, rfl, rfl⟩
  exact ⟨Rule.sensible_offered, Rule.trusting_offered, reached, backed,
    reached.clock_rules Rule.sensible_offered Rule.trusting_offered backed⟩

/-- Both pages have a second chance, and the first frame is reclaimed. -/
example : crowded.pardoned = [0, 1] ∧ crowded.victim? = some 0 := by decide +kernel

def orphaned : Machine :=
  [.createSpace none ⟨0, []⟩, .registerZero 0 0x1000 1 true, .pin 0 0x1000 1 .read,
    .destroy 0].foldl Machine.undisturbed twoFrames

/-- A caller has given back the frame of a page that is pinned, and the page was released. The frame is
assigned again and loses its pin to the guard of that page. -/
def unheld : Machine :=
  [.createSpace none ⟨0, []⟩, .registerZero 0 0x1000 1 true, .pin 0 0x1000 1 .read, .free 4,
    .release 0 0x1000, .allocate 0 false, .unpin 0, .allocate 0 false].foldl Machine.undisturbed twoFrames

/-- A frame that was released while it was pinned is assigned still, but not in the ring. If callers give
back frames that are in use, a frame of the ring may have neither a pin nor a page, and the clock does not
come to an end. -/
theorem orphaned_unheld :
    (Reached .offered [] orphaned ∧ (orphaned.pool.entry 0).owner = some 0 ∧ 0 ∉ orphaned.pool.clock) ∧
    Reached .regular [] unheld ∧ unheld.pool.free = [] ∧ 0 ∈ unheld.pool.clock ∧
      unheld.pool.isPinned 0 = false ∧
      ∃ stopped, Kernel.allocate 0 false unheld = .error .stalled stopped := by
  have orphans : Reached .offered [] orphaned := twoFrames_reached.carried id (by decide +kernel)
  have unholds : Reached .regular [] unheld :=
    twoFrames_reached.carried (fun (regular : Op.Regular _ _ _) => regular) (by decide +kernel)
  exact ⟨⟨orphans, by decide +kernel, by decide +kernel⟩, unholds, by decide +kernel,
    by decide +kernel, by decide +kernel, ⟨_, rfl⟩⟩

end

end DemandPaging
