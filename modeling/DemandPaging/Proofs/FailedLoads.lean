import DemandPaging.Proofs.HeldBytes
import DemandPaging.Proofs.InterruptedLoads
import DemandPaging.Proofs.Populating

/-! What a load leaves that fails. Its frame is free again and its page is as it was, in its slot if it was in
one. Of the other pages one may have left its frame to make room, and all go on to hold what they held, unless
that one held other bytes than its file and was not marked as dirty. -/
namespace DemandPaging
open Architecture (Lawful)

theorem FramePool.free_withdraw (pool : FramePool) (index : Nat) :
    (pool.withdraw index).free = index :: pool.free := by
  obtain ⟨hand, same, _⟩ := pool.withdraw_eq index
  rw [same]
  rfl

variable [Architecture]

/-- What remains of `taken` when a load that had its frame there has given it back: all but the bytes in the
frame and what is counted of the transfers. -/
structure Machine.Remains (taken : Machine) (frame : FrameNumber) (next : Machine) : Prop where
  config : next.config = taken.config
  spaces : next.spaces = taken.spaces
  callers : next.callers = taken.callers
  pool : next.pool = taken.pool.withdraw (frame.value - taken.pool.base.value)
  occupied : ∀ slot, next.swap.isOccupied slot = taken.swap.isOccupied slot
  contents : ∀ slot, next.swap.contents slot = taken.swap.contents slot
  frames : ∀ other, other ≠ frame → next.memory.read other = taken.memory.read other
  files : ∀ file, (next.file file).contents = (taken.file file).contents

/-- Which page leaves its frame so that the frame at `index` can be had, if any does, and what becomes of it. The
frame is the next to be assigned in the end. -/
inductive Machine.Yields (machine : Machine) (index : Nat) (next : Machine) :
    Option (SpaceId × VirtualAddress) → Prop
  | free {rest} (before : machine.pool.free = index :: rest) (after : next.pool.free = index :: rest) :
      machine.Yields index next none
  | evicted {owner old state} (spent : machine.pool.free = []) (after : next.pool.free = [index])
      (found : (machine.registry owner).pages.get? old.addr = some old)
      (resident : old.state = .resident (machine.pool.number index))
      (unpinned : (machine.pool.entry index).pins = 0 ∧ old.pinned = false)
      (away : ∀ frame, state ≠ .resident frame)
      (left : (next.registry owner).pages.get? old.addr =
        some { old with state, generation := old.generation + 1 }) :
      machine.Yields index next (some (owner, old.addr))

/-- What `next` is to a machine at which a load of a page has begun that failed. -/
structure Machine.GivesUp (machine : Machine) (space : SpaceId) (page : Page) (index : Nat)
    (victim : Option (SpaceId × VirtualAddress)) (next : Machine) : Prop where
  obtained : ∃ taken, Kernel.allocate space false machine = .ok (machine.pool.number index) taken
  yields : machine.Yields index next victim
  kept : (next.registry space).pages.get? page.addr = some page
  slot : ∀ slot, page.state = .swapped slot → next.swap.isOccupied slot = true ∧
    next.swap.contents slot = machine.swap.contents slot
  pages : ∀ owner addr, victim ≠ some (owner, addr) →
    (next.registry owner).pages.get? addr = (machine.registry owner).pages.get? addr
  entries : ∀ other, next.pool.entry other = if index = other then {} else machine.pool.entry other
  callers : next.callers = machine.callers
  /-- What pages held is held still, unless the page that has left its frame is one whose bytes are lost. -/
  bytes : ∀ {owner addr byte}, machine.heldByte? owner addr = some byte →
    next.heldByte? owner addr = some byte ∨
      (∃ page, (machine.registry owner).lookup addr = some page ∧ victim = some (owner, page.addr)) ∧
        machine.Forgets next owner addr

/-- A page leaves the frame at `index` for another: it is saved to a slot, or it was not marked as dirty and is
dropped. -/
structure Machine.Ousts (start : Machine) (index : Nat) (owner : SpaceId) (page : Page) (state : PageState)
    (next : Machine) : Prop extends
    start.Reclaims index owner page (start.pool.number index) state next where
  memory : next.memory = start.memory
  clean : state = .unloaded → start.isDirty owner page.addr = false

namespace Machine.Ousts
variable {ledger : Ledger} {start mid : Machine} {index : Nat} {owner : SpaceId} {old : Page} {state : PageState}
  (ousts : start.Ousts index owner old state mid) (consistent : Consistent ⟨ledger, start⟩)
include ousts

theorem saved (sectors : 0 < start.swap.disk.sectorSize) :
    (state = .unloaded ∧ old.backing.alwaysSwaps = false ∧ mid.swap = start.swap) ∨
      ∃ slot bytes, state = .swapped slot ∧ start.memory.read (start.pool.number index) = .ok bytes ∧
        start.swap.Wrote bytes slot mid.swap := by
  obtain ⟨now, swap, memory, saves⟩ := ousts.saves
  generalize after : mid.swap = stored at saves
  cases saves with
  | discard clean kept => exact .inl ⟨rfl, kept, swap⟩
  | @save bytes slot _ read written needed =>
    rw [memory] at read
    rw [swap] at written
    exact .inr ⟨slot, bytes, rfl, read, SwapStore.write_wrote sectors written⟩

theorem shape : mid.swap.shape = start.swap.shape := by
  obtain ⟨now, swap, _, saves⟩ := ousts.saves
  rw [saves.shape, swap]

theorem away (frame : FrameNumber) : state ≠ .resident frame := by
  rintro rfl
  obtain ⟨_, _, _, saves⟩ := ousts.saves
  cases saves

theorem slot (sectors : 0 < start.swap.disk.sectorSize) {slot : SwapSlot}
    (used : start.swap.isOccupied slot = true) :
    mid.swap.isOccupied slot = true ∧ mid.swap.contents slot = start.swap.contents slot := by
  rcases ousts.saved sectors with ⟨_, _, same⟩ | ⟨other, _, _, _, wrote⟩
  · rw [same]
    exact ⟨used, rfl⟩
  · have differ : slot ≠ other := by
      rintro rfl
      exact Bool.false_ne_true (wrote.vacant.symm.trans used)
    exact ⟨(wrote.occupied slot).trans ((if_neg differ).trans used), wrote.others slot differ⟩

include consistent

theorem registered : (start.registry owner).pages.get? old.addr = some old ∧
    old.state = .resident (start.pool.number index) :=
  (consistent.sound owner).lookupFrame_eq_some ousts.found

theorem pages (space : SpaceId) (addr : VirtualAddress) : (mid.registry space).pages.get? addr =
    if owner = space ∧ old.addr = addr then
      some { old with state, pinned := false, generation := old.generation + 1 }
    else (start.registry space).pages.get? addr := by
  have present := start.space_present (ousts.registered consistent).1
  have same : mid.registry space = (start.setRegistry owner
      ((start.registry owner).detach (start.pool.number index) state)).registry space := by
    rw [Machine.registry, Machine.registry, Machine.space, Machine.space, ousts.spaces]
  rw [same]
  exact @Machine.told_moved _ start owner _ (fun registry addr => registry.pages.get? addr) present _ _ _
    ((consistent.sound owner).get?_detach ousts.found state) space addr

theorem free (marked : start.Marked) : (start.pool.entry index).pins = 0 ∧ old.pinned = false := by
  obtain ⟨found, resident⟩ := ousts.registered consistent
  have agrees := marked.agrees found resident
  rw [FramePool.number_sub, ousts.toReclaims.unpinned] at agrees
  exact ⟨ousts.toReclaims.unpinned, eq_false_of_ne_true fun pinned => Nat.lt_irrefl 0 (agrees.1 pinned)⟩

/-- Pages in other frames are other pages. -/
theorem elsewhere {space : SpaceId} {addr : VirtualAddress} {page : Page} {frame : FrameNumber}
    (found : (start.registry space).pages.get? addr = some page) (resident : page.state = .resident frame)
    (differ : ¬(owner = space ∧ old.addr = addr)) : frame ≠ start.pool.number index := by
  rintro rfl
  obtain ⟨here, there⟩ := ousts.registered consistent
  have victim : start.placement owner old.addr = some (start.pool.number index, old.writable) :=
    Registry.placement_eq_some.2 ⟨old, here, there, rfl⟩
  have other : start.placement space addr = some (start.pool.number index, page.writable) :=
    Registry.placement_eq_some.2 ⟨page, found, resident, rfl⟩
  exact differ (consistent.held.page_unique victim other)

end Machine.Ousts

/-- Where a load settles with an error, it gives its frame back and leaves the rest. -/
theorem Machine.Settles.remains {load : Load} {pin : Bool} {outcome : Except FaultError Unit}
    {error : FaultError} {taken mid next : Machine}
    (settles : mid.Settles load pin outcome (.error error) next) (fed : taken.Fed load.frame mid) :
    taken.Remains load.frame next := by
  have frames := fed.frames
  have files := fed.files
  obtain ⟨memory, opened, reads, readsLeft, swapReads, fileReads, rfl⟩ := fed.rest
  cases settles with
  | failed | refused => exact ⟨rfl, rfl, rfl, rfl, fun _ => rfl, fun _ => rfl, frames, files⟩

namespace Machine.Remains
variable {ledger : Ledger} {start mid next : Machine} {space owner : SpaceId} {page old : Page} {index : Nat}
  {state : PageState}

theorem registry {taken : Machine} {frame : FrameNumber} (remains : taken.Remains frame next)
    (space : SpaceId) : next.registry space = taken.registry space := by
  rw [Machine.registry, Machine.registry, Machine.space, Machine.space, remains.spaces]

theorem gives_up_free {rest : FramePool} (consistent : Consistent ⟨ledger, start⟩) (owned : Owned start)
    (current : (start.registry space).pages.get? page.addr = some page)
    (obtained : ∃ taken, Kernel.allocate space false start = .ok (start.pool.number index) taken)
    (taken : start.pool.takeFree? = some (index, rest))
    (remains : Machine.Remains { start with pool := rest.assign index space } (start.pool.number index) next) :
    start.GivesUp space page index none next := by
  have registries : ∀ other, next.registry other = start.registry other := remains.registry
  obtain ⟨inside, unowned⟩ := consistent.held.sound.taken_free taken
  obtain ⟨returned, fresh, same⟩ := FramePool.takeFree?_eq taken
  have pool : next.pool = (rest.assign index space).withdraw index := by
    have base : (rest.assign index space).base = start.pool.base := by
      rw [same]
      rfl
    have pool := remains.pool
    dsimp only at pool
    rw [base, FramePool.number_sub] at pool
    exact pool
  constructor
  case obtained => exact obtained
  case yields =>
    refine .free (FramePool.free_of_takeFree? taken) ?_
    rw [pool, FramePool.free_withdraw]
    rfl
  case kept =>
    rw [registries]
    exact current
  case slot =>
    intro slot swapped
    exact ⟨(remains.occupied slot).trans (owned.in_use current swapped).1, remains.contents slot⟩
  case pages =>
    intro other addr _
    rw [registries]
  case entries =>
    intro other
    rw [pool, FramePool.entry_withdraw, FramePool.entry_assign, same]
    split <;> rfl
  case callers => exact remains.callers
  case bytes =>
    intro other addr byte held
    refine .inl ?_
    obtain ⟨page, found, held⟩ := Option.bind_eq_some_iff.1 held
    rw [Machine.heldByte?, registries, found]
    refine (Machine.heldAt_congr _ remains.files (fun frame resident => ?_) fun slot _ => ?_).trans held
    · refine remains.frames frame fun here => ?_
      have differ := consistent.seat_owned unowned found resident
      rw [here] at differ
      exact differ (FramePool.number_sub start.pool index).symm
    · exact remains.contents slot

section
variable (consistent : Consistent ⟨ledger, start⟩) (sectors : 0 < start.swap.disk.sectorSize)
  (ousts : start.Ousts index owner old state mid)
  (remains : Machine.Remains { mid with pool := mid.pool.assign index space } (start.pool.number index) next)
include consistent sectors ousts remains

/-- A page that did not have to make room holds what it held. -/
theorem held_elsewhere (owned : Owned start) {other : SpaceId} {addr : VirtualAddress} {page : Page}
    (found : (start.registry other).pages.get? addr = some page)
    (differ : ¬(owner = other ∧ old.addr = addr)) (place : Nat) :
    next.heldAt page place = start.heldAt page place := by
  refine Machine.heldAt_congr _ (fun file => ?_) (fun frame resident => ?_) fun slot swapped => ?_
  · refine (remains.files file).trans ?_
    rw [Machine.file, Machine.file]
    exact congrArg (fun files => (files.getD file default).contents) ousts.files
  · refine (remains.frames frame (ousts.elsewhere consistent found resident differ)).trans ?_
    exact congrArg (·.read frame) ousts.memory
  · exact (remains.contents slot).trans (ousts.slot sectors (owned.in_use found swapped).1).2

/-- The page that had to make room holds what it held, unless that was nowhere to be saved. -/
theorem held_victim {addr : VirtualAddress} {byte : UInt8} (here : addr.pageBase = old.addr)
    (held : start.heldAt old addr.pageOffset = some byte) :
    next.heldAt { old with state, pinned := false, generation := old.generation + 1 } addr.pageOffset =
        some byte ∨ start.Forgets next owner addr := by
  obtain ⟨found, resident⟩ := ousts.registered consistent
  rcases ousts.saved sectors with ⟨rfl, needless, _⟩ | ⟨slot, bytes, rfl, read, wrote⟩
  · by_cases same : start.heldAt old addr.pageOffset = start.originalByte old.backing addr.pageOffset
    · refine .inl (Eq.trans ?_ (same.symm.trans held))
      change next.originalByte old.backing addr.pageOffset = _
      unfold Machine.originalByte
      cases old.backing with
      | unclassified | zero => rfl
      | file segment =>
        have contents : (next.file segment.file).contents = (start.file segment.file).contents := by
          refine (remains.files segment.file).trans ?_
          exact congrArg (fun files => (files.getD segment.file default).contents) ousts.files
        dsimp only
        rw [contents]
    · have lost : start.exposed start.altered owner old.addr old.generation := by
        refine ⟨old, _, found, rfl, resident, ousts.clean rfl, needless, fun misses => ?_⟩
        have within : addr.pageOffset < pageSize := Nat.mod_lt _ pageSize_pos
        have none := misses _ within
        rw [Machine.altered_offset found ((consistent.sound owner).aligned found) within, if_neg same, held]
          at none
        cases none
      have after : (next.registry owner).lookup addr =
          some { old with state := .unloaded, pinned := false, generation := old.generation + 1 } := by
        rw [Registry.lookup, here, remains.registry]
        exact (ousts.pages consistent owner old.addr).trans (if_pos ⟨rfl, rfl⟩)
      refine .inr ⟨old, _, ?_, after, lost, Nat.lt_succ_self old.generation⟩
      rw [Registry.lookup, here, found]
  · refine .inl (Eq.trans ?_ held)
    change (next.swap.contents slot)[addr.pageOffset]? = start.heldAt old addr.pageOffset
    rw [remains.contents slot, Machine.heldAt, resident]
    change (mid.swap.contents slot)[_]? = (start.memory.read _).toOption.bind _
    rw [wrote.holds, read]
    rfl

/-- No frame was free, so that a page had to make room. -/
theorem gives_up_evicted (owned : Owned start) (marked : start.Marked)
    (current : (start.registry space).pages.get? page.addr = some page) (away : page.isResident = false)
    (obtained : ∃ taken, Kernel.allocate space false start = .ok (start.pool.number index) taken)
    (spent : start.pool.takeFree? = none) :
    start.GivesUp space page index (some (owner, old.addr)) next := by
  obtain ⟨found, resident⟩ := ousts.registered consistent
  have unpinned := ousts.free consistent marked
  have pages : ∀ other addr, (next.registry other).pages.get? addr =
      if owner = other ∧ old.addr = addr then
        some { old with state, pinned := false, generation := old.generation + 1 }
      else (start.registry other).pages.get? addr := fun other addr => by
    rw [remains.registry]
    exact ousts.pages consistent other addr
  have differs : ¬(owner = space ∧ old.addr = page.addr) := by
    rintro ⟨rfl, same⟩
    rw [same, current] at found
    cases found
    rw [Page.isResident, Page.frame?, resident] at away
    cases away
  obtain ⟨hand, turned⟩ := ousts.pool
  obtain ⟨place, left, _⟩ := FramePool.removeFromClock_eq
    (({ start.pool with hand } : FramePool).setEntry index {}) index
  have pool : next.pool = (mid.pool.assign index space).withdraw index := by
    have base : (mid.pool.assign index space).base = start.pool.base := by
      rw [turned, left]
      rfl
    have pool := remains.pool
    dsimp only at pool
    rw [base, FramePool.number_sub] at pool
    exact pool
  constructor
  case obtained => exact obtained
  case yields =>
    have none_free := FramePool.free_of_takeFree?_none spent
    refine .evicted none_free ?_ found resident unpinned ousts.away ?_
    · rw [pool, FramePool.free_withdraw]
      change index :: mid.pool.free = [index]
      rw [turned, left]
      exact congrArg (index :: ·) none_free
    · rw [pages, if_pos ⟨rfl, rfl⟩, ← unpinned.2]
  case kept =>
    rw [pages, if_neg differs]
    exact current
  case slot =>
    intro slot swapped
    obtain ⟨kept, same⟩ := ousts.slot sectors (owned.in_use current swapped).1
    exact ⟨(remains.occupied slot).trans kept, (remains.contents slot).trans same⟩
  case pages =>
    intro other addr differ
    rw [pages, if_neg]
    rintro ⟨rfl, rfl⟩
    exact differ rfl
  case entries =>
    intro other
    rw [pool, FramePool.entry_withdraw, FramePool.entry_assign, turned, left]
    split
    · rfl
    · rename_i differ
      exact (FramePool.entry_setEntry _ _ _ _).trans (if_neg differ)
  case callers => exact remains.callers.trans ousts.callers
  case bytes =>
    intro other addr byte held
    obtain ⟨page, there, held⟩ := Option.bind_eq_some_iff.1 held
    have there : (start.registry other).pages.get? addr.pageBase = some page := there
    rw [Machine.heldByte?, Registry.lookup, pages]
    by_cases victim : owner = other ∧ old.addr = addr.pageBase
    · obtain ⟨rfl, here⟩ := victim
      rw [if_pos ⟨rfl, here⟩]
      rw [← here, found] at there
      cases there
      rcases remains.held_victim consistent sectors ousts here.symm held with kept | forgets
      · exact .inl kept
      · refine .inr ⟨⟨old, ?_, rfl⟩, forgets⟩
        rw [Registry.lookup, ← here, found]
    · rw [if_neg victim, there]
      exact .inl ((remains.held_elsewhere consistent sectors ousts owned there victim _).trans held)

end

end Machine.Remains

/-! Loads. -/

variable [Lawful]

namespace Kernel

/-- The clock takes no dirty mark away, so that a page it drops was not marked when it began to turn. -/
theorem sweep_ousts {visits hand index : Nat} {start next : Machine}
    (sound : ∀ space, (start.registry space).Sound)
    (sane : ∀ {space}, space < start.spaces.length → Lawful.Sane (start.directory space))
    (ended : sweep visits (turned start hand) = .ok index next) :
    ∃ owner page state, start.Ousts index owner page state next := by
  induction visits generalizing start hand with
  | zero => exact (throw_ok.1 ended).elim
  | succ visits ih =>
    cases sweep_cases ended with
    | passes ended => exact ih sound sane ended
    | @spares hand target frame other addr seen ended =>
      obtain ⟨is_page, _⟩ := visit_spare (sound other) seen
      have idle := @Machine.idle_setAccessed _ _ { start with log := .secondChance frame addr :: start.log }
        other addr false is_page.canonical
      obtain ⟨owner, page, state, ousts⟩ := @ih _ (start.spared other addr frame) sound
        (fun present => idle.sane _ (sane present)) ended
      refine ⟨owner, page, state, { ousts with clean := fun dropped => ?_ }⟩
      have found : (start.registry owner).lookupFrame (start.pool.number index) = some page := ousts.found
      obtain ⟨registered, _⟩ := (sound owner).lookupFrame_eq_some found
      have own_page := (sound owner).isPage registered
      have clean := ousts.clean dropped
      refine eq_false_of_ne_true fun dirty => ?_
      have kept := idle.dirty owner (sane (start.space_present registered)) own_page dirty
      exact Bool.false_ne_true (clean.symm.trans kept)
    | @reclaims hand frame owner mid located seen wrote left =>
      subst left
      obtain ⟨unpinned, page, found⟩ := visit_reclaim (sound owner) seen
      have here : ((turned start hand).registry owner).lookupFrame frame = some page := found
      obtain ⟨state, swap, event, saves, _, rfl⟩ := writeBack_ok here wrote
      obtain rfl := FramePool.frameAt_ok located
      refine ⟨owner, page, state,
        { unpinned, found, spaces := rfl, config := rfl, files := rfl, callers := rfl, pool := ⟨hand, rfl⟩
          stats := rfl, saves := ⟨turned start hand, rfl, rfl, saves⟩, memory := rfl, clean := ?_ }⟩
      rintro rfl
      cases saves with
      | discard clean => exact clean

theorem evict_ousts {index : Nat} {start next : Machine} (sound : ∀ space, (start.registry space).Sound)
    (sane : ∀ {space}, space < start.spaces.length → Lawful.Sane (start.directory space))
    (ended : evict start = .ok index next) :
    ∃ owner page state, start.Ousts index owner page state next := by
  obtain ⟨_, ended⟩ := evict_sweeps ended
  exact sweep_ousts sound sane ended

variable {spaces : Nat} {trusting : Prop} {pool : FramePool} {start : Moment} {space : SpaceId} {page : Page}
  {pin : Bool} {pinned : List (VirtualAddress × FrameNumber)} {error : FaultError} {next : Machine}

/-- A load that fails gives up what it has obtained, and nothing more. -/
theorem load_gives_up (call : UninterruptedCall spaces trusting pool start) (owned : Owned start.machine)
    (marked : start.machine.Marked) (present : space < spaces) (owed : start.ledger.Owes ⟨space, pinned⟩)
    (current : (start.machine.registry space).pages.get? page.addr = some page)
    (away : page.isResident = false) (classified : page.backing ≠ .unclassified)
    (failed : (load .none space page pin pinned).run start.machine = .ok (.error error) next) :
    ∃ index victim, start.machine.GivesUp space page index victim next := by
  obtain ⟨frame, taken, outcome, mid, run⟩ := (loadRun_iff classified).1 failed
  obtain ⟨_, _, _, settles⟩ :=
    run.settles call.toReady (Scope.tame_calls spaces trusting _).toMannered present owed current away
  have feeds {there : Machine}
      (read : (populate .none ⟨space, page, frame, pinned⟩).run there = .ok outcome mid)
      (shape : there.swap.shape = start.machine.swap.shape)
      (kept : ∀ {slot}, start.machine.swap.isOccupied slot = true → there.swap.isOccupied slot = true) :
      there.Fed frame mid := by
    have capacity : there.swap.capacity = start.machine.swap.capacity := congrArg (·.2.2) shape
    have inside : ∀ slot, page.state = .swapped slot →
        there.swap.isOccupied slot = true ∧ slot.index < there.swap.capacity := by
      intro slot swapped
      rw [capacity]
      exact (owned.in_use current swapped).imp_left kept
    exact ((populate_feeds Interference.aloof_none away (SwapStore.OnDisk.of_shape call.kept shape) inside).of_ok
      read).toFed
  obtain ⟨index, found, memory, finds, located, rfl, same⟩ := allocate_ok run.allocated
  obtain rfl := same rfl
  cases finds with
  | @free rest free =>
    have remains := settles.remains (feeds run.read rfl id)
    obtain ⟨_, _, same⟩ := FramePool.takeFree?_eq free
    have named : frame = start.machine.pool.number index := by
      refine (FramePool.frameAt_ok located).trans ?_
      rw [same]
      rfl
    subst named
    exact ⟨index, none, remains.gives_up_free call.toConsistent owned current ⟨_, run.allocated⟩ free⟩
  | evicted evicted spent =>
    obtain ⟨owner, old, state, ousts⟩ := evict_ousts call.sound call.ordered.sane evicted
    have remains := settles.remains (feeds run.read ousts.shape fun used => (ousts.slot call.sectors used).1)
    have named : frame = start.machine.pool.number index := by
      refine (FramePool.frameAt_ok located).trans ?_
      obtain ⟨hand, turned⟩ := ousts.pool
      obtain ⟨place, left, _⟩ := FramePool.removeFromClock_eq
        (({ start.machine.pool with hand } : FramePool).setEntry index {}) index
      rw [turned, left]
      rfl
    subst named
    exact ⟨index, _, remains.gives_up_evicted call.toConsistent call.sectors ousts owned marked current away
      ⟨_, run.allocated⟩ spent⟩

end Kernel

end DemandPaging
