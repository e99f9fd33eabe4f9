import DemandPaging.Proofs.Certainty

/-! The clock finds a victim. The hand comes to a frame without pins after one round at most, and one
round later its page is no longer accessed, so two rounds are enough. The kernel stops for want of a
frame only if all frames are pinned, or if the victim has to be saved and cannot be. -/
namespace DemandPaging
open Architecture (Lawful SecondChance)

variable [Architecture]

/-- A page in a frame without pins that can leave it only if it is saved. -/
structure Machine.MustSave (machine : Machine) (space : SpaceId) (page : Page) (frame : FrameNumber) :
    Prop where
  holds : (machine.registry space).lookupFrame frame = some page
  unpinned : (machine.pool.entry (frame.value - machine.pool.base.value)).pins = 0
  needed : machine.isDirty space page.addr = true ∨ page.backing.alwaysSwaps = true

/-- Why the page in a frame cannot be saved, and how the log tells. -/
inductive Machine.Unsaved (machine : Machine) (space : SpaceId) (page : Page) (frame : FrameNumber) :
    Fatal → Event → Prop
  /-- Every slot is occupied. -/
  | full (must : machine.MustSave space page frame)
      (taken : ∀ slot : SwapSlot, slot.index < machine.swap.capacity →
        machine.swap.isOccupied slot = true) :
      machine.Unsaved space page frame .swapExhausted (.swapFull page.addr space)
  /-- The controller of the device lets no more through. -/
  | failed {bytes} (must : machine.MustSave space page frame)
      (read : machine.memory.read frame = .ok bytes)
      (failed : (machine.swap.write bytes).1 = .error (.io .device))
      (limited : machine.swap.disk.writesLeft ≠ none) :
      machine.Unsaved space page frame (.swapWriteFailed (.io .device))
        (.swapWriteFailed page.addr (.io .device))

/-- Why no frame can be reclaimed, and how the log tells. -/
inductive Machine.Starves (machine : Machine) : Fatal → Event → Prop
  /-- Every frame of the ring is pinned. -/
  | pinned (all : ∀ index ∈ machine.pool.clock, 0 < (machine.pool.entry index).pins) :
      machine.Starves .noEvictableFrame (.allPinned machine.pool.clock.length)
  /-- The victim has to be saved, and every slot is occupied. -/
  | full {space page frame} (victim : machine.MustSave space page frame)
      (taken : ∀ slot : SwapSlot, slot.index < machine.swap.capacity →
        machine.swap.isOccupied slot = true) :
      machine.Starves .swapExhausted (.swapFull page.addr space)
  /-- The victim has to be saved, and the controller of the device lets no more through. -/
  | failed {space page frame bytes} (victim : machine.MustSave space page frame)
      (read : machine.memory.read frame = .ok bytes)
      (failed : (machine.swap.write bytes).1 = .error (.io .device))
      (limited : machine.swap.disk.writesLeft ≠ none) :
      machine.Starves (.swapWriteFailed (.io .device)) (.swapWriteFailed page.addr (.io .device))

/-- The kernel has stopped since no frame can be reclaimed, and has said so. Of the pool, the hand of
the clock alone has moved. -/
structure Machine.Halts (machine : Machine) (cause : Fatal) (stopped : Machine) : Prop where
  told : ∃ event log, stopped.log = event :: log ∧ machine.Starves cause event
  turned : ∃ hand, stopped.pool = { machine.pool with hand }
  memory : stopped.memory = machine.memory

namespace Kernel

/-- A page that is in memory is written back, unless there is no room for it or the device fails. -/
theorem writeBack_unsaved {owner : SpaceId} {frame : FrameNumber} {page : Page} {bytes : Bytes}
    {start : Machine} (found : (start.registry owner).lookupFrame frame = some page)
    (unpinned : (start.pool.entry (frame.value - start.pool.base.value)).pins = 0)
    (read : start.memory.read frame = .ok bytes) (whole : bytes.length = pageSize)
    (placed : start.swap.OnDisk) : Outcome start (writeBack owner frame)
      (fun _ next => next.pool = start.pool ∧ next.memory = start.memory) fun cause stopped =>
        (∃ event log, stopped.log = event :: log ∧ start.Unsaved owner page frame cause event) ∧
          stopped.pool = start.pool ∧ stopped.memory = start.memory := by
  have unmapped : Outcome start (unmap owner page.addr) (fun _ next => next =
      start.setDirectory owner (Architecture.unmap (start.directory owner) page.addr).2) Never :=
    .changeGet rfl
  refine .look ?_
  rw [found]
  refine .look (unmapped.always.bind fun _ now same => ?_)
  subst same
  split
  · exact .step (.step (.change ⟨rfl, rfl⟩))
  · rename_i unclean
    have victim : start.MustSave owner page frame := by
      refine ⟨found, unpinned, ?_⟩
      rwa [Bool.and_eq_true, Bool.not_eq_true', Bool.not_eq_true', not_and_or, Bool.not_eq_false,
        Bool.not_eq_false] at unclean
    have loaded : Outcome (start.setDirectory owner
        (Architecture.unmap (start.directory owner) page.addr).2) (readFrame frame)
          (fun found next => found = bytes ∧ next = start.setDirectory owner
            (Architecture.unmap (start.directory owner) page.addr).2) Never :=
      .orStop read ⟨rfl, rfl⟩
    refine loaded.always.bind fun _ _ ⟨all, same⟩ => .look ?_
    rw [all, same]
    have before : (start.setDirectory owner
        (Architecture.unmap (start.directory owner) page.addr).2).swap = start.swap := rfl
    rw [before]
    cases written : start.swap.write bytes with
    | mk result swap =>
      refine .step ?_
      cases result with
      | ok slot => exact .step (.step (.change ⟨rfl, rfl⟩))
      | error error =>
        have failed : (start.swap.write bytes).1 = .error error := by rw [written]
        rcases SwapStore.write_failed placed whole failed with ⟨rfl, taken⟩ | ⟨rfl, limited⟩
        · exact ⟨⟨_, _, rfl, .full victim taken⟩, rfl, rfl⟩
        · exact ⟨⟨_, _, rfl, .failed victim read failed limited⟩, rfl, rfl⟩

/-- A page that cannot be saved leaves no frame to reclaim. -/
theorem writeBack_outcome {owner : SpaceId} {frame : FrameNumber} {page : Page} {bytes : Bytes}
    {start : Machine} (found : (start.registry owner).lookupFrame frame = some page)
    (unpinned : (start.pool.entry (frame.value - start.pool.base.value)).pins = 0)
    (read : start.memory.read frame = .ok bytes) (whole : bytes.length = pageSize)
    (placed : start.swap.OnDisk) : Outcome start (writeBack owner frame)
      (fun _ next => next.pool = start.pool ∧ next.memory = start.memory) start.Halts := by
  refine (writeBack_unsaved found unpinned read whole placed).imp (fun _ _ done => done) ?_
  rintro cause stopped ⟨⟨event, log, told, unsaved⟩, pool, memory⟩
  refine ⟨⟨event, log, told, ?_⟩, ⟨start.pool.hand, pool⟩, memory⟩
  cases unsaved with
  | full must taken => exact .full must taken
  | failed must read failed limited => exact .failed must read failed limited

/-- The hand, brought back to the start of the ring if it is beyond its end. -/
def wrapped (machine : Machine) (hand : Nat) : Nat :=
  if hand < machine.pool.clock.length then hand else 0

omit [Architecture] in
/-- The hand comes to every place of the ring in less than one round. -/
theorem exists_steps (hand : Nat) {position count : Nat} (within : position < count) :
    ∃ steps < count, (hand + steps) % count = position := by
  have positive : 0 < count := by omega
  refine ⟨(position + (count - hand % count)) % count, Nat.mod_lt _ positive, ?_⟩
  have less := Nat.mod_lt hand positive
  have sum : hand % count + (position + (count - hand % count)) = position + count := by omega
  rw [Nat.add_mod_mod, ← Nat.mod_add_mod, sum, Nat.add_mod_right, Nat.mod_eq_of_lt within]

/-- The frame that lies some steps ahead of the hand does so when the hand is brought back. -/
theorem wrapped_ahead {machine : Machine} {count steps hand position : Nat}
    (round : machine.pool.clock.length = count) (short : steps < count) (reach : hand ≤ count)
    (ahead : (hand + steps) % count = position) :
    wrapped machine hand < count ∧ (wrapped machine hand + steps) % count = position := by
  rw [wrapped, round]
  split
  · rename_i within
    exact ⟨within, ahead⟩
  · have last : hand = count := by omega
    rw [last, Nat.add_mod_left] at ahead
    rw [Nat.zero_add]
    exact ⟨by omega, ahead⟩

/-- The clock looks at the frame under its hand and acts by its verdict. -/
theorem sweep_turned {visits hand target : Nat} {frame : FrameNumber} {machine : Machine}
    (there : machine.pool.clock[wrapped machine hand]? = some target)
    (located : machine.pool.frameAt target = .ok frame) :
    sweep (visits + 1) (turned machine hand) =
      obey visits target frame (visit machine target frame) (turned machine (wrapped machine hand)) := by
  have wrap : modifyPool (·.wrapHand) (turned machine hand) =
      .ok () (turned machine (wrapped machine hand)) := by
    refine modifyPool_ok.2 (congrArg (fun pool => { machine with pool }) ?_)
    unfold FramePool.wrapHand wrapped turned
    dsimp only
    split <;> rfl
  have there : (turned machine (wrapped machine hand)).pool.clock[
      (turned machine (wrapped machine hand)).pool.hand]? = some target := there
  have located : (turned machine (wrapped machine hand)).pool.frameAt target = .ok frame := located
  rw [sweep, bind_of_ok wrap]
  have looked : (get : Kernel Machine) (turned machine (wrapped machine hand)) =
    .ok (turned machine (wrapped machine hand)) (turned machine (wrapped machine hand)) := rfl
  rw [bind_of_ok looked]
  simp only [there, located]
  rfl

end Kernel

/-- A frame of the ring that can be reclaimed once its page is no longer accessed. -/
structure Machine.Evictable (machine : Machine) (index : Nat) (owner : SpaceId) (page : VirtualAddress) :
    Prop where
  owned : (machine.pool.entry index).owner = some owner
  unpinned : (machine.pool.entry index).pins = 0
  holder : (machine.registry owner).holders.get? (machine.pool.number index) = some page

variable [Lawful]

/-- What stays while the clock gives second chances: all but accessed bits and the log. -/
structure Machine.Swept (start now : Machine) : Prop where
  pool : now.pool = start.pool
  spaces : now.spaces = start.spaces
  memory : now.memory = start.memory
  swap : now.swap = start.swap
  directories : now.directories.length = start.directories.length
  sane : ∀ space, Lawful.Sane (start.directory space) → Lawful.Sane (now.directory space)
  dirty : ∀ space {page : VirtualAddress}, page.IsPage → Lawful.Sane (start.directory space) →
    now.isDirty space page = start.isDirty space page

namespace Machine.Swept
variable {start now : Machine} {owner space : SpaceId} {page other : VirtualAddress} {frame : FrameNumber}

theorem refl (start : Machine) : start.Swept start :=
  ⟨rfl, rfl, rfl, rfl, rfl, fun _ sane => sane, fun _ _ _ _ => rfl⟩

theorem space_eq (swept : start.Swept now) (space : SpaceId) : now.space space = start.space space := by
  rw [Machine.space, Machine.space, swept.spaces]

theorem registry_eq (swept : start.Swept now) (space : SpaceId) :
    now.registry space = start.registry space := by
  rw [Machine.registry, Machine.registry, swept.space_eq]

theorem evictable (swept : start.Swept now) {index : Nat} (evictable : start.Evictable index owner page) :
    now.Evictable index owner page := by
  obtain ⟨owned, unpinned, holder⟩ := evictable
  rw [← swept.pool] at owned unpinned holder
  rw [← swept.registry_eq] at holder
  exact ⟨owned, unpinned, holder⟩

variable [SecondChance]

theorem spare (swept : start.Swept now) (is_page : page.IsPage)
    (sane : Lawful.Sane (start.directory owner)) : start.Swept (now.spared owner page frame) := by
  have here := swept.sane owner sane
  have cases := fun space => now.directory_setDirectory_cases owner space
    (Architecture.setAccessed (now.directory owner) page false)
  refine ⟨swept.pool, swept.spaces, swept.memory, swept.swap, ?_, fun space sane => ?_,
    fun space other other_page sane => ?_⟩
  · exact List.length_set.trans swept.directories
  · change Lawful.Sane ((now.setDirectory owner _).directory space)
    rcases cases space with same | ⟨_, changed⟩
    · rw [same]
      exact swept.sane space sane
    · rw [changed]
      exact Lawful.sane_setAccessed here is_page.canonical
  · rw [← swept.dirty space other_page sane]
    change Architecture.isDirty ((now.setDirectory owner _).directory space) other = _
    rcases cases space with same | ⟨shared, changed⟩
    · rw [same]
      rfl
    · rw [changed, SecondChance.dirty_setAccessed here is_page other_page, ← shared]
      rfl

/-- The page that is spared is no longer accessed. -/
theorem accessed_spared (swept : start.Swept now) (is_page : page.IsPage)
    (sane : Lawful.Sane (start.directory owner))
    (present : (start.space owner).directory < start.directories.length) :
    (now.spared owner page frame).isAccessed owner page = false := by
  rw [← swept.space_eq, ← swept.directories] at present
  change Architecture.isAccessed ((now.setDirectory owner _).directory owner) page = false
  rw [now.directory_setDirectory_self _ present]
  exact SecondChance.cleared (swept.sane owner sane) is_page

/-- No other page is accessed for that. -/
theorem unaccessed_spared (swept : start.Swept now) (is_page : page.IsPage) (other_page : other.IsPage)
    (sane : Lawful.Sane (start.directory owner)) (clear : now.isAccessed space other = false) :
    (now.spared owner page frame).isAccessed space other = false := by
  change Architecture.isAccessed ((now.setDirectory owner _).directory space) other = false
  rcases now.directory_setDirectory_cases owner space
    (Architecture.setAccessed (now.directory owner) page false) with same | ⟨shared, changed⟩
  · rw [same]
    exact clear
  · rw [Machine.isAccessed, shared] at clear
    rw [changed]
    exact SecondChance.untouched (swept.sane owner sane) is_page other_page clear

end Machine.Swept

/-- A moment between two steps of a call: all of `pool` is in memory, all slots are on the disk, and the
page directories are sane. -/
structure Ordered (pool : FramePool) (now : Moment) : Prop extends Consistent now where
  sane : ∀ {space}, space < now.machine.spaces.length → Lawful.Sane (now.machine.directory space)
  houses : now.machine.Houses pool
  placed : now.machine.swap.OnDisk

namespace Ordered
variable {pool : FramePool} {start : Moment} {now : Machine} {index : Nat} {owner space : SpaceId}
  {page : VirtualAddress}

theorem inside (ordered : Ordered pool start) (member : index ∈ start.machine.pool.clock) :
    index < pool.capacity := by
  rw [← ordered.houses.capacity]
  exact ordered.held.sound.within (ordered.held.sound.ring.1 member).1

theorem evictable (ordered : Ordered pool start) (member : index ∈ start.machine.pool.clock)
    (unpinned : (start.machine.pool.entry index).pins = 0) :
    ∃ owner page, start.machine.Evictable index owner page := by
  obtain ⟨owned, _⟩ := ordered.held.sound.ring.1 member
  obtain ⟨owner, owned⟩ := Option.isSome_iff_exists.1 owned
  rcases ordered.held.ring ⟨index, member, rfl, owned⟩ with kept | ⟨page, writable, placed⟩
  · have single := ordered.held.kept_pins kept rfl
    omega
  · exact ⟨owner, page, owned, unpinned, (ordered.sound owner).holders.2 ⟨writable, placed⟩⟩

theorem registered (ordered : Ordered pool start)
    (evictable : start.machine.Evictable index owner page) :
    page.IsPage ∧ owner < start.machine.spaces.length := by
  obtain ⟨writable, placed⟩ := (ordered.sound owner).holders.1 evictable.holder
  obtain ⟨_, found, _⟩ := Registry.placement_eq_some.1 placed
  exact ⟨(ordered.sound owner).isPage found, start.machine.space_present found⟩

/-- A page that has to be saved when the clock has given second chances had to be from the start. -/
theorem mustSave (ordered : Ordered pool start) (swept : start.machine.Swept now) {hand : Nat}
    {page : Page} {frame : FrameNumber} (must : (Kernel.turned now hand).MustSave space page frame) :
    start.machine.MustSave space page frame := by
  obtain ⟨holds, unpinned, needed⟩ := must
  change (now.registry space).lookupFrame frame = some page at holds
  rw [swept.registry_eq] at holds
  obtain ⟨registered, _⟩ := (ordered.sound space).lookupFrame_eq_some holds
  have is_page := (ordered.sound space).isPage registered
  have sane := ordered.sane (start.machine.space_present registered)
  refine ⟨holds, ?_, ?_⟩
  · rw [← swept.pool]
    exact unpinned
  · rw [← swept.dirty space is_page sane]
    exact needed

/-- What the clock finds when it has given second chances was so from the start. -/
theorem halts (ordered : Ordered pool start) (swept : start.machine.Swept now) {hand : Nat}
    {cause : Fatal} {stopped : Machine} (halts : (Kernel.turned now hand).Halts cause stopped) :
    start.machine.Halts cause stopped := by
  obtain ⟨⟨event, log, told, starves⟩, ⟨place, turned⟩, memory⟩ := halts
  refine ⟨⟨event, log, told, ?_⟩, ⟨place, ?_⟩, memory.trans swept.memory⟩
  · have same : (Kernel.turned now hand).swap = start.machine.swap := swept.swap
    cases starves with
    | pinned all =>
      have ring : now.pool.clock = start.machine.pool.clock := congrArg FramePool.clock swept.pool
      change start.machine.Starves _ (.allPinned now.pool.clock.length)
      rw [ring]
      refine .pinned fun index member => ?_
      rw [← ring] at member
      rw [← swept.pool]
      exact all index member
    | full must taken =>
      rw [same] at taken
      exact .full (ordered.mustSave swept must) taken
    | failed must read failed limited =>
      rw [same] at failed limited
      refine .failed (ordered.mustSave swept must) ?_ failed limited
      rw [← swept.memory]
      exact read
  · rw [turned, ← swept.pool]
    rfl

end Ordered

namespace Kernel
variable [SecondChance] {pool : FramePool} {start : Moment}

omit [Lawful] [SecondChance] in
/-- The clock spares or reclaims a frame that can be reclaimed. -/
theorem visit_evictable {machine : Machine} {index : Nat} {owner : SpaceId} {page : VirtualAddress}
    (evictable : machine.Evictable index owner page) :
    visit machine index (machine.pool.number index) =
      if machine.isAccessed owner page then .spare owner page else .reclaim owner := by
  obtain ⟨owned, unpinned, holder⟩ := evictable
  simp [visit, owned, unpinned, holder]

omit [SecondChance] in
/-- A victim is reclaimed, or it cannot be saved. -/
theorem reclaim_outcome {now : Machine} {hand visits target : Nat} {owner : SpaceId}
    (ordered : Ordered pool start) (swept : start.machine.Swept now)
    (member : target ∈ start.machine.pool.clock)
    (seen : visit now target (pool.number target) = .reclaim owner) :
    Outcome (turned now hand) (obey visits target (pool.number target) (.reclaim owner))
      (fun index next => index < pool.capacity ∧ next.Houses pool) start.machine.Halts := by
  have base : now.pool.base = start.machine.pool.base := congrArg FramePool.base swept.pool
  have capacity : now.pool.capacity = start.machine.pool.capacity :=
    congrArg FramePool.capacity swept.pool
  have houses : (turned now hand).Houses pool := ordered.houses.of_same base capacity swept.memory
  have inside := ordered.inside member
  have sound : (now.registry owner).Sound := by
    rw [swept.registry_eq]
    exact ordered.sound owner
  obtain ⟨unpinned, page, found⟩ := visit_reclaim sound seen
  obtain ⟨bytes, read, whole⟩ := houses.backed ⟨target, inside, rfl⟩
  have place : (pool.number target).value - (turned now hand).pool.base.value = target := by
    rw [houses.base, FramePool.number_sub]
  have placed : (turned now hand).swap.OnDisk := by
    have same : (turned now hand).swap = start.machine.swap := swept.swap
    rw [same]
    exact ordered.placed
  have wrote : Outcome (turned now hand) (writeBack owner (pool.number target))
      (fun _ next => next.Houses pool) start.machine.Halts := by
    have unpinned : ((turned now hand).pool.entry
        ((pool.number target).value - (turned now hand).pool.base.value)).pins = 0 := by
      rw [place]
      exact unpinned
    have wrote : Outcome (turned now hand) (writeBack owner (pool.number target)) (fun _ next =>
        next.pool = (turned now hand).pool ∧ next.memory = (turned now hand).memory)
          (turned now hand).Halts := writeBack_outcome found unpinned read whole placed
    refine wrote.imp (fun _ _ ⟨pools, memory⟩ => ?_) fun _ _ halted => ordered.halts swept halted
    exact houses.of_same (congrArg FramePool.base pools) (congrArg FramePool.capacity pools) memory
  refine wrote.bind fun _ next houses => .step (.step (.ret ⟨inside, ?_⟩))
  obtain ⟨base, capacity⟩ := (next.pool.setEntry target {}).removeFromClock_range target
  exact houses.of_same base capacity rfl

/-- The clock finds a victim before its visits are used up. The frame at `position` can be reclaimed; the
hand comes there in `steps` steps, and after one more round if the page is accessed. -/
theorem sweep_outcome {position target : Nat} {owner : SpaceId} {page : VirtualAddress}
    (ordered : Ordered pool start) (there : start.machine.pool.clock[position]? = some target)
    (evictable : start.machine.Evictable target owner page) {visits steps hand : Nat} {now : Machine}
    (swept : start.machine.Swept now) (short : steps < start.machine.pool.clock.length)
    (reach : hand ≤ start.machine.pool.clock.length)
    (ahead : (hand + steps) % start.machine.pool.clock.length = position)
    (enough : steps + 1 + (if now.isAccessed owner page then start.machine.pool.clock.length else 0) ≤
      visits) : Outcome (turned now hand) (sweep visits)
        (fun index next => index < pool.capacity ∧ next.Houses pool) start.machine.Halts := by
  obtain ⟨is_page, known⟩ := ordered.registered evictable
  induction visits generalizing steps hand now with
  | zero => omega
  | succ visits ih =>
    generalize length : start.machine.pool.clock.length = count at short reach ahead enough ih
    have round : now.pool.clock.length = count := by rw [swept.pool, length]
    obtain ⟨within, ahead⟩ := wrapped_ahead round short reach ahead
    generalize place : wrapped now hand = hand' at within ahead
    obtain ⟨found, under⟩ : ∃ found, start.machine.pool.clock[hand']? = some found :=
      ⟨_, List.getElem?_eq_getElem (by omega)⟩
    have member := List.mem_of_getElem? under
    have located : now.pool.frameAt found = .ok (pool.number found) := by
      rw [swept.pool]
      exact ordered.houses.frameAt (ordered.inside member)
    have here : now.pool.clock[wrapped now hand]? = some found := by
      rw [swept.pool, place]
      exact under
    -- The verdict is known when the hand has come to the frame.
    have arrived : steps = 0 → visit now found (pool.number found) =
        if now.isAccessed owner page then .spare owner page else .reclaim owner := by
      rintro rfl
      rw [Nat.add_zero, Nat.mod_eq_of_lt within] at ahead
      subst ahead
      obtain rfl : found = target := Option.some.inj (under.symm.trans there)
      rw [← ordered.houses.number, ← swept.pool]
      exact visit_evictable (swept.evictable evictable)
    -- Before that, it comes nearer with each visit.
    have nearer {after : Machine} (far : steps ≠ 0) (swept : start.machine.Swept after)
        (kept : now.isAccessed owner page = false → after.isAccessed owner page = false) :
        Outcome (turned after (hand' + 1)) (sweep visits)
          (fun index next => index < pool.capacity ∧ next.Houses pool) start.machine.Halts := by
      have sum : hand' + 1 + (steps - 1) = hand' + steps := by omega
      rw [← sum] at ahead
      refine @ih (steps - 1) (hand' + 1) after swept (by omega) within ahead ?_
      cases before : now.isAccessed owner page with
      | false =>
        rw [before] at enough
        rw [kept before]
        omega
      | true =>
        rw [before, if_pos rfl] at enough
        split <;> omega
    refine .of_eq (sweep_turned here located) ?_
    rw [place]
    cases seen : visit now found (pool.number found) with
    | passOver =>
      change Outcome (turned now (hand' + 1)) (sweep visits) _ _
      refine nearer (fun near => ?_) swept id
      rw [arrived near] at seen
      split at seen <;> cases seen
    | spare other given =>
      change Outcome (turned (now.spared other given (pool.number found)) (hand' + 1)) (sweep visits) _ _
      have sound : (now.registry other).Sound := by
        rw [swept.registry_eq]
        exact ordered.sound other
      obtain ⟨given_page, present⟩ := visit_spare sound seen
      rw [swept.spaces] at present
      have sane := ordered.sane present
      by_cases near : steps = 0
      · rw [arrived near] at seen
        split at seen
        · rename_i accessed
          cases seen
          have clear : (now.spared owner page (pool.number found)).isAccessed owner page = false :=
            swept.accessed_spared is_page sane (ordered.present known)
          have sum : hand' + 1 + (count - 1) = hand' + steps + count := by omega
          rw [← Nat.add_mod_right, ← sum] at ahead
          refine @ih (count - 1) (hand' + 1) _ (swept.spare is_page sane) (by omega) within ahead ?_
          rw [clear]
          rw [accessed, if_pos rfl] at enough
          simp only [Bool.false_eq_true, if_false]
          omega
        · cases seen
      · exact nearer near (swept.spare given_page sane) (swept.unaccessed_spared given_page is_page sane)
    | reclaim other => exact reclaim_outcome ordered swept member seen

/-- Two rounds of the clock are enough to reclaim a frame that has no pin. -/
theorem evict_outcome (ordered : Ordered pool start) : Outcome start.machine evict
    (fun index next => index < pool.capacity ∧ next.Houses pool) start.machine.Halts := by
  refine .look ?_
  dsimp only
  split
  · rename_i all
    refine ⟨⟨_, _, rfl, .pinned fun index member => ?_⟩, ⟨start.machine.pool.hand, rfl⟩, rfl⟩
    exact of_decide_eq_true (List.all_eq_true.1 all index member)
  · rename_i some_free
    obtain ⟨target, member, unpinned⟩ :
        ∃ target ∈ start.machine.pool.clock, (start.machine.pool.entry target).pins = 0 := by
      simpa [FramePool.isPinned] using some_free
    obtain ⟨owner, page, evictable⟩ := ordered.evictable member unpinned
    obtain ⟨position, there⟩ := List.mem_iff_getElem?.1 member
    have within := (List.getElem?_eq_some_iff.1 there).1
    obtain ⟨steps, short, ahead⟩ := exists_steps start.machine.pool.hand within
    have inside := ordered.held.sound.hand.reach
    have swept := Machine.Swept.refl start.machine
    exact sweep_outcome ordered there evictable swept short inside ahead (by split <;> omega)

theorem allocate_outcome (ordered : Ordered pool start) (owner : SpaceId) :
    Outcome start.machine (allocate owner false) (fun frame next => pool.Has frame ∧ next.Houses pool)
      fun cause stopped => start.machine.pool.free = [] ∧ start.machine.Halts cause stopped := by
  have assigned {index : Nat} {next : Machine} (inside : index < pool.capacity)
      (houses : next.Houses pool) : Outcome next (do
        modifyPool (·.assign index owner)
        let frame ← orStop ((← get).pool.frameAt index)
        if false then writeFrame frame 0 (List.replicate pageSize 0)
        return frame) (fun frame next => pool.Has frame ∧ next.Houses pool)
        fun cause stopped => start.machine.pool.free = [] ∧ start.machine.Halts cause stopped := by
    have houses : Machine.Houses { next with pool := next.pool.assign index owner } pool :=
      houses.of_same rfl rfl rfl
    exact .step (.look (.pass (houses.frameAt inside) (.ret ⟨⟨index, inside, rfl⟩, houses⟩)))
  refine .look ?_
  dsimp only
  split
  · rename_i index rest taken
    obtain ⟨inside, _⟩ := ordered.held.sound.taken_free taken
    rw [ordered.houses.capacity] at inside
    obtain ⟨_, _, rfl⟩ := FramePool.takeFree?_eq taken
    exact .step (assigned inside (ordered.houses.of_same rfl rfl rfl))
  · rename_i none_left
    have evicted := (evict_outcome ordered).imp (fun _ _ found => found) fun _ _ halted =>
      And.intro (FramePool.free_of_takeFree?_none none_left) halted
    exact evicted.bind fun _ _ ⟨inside, houses⟩ => assigned inside houses

end Kernel

end DemandPaging
