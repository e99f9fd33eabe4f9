import DemandPaging.Kernel.Eviction
import DemandPaging.Proofs.Idling

/-! Eviction as moves: the clock turns until it finds a page to reclaim, and pages without a frame
are as they were. -/
namespace DemandPaging
open Architecture (Lawful)

namespace FramePool

theorem removeFromClock_setEntry (pool : FramePool) (index : Nat) (entry : FrameEntry) :
    (pool.setEntry index entry).removeFromClock index =
      (pool.removeFromClock index).setEntry index entry := by
  have clock : (pool.setEntry index entry).clock = pool.clock := rfl
  unfold removeFromClock
  rw [clock]
  cases pool.clock.findIdx? (· == index) <;> rfl

theorem takeFree?_withdraw (pool : FramePool) (index : Nat) :
    (pool.withdraw index).takeFree? =
      some (index, (pool.setEntry index {}).removeFromClock index) := by
  rw [removeFromClock_setEntry]
  rfl

theorem wrapHand_eq (pool : FramePool) : ∃ hand, pool.wrapHand = { pool with hand } := by
  unfold wrapHand
  split
  · exact ⟨pool.hand, rfl⟩
  · exact ⟨0, rfl⟩

end FramePool

namespace Registry
variable [Geometry] {registry : Registry}

theorem Sound.get?_detach (sound : registry.Sound) {frame : FrameNumber} {page : Page}
    (found : registry.lookupFrame frame = some page) (state : PageState) (addr : VirtualAddress) :
    (registry.detach frame state).pages.get? addr =
      if page.addr = addr then
        some { page with state, pinned := false, generation := page.generation + 1 }
      else registry.pages.get? addr := by
  obtain ⟨registered, resident⟩ := sound.lookupFrame_eq_some found
  have holder := sound.holders.2 ⟨_, placement_eq_some.2 ⟨page, registered, resident, rfl⟩⟩
  simp only [Registry.detach, holder, registered]
  by_cases same : page.addr = addr
  · subst same
    rw [SortedMap.get?_insert_self, if_pos rfl]
  · rw [SortedMap.get?_insert_of_ne _ _ same, if_neg same]

theorem Sound.lookupFrame_of_holder (sound : registry.Sound) {frame : FrameNumber}
    {addr : VirtualAddress} (holder : registry.holders.get? frame = some addr) :
    ∃ page, registry.lookupFrame frame = some page ∧ page.addr = addr := by
  obtain ⟨writable, placed⟩ := sound.holders.1 holder
  obtain ⟨page, found, _, _⟩ := placement_eq_some.1 placed
  refine ⟨page, ?_, sound.keyed found⟩
  simp [lookupFrame, holder, found]

end Registry

/-- The counters when a page has left its frame: it was written to swap or dropped. -/
def Stats.parted (stats : Stats) : PageState → Stats
  | .swapped _ => { stats with swapWrites := stats.swapWrites + 1 }
  | _ => { stats with discards := stats.discards + 1 }

def Stats.reclaimed (stats : Stats) (state : PageState) : Stats :=
  { stats.parted state with evictions := (stats.parted state).evictions + 1 }

/-- An eviction is counted once as such, and once by where the page went. -/
theorem Stats.inStep_reclaimed (stats : Stats) (state : PageState) :
    stats.InStep (stats.reclaimed state) := by
  unfold InStep reclaimed
  cases state <;> dsimp only [parted] <;> omega

variable [Architecture]

/-- Pages without a frame are in both machines, and the same. -/
def Machine.KeepsAway (before after : Machine) : Prop :=
  ∀ {space addr page}, (before.registry space).pages.get? addr = some page →
    page.isResident = false → (after.registry space).pages.get? addr = some page

theorem Machine.KeepsAway.trans {a b c : Machine} (first : a.KeepsAway b) (second : b.KeepsAway c) :
    a.KeepsAway c :=
  fun found away => second (first found away) away

namespace Kernel

theorem writeBack_ok {owner : SpaceId} {frame : FrameNumber} {page : Page} {start next : Machine}
    {u : Unit} (found : (start.registry owner).lookupFrame frame = some page)
    (ended : writeBack owner frame start = .ok u next) :
    ∃ state swap event, start.Saves owner page frame state swap ∧
      (∀ slot, event ≠ Event.slotNotInUse slot) ∧ next = { (start.setDirectory owner
        (Architecture.unmap (start.directory owner) page.addr).2).setRegistry owner
          ((start.registry owner).detach frame state) with
        swap, stats := start.stats.parted state, log := event :: start.log } := by
  simp only [writeBack, bind_ok, get_ok] at ended
  obtain ⟨_, _, ⟨rfl, rfl⟩, ended⟩ := ended
  rw [found] at ended
  simp only [bind_ok, get_ok] at ended
  obtain ⟨_, _, ⟨rfl, rfl⟩, _, unmapped, left, ended⟩ := ended
  obtain ⟨_, rfl⟩ := modifyGet_ok.1 left
  split at ended
  · rename_i clean
    simp only [bind_ok, emit_ok, modifyStats_ok, modifyRegistry_ok] at ended
    obtain ⟨_, _, rfl, _, _, rfl, rfl⟩ := ended
    rw [Bool.and_eq_true, Bool.not_eq_true', Bool.not_eq_true'] at clean
    exact ⟨_, _, _, .discard clean.1 clean.2, (fun _ same => by cases same), rfl⟩
  · rename_i unclean
    simp only [bind_ok, readFrame_ok, get_ok, modify_ok] at ended
    obtain ⟨bytes, _, ⟨read, rfl⟩, _, _, ⟨rfl, rfl⟩, _, _, rfl, ended⟩ := ended
    have needed : start.isDirty owner page.addr = true ∨ page.backing.alwaysSwaps = true := by
      rwa [Bool.and_eq_true, Bool.not_eq_true', Bool.not_eq_true', not_and_or, Bool.not_eq_false,
        Bool.not_eq_false] at unclean
    have before : (start.setDirectory owner
        (Architecture.unmap (start.directory owner) page.addr).2).swap = start.swap := rfl
    rw [before] at ended
    cases written : start.swap.write bytes with
    | mk result swap =>
      rw [written] at ended
      dsimp only at ended
      split at ended
      · simp only [bind_ok, emit_ok, modifyStats_ok, modifyRegistry_ok] at ended
        obtain ⟨_, _, rfl, _, _, rfl, rfl⟩ := ended
        exact ⟨_, _, _, .save read written needed, (fun _ same => by cases same), rfl⟩
      · simp only [bind_ok, throw_ok, and_false, exists_false] at ended
      · simp only [bind_ok, throw_ok, and_false, exists_false] at ended

theorem visit_reclaim {machine : Machine} {index : Nat} {frame : FrameNumber} {owner : SpaceId}
    (sound : (machine.registry owner).Sound) (found : visit machine index frame = .reclaim owner) :
    (machine.pool.entry index).pins = 0 ∧
      ∃ page, (machine.registry owner).lookupFrame frame = some page := by
  unfold visit at found
  dsimp only at found
  split at found
  · cases found
  · split at found
    · cases found
    · rename_i unpinned
      split at found
      · cases found
      · rename_i addr holder
        split at found
        · cases found
        · cases found
          obtain ⟨page, found, _⟩ := sound.lookupFrame_of_holder holder
          exact ⟨Decidable.not_not.1 unpinned, page, found⟩

theorem visit_spare {machine : Machine} {index : Nat} {frame : FrameNumber} {owner : SpaceId}
    {addr : VirtualAddress} (sound : (machine.registry owner).Sound)
    (found : visit machine index frame = .spare owner addr) :
    addr.IsPage ∧ owner < machine.spaces.length := by
  unfold visit at found
  dsimp only at found
  split at found
  · cases found
  · split at found
    · cases found
    · split at found
      · cases found
      · rename_i holder
        split at found
        · cases found
          obtain ⟨writable, placed⟩ := sound.holders.1 holder
          obtain ⟨page, registered, _⟩ := Registry.placement_eq_some.1 placed
          exact ⟨sound.isPage registered, machine.space_present registered⟩
        · cases found

end Kernel

/-- The clock has reclaimed the frame at `index`: other pages may have used up their second chances, and one has
left the frame, which had no pin. -/
structure Machine.Reclaims (start : Machine) (index : Nat) (owner : SpaceId) (page : Page) (frame : FrameNumber)
    (state : PageState) (next : Machine) : Prop where
  unpinned : (start.pool.entry index).pins = 0
  found : (start.registry owner).lookupFrame frame = some page
  spaces : next.spaces = (start.setRegistry owner ((start.registry owner).detach frame state)).spaces
  config : next.config = start.config
  files : next.files = start.files
  callers : next.callers = start.callers
  pool : ∃ hand, next.pool = (({ start.pool with hand } : FramePool).setEntry index {}).removeFromClock index
  stats : next.stats = start.stats.reclaimed state
  /-- The page was dropped, or it was written to a slot. -/
  saves : ∃ now : Machine, now.swap = start.swap ∧ now.memory = start.memory ∧
    now.Saves owner page frame state next.swap

variable [Lawful] {scope : Scope}

/-- Moves from `start` to a machine that is `next` but for the frame at `index`, which is the next to
be taken. -/
structure Frees (scope : Scope) (start : Moment) (index : Nat) (next : Machine) : Prop where
  moves : ∃ pool, Path scope.may start ⟨start.ledger, { next with pool }⟩ ∧
    pool.takeFree? = some (index, next.pool)
  keeps : start.machine.KeepsAway next

theorem Frees.after {start mid : Moment} {index : Nat} {next : Machine}
    (path : Path scope.may start mid) (ledger : mid.ledger = start.ledger)
    (keeps : start.machine.KeepsAway mid.machine) (frees : Frees scope mid index next) :
    Frees scope start index next := by
  obtain ⟨pool, moves, taken⟩ := frees.moves
  rw [ledger] at moves
  exact ⟨⟨pool, path.trans moves, taken⟩, keeps.trans frees.keeps⟩

def Machine.spared (machine : Machine) (owner : SpaceId) (page : VirtualAddress) (frame : FrameNumber) :
    Machine :=
  { machine.setDirectory owner (Architecture.setAccessed (machine.directory owner) page false) with
    log := .secondChance frame page :: machine.log }

namespace Kernel

/-- A machine whose clock has turned. Where the hand is shows in no move until a frame is reclaimed. -/
def turned (machine : Machine) (hand : Nat) : Machine :=
  { machine with pool := { machine.pool with hand } }

/-- Reclaiming a frame is one move, once the log and the counters are seen to. -/
theorem reclaim_frees {start : Moment} {index hand : Nat} {frame : FrameNumber} {owner : SpaceId}
    {mid : Machine} {u : Unit} (ready : scope.Ready start)
    (named : frame = start.machine.pool.number index)
    (found : visit start.machine index frame = .reclaim owner)
    (wrote : writeBack owner frame (turned start.machine hand) = .ok u mid) :
    Frees scope start index { mid with
      stats := { mid.stats with evictions := mid.stats.evictions + 1 }
      pool := (mid.pool.setEntry index {}).removeFromClock index } := by
  obtain ⟨unpinned, page, holds⟩ := visit_reclaim (ready.sound owner) found
  have here : ((turned start.machine hand).registry owner).lookupFrame frame = some page := holds
  obtain ⟨state, swap, event, saves, known, rfl⟩ := writeBack_ok here wrote
  have place : frame.value - start.machine.pool.base.value = index := by
    rw [named, FramePool.number_sub]
  have saves : start.machine.Saves owner page frame state swap := by
    cases saves with
    | discard clean kept => exact .discard clean kept
    | save read written needed => exact .save read written needed
  constructor
  · refine ⟨({ start.machine.pool with hand } : FramePool).withdraw index, ?_,
      FramePool.takeFree?_withdraw _ _⟩
    have move : Move .quiet ⟨start.ledger, start.machine⟩
        ⟨start.ledger, start.machine.reclaim owner page frame hand state swap⟩ :=
      .evict holds (by rw [place]; exact unpinned) saves
    rw [Machine.reclaim, place] at move
    refine .next scope.quiet move ?_
    refine .next scope.quiet (.idle (Machine.idle_log _ known)) ?_
    exact .of_move scope.quiet (.idle (Machine.idle_stats _ (start.machine.stats.inStep_reclaimed state)))
  · intro space addr away found unloaded
    have sound := ready.sound owner
    obtain ⟨registered, resident⟩ := sound.lookupFrame_eq_some holds
    change (Machine.registry (Machine.setRegistry start.machine owner _) space).pages.get? addr = _
    by_cases same : owner = space
    · subst same
      rw [Machine.registry_setRegistry_self _ _ (start.machine.space_present found)]
      change ((start.machine.registry owner).detach frame state).pages.get? addr = _
      rw [sound.get?_detach holds, if_neg, found]
      rintro rfl
      rw [registered] at found
      cases found
      rw [Page.isResident, Page.frame?, resident] at unloaded
      cases unloaded
    · rw [Machine.registry_setRegistry_of_ne _ _ same]
      exact found

def obey (visits index : Nat) (frame : FrameNumber) : Visit → Kernel Nat
  | .passOver => do
      modifyPool (·.advanceHand)
      sweep visits
  | .spare owner page => do
      emit (.secondChance frame page)
      setAccessed owner page false
      modifyPool (·.advanceHand)
      sweep visits
  | .reclaim owner => do
      writeBack owner frame
      modifyStats fun stats => { stats with evictions := stats.evictions + 1 }
      modifyPool fun pool => (pool.setEntry index {}).removeFromClock index
      return index

omit [Lawful] in
/-- The clock comes to a frame of the ring and acts by its verdict. -/
theorem sweep_ok {visits hand index : Nat} {machine next : Machine}
    (ended : sweep (visits + 1) (turned machine hand) = .ok index next) :
    ∃ hand target frame, machine.pool.clock[hand]? = some target ∧
      machine.pool.frameAt target = .ok frame ∧
      obey visits target frame (visit machine target frame) (turned machine hand) = .ok index next := by
  simp only [sweep, bind_ok, modifyPool_ok, get_ok] at ended
  obtain ⟨_, _, rfl, _, _, ⟨rfl, rfl⟩, ended⟩ := ended
  obtain ⟨place, wrapped⟩ := (turned machine hand).pool.wrapHand_eq
  rw [wrapped] at ended
  dsimp only at ended
  cases position : (turned machine hand).pool.clock[place]? with
  | none =>
    simp only [position] at ended
    exact (throw_ok.1 ended).elim
  | some target =>
    simp only [position, bind_ok, orStop_ok] at ended
    obtain ⟨frame, _, ⟨located, rfl⟩, ended⟩ := ended
    exact ⟨place, target, frame, position, located, ended⟩

/-- How the clock goes on: it passes over a frame, gives the page in it a second chance, or reclaims it. -/
inductive Sweeps (machine : Machine) (visits index : Nat) (next : Machine) : Prop
  | passes {hand} (ended : sweep visits (turned machine hand) = .ok index next)
  | spares {hand target frame owner page} (seen : visit machine target frame = .spare owner page)
      (ended : sweep visits (turned (machine.spared owner page frame) hand) = .ok index next)
  | reclaims {hand frame owner mid} (located : machine.pool.frameAt index = .ok frame)
      (seen : visit machine index frame = .reclaim owner)
      (wrote : writeBack owner frame (turned machine hand) = .ok () mid)
      (left : next = { mid with
        stats := { mid.stats with evictions := mid.stats.evictions + 1 }
        pool := (mid.pool.setEntry index {}).removeFromClock index })

omit [Lawful] in
theorem sweep_cases {visits hand index : Nat} {machine next : Machine}
    (ended : sweep (visits + 1) (turned machine hand) = .ok index next) :
    Sweeps machine visits index next := by
  obtain ⟨hand, target, frame, _, located, ended⟩ := sweep_ok ended
  cases seen : visit machine target frame with
  | passOver =>
    rw [seen] at ended
    simp only [obey, bind_ok, modifyPool_ok] at ended
    obtain ⟨_, _, rfl, ended⟩ := ended
    exact .passes ended
  | spare owner page =>
    rw [seen] at ended
    simp only [obey, bind_ok, modifyPool_ok, emit_ok] at ended
    obtain ⟨_, _, rfl, _, _, spared, _, _, rfl, ended⟩ := ended
    cases modify_ok.1 spared
    exact .spares seen ended
  | reclaim owner =>
    rw [seen] at ended
    obtain ⟨_, mid, wrote, ended⟩ := bind_ok.1 ended
    simp only [bind_ok, modifyStats_ok, modifyPool_ok, pure_ok] at ended
    obtain ⟨_, _, rfl, _, _, rfl, rfl, rfl⟩ := ended
    exact .reclaims located seen wrote rfl

omit [Lawful] in
/-- A frame is found by the clock alone. -/
theorem evict_sweeps {index : Nat} {start next : Machine} (ended : evict start = .ok index next) :
    ∃ visits, sweep visits (turned start start.pool.hand) = .ok index next := by
  simp only [evict, bind_ok, get_ok] at ended
  obtain ⟨_, _, ⟨rfl, rfl⟩, ended⟩ := ended
  split at ended
  · simp only [bind_ok, throw_ok, false_and, exists_false, and_false] at ended
  · exact ⟨_, ended⟩

omit [Lawful] in
theorem reclaims_of_sweep {visits hand index : Nat} {start next : Machine}
    (sound : ∀ space, (start.registry space).Sound)
    (ended : sweep visits (turned start hand) = .ok index next) :
    ∃ owner page frame state, start.Reclaims index owner page frame state next := by
  induction visits generalizing start hand with
  | zero => exact (throw_ok.1 ended).elim
  | succ visits ih =>
    cases sweep_cases ended with
    | passes ended => exact ih sound ended
    | @spares hand target frame owner page seen ended =>
      obtain ⟨owner, page, frame, state, reclaims⟩ := @ih _ (start.spared owner page frame) sound ended
      exact ⟨owner, page, frame, state, { reclaims with }⟩
    | @reclaims hand frame owner mid located seen wrote left =>
      subst left
      obtain ⟨unpinned, page, found⟩ := visit_reclaim (sound owner) seen
      have here : ((turned start hand).registry owner).lookupFrame frame = some page := found
      obtain ⟨state, swap, event, saves, _, rfl⟩ := writeBack_ok here wrote
      exact ⟨owner, page, frame, state,
        { unpinned, found, spaces := rfl, config := rfl, files := rfl, callers := rfl, pool := ⟨hand, rfl⟩
          stats := rfl, saves := ⟨turned start hand, rfl, rfl, saves⟩ }⟩

omit [Lawful] in
theorem reclaims_of_evict {index : Nat} {start next : Machine} (sound : ∀ space, (start.registry space).Sound)
    (ended : evict start = .ok index next) :
    ∃ owner page frame state, start.Reclaims index owner page frame state next := by
  obtain ⟨_, ended⟩ := evict_sweeps ended
  exact reclaims_of_sweep sound ended

theorem sweep_frees {visits hand : Nat} {start : Moment} {index : Nat} {next : Machine}
    (ready : scope.Ready start) (ended : sweep visits (turned start.machine hand) = .ok index next) :
    Frees scope start index next := by
  induction visits generalizing start hand with
  | zero => exact (throw_ok.1 ended).elim
  | succ visits ih =>
    cases sweep_cases ended with
    | passes ended => exact ih ready ended
    | @spares hand target frame owner page seen ended =>
      obtain ⟨is_page, _⟩ := visit_spare (ready.sound owner) seen
      have logged : start.machine.Idle
          { start.machine with log := .secondChance frame page :: start.machine.log } :=
        start.machine.idle_log fun _ same => by cases same
      have cleared : Machine.Idle
          { start.machine with log := .secondChance frame page :: start.machine.log }
          (Machine.setDirectory
            { start.machine with log := .secondChance frame page :: start.machine.log } owner
            (Architecture.setAccessed (start.machine.directory owner) page false)) :=
        Machine.idle_directory _ owner fun sane =>
          ⟨Lawful.sane_setAccessed sane is_page.canonical,
            Lawful.setAccessed_alike sane is_page.canonical⟩
      have path := (scope.idles start.ledger logged).trans (scope.idles start.ledger cleared)
      exact .after path rfl (fun found _ => found) (ih (ready.path path) ended)
    | reclaims located seen wrote left =>
      rw [left]
      exact reclaim_frees ready (FramePool.frameAt_ok located) seen wrote

theorem evict_frees {start : Moment} {index : Nat} {next : Machine} (ready : scope.Ready start)
    (ended : evict start.machine = .ok index next) : Frees scope start index next := by
  obtain ⟨_, ended⟩ := evict_sweeps ended
  exact sweep_frees ready ended

end Kernel

end DemandPaging
