import DemandPaging.Proofs.PinCounts
import DemandPaging.Proofs.SecondChances
import DemandPaging.Proofs.SlotOwners

/-! What pages give up when they are unregistered, one after another: frames go back to the pool, or linger
as long as they are pinned, slots are free, and the clock goes on with the frame it would have come to next
among those that are left. -/
namespace DemandPaging

def FrameEntry.vacated (entry : FrameEntry) : FrameEntry :=
  if 0 < entry.pins then { entry with released := true } else {}

namespace FramePool
variable (pool : FramePool) (index : Nat)

/-- The page in the frame at `index` is released: the frame leaves the ring, and is free if it has no
pins. -/
def relinquish : FramePool :=
  if 0 < (pool.entry index).pins then pool.retire index else pool.withdraw index

theorem base_relinquish : (pool.relinquish index).base = pool.base := by
  obtain ⟨hand, same, _⟩ := pool.retire_eq index
  obtain ⟨other, equal, _⟩ := pool.withdraw_eq index
  unfold relinquish
  split
  · rw [same]
    rfl
  · rw [equal]
    rfl

theorem capacity_relinquish : (pool.relinquish index).capacity = pool.capacity := by
  obtain ⟨hand, same, _⟩ := pool.retire_eq index
  obtain ⟨other, equal, _⟩ := pool.withdraw_eq index
  unfold relinquish
  split
  · rw [same]
    rfl
  · rw [equal]
    rfl

theorem entry_relinquish (other : Nat) : (pool.relinquish index).entry other =
    if index = other then (pool.entry index).vacated else pool.entry other := by
  unfold relinquish FrameEntry.vacated
  split
  · rw [entry_retire]
  · rw [entry_withdraw]

theorem free_relinquish : (pool.relinquish index).free =
    if 0 < (pool.entry index).pins then pool.free else index :: pool.free := by
  obtain ⟨hand, same, _⟩ := pool.retire_eq index
  obtain ⟨other, equal, _⟩ := pool.withdraw_eq index
  unfold relinquish
  split
  · rw [same]
    rfl
  · rw [equal]
    rfl

variable {pool} (points : Points pool.clock pool.hand)
include points

theorem points_relinquish :
    Points (pool.relinquish index).clock (pool.relinquish index).hand := by
  unfold relinquish
  split
  · exact @points_removeFromClock (pool.setEntry index _) index points
  · exact points_removeFromClock points

variable (distinct : pool.clock.Nodup)
include distinct

omit points in
theorem clock_relinquish : (pool.relinquish index).clock = pool.clock.filter (· != index) := by
  unfold relinquish
  split
  · exact @clock_removeFromClock (pool.setEntry index _) index distinct
  · exact clock_removeFromClock distinct

theorem ahead_relinquish : (pool.relinquish index).ahead = pool.ahead.filter (· != index) := by
  unfold relinquish
  split
  · exact @ahead_removeFromClock (pool.setEntry index _) index distinct points
  · exact ahead_removeFromClock distinct points

end FramePool

section
variable [Architecture]

def Page.unmappedFrom (page : Page) (directory : Architecture.Directory) : Architecture.Directory :=
  if page.isResident then (Architecture.unmap directory page.addr).2 else directory

def Page.frames (pages : List Page) : List FrameNumber := pages.filterMap Page.frame?

namespace Page
variable {pages : List Page} {page : Page}

omit [Architecture] in
theorem mem_frames_snoc (frame : FrameNumber) :
    frame ∈ frames (pages ++ [page]) ↔ frame ∈ frames pages ∨ page.frame? = some frame := by
  simp [frames]

omit [Architecture] in
theorem frames_away (away : page.frame? = none) : frames (pages ++ [page]) = frames pages := by
  simp [frames, away]

omit [Architecture] in
theorem unswapped_snoc (slot : SwapSlot) : (∀ other ∈ pages ++ [page], other.state ≠ .swapped slot) ↔
    (∀ other ∈ pages, other.state ≠ .swapped slot) ∧ page.state ≠ .swapped slot := by
  simp [or_imp, forall_and]

theorem unmappedFrom_away (away : page.frame? = none) (directory : Architecture.Directory) :
    page.unmappedFrom directory = directory := by
  simp [unmappedFrom, isResident, away]

end Page

/-- Pages of a space have given up what they held. -/
structure Machine.Vacated (machine : Machine) (space : SpaceId) (pages : List Page) (after : Machine) :
    Prop where
  others : ∃ pool swap directories log, after = { machine with pool, swap, directories, log }
  disk : after.swap.disk = machine.swap.disk
  capacity : after.swap.capacity = machine.swap.capacity
  marks : ∀ slot, after.swap.isOccupied slot = true ↔
    machine.swap.isOccupied slot = true ∧ ∀ page ∈ pages, page.state ≠ .swapped slot
  base : after.pool.base = machine.pool.base
  size : after.pool.capacity = machine.pool.capacity
  entries : ∀ index, after.pool.entry index =
    if machine.pool.number index ∈ Page.frames pages then (machine.pool.entry index).vacated
    else machine.pool.entry index
  free : ∃ freed, after.pool.free = freed ++ machine.pool.free ∧ freed.Nodup ∧ ∀ index, index ∈ freed ↔
    machine.pool.number index ∈ Page.frames pages ∧ (machine.pool.entry index).pins = 0
  ring : after.pool.clock = machine.pool.clock.filter (machine.pool.number · ∉ Page.frames pages)
  ahead : after.pool.ahead = machine.pool.ahead.filter (machine.pool.number · ∉ Page.frames pages)
  points : FramePool.Points after.pool.clock after.pool.hand
  directories : after.directories.length = machine.directories.length
  elsewhere : ∀ other, (machine.space space).directory ≠ (machine.space other).directory →
    after.directory other = machine.directory other
  own : after.directory space =
    pages.foldl (fun directory page => page.unmappedFrom directory) (machine.directory space)

namespace Machine.Vacated
variable {machine after : Machine} {space : SpaceId} {pages : List Page}

theorem refl (machine : Machine) (space : SpaceId)
    (points : FramePool.Points machine.pool.clock machine.pool.hand) :
    machine.Vacated space [] machine where
  others := ⟨_, _, _, _, rfl⟩
  disk := rfl
  capacity := rfl
  marks slot := ⟨fun used => ⟨used, fun _ member => absurd member List.not_mem_nil⟩, And.left⟩
  base := rfl
  size := rfl
  entries index := (if_neg List.not_mem_nil).symm
  free := ⟨[], rfl, List.nodup_nil, fun index => by simp [Page.frames]⟩
  ring := by simp [Page.frames]
  ahead := by simp [Page.frames]
  points
  directories := rfl
  elsewhere _ _ := rfl
  own := rfl

variable (vacated : machine.Vacated space pages after)
include vacated

theorem number (index : Nat) : after.pool.number index = machine.pool.number index := by
  rw [FramePool.number, FramePool.number, vacated.base]

theorem space_eq (other : SpaceId) : after.space other = machine.space other := by
  obtain ⟨_, _, _, _, rfl⟩ := vacated.others
  rfl

theorem distinct (distinct : machine.pool.clock.Nodup) : after.pool.clock.Nodup := by
  rw [vacated.ring]
  exact distinct.filter _

theorem next_unloaded {page : Page} (state : page.state = .unloaded) :
    machine.Vacated space (pages ++ [page]) after := by
  have away : page.frame? = none := by rw [Page.frame?, state]
  exact {
    vacated with
    marks := fun slot => by
      rw [Page.unswapped_snoc, vacated.marks, state]
      simp
    entries := by rw [Page.frames_away away]; exact vacated.entries
    free := by rw [Page.frames_away away]; exact vacated.free
    ring := by rw [Page.frames_away away]; exact vacated.ring
    ahead := by rw [Page.frames_away away]; exact vacated.ahead
    own := by rw [List.foldl_append, vacated.own, List.foldl_cons, Page.unmappedFrom_away away]; rfl }

theorem next_swapped {page : Page} {slot : SwapSlot} (state : page.state = .swapped slot) :
    machine.Vacated space (pages ++ [page]) { after with swap := (after.swap.free slot).2 } := by
  have away : page.frame? = none := by rw [Page.frame?, state]
  exact {
    others := by
      obtain ⟨_, _, _, _, same⟩ := vacated.others
      exact ⟨_, _, _, _, by rw [same]⟩
    disk := (SwapStore.disk_free _ _).trans vacated.disk
    capacity := (SwapStore.capacity_free _ _).trans vacated.capacity
    marks := fun other => by
      rw [Page.unswapped_snoc, state, SwapStore.isOccupied_free]
      split
      · rename_i here
        simp [here]
      · rename_i differ
        rw [vacated.marks]
        simp [Ne.symm differ]
    base := vacated.base
    size := vacated.size
    entries := by rw [Page.frames_away away]; exact vacated.entries
    free := by rw [Page.frames_away away]; exact vacated.free
    ring := by rw [Page.frames_away away]; exact vacated.ring
    ahead := by rw [Page.frames_away away]; exact vacated.ahead
    points := vacated.points
    directories := vacated.directories
    elsewhere := vacated.elsewhere
    own := by
      change after.directory space = _
      rw [List.foldl_append, vacated.own, List.foldl_cons, Page.unmappedFrom_away away]
      rfl }

section
variable {page : Page} {index : Nat} (placed : page.frame? = some (machine.pool.number index))
include placed

omit vacated in
/-- The frames that are given up, by their places in the pool. -/
theorem number_mem_snoc (other : Nat) : machine.pool.number other ∈ Page.frames (pages ++ [page]) ↔
    machine.pool.number other ∈ Page.frames pages ∨ index = other := by
  rw [Page.mem_frames_snoc, placed, Option.some.injEq]
  exact or_congr Iff.rfl ⟨FramePool.number_injective, fun same => by rw [same]⟩

omit vacated in
/-- The ring loses the frame of one more page. -/
theorem filter_snoc (indices : List Nat) :
    (indices.filter (machine.pool.number · ∉ Page.frames pages)).filter (· != index) =
      indices.filter (machine.pool.number · ∉ Page.frames (pages ++ [page])) := by
  rw [List.filter_filter]
  refine List.filter_congr fun other _ => ?_
  rw [Bool.eq_iff_iff]
  simp only [Bool.and_eq_true, bne_iff_ne, decide_eq_true_eq, number_mem_snoc placed, not_or]
  rw [and_comm, ne_comm]

variable (untouched : machine.pool.number index ∉ Page.frames pages)
include untouched

/-- The frame of one more page is free as well, unless it has pins. -/
theorem free_snoc : ∃ freed, (after.pool.relinquish index).free = freed ++ machine.pool.free ∧
    freed.Nodup ∧ ∀ other, other ∈ freed ↔
      machine.pool.number other ∈ Page.frames (pages ++ [page]) ∧ (machine.pool.entry other).pins = 0 := by
  obtain ⟨freed, left, apart, members⟩ := vacated.free
  have absent : index ∉ freed := fun inside => untouched ((members index).1 inside).1
  rw [FramePool.free_relinquish, vacated.entries, if_neg untouched, left]
  by_cases pinned : 0 < (machine.pool.entry index).pins
  · refine ⟨freed, if_pos pinned, apart, fun other => ?_⟩
    rw [members, number_mem_snoc placed]
    refine and_congr_left fun none => ⟨.inl, Or.rec id fun same => ?_⟩
    rw [same, none] at pinned
    cases pinned
  · refine ⟨index :: freed, if_neg pinned, List.nodup_cons.2 ⟨absent, apart⟩, fun other => ?_⟩
    rw [List.mem_cons, members, number_mem_snoc placed]
    constructor
    · rintro (same | ⟨listed, none⟩)
      · subst same
        exact ⟨.inr rfl, Nat.eq_zero_of_not_pos pinned⟩
      · exact ⟨.inl listed, none⟩
    · rintro ⟨listed | same, none⟩
      · exact .inr ⟨listed, none⟩
      · exact .inl same.symm

theorem next_resident (known : (machine.space space).directory < machine.directories.length)
    (distinct : machine.pool.clock.Nodup) :
    machine.Vacated space (pages ++ [page]) { after.setDirectory space
      (Architecture.unmap (after.directory space) page.addr).2 with pool := after.pool.relinquish index } where
  others := by
    obtain ⟨_, _, _, _, same⟩ := vacated.others
    exact ⟨_, _, _, _, by rw [same]; rfl⟩
  disk := vacated.disk
  capacity := vacated.capacity
  marks slot := by
    have resident : page.state ≠ .swapped slot := fun swapped => by
      simp [Page.frame?, swapped] at placed
    rw [Page.unswapped_snoc]
    exact (vacated.marks slot).trans (and_congr_right fun _ => (and_iff_left resident).symm)
  base := (FramePool.base_relinquish _ _).trans vacated.base
  size := (FramePool.capacity_relinquish _ _).trans vacated.size
  entries other := by
    rw [FramePool.entry_relinquish, vacated.entries, vacated.entries, if_neg untouched]
    by_cases same : index = other
    · subst same
      rw [if_pos rfl, if_pos ((number_mem_snoc placed index).2 (.inr rfl))]
    · rw [if_neg same]
      refine if_congr ?_ rfl rfl
      rw [number_mem_snoc placed]
      simp [same]
  free := vacated.free_snoc placed untouched
  ring := by
    rw [FramePool.clock_relinquish index (vacated.distinct distinct), vacated.ring, filter_snoc placed]
  ahead := by
    rw [FramePool.ahead_relinquish index vacated.points (vacated.distinct distinct), vacated.ahead,
      filter_snoc placed]
  points := FramePool.points_relinquish index vacated.points
  directories := (Machine.length_setDirectory _ _).trans vacated.directories
  elsewhere other differ := by
    refine (after.directory_setDirectory_of_ne _ ?_).trans (vacated.elsewhere other differ)
    rw [vacated.space_eq, vacated.space_eq]
    exact differ
  own := by
    refine (after.directory_setDirectory_self _ ?_).trans ?_
    · rw [vacated.space_eq, vacated.directories]
      exact known
    · rw [List.foldl_append, vacated.own]
      simp [Page.unmappedFrom, Page.isResident, placed]

end

/-- One more page gives up what it holds. -/
theorem next {page : Page} (known : (machine.space space).directory < machine.directories.length)
    (distinct : machine.pool.clock.Nodup)
    (held : ∀ frame, page.state = .resident frame → machine.pool.Holds frame space)
    (fresh : ∀ frame, page.state = .resident frame → frame ∉ Page.frames pages) :
    machine.Vacated space (pages ++ [page]) (after.vacate space page) := by
  unfold Machine.vacate
  cases state : page.state with
  | unloaded => exact vacated.next_unloaded state
  | swapped slot => exact vacated.next_swapped state
  | resident frame =>
    obtain ⟨index, _, named, _⟩ := held frame state
    have placed : page.frame? = some (machine.pool.number index) := by rw [Page.frame?, state, named]
    have place : frame.value - after.pool.base.value = index := by
      rw [vacated.base, named, FramePool.number_sub]
    dsimp only
    rw [place]
    exact vacated.next_resident placed (named ▸ fresh frame state) known distinct

theorem logged (log : List Event) : machine.Vacated space pages { after with log } where
  others := by
    obtain ⟨_, _, _, _, rfl⟩ := vacated.others
    exact ⟨_, _, _, _, rfl⟩
  disk := vacated.disk
  capacity := vacated.capacity
  marks := vacated.marks
  base := vacated.base
  size := vacated.size
  entries := vacated.entries
  free := vacated.free
  ring := vacated.ring
  ahead := vacated.ahead
  points := vacated.points
  directories := vacated.directories
  elsewhere := vacated.elsewhere
  own := vacated.own

/-- Frames that no such page is in are held as before. -/
theorem holds {frame : FrameNumber} {owner : SpaceId} (held : machine.pool.Holds frame owner)
    (kept : frame ∉ Page.frames pages) : after.pool.Holds frame owner := by
  obtain ⟨index, inside, rfl, owned⟩ := held
  refine ⟨index, ?_, (vacated.number index).symm, ?_⟩
  · rw [vacated.ring]
    exact List.mem_filter.2 ⟨inside, decide_eq_true kept⟩
  · rw [vacated.entries, if_neg kept]
    exact owned

end Machine.Vacated

namespace Kernel

/-- Nothing stops a page from giving up what it holds. -/
theorem releaseHolding_vacates {start : Machine} {space : SpaceId} {page : Page}
    (within : ∀ index ∈ start.pool.clock, index < start.pool.capacity)
    (held : ∀ frame, page.state = .resident frame → start.pool.Holds frame space) :
    Outcome start (releaseHolding space page) (fun _ next => ∃ log, start.log <:+ log ∧
      next = { start.vacate space page with log }) Never := by
  have ends : Outcome start (releaseHolding space page) (fun _ _ => True) Never := by
    unfold releaseHolding
    split
    · exact .ret trivial
    · refine .look (.step ?_)
      split
      · exact .change trivial
      · exact .ret trivial
    · rename_i frame resident
      obtain ⟨index, inside, named, owned⟩ := held frame resident
      have found : start.pool.index frame = .ok index := FramePool.index_ok.2 ⟨named, within index inside⟩
      have located {now : Machine} (pool : now.pool = start.pool) : Outcome now (poolIndex frame)
          (fun place next => place = index ∧ next.pool = start.pool) Never :=
        .orStop (by rw [pool]; exact found) ⟨rfl, pool⟩
      have unmapped : Outcome start (unmap space page.addr) (fun _ next => next.pool = start.pool) Never :=
        .changeGet rfl
      refine unmapped.bind fun _ _ pool => (located pool).bind fun _ _ there => .look ?_
      obtain ⟨rfl, pool⟩ := there
      rw [pool]
      dsimp only
      split
      · exact .step (.change trivial)
      · refine (located pool).bind fun _ _ there => .look ?_
        rw [there.1, there.2, owned]
        exact .change trivial
  refine (ends.and_ok fun _ _ ran => ?_).weaken fun _ _ ended => ended.2
  obtain ⟨log, grows, same⟩ := releaseHolding_ok ran held
  refine ⟨log, ?_, same⟩
  have freed : start.log <:+ start.freeing page.state := by
    unfold Machine.freeing
    split
    · split
      · exact List.suffix_refl _
      · exact List.suffix_cons _ _
    · exact List.suffix_refl _
  exact freed.trans grows.suffix

theorem releaseAll_vacates {machine now : Machine} {space : SpaceId} {done pages : List Page}
    (known : (machine.space space).directory < machine.directories.length) (sound : machine.pool.Sound)
    (held : ∀ page ∈ pages, ∀ frame, page.state = .resident frame → machine.pool.Holds frame space)
    (distinct : (Page.frames (done ++ pages)).Nodup) (vacated : machine.Vacated space done now)
    (told : machine.log <:+ now.log) :
    Outcome now (pages.forM (releaseHolding space)) (fun _ next =>
      machine.Vacated space (done ++ pages) next ∧ machine.log <:+ next.log) Never := by
  induction pages generalizing done now with
  | nil =>
    rw [List.append_nil]
    exact .ret ⟨vacated, told⟩
  | cons page rest ih =>
    have split : done ++ page :: rest = (done ++ [page]) ++ rest := by simp
    have fresh : ∀ frame, page.state = .resident frame → frame ∉ Page.frames done := by
      intro frame resident inside
      rw [Page.frames, List.filterMap_append, List.nodup_append'] at distinct
      exact distinct.2.2 inside (List.mem_filterMap.2 ⟨page, List.mem_cons_self, by rw [Page.frame?, resident]⟩)
    have here := held page List.mem_cons_self
    have within : ∀ index ∈ now.pool.clock, index < now.pool.capacity := by
      intro index inside
      rw [vacated.ring] at inside
      rw [vacated.size]
      exact sound.within (sound.ring.1 (List.mem_filter.1 inside).1).1
    have gives := releaseHolding_vacates within fun frame resident =>
      vacated.holds (here frame resident) (fresh frame resident)
    refine gives.bind fun _ _ ended => ?_
    obtain ⟨log, grows, rfl⟩ := ended
    rw [split] at distinct ⊢
    exact ih (fun page member => held page (List.mem_cons_of_mem _ member)) distinct
      ((vacated.next known sound.distinct here fresh).logged log) (told.trans grows)

end Kernel

end

end DemandPaging
