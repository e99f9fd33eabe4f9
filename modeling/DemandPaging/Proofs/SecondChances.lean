import DemandPaging.Proofs.ClockHand
import DemandPaging.Proofs.RingOrder
import DemandPaging.Proofs.Safety
import Mathlib.Data.List.TakeWhile

/-! What the second-chance clock does, exactly. From the hand on, the ring is read once: the unpinned
frames before the first whose page was not accessed get a second chance, and that frame is reclaimed. If
the page of every unpinned frame was accessed, all of them get a second chance, and the first is
reclaimed in the second round. -/
namespace DemandPaging
open Architecture (Lawful SecondChance AccessedBits)

section
variable [Architecture]

namespace Machine

/-- The frames without pins, in the order in which the hand comes to them. -/
def candidates (machine : Machine) : List Nat :=
  (machine.pool.clock.rotate machine.pool.hand).filter fun index => !machine.pool.isPinned index

/-- True if the page in the frame was accessed since the hand was there. -/
def isRecent (machine : Machine) (index : Nat) : Bool :=
  (machine.pool.entry index).owner.any fun owner =>
    ((machine.registry owner).holders.get? (machine.pool.number index)).any (machine.isAccessed owner)

/-- The frames whose pages get a second chance before a frame is reclaimed. -/
def pardoned (machine : Machine) : List Nat := machine.candidates.takeWhile machine.isRecent

def victim? (machine : Machine) : Option Nat :=
  (machine.candidates.find? fun index => !machine.isRecent index).or machine.candidates.head?

variable {machine : Machine} {index other : Nat} {owner space : SpaceId} {page : VirtualAddress}

theorem Evictable.isRecent (evictable : machine.Evictable index owner page) :
    machine.isRecent index = machine.isAccessed owner page := by
  rw [Machine.isRecent, evictable.owned, Option.any_some, evictable.holder, Option.any_some]

theorem Evictable.index_unique (sound : (machine.registry owner).Sound)
    (left : machine.Evictable index owner page) (right : machine.Evictable other owner page) :
    index = other := by
  obtain ⟨_, first⟩ := sound.holders.1 left.holder
  obtain ⟨_, second⟩ := sound.holders.1 right.holder
  rw [first] at second
  exact FramePool.number_injective (Prod.mk.inj (Option.some.inj second)).1

theorem Evictable.page_unique {other : VirtualAddress} (left : machine.Evictable index owner page)
    (right : machine.Evictable index space other) : owner = space ∧ page = other := by
  have same : owner = space := Option.some.inj (left.owned.symm.trans right.owned)
  subst same
  exact ⟨rfl, Option.some.inj (left.holder.symm.trans right.holder)⟩

/-! The ring from the hand on decides. -/

section
variable {passed rest : List Nat} {victim : Nat}
  (around : machine.pool.clock.rotate machine.pool.hand = passed ++ victim :: rest)
  (unpinned : machine.pool.isPinned victim = false)
include around unpinned

/-- The first frame whose page was not accessed is the victim, and those before it are spared. -/
theorem chooses_due (passes : ∀ index ∈ passed, machine.pool.isPinned index = true ∨
    machine.isRecent index = true) (due : machine.isRecent victim = false) :
    machine.victim? = some victim ∧
      machine.pardoned = passed.filter fun index => !machine.pool.isPinned index := by
  have recent : ∀ index ∈ passed.filter fun index => !machine.pool.isPinned index,
      machine.isRecent index = true := by
    intro index member
    obtain ⟨member, free⟩ := List.mem_filter.1 member
    rw [Bool.not_eq_true'] at free
    simpa [free] using passes index member
  have candidates : machine.candidates =
      (passed.filter fun index => !machine.pool.isPinned index) ++
        victim :: rest.filter fun index => !machine.pool.isPinned index := by
    rw [Machine.candidates, around, List.filter_append, List.filter_cons_of_pos (by simp [unpinned])]
  have none : (passed.filter fun index => !machine.pool.isPinned index).find?
      (fun index => !machine.isRecent index) = none := by
    apply List.find?_eq_none.2
    intro index member
    simp [recent index member]
  rw [Machine.victim?, Machine.pardoned, candidates]
  constructor
  · rw [List.find?_append, none, List.find?_cons_of_pos (by simp [due])]
    rfl
  · rw [List.takeWhile_append_of_pos recent, List.takeWhile_cons_of_neg (by simp [due]), List.append_nil]

/-- If all pages were accessed, the first frame is the victim, and all are spared before. -/
theorem chooses_first (pinned : ∀ index ∈ passed, machine.pool.isPinned index = true)
    (recent : ∀ index ∈ machine.candidates, machine.isRecent index = true) :
    machine.victim? = some victim ∧ machine.pardoned = machine.candidates := by
  have none : machine.candidates.find? (fun index => !machine.isRecent index) = none := by
    apply List.find?_eq_none.2
    intro index member
    simp [recent index member]
  have nobody : (passed.filter fun index => !machine.pool.isPinned index) = [] := by
    apply List.filter_eq_nil_iff.2
    intro index member
    simpa using pinned index member
  constructor
  · rw [Machine.victim?, none, Machine.candidates, around, List.filter_append, nobody,
      List.filter_cons_of_pos (by simp [unpinned])]
    rfl
  · exact List.takeWhile_eq_self_iff.2 recent

end

end Machine

variable [Lawful]

structure Machine.Pardons (start : Machine) (indices : List Nat) (now : Machine) : Prop
    extends start.Swept now where
  changes : ∃ directories log, now = { start with directories, log }
  mapping : ∀ {space} {page : VirtualAddress}, space < start.spaces.length → page.IsPage →
    Architecture.mapping (now.directory space) page = Architecture.mapping (start.directory space) page
  accessed : ∀ {space} {page : VirtualAddress}, space < start.spaces.length → page.IsPage →
    (now.isAccessed space page = true ↔ start.isAccessed space page = true ∧
      ∀ index ∈ indices, ¬start.Evictable index space page)

/-- A moment at which every space has a directory of its own. -/
structure Arranged (pool : FramePool) (now : Moment) : Prop extends Ordered pool now where
  mapped : Mapped now.machine

namespace Machine.Pardons
variable {start now : Machine} {indices : List Nat} {index : Nat} {owner : SpaceId} {page : VirtualAddress}

theorem refl (start : Machine) : start.Pardons [] start where
  toSwept := .refl start
  changes := ⟨_, _, rfl⟩
  mapping _ _ := rfl
  accessed _ _ := by simp

end Machine.Pardons

namespace Arranged
variable {pool : FramePool} {start : Moment} {now : Machine} {indices : List Nat} {index : Nat}
  {owner space : SpaceId} {page other : VirtualAddress}

theorem unpinned (arranged : Arranged pool start) (member : index ∈ start.machine.pool.clock)
    (free : start.machine.pool.isPinned index = false) :
    ∃ owner page, start.machine.Evictable index owner page := by
  apply arranged.evictable member
  rw [FramePool.isPinned, decide_eq_false_iff_not] at free
  omega

/-- The bits of other spaces stay as they are when a page gets its second chance. -/
theorem directory_spared (arranged : Arranged pool start) (swept : start.machine.Swept now)
    {frame : FrameNumber} (known : owner < start.machine.spaces.length)
    (there : space < start.machine.spaces.length) :
    (now.spared owner page frame).directory space =
      if owner = space then Architecture.setAccessed (now.directory owner) page false
      else now.directory space := by
  change (now.setDirectory owner _).directory space = _
  split
  · rename_i same
    subst same
    apply now.directory_setDirectory_self
    rw [swept.space_eq, swept.directories]
    exact arranged.present known
  · rename_i differ
    apply now.directory_setDirectory_of_ne
    rw [swept.space_eq, swept.space_eq]
    intro same
    exact differ (arranged.mapped.own known there same)

variable [AccessedBits]

theorem pardon (arranged : Arranged pool start) (pardons : start.machine.Pardons indices now)
    (evictable : start.machine.Evictable index owner page) (frame : FrameNumber) :
    start.machine.Pardons (indices ++ [index]) (now.spared owner page frame) := by
  obtain ⟨is_page, known⟩ := arranged.registered evictable
  have sane := arranged.sane known
  have here := pardons.sane owner sane
  have directory {space : SpaceId} (there : space < start.machine.spaces.length) :
      (now.spared owner page frame).directory space =
        if owner = space then Architecture.setAccessed (now.directory owner) page false
        else now.directory space :=
    arranged.directory_spared pardons.toSwept known there
  constructor
  · exact pardons.toSwept.spare is_page sane
  · obtain ⟨directories, log, same⟩ := pardons.changes
    subst same
    exact ⟨_, _, rfl⟩
  · intro space other there other_page
    rw [directory there, ← pardons.mapping there other_page]
    split
    · rename_i same
      subst same
      exact (Lawful.setAccessed_alike here is_page.canonical).mapping other_page
    · rfl
  · intro space other there other_page
    have same : start.machine.Evictable index space other ↔ owner = space ∧ page = other := by
      constructor
      · exact evictable.page_unique
      · rintro ⟨rfl, rfl⟩
        exact evictable
    rw [Machine.isAccessed, directory there]
    have before := pardons.accessed there other_page
    rw [Machine.isAccessed] at before
    simp only [List.mem_append, List.mem_singleton, or_imp, forall_and, forall_eq, same, ← and_assoc,
      ← before]
    by_cases shared : owner = space
    · subst shared
      rw [if_pos rfl]
      by_cases equal : page = other
      · subst equal
        rw [SecondChance.cleared here is_page]
        simp
      · rw [AccessedBits.accessed_setAccessed here is_page other_page equal]
        simp [equal]
    · simp [shared]

omit [AccessedBits] in
/-- A page was accessed when the hand comes to it, if it was before and has had no second chance. -/
theorem isRecent (arranged : Arranged pool start) (pardons : start.machine.Pardons indices now)
    (evictable : start.machine.Evictable index owner page) :
    now.isRecent index = true ↔ start.machine.isRecent index = true ∧ index ∉ indices := by
  obtain ⟨is_page, known⟩ := arranged.registered evictable
  rw [(pardons.toSwept.evictable evictable).isRecent, evictable.isRecent,
    pardons.accessed known is_page]
  apply and_congr_right
  intro _
  constructor
  · intro none listed
    exact none index listed evictable
  · intro absent other listed same
    rw [evictable.index_unique (arranged.sound owner) same] at absent
    exact absent listed

end Arranged

namespace Kernel

omit [Lawful] in
theorem visit_pinned {machine : Machine} {index : Nat} (frame : FrameNumber)
    (pinned : machine.pool.isPinned index = true) : visit machine index frame = .passOver := by
  have counted : (machine.pool.entry index).pins ≠ 0 := by
    rw [FramePool.isPinned, decide_eq_true_iff] at pinned
    omega
  cases owned : (machine.pool.entry index).owner with
  | none => simp [visit, owned]
  | some owner => simp [visit, owned, counted]

variable [AccessedBits] {pool : FramePool} {start : Moment} {now : Machine}

/-- The hand goes on by one frame that is pinned or was accessed, and in the latter case the frame's page
has its second chance. -/
theorem sweep_next {rest indices : List Nat} {hand index : Nat} (arranged : Arranged pool start)
    (pardons : start.machine.Pardons indices now) (reach : hand ≤ start.machine.pool.clock.length)
    (ahead : start.machine.pool.clock.rotate hand = index :: rest)
    (passes : start.machine.pool.isPinned index = true ∨
      start.machine.isRecent index = true ∧ index ∉ indices) :
    ∃ after place, (∀ visits, sweep (visits + 1) (turned now hand) = sweep visits (turned after place)) ∧
      place ≤ start.machine.pool.clock.length ∧ start.machine.pool.clock.rotate place = rest ++ [index] ∧
      start.machine.Pardons
        (indices ++ [index].filter fun index => !start.machine.pool.isPinned index) after := by
  obtain ⟨inside, here⟩ := FramePool.getElem?_of_rotate reach ahead
  have member := List.mem_of_getElem? here
  have located : now.pool.frameAt index = .ok (pool.number index) := by
    rw [pardons.pool]
    exact arranged.houses.frameAt (arranged.inside member)
  have same : wrapped now hand =
      if hand < start.machine.pool.clock.length then hand else 0 := by
    rw [wrapped, pardons.pool]
  have under : now.pool.clock[wrapped now hand]? = some index := by
    rw [same, pardons.pool]
    exact here
  rw [← same] at inside
  rw [← FramePool.rotate_wrapped _ reach, ← same] at ahead
  have onward := FramePool.rotate_succ ahead
  by_cases pinned : start.machine.pool.isPinned index = true
  · have seen : visit now index (pool.number index) = .passOver := by
      apply visit_pinned
      rw [pardons.pool]
      exact pinned
    refine ⟨now, wrapped now hand + 1, fun visits => ?_, inside, onward, ?_⟩
    · rw [sweep_turned under located, seen]
      rfl
    · simpa [pinned] using pardons
  · have recent := passes.resolve_left pinned
    rw [Bool.not_eq_true] at pinned
    obtain ⟨owner, page, evictable⟩ := arranged.unpinned member pinned
    have seen : visit now index (pool.number index) = .spare owner page := by
      have there := pardons.toSwept.evictable evictable
      have accessed := (arranged.isRecent pardons evictable).2 recent
      rw [there.isRecent] at accessed
      rw [← arranged.houses.number, ← pardons.pool, visit_evictable there, if_pos accessed]
    rw [List.filter_cons_of_pos (by simp [pinned]), List.filter_nil]
    refine ⟨_, wrapped now hand + 1, fun visits => ?_, inside, onward,
      arranged.pardon pardons evictable (pool.number index)⟩
    rw [sweep_turned under located, seen]
    rfl

/-- The hand passes over frames that are pinned or were accessed, and each of the latter has its page's
second chance. -/
theorem sweep_passes {passed rest indices : List Nat} {hand : Nat} (arranged : Arranged pool start)
    (pardons : start.machine.Pardons indices now) (reach : hand ≤ start.machine.pool.clock.length)
    (ahead : start.machine.pool.clock.rotate hand = passed ++ rest)
    (passes : ∀ index ∈ passed, start.machine.pool.isPinned index = true ∨
      start.machine.isRecent index = true ∧ index ∉ indices) :
    ∃ after place, (∀ visits,
        sweep (passed.length + visits) (turned now hand) = sweep visits (turned after place)) ∧
      place ≤ start.machine.pool.clock.length ∧
      start.machine.pool.clock.rotate place = rest ++ passed ∧
      start.machine.Pardons
        (indices ++ passed.filter fun index => !start.machine.pool.isPinned index) after := by
  induction passed generalizing indices now hand rest with
  | nil =>
    refine ⟨now, hand, fun visits => ?_, reach, ?_, ?_⟩
    · rw [List.length_nil, Nat.zero_add]
    · simpa using ahead
    · simpa using pardons
  | cons index passed ih =>
    rw [List.cons_append] at ahead
    have distinct : (index :: (passed ++ rest)).Nodup := by
      rw [← ahead]
      exact List.nodup_rotate.2 arranged.held.sound.distinct
    have later : ∀ other ∈ passed, other ≠ index := by
      rintro other listed rfl
      exact (List.nodup_cons.1 distinct).1 (List.mem_append_left _ listed)
    obtain ⟨next, hand, stepped, reach, onward, pardons⟩ :=
      sweep_next arranged pardons reach ahead (passes index List.mem_cons_self)
    rw [List.append_assoc] at onward
    -- Second chances that were given now are to `index` alone, and no frame comes twice in a round.
    obtain ⟨after, place, walked, ends, behind, pardons⟩ :=
      ih pardons reach onward fun other listed => by
        refine (passes other (List.mem_cons_of_mem _ listed)).imp_right fun skipped => ⟨skipped.1, ?_⟩
        simp [skipped.2, later other listed]
    refine ⟨after, place, fun visits => ?_, ends, ?_, ?_⟩
    · rw [← walked, ← stepped, List.length_cons, Nat.add_right_comm]
    · rw [behind, List.append_assoc, List.singleton_append]
    · rw [← List.singleton_append, List.filter_append, ← List.append_assoc]
      exact pardons

/-- The hand comes to a frame whose page has not been accessed, or has had its second chance. -/
theorem sweep_arrives {passed rest indices : List Nat} {hand victim : Nat} {owner : SpaceId}
    {page : VirtualAddress} (arranged : Arranged pool start)
    (pardons : start.machine.Pardons indices now) (reach : hand ≤ start.machine.pool.clock.length)
    (ahead : start.machine.pool.clock.rotate hand = passed ++ victim :: rest)
    (passes : ∀ index ∈ passed, start.machine.pool.isPinned index = true ∨
      start.machine.isRecent index = true ∧ index ∉ indices)
    (evictable : start.machine.Evictable victim owner page)
    (due : ¬(start.machine.isRecent victim = true ∧ victim ∉ indices)) :
    ∃ after place, start.machine.pool.clock[place]? = some victim ∧
      start.machine.Pardons
        (indices ++ passed.filter fun index => !start.machine.pool.isPinned index) after ∧
      ∀ visits, passed.length < visits → sweep visits (turned now hand) =
        obey 0 victim (pool.number victim) (.reclaim owner) (turned after place) := by
  obtain ⟨after, place, walked, reach, there, pardons⟩ :=
    sweep_passes arranged pardons reach ahead passes
  rw [List.cons_append] at there
  obtain ⟨_, here⟩ := FramePool.getElem?_of_rotate reach there
  have same : wrapped after place = if place < start.machine.pool.clock.length then place else 0 := by
    rw [wrapped, pardons.pool]
  rw [← same] at here
  have under : after.pool.clock[wrapped after place]? = some victim := by
    rw [pardons.pool]
    exact here
  have located : after.pool.frameAt victim = .ok (pool.number victim) := by
    rw [pardons.pool]
    exact arranged.houses.frameAt (arranged.inside (List.mem_of_getElem? here))
  have seen : visit after victim (pool.number victim) = .reclaim owner := by
    have found := pardons.toSwept.evictable evictable
    have distinct : (passed ++ victim :: rest).Nodup := by
      rw [← ahead]
      exact List.nodup_rotate.2 arranged.held.sound.distinct
    have unmet : victim ∉ passed := fun listed =>
      (List.nodup_append.1 distinct).2.2 victim listed victim List.mem_cons_self rfl
    have accessed : ¬after.isAccessed owner page = true := by
      rw [← found.isRecent, arranged.isRecent pardons evictable, List.mem_append, not_or]
      rintro ⟨recent, absent, _⟩
      exact due ⟨recent, absent⟩
    rw [← arranged.houses.number, ← pardons.pool, visit_evictable found, if_neg accessed]
  refine ⟨after, wrapped after place, here, pardons, fun visits enough => ?_⟩
  obtain ⟨more, rfl⟩ : ∃ more, visits = passed.length + (more + 1) :=
    ⟨visits - passed.length - 1, by omega⟩
  rw [walked, sweep_turned under located, seen]
  rfl

/-- The clock comes to `victim` within two rounds, after all second chances that are due before. -/
def Finds (pool : FramePool) (start : Moment) (victim : Nat) : Prop :=
  ∃ owner page now place, start.machine.victim? = some victim ∧
    start.machine.Evictable victim owner page ∧ start.machine.pool.clock[place]? = some victim ∧
    start.machine.Pardons start.machine.pardoned now ∧
    ∀ visits, 2 * start.machine.pool.clock.length ≤ visits → sweep visits start.machine =
      obey 0 victim (pool.number victim) (.reclaim owner) (turned now place)

section
variable {passed rest : List Nat} {victim : Nat} (arranged : Arranged pool start)
  (around : start.machine.pool.clock.rotate start.machine.pool.hand = passed ++ victim :: rest)
  (unpinned : start.machine.pool.isPinned victim = false)
include arranged around unpinned

/-- If a frame has a page that was not accessed, the first of them is found in the first round. -/
theorem finds_due
    (passes : ∀ index ∈ passed, start.machine.pool.isPinned index = true ∨
      start.machine.isRecent index = true)
    (due : start.machine.isRecent victim = false) : Finds pool start victim := by
  have length := congrArg List.length around
  rw [List.length_rotate, List.length_append, List.length_cons] at length
  have listed : victim ∈ start.machine.pool.clock := by
    rw [← List.mem_rotate, around]
    simp
  obtain ⟨owner, page, evictable⟩ := arranged.unpinned listed unpinned
  obtain ⟨chosen, pardoned⟩ := Machine.chooses_due around unpinned passes due
  obtain ⟨now, place, there, pardons, swept⟩ := sweep_arrives arranged (.refl _)
    arranged.held.sound.hand.reach around
    (fun index member => (passes index member).imp_right fun recent => ⟨recent, List.not_mem_nil⟩)
    evictable (by simp [due])
  unfold Finds
  rw [pardoned]
  refine ⟨owner, page, now, place, chosen, evictable, there, pardons, fun visits enough => ?_⟩
  apply swept
  omega

/-- Otherwise the first round gives a second chance to every page, and the second takes the first of
them. -/
theorem finds_first (pinned : ∀ index ∈ passed, start.machine.pool.isPinned index = true)
    (passes : ∀ index ∈ passed ++ victim :: rest, start.machine.pool.isPinned index = true ∨
      start.machine.isRecent index = true) : Finds pool start victim := by
  have length := congrArg List.length around
  rw [List.length_rotate, List.length_append, List.length_cons] at length
  have listed : victim ∈ start.machine.pool.clock := by
    rw [← List.mem_rotate, around]
    simp
  have candidates : start.machine.candidates =
      (passed ++ victim :: rest).filter fun index => !start.machine.pool.isPinned index := by
    rw [Machine.candidates, around]
  have recent : ∀ index ∈ start.machine.candidates, start.machine.isRecent index = true := by
    intro index member
    rw [candidates] at member
    obtain ⟨member, free⟩ := List.mem_filter.1 member
    rw [Bool.not_eq_true'] at free
    simpa [free] using passes index member
  have candidate : victim ∈ start.machine.candidates := by
    simp [candidates, unpinned]
  have nobody : (passed.filter fun index => !start.machine.pool.isPinned index) = [] := by
    apply List.filter_eq_nil_iff.2
    intro index member
    simp [pinned index member]
  obtain ⟨owner, page, evictable⟩ := arranged.unpinned listed unpinned
  obtain ⟨chosen, pardoned⟩ := Machine.chooses_first around unpinned pinned recent
  obtain ⟨now, place, walked, reach, again, pardons⟩ := sweep_passes arranged (.refl _)
    arranged.held.sound.hand.reach (around.trans (List.append_nil _).symm)
    (fun index member => (passes index member).imp_right fun recent => ⟨recent, List.not_mem_nil⟩)
  rw [List.nil_append] at again pardons
  rw [← candidates] at pardons
  obtain ⟨now, place, there, pardons, swept⟩ := sweep_arrives arranged pardons reach again
    (fun index member => .inl (pinned index member)) evictable (fun both => both.2 candidate)
  rw [nobody, List.append_nil] at pardons
  unfold Finds
  rw [pardoned]
  refine ⟨owner, page, now, place, chosen, evictable, there, pardons, fun visits enough => ?_⟩
  obtain ⟨more, rfl⟩ : ∃ more, visits = (passed ++ victim :: rest).length + more :=
    ⟨visits - (passed ++ victim :: rest).length, by simp; omega⟩
  apply (walked more).trans
  apply swept
  rw [List.length_append, List.length_cons] at enough
  omega

end

/-- Two rounds are enough: the clock comes to its victim when it has given all second chances. -/
theorem sweep_finds (arranged : Arranged pool start)
    (free : ∃ index ∈ start.machine.pool.clock, start.machine.pool.isPinned index = false) :
    ∃ victim, Finds pool start victim := by
  generalize around : start.machine.pool.clock.rotate start.machine.pool.hand = ring
  cases first : ring.find? fun index =>
      !start.machine.pool.isPinned index && !start.machine.isRecent index with
  | some victim =>
    obtain ⟨chosen, passed, rest, rfl, passes⟩ := List.find?_eq_some_iff_append.1 first
    rw [Bool.and_eq_true, Bool.not_eq_true', Bool.not_eq_true'] at chosen
    refine ⟨victim, finds_due arranged around chosen.1 (fun index member => ?_) chosen.2⟩
    simpa [Bool.or_eq_true] using passes index member
  | none =>
    obtain ⟨victim, found⟩ : ∃ victim,
        ring.find? (fun index => !start.machine.pool.isPinned index) = some victim := by
      obtain ⟨index, member, unpinned⟩ := free
      apply Option.isSome_iff_exists.1
      apply List.find?_isSome.2
      exact ⟨index, by rwa [← around, List.mem_rotate], by simp [unpinned]⟩
    obtain ⟨unpinned, passed, rest, rfl, pinned⟩ := List.find?_eq_some_iff_append.1 found
    rw [Bool.not_eq_true'] at unpinned
    refine ⟨victim, finds_first arranged around unpinned (fun index member => ?_) fun index member => ?_⟩
    · simpa using pinned index member
    · simpa [or_iff_not_imp_left] using List.find?_eq_none.1 first index member

end Kernel

end
end DemandPaging
