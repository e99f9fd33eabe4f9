import DemandPaging.Proofs.Loans

/-! What the kernel writes into pages that it has pinned. It writes to their frames, past the page directory,
so nothing marks the pages as dirty. The bytes are those of the pages from then on, as long as the clock does
not reclaim a page of a file that is not dirty: such a page is dropped, and what was written to it is lost. -/
namespace DemandPaging
open Architecture (Lawful)

section
variable [Architecture]

namespace Machine

/-- The pages of files that are in frames, are not marked as dirty, and have bytes on record all the same. The
clock does not save them. -/
def exposed (machine : Machine) (written : Written) : Exposed := fun space addr generation =>
  ∃ page frame, (machine.registry space).pages.get? addr = some page ∧ page.generation = generation ∧
    page.state = .resident frame ∧ machine.isDirty space addr = false ∧
      page.backing.alwaysSwaps = false ∧ ¬written.Misses space addr

/-- What is on record after bytes were written into the frame of a pin, from `offset` on. The page may have
been unregistered since it was pinned; then the frame is that of no page. -/
def noted (machine : Machine) (written : Written) (pin : Pin) (offset : Nat) (bytes : Bytes) : Written :=
  if ((machine.registry pin.space).pages.get? pin.addr).bind Page.frame? = some pin.frame then
    written.put pin.space (pin.addr.offset offset) bytes
  else written

end Machine

/-- A run from the start of the memory manager, in which the kernel also writes into the frames of the guards it
holds, and what is written to the pages that are registered. Operations are not interrupted but by failures
of files and of the swap device, and no exposed page is reclaimed. -/
inductive Noted : Written → Machine → Prop
  | boot {threshold config memory base disk machine}
      (booted : Machine.boot threshold config memory base disk = .ok machine) :
      Noted (fun _ _ => none) machine
  | run {written machine op others reply next} (noted : Noted written machine)
      (serves : machine.Serves op) (failing : others.Failing)
      (ran : Kernel.perform others op machine = .ok reply next)
      (spares : next.Spares (machine.exposed written)) :
      Noted (next.retained (op.records written reply)) next
  | store {written machine pin offset bytes next} (noted : Noted written machine)
      (held : pin ∈ machine.callers.pins) (fits : offset + bytes.length ≤ pageSize)
      (ran : Kernel.writeFrame pin.frame offset bytes machine = .ok () next) :
      Noted (next.retained (machine.noted written pin offset bytes)) next

theorem Machine.spares_exposed {machine : Machine} {written : Written}
    (sound : ∀ space, (machine.registry space).Sound) : machine.Spares (machine.exposed written) := by
  rintro space addr page found _ ⟨other, _, there, rfl, _⟩
  rw [(sound space).keyed found, found] at there
  cases there
  exact Nat.le_refl _

variable [Lawful] {exposed : Exposed} {written : Written} {seen : SpaceId → VirtualAddress → Option UInt8}
  {ledger : Ledger} {machine next : Machine} {others : Interference} {op : Op} {reply : Reply}

/-- As long as no page has left a frame in which it was exposed, what is exposed can be told from the pages. -/
theorem Faithful.exposing (faithful : Faithful exposed written ⟨ledger, machine⟩)
    (spares : machine.Spares exposed) : Faithful (machine.exposed written) written ⟨ledger, machine⟩ := by
  refine ⟨faithful.toSupplied, faithful.mapped, fun {space addr page} found _ => ?_⟩
  have recalls : machine.Recalls exposed written space page := faithful.recalls found (spares found)
  have sound : (machine.registry space).Sound := faithful.sound space
  have keyed := sound.keyed found
  refine ⟨recalls.unloaded, recalls.resident, fun {frame} resident clean needless => ?_, recalls.swapped⟩
  by_cases misses : written.Misses space page.addr
  · exact .inl misses
  · rw [← keyed] at found
    exact .inr ⟨page, frame, found, rfl, resident, clean, needless, misses⟩

/-- What an operation writes is on record from then on, and all else stays so. -/
theorem Recording.serves (recording : Recording exposed written seen ⟨{}, machine⟩)
    (serves : machine.Serves op) (failing : others.Failing)
    (ran : Kernel.perform others op machine = .ok reply next) :
    Faithful exposed (op.records written reply) ⟨{}, next⟩ := by
  rcases serves with entrusted | borrows
  · exact recording.records entrusted failing ran
  · have passive : op.stores = false := by
      cases op with
      | poke | copyTo => exact borrows.elim
      | _ => rfl
    rw [Op.records_passive passive]
    exact recording.toFaithful.borrows borrows ran

/-- What is written into the frame of a pin is on record from then on. -/
theorem Faithful.notes {pin : Pin} {offset : Nat} {bytes : Bytes}
    (faithful : Faithful (machine.exposed written) written ⟨{}, machine⟩)
    (held : pin ∈ machine.callers.pins) (fits : offset + bytes.length ≤ pageSize)
    (ran : Kernel.writeFrame pin.frame offset bytes machine = .ok () next) :
    ∃ exposed, Faithful exposed (machine.noted written pin offset bytes) ⟨{}, next⟩ ∧
      next.Spares exposed := by
  obtain ⟨memory, wrote, rfl⟩ := Kernel.writeFrame_ok.1 ran
  have sound : ∀ space, (machine.registry space).Sound := faithful.sound
  have spares : machine.Spares (machine.exposed written) := machine.spares_exposed sound
  unfold Machine.noted
  split
  · rename_i there
    obtain ⟨page, found, state⟩ := Option.bind_eq_some_iff.1 there
    have keyed := (sound pin.space).keyed found
    have resident : page.state = .resident pin.frame := by
      unfold Page.frame? at state
      split at state
      · rename_i same
        cases state
        exact same
      · cases state
    rw [← keyed] at found ⊢
    let later : Exposed := fun space addr generation => machine.exposed written space addr generation ∨
      (space = pin.space ∧ addr = page.addr ∧ generation = page.generation)
    have patched : Faithful later _ ⟨{}, { machine with memory }⟩ :=
      faithful.patched found resident fits wrote .inl (.inr (.inr (.inr ⟨rfl, rfl, rfl⟩)))
    refine ⟨later, patched, ?_⟩
    rintro space addr other registered generation (known | ⟨rfl, here, rfl⟩)
    · exact spares registered known
    · have there : (machine.registry pin.space).pages.get? addr = some other := registered
      rw [← (sound pin.space).keyed there, here, found] at there
      cases there
      exact Nat.le_refl _
  · rename_i gone
    -- A page in the frame would be the one that was pinned.
    have empty : ∀ {space addr page}, (machine.registry space).pages.get? addr = some page →
        page.state ≠ .resident pin.frame := by
      intro space addr page found resident
      have placed : machine.placement space addr = some (pin.frame, page.writable) :=
        Registry.placement_eq_some.2 ⟨page, found, resident, rfl⟩
      have consistent : Consistent ⟨{}, machine⟩ := faithful.toConsistent
      obtain ⟨index, named, _, here⟩ := consistent.held.claimed (Multiset.mem_add.2 (.inr held))
      obtain ⟨_, inside, _⟩ := (consistent.held.placed placed).index
      have place : pin.frame.value - machine.pool.base.value = index := by
        rw [named, FramePool.number_sub]
      rw [place] at inside
      obtain ⟨writable, there⟩ := here (consistent.held.sound.ring.1 inside).2
      obtain ⟨owner, registered, state, _⟩ := Registry.placement_eq_some.1 there
      exact gone (Option.bind_eq_some_iff.2 ⟨owner, registered, by rw [Page.frame?, state]⟩)
    refine ⟨machine.exposed written, faithful.rewritten (fun _ member => absurd member List.not_mem_nil)
      (·.write wrote) fun {owner _ other} found spared => ?_, spares⟩
    have recalls : machine.Recalls (machine.exposed written) written owner other :=
      faithful.recalls found spared
    exact recalls.elsewhere wrote (empty found)

/-- All that was written can be had, and nothing else is on record. -/
theorem Noted.recording (noted : Noted written machine) :
    Recording (machine.exposed written) written (machine.byte? written) ⟨{}, machine⟩ := by
  induction noted with
  | @boot threshold config memory base disk machine booted =>
    have recording := (Recorded.boot booted).recording
    exact ⟨recording.toFaithful.exposing (Machine.spares_none machine), recording.blank, id⟩
  | @run written machine op others reply next _ serves failing ran spares recording =>
    have faithful := (recording.serves serves failing ran).retained
    exact ⟨faithful.exposing spares, Machine.blank_retained, id⟩
  | @store written machine pin offset bytes next _ held fits ran recording =>
    obtain ⟨_, faithful, spares⟩ := recording.toFaithful.notes held fits ran
    exact ⟨faithful.retained.exposing spares, Machine.blank_retained, id⟩

/-- What is read is what was written last since the page was registered, be it by its process or by the kernel,
through the page or through its frame, or else what the page began with. -/
theorem Noted.stores_read_back (noted : Noted written machine) (serves : machine.Serves op)
    (failing : others.Failing) (ran : Kernel.perform others op machine = .ok reply next)
    (spares : next.Spares (machine.exposed written)) : op.Answers (next.byte? written) reply := by
  rcases serves with entrusted | borrows
  · exact noted.recording.answers entrusted failing ran spares
  · cases op with
    | peek | copyFrom => exact borrows.elim
    | _ => trivial

/-! Runs that can be computed. -/

/-- Every page of a file that was in a frame and not marked as dirty is there still. -/
def Machine.keepsClean (machine next : Machine) : Bool :=
  (List.range next.spaces.length).all fun space =>
    (next.registry space).pages.values.all fun page =>
      ((machine.registry space).pages.get? page.addr).all fun old =>
        page.generation ≤ old.generation || !old.isResident || machine.isDirty space page.addr ||
          old.backing.alwaysSwaps

omit [Lawful] in
/-- Where files stay clean in their frames, no exposed page has left its frame. -/
theorem Machine.spares_of_keepsClean (keeps : machine.keepsClean next = true) :
    next.Spares (machine.exposed written) := by
  rintro space addr page found _ ⟨old, frame, there, rfl, state, clean, needless, _⟩
  have present := List.all_eq_true.1 keeps space (List.mem_range.2 (next.space_present found))
  have listed : page ∈ (next.registry space).pages.values := by
    rw [SortedMap.values_eq, List.mem_map]
    exact ⟨(addr, page), SortedMap.mem_toList.2 found, rfl⟩
  have kept := List.all_eq_true.1 present page listed
  have resident : old.isResident = true := by rw [Page.isResident, Page.frame?, state]; rfl
  rw [there, Option.all_some, clean, needless, resident, Bool.not_true, Bool.or_false, Bool.or_false,
    Bool.or_false] at kept
  exact of_decide_eq_true kept

omit [Lawful] in
theorem Noted.carried {ops : List Op} (noted : Noted written machine)
    (carries : machine.Carries (fun machine op =>
      machine.Serves op ∧ machine.keepsClean (machine.undisturbed op) = true) ops) :
    Noted (written.after machine ops) (ops.foldl Machine.undisturbed machine) := by
  induction ops generalizing written machine with
  | nil => exact noted
  | cons op rest ih =>
    obtain ⟨⟨serves, keeps⟩, well, rest⟩ := carries
    obtain ⟨reply, ran⟩ := Kernel.ok_of_endsWell well
    have further := ih (noted.run serves Interference.failing_none ran (Machine.spares_of_keepsClean keeps)) rest
    rw [Written.after, ran]
    exact further

def Machine.stored (machine : Machine) (pin : Pin) (offset : Nat) (bytes : Bytes) : Machine :=
  (Kernel.writeFrame pin.frame offset bytes).leaves machine

omit [Lawful] in
theorem Noted.stores {pin : Pin} {offset : Nat} {bytes : Bytes} (noted : Noted written machine)
    (held : pin ∈ machine.callers.pins) (fits : offset + bytes.length ≤ pageSize)
    (well : (Kernel.writeFrame pin.frame offset bytes).endsWell machine = true) :
    Noted ((machine.stored pin offset bytes).retained (machine.noted written pin offset bytes))
      (machine.stored pin offset bytes) := by
  obtain ⟨_, ran⟩ := Kernel.ok_of_endsWell well
  exact noted.store held fits ran

end

section
attribute [local instance] Architecture.small

def pinnedPairOps : List Op :=
  [.createSpace none ⟨0, []⟩, .openFile (List.replicate 16 119) .working,
    .registerSegment 0 0 0 0x1000 16 0 true,
    .registerZero 0 0x1010 2 true, .pin 0 0x1000 32 .write]

def pinnedPair : Machine := pinnedPairOps.foldl Machine.undisturbed twoFrames

def storedPair : Machine :=
  (pinnedPair.stored ⟨0, ⟨0x1000⟩, ⟨4⟩⟩ 4 [1, 2, 3]).stored ⟨0, ⟨0x1010⟩, ⟨5⟩⟩ 0 [9]

/-- The pins are dropped, the process writes to the page of the file as well, and both pages have to leave
their frames. -/
def evictedPairOps : List Op :=
  [.unpin 0, .poke 0 0x1000 7, .touch 0 0x1020 .read, .touch 0 0x1010 .read]

def evictedPair : Machine := evictedPairOps.foldl Machine.undisturbed storedPair

/-- What the kernel and the process have written is read from both pages when they have come back. -/
theorem evictedPair_reads_back : ∃ written, Noted written evictedPair ∧
    evictedPair.Serves (.copyFrom 0 0x1000 17) ∧ Interference.none.Failing ∧ ∃ next,
      Kernel.perform .none (.copyFrom 0 0x1000 17) evictedPair =
        .ok (.bytes ([7, 119, 119, 119, 1, 2, 3] ++ List.replicate 9 119 ++ [9])) next ∧
      next.Spares (evictedPair.exposed written) ∧
      (Op.copyFrom 0 0x1000 17).Answers (next.byte? written)
        (.bytes ([7, 119, 119, 119, 1, 2, 3] ++ List.replicate 9 119 ++ [9])) := by
  have booted : Machine.boot none (.ofFrames 2) (.mapped 4 2) ⟨4⟩ { sectorSize := 4, count := 8 } =
      .ok twoFrames := rfl
  have pinned := (Noted.boot booted).carried (by decide +kernel : twoFrames.Carries _ pinnedPairOps)
  have first := pinned.stores (by decide +kernel : ⟨0, ⟨0x1000⟩, ⟨4⟩⟩ ∈ pinnedPair.callers.pins)
    (by decide : 4 + [(1 : UInt8), 2, 3].length ≤ _) (by decide +kernel)
  have second := first.stores
    (by decide +kernel : ⟨0, ⟨0x1010⟩, ⟨5⟩⟩ ∈ (pinnedPair.stored ⟨0, ⟨0x1000⟩, ⟨4⟩⟩ 4 [1, 2, 3]).callers.pins)
    (by decide : 0 + [(9 : UInt8)].length ≤ _) (by decide +kernel)
  have noted := second.carried (by decide +kernel : storedPair.Carries _ evictedPairOps)
  have serves : evictedPair.Serves (.copyFrom 0 0x1000 17) := by decide +kernel
  have told : (Kernel.perform .none (.copyFrom 0 0x1000 17)).bytes? evictedPair =
      some ([7, 119, 119, 119, 1, 2, 3] ++ List.replicate 9 119 ++ [9]) := by
    decide +kernel
  have ran := Kernel.ok_of_bytes? told
  have keeps : evictedPair.keepsClean
      ((Kernel.perform .none (.copyFrom 0 0x1000 17)).leaves evictedPair) = true := by
    decide +kernel
  exact ⟨_, noted, serves, Interference.failing_none, _, ran, Machine.spares_of_keepsClean keeps,
    noted.stores_read_back serves Interference.failing_none ran (Machine.spares_of_keepsClean keeps)⟩

/-- A page of a file that nobody but the kernel writes to is dropped when its frame is needed, and what the
kernel has written is lost. -/
theorem droppedPage_forgets :
    let dropped := Machine.undisturbed (storedPair.undisturbed (.unpin 0)) (.touch 0 0x1020 .read)
    Reached .offered [] pinnedPair ∧ ⟨0, ⟨0x1000⟩, ⟨4⟩⟩ ∈ pinnedPair.callers.pins ∧
      (Kernel.perform .none (.copyFrom 0 0x1004 3)).bytes? storedPair = some [1, 2, 3] ∧
      (Kernel.perform .none (.copyFrom 0 0x1004 3)).bytes? dropped = some [119, 119, 119] := by
  exact ⟨twoFrames_reached.carried id (by decide +kernel), by decide +kernel, by decide +kernel,
    by decide +kernel⟩

end

end DemandPaging
