import DemandPaging.Proofs.Books
import DemandPaging.Proofs.ReadBack

/-! What reading the contents of a page changes, as long as other parties do no more than have files and the
swap device fail: the frame that the page is read into, and what is counted of the transfers. A slot is read to
its end unless the device fails. -/
namespace DemandPaging

/-- Once it has been used up, the controller lets no read through. -/
theorem Disk.readPart_spent {disk : Disk} (spent : disk.readsLeft = some 0) (sector length : Nat) :
    disk.readPart sector length = (.error .device, disk) := by
  unfold readPart read
  rw [spent]
  split <;> rfl

theorem SwapStore.length_layout [Geometry] (swap : SwapStore) (slot : SwapSlot) :
    (swap.layout slot).length = sectorsPerSlot swap.disk.sectorSize := by
  simp [layout]

variable [Architecture]

/-- Other parties whose turns come to an end, and who have reads of files and of the swap device fail or come
through, and do nothing else. -/
def Interference.Aloof (others : Interference) : Prop :=
  ∀ hook machine, ∃ modes readsLeft, others.turn hook machine = .ok () (machine.failing modes readsLeft)

/-- Other parties that leave it at the reads that the swap device lets through. -/
def Interference.Sparing (others : Interference) : Prop :=
  ∀ {hook machine after}, others.turn hook machine = .ok () after →
    after.swap.disk.readsLeft = machine.swap.disk.readsLeft

theorem Interference.Aloof.failing {others : Interference} (aloof : others.Aloof) : others.Failing := by
  intro hook machine after ended
  obtain ⟨modes, readsLeft, turned⟩ := aloof hook machine
  rw [turned] at ended
  cases ended
  exact ⟨modes, readsLeft, rfl⟩

theorem Interference.aloof_none : Interference.none.Aloof := by
  intro hook machine
  refine ⟨fun file => (machine.file file).mode, machine.swap.disk.readsLeft, ?_⟩
  have files : (machine.files.mapIdx fun file opened =>
      { opened with mode := (machine.file file).mode }) = machine.files := by
    refine List.ext_getElem List.length_mapIdx fun i _ inside => ?_
    simp [Machine.file, List.getD_eq_getElem?_getD, inside]
  have same : machine.failing (fun file => (machine.file file).mode) machine.swap.disk.readsLeft = machine := by
    unfold Machine.failing
    rw [files]
  rw [same]
  cases hook <;> rfl

theorem Interference.sparing_none : Interference.none.Sparing := by
  intro hook machine after ended
  cases hook <;> cases ended <;> rfl

/-- What reading into a frame can change: the bytes in the frame, how files and the swap device answer, and
what is counted of the transfers. -/
structure Machine.Fed (start : Machine) (frame : FrameNumber) (next : Machine) : Prop where
  rest : ∃ memory files reads readsLeft swapReads fileReads, next = { start with
    memory, files
    swap := { start.swap with disk := { start.swap.disk with reads, readsLeft } }
    stats := { start.stats with swapReads, fileReads } }
  frames : ∀ other, other ≠ frame → next.memory.read other = start.memory.read other
  files : ∀ file, (next.file file).contents = (start.file file).contents

namespace Machine.Fed
variable {start mid next : Machine} {frame : FrameNumber}

theorem refl (start : Machine) (frame : FrameNumber) : start.Fed frame start :=
  ⟨⟨_, _, _, _, _, _, rfl⟩, fun _ _ => rfl, fun _ => rfl⟩

theorem trans (first : start.Fed frame mid) (second : mid.Fed frame next) : start.Fed frame next := by
  refine ⟨?_, fun other differ => (second.frames other differ).trans (first.frames other differ),
    fun file => (second.files file).trans (first.files file)⟩
  obtain ⟨_, _, _, _, _, _, rfl⟩ := first.rest
  obtain ⟨memory, files, reads, readsLeft, swapReads, fileReads, rfl⟩ := second.rest
  exact ⟨memory, files, reads, readsLeft, swapReads, fileReads, rfl⟩

theorem failing (start : Machine) (frame : FrameNumber) (modes : FileId → FileMode)
    (readsLeft : Option Nat) : start.Fed frame (start.failing modes readsLeft) := by
  refine ⟨⟨_, _, _, _, _, _, rfl⟩, fun _ _ => rfl, fun file => ?_⟩
  simp only [Machine.file, Machine.failing, List.getD_eq_getElem?_getD, List.getElem?_mapIdx]
  cases start.files[file]? <;> rfl

/-- Only the size and the number of the sectors decide where a slot is. -/
theorem shape (fed : start.Fed frame next) : next.swap.shape = start.swap.shape := by
  obtain ⟨_, _, _, _, _, _, rfl⟩ := fed.rest
  rfl

theorem spaces (fed : start.Fed frame next) : next.spaces = start.spaces := by
  obtain ⟨_, _, _, _, _, _, rfl⟩ := fed.rest
  rfl

end Machine.Fed

/-- How sectors are transferred to a frame: to the end, or until the device fails. -/
structure Machine.Streams (start : Machine) (others : Interference) (frame : FrameNumber) (sectors : Nat)
    (result : Except BlockError α) (next : Machine) : Prop extends start.Fed frame next where
  stats : next.stats = start.stats
  through : ∀ a, result = .ok a → next.swap.disk.reads = start.swap.disk.reads + sectors
  fails : ∀ error, result = .error error → error = .device ∧
    (others.Sparing → next.swap.disk.readsLeft = some 0)
  spent : others.Sparing → start.swap.disk.readsLeft = some 0 → next.swap.disk.readsLeft = some 0

/-- What is read into a frame comes from elsewhere than the swap device. -/
structure Machine.FedElsewhere (start : Machine) (others : Interference) (frame : FrameNumber)
    (next : Machine) : Prop extends start.Fed frame next where
  reads : next.swap.disk.reads = start.swap.disk.reads
  swapReads : next.stats.swapReads = start.stats.swapReads
  left : others.Sparing → next.swap.disk.readsLeft = start.swap.disk.readsLeft

structure Machine.Populates (start : Machine) (others : Interference) (load : Load)
    (result : Except FaultError Unit) (next : Machine) : Prop extends start.Fed load.frame next where
  /-- A slot that was read to its end counts as one, and all of its sectors do. -/
  through : ∀ {slot}, load.page.state = .swapped slot → result = .ok () →
    next.swap.disk.reads = start.swap.disk.reads + SwapStore.sectorsPerSlot start.swap.disk.sectorSize ∧
      next.stats.swapReads = start.stats.swapReads + 1
  fails : ∀ {slot}, load.page.state = .swapped slot → ∀ error, result = .error error →
    error = .swap (.io .device) ∧ next.stats.swapReads = start.stats.swapReads ∧
      (others.Sparing → next.swap.disk.readsLeft = some 0)
  /-- Where there is no slot, the device is left alone. -/
  unsaved : (∀ slot, load.page.state ≠ .swapped slot) → start.FedElsewhere others load.frame next
  spent : others.Sparing → start.swap.disk.readsLeft = some 0 → next.swap.disk.readsLeft = some 0

namespace Kernel

def OtherThanExhausted (cause : Fatal) (_ : Machine) : Prop := cause ≠ .swapExhausted

variable {start : Machine} {others : Interference} {load : Load}

theorem turn_fails (aloof : others.Aloof) (hook : Hook) : Outcome start (others.turn hook)
    (fun _ next => (∃ modes readsLeft, next = start.failing modes readsLeft) ∧
      (others.Sparing → next.swap.disk.readsLeft = start.swap.disk.readsLeft)) OtherThanExhausted := by
  obtain ⟨modes, readsLeft, turned⟩ := aloof hook start
  exact .ended turned ⟨⟨modes, readsLeft, rfl⟩, fun sparing => sparing turned⟩

theorem readFrame_keeps {frame : FrameNumber} :
    Outcome start (readFrame frame) (fun _ next => start = next) OtherThanExhausted := by
  have notExhausted := start.memory.notExhausted_read frame
  apply Outcome.look
  cases read : start.memory.read frame with
  | error cause =>
    rw [read] at notExhausted
    exact .stopped rfl fun same => notExhausted (congrArg Except.error same)
  | ok bytes => exact .ret rfl

theorem writeFrame_feeds {frame : FrameNumber} {offset : Nat} {bytes : Bytes} :
    Outcome start (writeFrame frame offset bytes) (fun _ next => ∃ memory, next = { start with memory } ∧
      start.Fed frame next) OtherThanExhausted := by
  have notExhausted := start.memory.notExhausted_write frame offset bytes
  refine .look ?_
  cases written : start.memory.write frame offset bytes with
  | error cause =>
    rw [written] at notExhausted
    exact .stopped rfl fun same => notExhausted (congrArg Except.error same)
  | ok memory =>
    refine .change ⟨memory, rfl, ?_⟩
    exact ⟨⟨_, _, _, _, _, _, rfl⟩, fun _ differ => Memory.read_write_of_ne written differ, fun _ => rfl⟩

theorem readSector_streams (aloof : others.Aloof) (frame : FrameNumber) {source : Option Load}
    {sector length : Nat} (inside : sector < start.swap.disk.count) :
    Outcome start (readSector others source sector length)
      (start.Streams others frame 1) OtherThanExhausted := by
  refine (turn_fails aloof (.sector source)).bind fun _ mid ⟨⟨modes, readsLeft, same⟩, spares⟩ => ?_
  apply Outcome.changeGet
  have fed : start.Fed frame mid := same ▸ .failing start frame modes readsLeft
  have inside : sector < mid.swap.disk.count := by
    rw [same]
    exact inside
  have stats : mid.stats = start.stats := by rw [same]; rfl
  have before : mid.swap.disk.reads = start.swap.disk.reads := by rw [same]; rfl
  have spent : mid.swap.disk.readsLeft = some 0 →
      mid.swap.disk.readPart sector length = (.error .device, mid.swap.disk) := fun spent =>
    Disk.readPart_spent spent sector length
  have reads := mid.swap.disk.reads_readPart sector length
  dsimp only
  generalize mid.swap.disk.readPart sector length = step at reads spent ⊢
  obtain ⟨outcome, disk⟩ := step
  cases reads with
  | through =>
    refine ⟨fed.trans ⟨⟨_, _, _, _, _, _, rfl⟩, fun _ _ => rfl, fun _ => rfl⟩, stats, fun _ _ => ?_, nofun,
      fun sparing none => ?_⟩
    · exact congrArg (· + 1) before
    · cases spent ((spares sparing).trans none)
  | failed used =>
    refine ⟨fed.trans (.refl mid frame), stats, nofun, fun _ failed => ?_, fun sparing none => ?_⟩
    · cases failed
      exact ⟨rfl, fun _ => used⟩
    · exact (spares sparing).trans none
  | beyond outside => exact absurd inside outside


theorem loadChunk_streams (aloof : others.Aloof) {chunk : Chunk}
    (inside : chunk.sector < start.swap.disk.count) :
    Outcome start (loadChunk others load chunk) (start.Streams others load.frame 1) OtherThanExhausted := by
  refine (readSector_streams aloof load.frame inside).bind fun result mid streams => ?_
  cases result with
  | error error =>
    exact .ret ⟨streams.toFed, streams.stats, nofun, fun _ failed => streams.fails _ (by cases failed; rfl),
      streams.spent⟩
  | ok bytes =>
    refine writeFrame_feeds.bind fun _ next ⟨memory, same, fed⟩ => .ret ?_
    refine ⟨streams.toFed.trans fed, ?_, fun _ _ => ?_, nofun, fun sparing none => ?_⟩
    · rw [same]
      exact streams.stats
    · rw [same]
      exact streams.through bytes rfl
    · rw [same]
      exact streams.spent sparing none

theorem loadChunks_stream (aloof : others.Aloof) {chunks : List Chunk}
    (inside : ∀ chunk ∈ chunks, chunk.sector < start.swap.disk.count) :
    Outcome start (transferChunks (loadChunk others load) chunks)
      (start.Streams others load.frame chunks.length) OtherThanExhausted := by
  induction chunks generalizing start with
  | nil => exact .ret ⟨.refl _ _, rfl, fun _ _ => rfl, nofun, fun _ none => none⟩
  | cons chunk rest ih =>
    refine (loadChunk_streams aloof (inside chunk List.mem_cons_self)).bind fun result mid streams => ?_
    cases result with
    | error error => exact .ret ⟨streams.toFed, streams.stats, nofun, streams.fails, streams.spent⟩
    | ok =>
      have count : mid.swap.disk.count = start.swap.disk.count := congrArg (·.2.1) streams.shape
      refine (ih fun other member => ?_).weaken fun result next later => ?_
      · rw [count]
        exact inside other (List.mem_cons_of_mem _ member)
      · refine ⟨streams.toFed.trans later.toFed, later.stats.trans streams.stats, fun _ ended => ?_,
          later.fails, fun sparing none => later.spent sparing (streams.spent sparing none)⟩
        rw [later.through _ ended, streams.through _ rfl, List.length_cons]
        omega

theorem readSlot_streams (aloof : others.Aloof) {slot : SwapSlot} (placed : start.swap.OnDisk)
    (used : start.swap.isOccupied slot = true) (inside : slot.index < start.swap.capacity) :
    Outcome start (readSlot others (some load) slot pageSize (writeFrame load.frame) : Kernel _)
      (fun result next => ∃ ends, result = Except.mapError .io ends ∧ start.Streams others load.frame
        (SwapStore.sectorsPerSlot start.swap.disk.sectorSize) ends next) OtherThanExhausted := by
  have readable : start.swap.readable slot pageSize = .ok () := by simp [SwapStore.readable, used]
  apply Outcome.look
  dsimp only
  rw [readable]
  change Outcome start (transferChunks (loadChunk others load) _ >>= _) _ _
  rw [← start.swap.length_layout slot]
  refine (loadChunks_stream aloof fun chunk member => placed.sector_lt inside member).bind
    fun result next streams => ?_
  cases result with
  | ok => exact .ret ⟨_, rfl, streams⟩
  | error error => exact .ret ⟨_, rfl, streams⟩

/-- The device is left alone while a file is read. -/
theorem fillFromFile_feeds (aloof : others.Aloof) {segment : FileSegment} :
    Outcome start (fillFromFile others load segment).run
      (fun _ next => start.FedElsewhere others load.frame next) OtherThanExhausted := by
  have writes {now : Machine} (known : start.FedElsewhere others load.frame now) {offset : Nat}
      {bytes : Bytes} : Outcome now (writeFrame load.frame offset bytes)
        (fun _ next => start.FedElsewhere others load.frame next) OtherThanExhausted := by
    refine writeFrame_feeds.weaken fun _ next ⟨memory, same, fed⟩ => ⟨known.toFed.trans fed, ?_, ?_, ?_⟩
    all_goals rw [same]
    · exact known.reads
    · exact known.swapReads
    · exact known.left
  have zeros {now : Machine} (known : start.FedElsewhere others load.frame now) : Outcome now
      (ExceptT.lift (writeFrame load.frame segment.readBytes (List.replicate segment.zeroBytes 0)) :
        Faulting Unit).run (fun _ next => start.FedElsewhere others load.frame next) OtherThanExhausted :=
    .run_last (writes known) fun _ _ done => done
  unfold fillFromFile
  dsimp only
  split
  · refine .run_lift (turn_fails aloof (.file load segment.file))
      fun _ mid ⟨⟨modes, readsLeft, same⟩, spares⟩ => .run_look (.run_step ?_)
    have known : start.FedElsewhere others load.frame (mid.setFile segment.file
        ((mid.file segment.file).readAt segment.offset segment.readBytes).2) := by
      obtain ⟨contents, _⟩ := (mid.file segment.file).readAt_eq segment.offset segment.readBytes
      have fed : start.Fed load.frame mid := same ▸ .failing start load.frame modes readsLeft
      have read : mid.Fed load.frame (mid.setFile segment.file
          ((mid.file segment.file).readAt segment.offset segment.readBytes).2) :=
        ⟨⟨_, _, _, _, _, _, rfl⟩, fun _ _ => rfl, fun file => mid.contents_setFile contents file⟩
      refine ⟨fed.trans read, ?_, ?_, fun sparing => spares sparing⟩
      · rw [same]
        rfl
      · rw [same]
        rfl
    split
    · exact .run_fail known
    · refine .run_lift (writes known) fun _ now filled => ?_
      split
      · exact .run_fail filled
      · refine .run_step (zeros ⟨filled.toFed.trans ?_, filled.reads, filled.swapReads, filled.left⟩)
        exact ⟨⟨_, _, _, _, _, _, rfl⟩, fun _ _ => rfl, fun _ => rfl⟩
  · exact zeros ⟨.refl _ _, rfl, rfl, fun _ => rfl⟩

theorem populate_feeds (aloof : others.Aloof) (away : load.page.isResident = false)
    (placed : start.swap.OnDisk) (owned : ∀ slot, load.page.state = .swapped slot →
      start.swap.isOccupied slot = true ∧ slot.index < start.swap.capacity) :
    Outcome start (populate others load).run (start.Populates others load) OtherThanExhausted := by
  have elsewhere : (∀ slot, load.page.state ≠ .swapped slot) → ∀ {result next},
      start.FedElsewhere others load.frame next → start.Populates others load result next :=
    fun unsaved _ _ fed => ⟨fed.toFed, fun state => absurd state (unsaved _),
      fun state => absurd state (unsaved _), fun _ => fed,
      fun sparing none => (fed.left sparing).trans none⟩
  refine .run_lift readFrame_keeps fun _ mid same => ?_
  subst same
  cases state : load.page.state with
  | resident frame => simp [Page.isResident, Page.frame?, state] at away
  | swapped slot =>
    obtain ⟨used, inside⟩ := owned slot state
    refine .run_lift (readSlot_streams aloof placed used inside) fun _ next read => ?_
    obtain ⟨ends, mapped, streams⟩ := read
    cases ends with
    | error error =>
      cases mapped
      obtain ⟨rfl, spent⟩ := streams.fails error rfl
      refine .ret ⟨streams.toFed, fun _ ended => ?_, fun _ _ failed => ?_,
        fun unsaved => absurd state (unsaved slot), streams.spent⟩
      · cases ended
      · cases failed
        exact ⟨rfl, congrArg Stats.swapReads streams.stats, spent⟩
    | ok =>
      cases mapped
      refine .run_change ⟨streams.toFed.trans ⟨⟨_, _, _, _, _, _, rfl⟩, fun _ _ => rfl, fun _ => rfl⟩,
        fun _ _ => ⟨streams.through _ rfl, ?_⟩, fun _ _ failed => ?_,
        fun unsaved => absurd state (unsaved slot), streams.spent⟩
      · exact congrArg (fun stats => stats.swapReads + 1) streams.stats
      · cases failed
  | unloaded =>
    have elsewhere := @elsewhere fun slot same => by rw [state] at same; cases same
    cases backing : load.page.backing with
    | unclassified => exact .ret (elsewhere ⟨.refl _ _, rfl, rfl, fun _ => rfl⟩)
    | zero =>
      refine .run_last writeFrame_feeds fun _ next wrote => ?_
      obtain ⟨memory, same, fed⟩ := wrote
      refine elsewhere ⟨fed, ?_, ?_, ?_⟩
      all_goals rw [same]
      exact fun _ => rfl
    | file segment => exact (fillFromFile_feeds aloof).weaken fun _ _ fed => elsewhere fed

end Kernel

end DemandPaging
