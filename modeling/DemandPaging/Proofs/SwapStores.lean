import DemandPaging.Proofs.Memories
import DemandPaging.Proofs.Slots

/-! A swap store as a partial map from slots to pages. The map is defined by the calls alone: a page
is in the slot that it was written to, until the slot is freed. Whatever calls are made on whatever
device, and whichever transfers the device fails, the store answers as the map says. -/
namespace DemandPaging

namespace Disk
variable {disk after : Disk}

def readChunk (chunk : Chunk) : StateM (Bytes × Disk) (Except BlockError Unit) :=
  fun (buffer, disk) =>
    match disk.readPart chunk.sector chunk.length with
    | (.ok bytes, disk) => (.ok (), buffer.patch chunk.offset bytes, disk)
    | (.error error, disk) => (.error error, buffer, disk)

/-- What a buffer and a disk are like after chunks were sent from one to the other. -/
structure Received (disk : Disk) (buffer : Bytes) (start : Nat) (chunks : List Chunk) (stop : Nat)
    (result : Except BlockError Unit) (filled : Bytes) (after : Disk) : Prop where
  counted : ∃ reads readsLeft writesLeft, after = { disk with reads, readsLeft, writesLeft }
  length : filled.length = buffer.length
  bytes : result = .ok () → filled.take stop =
    buffer.take start ++ chunks.flatMap fun chunk => disk.part chunk.sector chunk.length
  fails : ∀ error, result = .error error → error = .device ∧ disk.readsLeft ≠ none

/-- Chunks without a gap fill the buffer, as far as the controller lets them through. -/
theorem transferChunks_read {start stop : Nat} {chunks : List Chunk} {buffer filled : Bytes} {result}
    (chain : Chain start chunks stop) (room : stop ≤ buffer.length)
    (inside : ∀ chunk ∈ chunks, chunk.sector < disk.count ∧ chunk.length ≤ disk.sectorSize)
    (done : transferChunks readChunk chunks (buffer, disk) = (result, filled, after)) :
    Received disk buffer start chunks stop result filled after := by
  induction chunks generalizing disk buffer start with
  | nil =>
    cases done
    have same : start = stop := chain
    subst same
    exact ⟨⟨_, _, _, rfl⟩, rfl, fun _ => by simp, fun _ failed => by cases failed⟩
  | cons chunk rest ih =>
    obtain ⟨offset, later⟩ := chain
    have reads := disk.reads_readPart chunk.sector chunk.length
    simp only [transferChunks, bind, StateT.bind, readChunk] at done
    generalize disk.readPart chunk.sector chunk.length = step at reads done
    obtain ⟨outcome, mid⟩ := step
    cases reads with
    | @through here readsLeft unlimited =>
      have length : (disk.part chunk.sector chunk.length).length = chunk.length :=
        length_part (inside chunk List.mem_cons_self).2 chunk.sector
      have less := later.start_le
      have fits : chunk.offset + (disk.part chunk.sector chunk.length).length ≤ buffer.length := by
        omega
      have received := ih later (by rw [Bytes.length_patch fits]; exact room)
        (by exact fun other member => inside other (List.mem_cons_of_mem _ member)) done
      obtain ⟨reads, readsLeft, writesLeft, counted⟩ := received.counted
      refine ⟨⟨reads, readsLeft, writesLeft, counted⟩,
        received.length.trans (Bytes.length_patch fits), fun success => ?_, fun error failed => ?_⟩
      · rw [received.bytes success, List.flatMap_cons, ← List.append_assoc, ← offset]
        have joined := @Bytes.take_patch buffer (disk.part chunk.sector chunk.length) chunk.offset
          (by omega)
        rw [length] at joined
        rw [joined]
        rfl
      · obtain ⟨device, limited⟩ := received.fails error failed
        exact ⟨device, fun none => limited (unlimited none)⟩
    | failed spent =>
      cases done
      refine ⟨⟨_, _, _, rfl⟩, rfl, (fun success => by cases success), fun error failed => ?_⟩
      cases failed
      rw [spent]
      exact ⟨rfl, fun unlimited => by cases unlimited⟩
    | beyond outside => exact absurd (inside chunk List.mem_cons_self).1 outside

end Disk

namespace Bitmap
variable {bitmap : Bitmap} {index : Nat}

/-- The marks without the words that they are packed into. -/
def marks (bitmap : Bitmap) : List Bool := (List.range bitmap.length).map bitmap.isSet

theorem length_marks (bitmap : Bitmap) : bitmap.marks.length = bitmap.length := by
  rw [marks, List.length_map, List.length_range]

theorem getElem_marks (inside : index < bitmap.marks.length) : bitmap.marks[index] = bitmap.isSet index := by
  simp [marks]

theorem used_eq_count (bitmap : Bitmap) : bitmap.used = bitmap.marks.count true := by
  rw [bitmap.counted, marks, List.count, List.countP_map]
  exact List.countP_congr fun index _ => by simp [isSet_eq]

theorem firstClear?_eq_findIdx? (bitmap : Bitmap) :
    bitmap.firstClear? = bitmap.marks.findIdx? (· == false) := by
  cases scanned : bitmap.firstClear? with
  | none =>
    refine (List.findIdx?_eq_none_iff.2 fun mark member => ?_).symm
    obtain ⟨index, inside, rfl⟩ := List.mem_map.1 member
    rw [firstClear?_eq_none scanned (List.mem_range.1 inside)]
    rfl
  | some index =>
    obtain ⟨inside, clear, lower⟩ := firstClear?_eq_some scanned
    have within : index < bitmap.marks.length := by rwa [length_marks]
    refine (List.findIdx?_eq_some_iff_getElem.2 ⟨within, ?_, fun other below => ?_⟩).symm
    · rw [getElem_marks, clear]
      rfl
    · rw [getElem_marks, lower other below]
      decide

theorem marks_set (inside : index < bitmap.length) (clear : bitmap.isSet index = false) :
    (bitmap.set index inside clear).marks = bitmap.marks.set index true := by
  refine List.ext_getElem (by simp [marks, set]) fun other _ _ => ?_
  rw [getElem_marks, isSet_set, List.getElem_set]
  by_cases same : index = other
  · simp [same]
  · rw [if_neg same, getElem_marks, decide_eq_false (Ne.symm same), Bool.false_or]

theorem marks_clear (bitmap : Bitmap) (index : Nat) :
    (bitmap.clear index).2.marks = bitmap.marks.set index false := by
  refine List.ext_getElem (by simp [marks, length_clear]) fun other _ _ => ?_
  rw [getElem_marks, isSet_clear, List.getElem_set]
  by_cases same : index = other
  · simp [same]
  · rw [if_neg same, getElem_marks, decide_eq_false (Ne.symm same)]
    rfl

/-- Every item is marked exactly if as many are marked as there are. -/
theorem firstClear?_eq_none_iff (bitmap : Bitmap) :
    bitmap.firstClear? = none ↔ bitmap.used = bitmap.length := by
  rw [firstClear?_eq_findIdx?, used_eq_count, ← length_marks, List.count_eq_length,
    List.findIdx?_eq_none_iff]
  refine forall₂_congr fun mark _ => ?_
  cases mark <;> decide

theorem used_lt (found : bitmap.firstClear? = some index) : bitmap.used < bitmap.length := by
  refine Nat.lt_of_le_of_ne ?_ fun whole => ?_
  · rw [used_eq_count, ← length_marks]
    exact List.count_le_length
  · rw [(firstClear?_eq_none_iff bitmap).2 whole] at found
    cases found

end Bitmap

namespace SwapStore
variable {swap after : SwapStore} {slot : SwapSlot} {page : Bytes}

def inUse (swap : SwapStore) : List SwapSlot :=
  ((List.range swap.capacity).map SwapSlot.mk).filter swap.isOccupied

theorem mem_inUse : slot ∈ swap.inUse ↔ swap.isOccupied slot = true := by
  unfold inUse
  rw [List.mem_filter, List.mem_map]
  refine ⟨And.right, fun occupied => ⟨⟨slot.index, ?_, rfl⟩, occupied⟩⟩
  exact List.mem_range.2 (lt_of_isOccupied occupied)

theorem nodup_inUse (swap : SwapStore) : swap.inUse.Nodup := by
  have slots : ((List.range swap.capacity).map SwapSlot.mk).Nodup :=
    List.Pairwise.map _ (fun _ _ differ same => differ (SwapSlot.mk.inj same)) List.nodup_range
  exact slots.filter _

theorem used_eq (swap : SwapStore) : swap.used = swap.inUse.length := by
  rw [used, swap.bitmap.used_eq_count, Bitmap.marks, inUse, List.filter_map, List.length_map,
    ← List.countP_eq_length_filter, List.count, List.countP_map]
  exact List.countP_congr fun index _ => by simp [isOccupied]

section
variable [Geometry] {held : SwapSlot → Option Bytes}

/-- The calls made on a store since it was opened, and what they alone say about the pages in it.
Between two calls the device may begin or cease to fail, after any number of transfers. -/
inductive Served : SwapStore → (SwapSlot → Option Bytes) → Prop
  | opened {disk : Disk} {swap : SwapStore} (opened : ofDisk disk = .ok swap) : Served swap fun _ => none
  | limited {swap : SwapStore} {held : SwapSlot → Option Bytes} (served : Served swap held)
      (readsLeft writesLeft : Option Nat) :
      Served { swap with disk := { swap.disk with readsLeft, writesLeft } } held
  | wrote {swap : SwapStore} {held : SwapSlot → Option Bytes} (served : Served swap held)
      {page : Bytes} {slot : SwapSlot} (done : (swap.write page).1 = .ok slot) :
      Served (swap.write page).2 (Function.update held slot (some page))
  | unwritten {swap : SwapStore} {held : SwapSlot → Option Bytes} (served : Served swap held)
      {page : Bytes} {error : SwapError} (failed : (swap.write page).1 = .error error) :
      Served (swap.write page).2 held
  | read {swap : SwapStore} {held : SwapSlot → Option Bytes} (served : Served swap held)
      (slot : SwapSlot) (buffer : Bytes) : Served (swap.read slot buffer).2.2 held
  | freed {swap : SwapStore} {held : SwapSlot → Option Bytes} (served : Served swap held)
      (slot : SwapSlot) : Served (swap.free slot).2 (Function.update held slot none)

structure Keeps (swap : SwapStore) (held : SwapSlot → Option Bytes) : Prop where
  size : 0 < swap.disk.sectorSize
  capacity : swap.capacity = swap.disk.count / sectorsPerSlot swap.disk.sectorSize
  occupied : ∀ slot, swap.isOccupied slot = (held slot).isSome
  contents : ∀ slot page, held slot = some page → swap.contents slot = page

/-- What comes of writing a page: all slots are in use and the device is left alone; or the lowest
free slot takes the page; or the device fails and what is held stays. -/
inductive Stores (swap : SwapStore) (held : SwapSlot → Option Bytes) (page : Bytes) :
    Except SwapError SwapSlot → SwapStore → Prop
  | full (used : swap.used = swap.capacity) : Stores swap held page (.error .full) swap
  | stored {slot : SwapSlot} {after : SwapStore} (used : swap.used < swap.capacity)
      (inside : slot.index < swap.capacity) (vacant : held slot = none)
      (lowest : ∀ other : SwapSlot, other.index < slot.index → held other ≠ none)
      (keeps : after.Keeps (Function.update held slot (some page))) :
      Stores swap held page (.ok slot) after
  | failed {after : SwapStore} (used : swap.used < swap.capacity)
      (limited : swap.disk.writesLeft ≠ none) (bitmap : after.bitmap = swap.bitmap)
      (keeps : after.Keeps held) : Stores swap held page (.error (.io .device)) after

/-- What comes of reading a slot: nothing if no page is in it; else the page, or the device fails. -/
inductive Loads (swap : SwapStore) (slot : SwapSlot) (buffer : Bytes) :
    Option Bytes → Except SwapError Unit → Bytes → SwapStore → Prop
  | vacant : Loads swap slot buffer none (.error (.notInUse slot.index)) buffer swap
  | loaded {page : Bytes} {reads : Nat} {readsLeft writesLeft : Option Nat} :
      Loads swap slot buffer (some page) (.ok ()) page
        { swap with disk := { swap.disk with reads, readsLeft, writesLeft } }
  | failed {page filled : Bytes} {reads : Nat} {readsLeft writesLeft : Option Nat}
      (limited : swap.disk.readsLeft ≠ none) :
      Loads swap slot buffer (some page) (.error (.io .device)) filled
        { swap with disk := { swap.disk with reads, readsLeft, writesLeft } }

namespace Keeps

theorem onDisk (keeps : swap.Keeps held) : swap.OnDisk := by
  unfold OnDisk
  rw [keeps.capacity]
  exact Nat.div_mul_le_self _ _

/-- The sectors of a slot are on the disk, and no chunk is empty or longer than a sector. -/
theorem layout_inside (keeps : swap.Keeps held) (inside : slot.index < swap.capacity) {chunk : Chunk}
    (member : chunk ∈ swap.layout slot) : chunk.sector < swap.disk.count ∧
      0 < chunk.length ∧ chunk.length ≤ swap.disk.sectorSize := by
  obtain ⟨i, within, rfl⟩ := mem_layout.1 member
  have short : i * swap.disk.sectorSize < pageSize := by
    have positive := keeps.size
    have most : (i + 1) * swap.disk.sectorSize ≤
        sectorsPerSlot swap.disk.sectorSize * swap.disk.sectorSize :=
      Nat.mul_le_mul_right _ within
    have sectors : sectorsPerSlot swap.disk.sectorSize * swap.disk.sectorSize ≤
        pageSize + swap.disk.sectorSize - 1 := Nat.div_mul_le_self _ _
    have page := pageSize_pos
    rw [Nat.succ_mul] at most
    omega
  exact ⟨keeps.onDisk.sector_lt inside member,
    Nat.lt_min.2 ⟨keeps.size, Nat.sub_pos_of_lt short⟩, Nat.min_le_left _ _⟩

theorem lt_capacity (keeps : swap.Keeps held) (some : (held slot).isSome) :
    slot.index < swap.capacity :=
  lt_of_isOccupied ((keeps.occupied slot).trans some)

theorem length_eq (keeps : swap.Keeps held) (here : held slot = some page) : page.length = pageSize := by
  rw [← keeps.contents slot page here]
  exact swap.length_contents slot keeps.size

theorem opened {disk : Disk} (opened : ofDisk disk = .ok swap) : swap.Keeps fun _ => none := by
  have vacant := isOccupied_ofDisk opened
  obtain ⟨sectors, counted, made⟩ := Fatal.bind_ok.1 opened
  cases made
  unfold Disk.sectorCount at counted
  split at counted
  · cases counted
  · rename_i positive
    cases counted
    exact ⟨Nat.pos_of_ne_zero positive, rfl, vacant, fun _ _ none => (by cases none)⟩

/-- What is held does not depend on the counts that a device keeps. -/
theorem counted (keeps : swap.Keeps held) (reads : Nat) (readsLeft writesLeft : Option Nat) :
    Keeps { swap with disk := { swap.disk with reads, readsLeft, writesLeft } } held where
  size := keeps.size
  capacity := keeps.capacity
  occupied := keeps.occupied
  contents := keeps.contents

theorem freed (keeps : swap.Keeps held) (slot : SwapSlot) :
    (swap.free slot).2.Keeps (Function.update held slot none) where
  size := by
    rw [disk_free]
    exact keeps.size
  capacity := by
    rw [disk_free, capacity_free]
    exact keeps.capacity
  occupied other := by
    rw [isOccupied_free, keeps.occupied, Function.update_apply]
    split <;> rfl
  contents other page here := by
    rw [contents_free]
    rw [Function.update_apply] at here
    split at here
    · cases here
    · exact keeps.contents other page here

/-- Sending a page to a free slot leaves the pages that are held. -/
theorem sent (keeps : swap.Keeps held) (vacant : swap.isOccupied slot = false) {disk : Disk} {result}
    (sent : Disk.Sent swap.disk page (swap.layout slot) result disk) :
    Keeps { swap with disk } held where
  size := by
    rw [sent.size]
    exact keeps.size
  capacity := by
    rw [sent.size, sent.count]
    exact keeps.capacity
  occupied := keeps.occupied
  contents other page here := by
    rw [← keeps.contents other page here]
    refine contents_of_sent_of_ne sent fun same => ?_
    rw [keeps.occupied, ← same, here] at vacant
    cases vacant

/-- Marking a slot adds the page in it to those that are held. -/
theorem taken (keeps : swap.Keeps held) {index : Nat} (inside : index < swap.bitmap.length)
    (clear : swap.bitmap.isSet index = false) (holds : swap.contents ⟨index⟩ = page) :
    Keeps { swap with bitmap := swap.bitmap.set index inside clear }
      (Function.update held ⟨index⟩ (some page)) where
  size := keeps.size
  capacity := keeps.capacity
  occupied other := by
    change (swap.bitmap.set index inside clear).isSet other.index = _
    rw [Bitmap.isSet_set, Function.update_apply]
    by_cases same : other = ⟨index⟩
    · simp [same]
    · have differ : other.index ≠ index := fun place => same (congrArg SwapSlot.mk place)
      rw [if_neg same, ← keeps.occupied, decide_eq_false differ]
      rfl
  contents other bytes here := by
    rw [Function.update_apply] at here
    split at here
    · rename_i same
      cases here
      rw [same]
      exact holds
    · exact keeps.contents other bytes here

theorem stores (keeps : swap.Keeps held) (full : page.length = pageSize) :
    Stores swap held page (swap.write page).1 (swap.write page).2 := by
  have writing := swap.writing_write page
  generalize (swap.write page).1 = result, (swap.write page).2 = after at writing
  cases writing with
  | misfit differ => exact absurd full differ
  | full _ none => exact .full (swap.bitmap.firstClear?_eq_none_iff.1 none)
  | @stored _ index lowest inside clear disk sent =>
    have vacant : swap.isOccupied ⟨index⟩ = false := clear
    have holds : SwapStore.contents { swap with disk } ⟨index⟩ = page :=
      contents_of_sent keeps.size full sent
    refine .stored (Bitmap.used_lt lowest) inside ?_ (fun other less => ?_)
      ((keeps.sent vacant sent).taken inside clear holds)
    · rw [keeps.occupied] at vacant
      exact Option.isNone_iff_eq_none.1 (Option.isSome_eq_false_iff.1 vacant)
    · have used : swap.isOccupied other = true :=
        (Bitmap.firstClear?_eq_some lowest).2.2 other.index less
      rw [keeps.occupied] at used
      exact Option.isSome_iff_ne_none.1 used
  | @failed _ index lowest error disk sent =>
    obtain ⟨inside, clear, _⟩ := Bitmap.firstClear?_eq_some lowest
    have vacant : swap.isOccupied ⟨index⟩ = false := clear
    obtain ⟨rfl, limited⟩ := sent.fails error rfl fun chunk member =>
      (keeps.layout_inside inside member).1
    exact .failed (Bitmap.used_lt lowest) limited rfl (keeps.sent vacant sent)

theorem loads (keeps : swap.Keeps held) {buffer : Bytes} (full : buffer.length = pageSize)
    (slot : SwapSlot) : Loads swap slot buffer (held slot) (swap.read slot buffer).1
      (swap.read slot buffer).2.1 (swap.read slot buffer).2.2 := by
  generalize done : swap.read slot buffer = step
  obtain ⟨result, filled, after⟩ := step
  unfold read readable at done
  rw [if_neg fun differ => differ full, keeps.occupied] at done
  cases here : held slot with
  | none =>
    rw [here] at done
    cases done
    exact .vacant
  | some page =>
    rw [here] at done
    have inside : slot.index < swap.capacity := keeps.lt_capacity (by rw [here]; rfl)
    have receives := fun result bytes disk => @Disk.transferChunks_read swap.disk disk _ _ _ buffer bytes
      result (swap.chain_layout slot keeps.size) (Nat.le_of_eq full.symm)
      fun chunk member => ⟨(keeps.layout_inside inside member).1, layout_fits member⟩
    simp only [Option.isSome_some, if_true] at done
    split at done
    · rename_i bytes disk transferred
      have received := receives _ _ _ transferred
      obtain ⟨reads, readsLeft, writesLeft, rfl⟩ := received.counted
      have whole : bytes = page := by
        rw [← keeps.contents slot page here, ← List.take_of_length_le (Nat.le_of_eq received.length),
          full, received.bytes rfl, List.take_zero, List.nil_append]
        rfl
      cases done
      cases whole
      exact .loaded
    · rename_i error bytes disk transferred
      have received := receives _ _ _ transferred
      obtain ⟨reads, readsLeft, writesLeft, rfl⟩ := received.counted
      obtain ⟨rfl, limited⟩ := received.fails error rfl
      cases done
      exact .failed limited

end Keeps

/-- A buffer that is not a page is refused, and nothing happens. -/
theorem refuses {buffer : Bytes} (other : buffer.length ≠ pageSize) (swap : SwapStore) (slot : SwapSlot) :
    swap.write buffer = (.error .pageSize, swap) ∧
      swap.read slot buffer = (.error .pageSize, buffer, swap) := by
  unfold write read readable
  rw [if_pos other, if_pos other]
  exact ⟨rfl, rfl⟩

/-- After any calls a store keeps what the calls say. -/
theorem Served.keeps (served : Served swap held) : swap.Keeps held := by
  induction served with
  | opened opened => exact .opened opened
  | limited _ readsLeft writesLeft keeps => exact keeps.counted _ readsLeft writesLeft
  | @wrote swap _ _ page _ done keeps =>
    by_cases full : page.length = pageSize
    · have stores := keeps.stores full
      rw [done] at stores
      cases stores with
      | stored _ _ _ _ keeps => exact keeps
    · rw [(refuses full swap default).1] at done
      cases done
  | @unwritten swap _ _ page error failed keeps =>
    by_cases full : page.length = pageSize
    · have stores := keeps.stores full
      rw [failed] at stores
      generalize (swap.write page).2 = after at stores
      cases stores with
      | full => exact keeps
      | failed _ _ _ keeps => exact keeps
    · rw [(refuses full swap default).1]
      exact keeps
  | @read swap held _ slot buffer keeps =>
    by_cases full : buffer.length = pageSize
    · have loads := keeps.loads full slot
      generalize swap.read slot buffer = step, held slot = page at loads
      obtain ⟨result, filled, after⟩ := step
      cases loads with
      | vacant => exact keeps
      | loaded => exact keeps.counted _ _ _
      | failed => exact keeps.counted _ _ _
    · rw [(refuses full swap slot).2]
      exact keeps
  | freed _ slot keeps => exact keeps.freed slot

/-- What the next call on a store does, by what the calls before it say about its slots. -/
structure Implements (swap : SwapStore) (held : SwapSlot → Option Bytes) : Prop where
  capacity : swap.capacity = swap.disk.count / sectorsPerSlot swap.disk.sectorSize
  occupied : ∀ slot, swap.isOccupied slot = (held slot).isSome
  /-- Only slots that there are hold anything, and what they hold are pages. -/
  pages : ∀ slot page, held slot = some page → slot.index < swap.capacity ∧ page.length = pageSize
  used : ∃ slots : List SwapSlot, slots.Nodup ∧ (∀ slot, slot ∈ slots ↔ (held slot).isSome) ∧
    swap.used = slots.length
  writes : ∀ page : Bytes, page.length = pageSize →
    Stores swap held page (swap.write page).1 (swap.write page).2
  reads : ∀ (slot : SwapSlot) (buffer : Bytes), buffer.length = pageSize →
    Loads swap slot buffer (held slot) (swap.read slot buffer).1 (swap.read slot buffer).2.1
      (swap.read slot buffer).2.2
  refuses : ∀ (slot : SwapSlot) (buffer : Bytes), buffer.length ≠ pageSize →
    swap.write buffer = (.error .pageSize, swap) ∧
      swap.read slot buffer = (.error .pageSize, buffer, swap)
  frees : ∀ slot, (swap.free slot).1 = (held slot).isSome ∧
    (held slot = none → (swap.free slot).2 = swap) ∧ (swap.free slot).2.disk = swap.disk ∧
    ∀ other, (swap.free slot).2.isOccupied other = (decide (other ≠ slot) && swap.isOccupied other)
  /-- Every transfer is of part of a sector that the device has. The device refuses neither the buffer
  that takes the sector nor the one that brings it, whatever page it is a part of. -/
  transfers : ∀ slot : SwapSlot, slot.index < swap.capacity → ∀ chunk ∈ swap.layout slot,
    (chunk.sector < swap.disk.count ∧ 0 < chunk.length ∧ chunk.length ≤ swap.disk.sectorSize) ∧
    swap.disk.check chunk.sector swap.disk.sectorSize = .ok () ∧
    ∀ page : Bytes, swap.disk.check chunk.sector
      (swap.disk.padded (page.slice chunk.offset chunk.length)).length = .ok ()

/-- A store is a partial map from its slots to pages: after any calls on any device, with sectors of
any size and transfers failing anywhere, the next call does what the map that was written says. -/
theorem Served.implements (served : Served swap held) : swap.Implements held where
  capacity := served.keeps.capacity
  occupied := served.keeps.occupied
  pages slot page here :=
    ⟨served.keeps.lt_capacity (by rw [here]; rfl), served.keeps.length_eq here⟩
  used := ⟨swap.inUse, swap.nodup_inUse, fun slot => by rw [mem_inUse, served.keeps.occupied],
    swap.used_eq⟩
  writes _ full := served.keeps.stores full
  reads slot _ full := served.keeps.loads full slot
  refuses slot _ other := SwapStore.refuses other swap slot
  frees slot := by
    refine ⟨?_, fun vacant => ?_, swap.disk_free slot, fun other => ?_⟩
    · rw [← served.keeps.occupied, free_eq]
    · rw [free_vacant]
      rw [served.keeps.occupied, vacant]
      rfl
    · rw [isOccupied_free]
      by_cases same : other = slot
      · simp [same]
      · simp [same]
  transfers _ inside chunk member := by
    have place := served.keeps.layout_inside inside member
    have passes : swap.disk.check chunk.sector swap.disk.sectorSize = .ok () := by
      rw [Disk.check_sectorSize, if_pos place.1]
    refine ⟨place, passes, fun page => ?_⟩
    rw [Disk.length_padded (Disk.length_slice_le page place.2.2)]
    exact passes

end

section
attribute [local instance] Geometry.small

/-- A store with sectors that do not divide a page. The device takes six more sectors, and a page
needs four. -/
def failing : SwapStore where
  disk := { sectorSize := 5, count := 10, writesLeft := some 6 }
  bitmap := .blank 2

def wroteOne : SwapStore := (failing.write (List.replicate pageSize 7)).2

def failedOne : SwapStore := (wroteOne.write (List.replicate pageSize 8)).2

/-- A page is kept while another one fails. -/
theorem implements_after_failing :
    Served failedOne (Function.update (fun _ => none) ⟨0⟩ (some (List.replicate pageSize 7))) ∧
    Implements failedOne (Function.update (fun _ => none) ⟨0⟩ (some (List.replicate pageSize 7))) := by
  have opened : Served { disk := { sectorSize := 5, count := 10 }, bitmap := .blank 2 } fun _ => none :=
    .opened (show ofDisk { sectorSize := 5, count := 10 } = _ from rfl)
  have limited : Served failing fun _ => none := opened.limited none (some 6)
  have first : (failing.write (List.replicate pageSize 7)).1 = .ok ⟨0⟩ := by decide +kernel
  have second : (wroteOne.write (List.replicate pageSize 8)).1 = .error (.io .device) := by
    decide +kernel
  have wrote : Served wroteOne _ := limited.wrote first
  have failed : Served failedOne _ := wrote.unwritten second
  exact ⟨failed, Served.implements failed⟩

end

end SwapStore

end DemandPaging
