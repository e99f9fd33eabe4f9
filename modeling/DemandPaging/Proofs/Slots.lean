import DemandPaging.Proofs.Sectors

/-! The slots of a swap store as pages: a page is cut into the chunks of its slot without gap or
overlap, slots do not share sectors, and so a slot holds what was last written to it until it is
written again. -/
namespace DemandPaging

/-- The chunks cover a page from `start` to `stop`, in order and without a gap. -/
def Chain : Nat → List Chunk → Nat → Prop
  | start, [], stop => start = stop
  | start, chunk :: rest, stop =>
      chunk.offset = start ∧ Chain (start + chunk.length) rest stop

namespace Chain
variable {start stop : Nat} {chunks : List Chunk}

theorem start_le (chain : Chain start chunks stop) : start ≤ stop := by
  induction chunks generalizing start with
  | nil => exact Nat.le_of_eq chain
  | cons chunk rest ih =>
    have later := ih chain.2
    omega

theorem length_flatMap (chain : Chain start chunks stop) (bytes : Chunk → Bytes)
    (exactly : ∀ chunk ∈ chunks, (bytes chunk).length = chunk.length) :
    (chunks.flatMap bytes).length = stop - start := by
  induction chunks generalizing start with
  | nil =>
    change start = stop at chain
    simp [chain]
  | cons chunk rest ih =>
    have later := ih chain.2 fun other member => exactly other (List.mem_cons_of_mem _ member)
    have less := chain.2.start_le
    rw [List.flatMap_cons, List.length_append, exactly chunk List.mem_cons_self, later]
    omega

theorem slice_flatMap (chain : Chain start chunks stop) (bytes : Chunk → Bytes)
    (exactly : ∀ chunk ∈ chunks, (bytes chunk).length = chunk.length) {chunk : Chunk}
    (member : chunk ∈ chunks) :
    start ≤ chunk.offset ∧
      Bytes.slice (chunks.flatMap bytes) (chunk.offset - start) chunk.length = bytes chunk := by
  induction chunks generalizing start with
  | nil => cases member
  | cons first rest ih =>
    obtain ⟨offset, later⟩ := chain
    unfold Bytes.slice
    rw [List.flatMap_cons]
    rcases List.mem_cons.1 member with rfl | member
    · refine ⟨Nat.le_of_eq offset.symm, ?_⟩
      rw [offset, Nat.sub_self, List.drop_zero, List.take_left' (exactly chunk List.mem_cons_self)]
    · obtain ⟨beyond, found⟩ := ih later (fun other member => exactly other (List.mem_cons_of_mem _ member))
        member
      refine ⟨by omega, ?_⟩
      have place : chunk.offset - start =
          (bytes first).length + (chunk.offset - (start + first.length)) := by
        rw [exactly first List.mem_cons_self]
        omega
      rw [place, List.drop_append, List.drop_eq_nil_of_le (Nat.le_add_right _ _), List.nil_append,
        Nat.add_sub_cancel_left]
      exact found

/-- Cutting bytes into chunks and joining the chunks gives the bytes. -/
theorem flatMap_slice (chain : Chain start chunks stop) (page : Bytes) :
    (chunks.flatMap fun chunk => page.slice chunk.offset chunk.length) =
      page.slice start (stop - start) := by
  induction chunks generalizing start with
  | nil =>
    change start = stop at chain
    simp [chain, Bytes.slice]
  | cons chunk rest ih =>
    obtain ⟨offset, later⟩ := chain
    have less := later.start_le
    rw [List.flatMap_cons, ih later, offset]
    unfold Bytes.slice
    have split : stop - start = chunk.length + (stop - (start + chunk.length)) := by omega
    rw [split, List.take_add, List.drop_drop]

end Chain

/-- What never changes of a store: the size and the number of its sectors, and the number of its slots. -/
def SwapStore.shape (swap : SwapStore) : Nat × Nat × Nat :=
  (swap.disk.sectorSize, swap.disk.count, swap.capacity)

/-- A disk of the same size does not change the shape of a store. -/
theorem SwapStore.shape_of_disk (swap : SwapStore) {disk : Disk}
    (size : disk.sectorSize = swap.disk.sectorSize) (count : disk.count = swap.disk.count) :
    SwapStore.shape { swap with disk } = swap.shape := by
  unfold shape
  rw [size, count]
  rfl

variable [Geometry]

/-- The chunk of a page in sector `i` of a slot. -/
theorem chain_range' {size sectors : Nat} (first : Nat) (chunk : Nat → Chunk)
    (offset : ∀ i, (chunk i).offset = i * size)
    (length : ∀ i, (chunk i).length = min size (pageSize - i * size)) (count : Nat)
    (within : first + count ≤ sectors) (short : ∀ i, i < sectors → i * size ≤ pageSize) :
    Chain (min (first * size) pageSize) ((List.range' first count).map chunk)
      (min ((first + count) * size) pageSize) := by
  induction count generalizing first with
  | zero => rfl
  | succ count ih =>
    rw [List.range'_succ, List.map_cons]
    have inside := short first (by omega)
    refine ⟨by rw [offset, Nat.min_eq_left inside], ?_⟩
    have next : min (first * size) pageSize + (chunk first).length =
        min ((first + 1) * size) pageSize := by
      rw [length, Nat.succ_mul]
      omega
    rw [next, show first + (count + 1) = first + 1 + count by omega]
    exact ih (first + 1) (by omega)

namespace SwapStore

def contents (swap : SwapStore) (slot : SwapSlot) : Bytes :=
  (swap.layout slot).flatMap fun chunk => swap.disk.part chunk.sector chunk.length

theorem sector_bounds {size : Nat} (positive : 0 < size) :
    pageSize ≤ sectorsPerSlot size * size ∧
      ∀ i, i < sectorsPerSlot size → i * size ≤ pageSize := by
  have page := pageSize_pos
  have split := Nat.div_add_mod (pageSize + size - 1) size
  have small := Nat.mod_lt (pageSize + size - 1) positive
  unfold sectorsPerSlot
  rw [Nat.mul_comm] at split
  constructor
  · omega
  · intro i inside
    have more : (i + 1) * size ≤ (pageSize + size - 1) / size * size :=
      Nat.mul_le_mul_right size inside
    rw [Nat.succ_mul] at more
    omega

/-- The chunks of a slot cover the page. -/
theorem chain_layout (swap : SwapStore) (slot : SwapSlot) (positive : 0 < swap.disk.sectorSize) :
    Chain 0 (swap.layout slot) pageSize := by
  obtain ⟨enough, short⟩ := sector_bounds positive
  have chain := chain_range' 0 (fun i : Nat =>
    { sector := slot.index * sectorsPerSlot swap.disk.sectorSize + i
      offset := i * swap.disk.sectorSize
      length := min swap.disk.sectorSize (pageSize - i * swap.disk.sectorSize) : Chunk })
    (fun _ => rfl) (fun _ => rfl) (sectorsPerSlot swap.disk.sectorSize)
    (Nat.le_of_eq (Nat.zero_add _)) short
  rw [Nat.zero_mul, Nat.zero_min, Nat.zero_add, Nat.min_eq_right enough,
    ← List.range_eq_range'] at chain
  exact chain

/-- The sectors of a slot, by their place in the slot. -/
theorem mem_layout {swap : SwapStore} {slot : SwapSlot} {chunk : Chunk} :
    chunk ∈ swap.layout slot ↔ ∃ i, i < sectorsPerSlot swap.disk.sectorSize ∧
      chunk = { sector := slot.index * sectorsPerSlot swap.disk.sectorSize + i
                offset := i * swap.disk.sectorSize
                length := min swap.disk.sectorSize (pageSize - i * swap.disk.sectorSize) } := by
  simp only [layout, List.mem_map, List.mem_range, eq_comm]

/-- A chunk is no longer than a sector. -/
theorem layout_fits {swap : SwapStore} {slot : SwapSlot} {chunk : Chunk} (member : chunk ∈ swap.layout slot) :
    chunk.length ≤ swap.disk.sectorSize := by
  obtain ⟨i, _, rfl⟩ := mem_layout.1 member
  exact Nat.min_le_left _ _

theorem length_contents (swap : SwapStore) (slot : SwapSlot) (positive : 0 < swap.disk.sectorSize) :
    (swap.contents slot).length = pageSize :=
  (swap.chain_layout slot positive).length_flatMap _ fun chunk member =>
    Disk.length_part (layout_fits member) chunk.sector

/-- What a sector of a slot holds is found at its place in the page. -/
theorem slice_contents (swap : SwapStore) (slot : SwapSlot) (positive : 0 < swap.disk.sectorSize)
    {chunk : Chunk} (member : chunk ∈ swap.layout slot) :
    (swap.contents slot).slice chunk.offset chunk.length =
      swap.disk.part chunk.sector chunk.length :=
  ((swap.chain_layout slot positive).slice_flatMap _ (fun chunk member =>
    Disk.length_part (layout_fits member) chunk.sector) member).2

/-- The slots of a store are on its disk. -/
def OnDisk (swap : SwapStore) : Prop :=
  swap.capacity * sectorsPerSlot swap.disk.sectorSize ≤ swap.disk.count

theorem OnDisk.of_shape {swap after : SwapStore} (placed : swap.OnDisk)
    (same : after.shape = swap.shape) : after.OnDisk := by
  simp only [shape, Prod.mk.injEq] at same
  obtain ⟨size, count, capacity⟩ := same
  unfold OnDisk at *
  rw [size, count, capacity]
  exact placed

theorem OnDisk.sector_lt {swap : SwapStore} (placed : swap.OnDisk) {slot : SwapSlot}
    (inside : slot.index < swap.capacity) {chunk : Chunk} (member : chunk ∈ swap.layout slot) :
    chunk.sector < swap.disk.count := by
  obtain ⟨i, within, rfl⟩ := mem_layout.1 member
  have last : (slot.index + 1) * sectorsPerSlot swap.disk.sectorSize ≤
      swap.capacity * sectorsPerSlot swap.disk.sectorSize := Nat.mul_le_mul_right _ inside
  have whole : swap.capacity * sectorsPerSlot swap.disk.sectorSize ≤ swap.disk.count := placed
  rw [Nat.succ_mul] at last
  dsimp only
  omega

/-- No two chunks share a sector, be they of one slot or of two. -/
theorem sector_injective {swap : SwapStore} {a b : SwapSlot} {chunk other : Chunk}
    (left : chunk ∈ swap.layout a) (right : other ∈ swap.layout b)
    (same : chunk.sector = other.sector) : a = b ∧ chunk = other := by
  obtain ⟨i, inside, rfl⟩ := mem_layout.1 left
  obtain ⟨j, within, rfl⟩ := mem_layout.1 right
  obtain ⟨a⟩ := a
  obtain ⟨b⟩ := b
  dsimp only at same
  have less : 0 < sectorsPerSlot swap.disk.sectorSize := Nat.zero_lt_of_lt inside
  have first : (a * sectorsPerSlot swap.disk.sectorSize + i) / sectorsPerSlot swap.disk.sectorSize = a := by
    rw [Nat.add_comm, Nat.add_mul_div_right _ _ less, Nat.div_eq_of_lt inside, Nat.zero_add]
  have second : (b * sectorsPerSlot swap.disk.sectorSize + j) / sectorsPerSlot swap.disk.sectorSize = b := by
    rw [Nat.add_comm, Nat.add_mul_div_right _ _ less, Nat.div_eq_of_lt within, Nat.zero_add]
  have slots : a = b := by rw [← first, same, second]
  subst slots
  have places : i = j := Nat.add_left_cancel same
  subst places
  exact ⟨rfl, rfl⟩

theorem layout_congr {swap after : SwapStore}
    (size : after.disk.sectorSize = swap.disk.sectorSize) (slot : SwapSlot) :
    after.layout slot = swap.layout slot := by
  unfold layout
  rw [size]

/-- Contents depend on what is written in the sectors of the slot alone. -/
theorem contents_congr {swap after : SwapStore} {slot : SwapSlot}
    (size : after.disk.sectorSize = swap.disk.sectorSize)
    (same : ∀ chunk ∈ swap.layout slot,
      after.disk.written.get? chunk.sector = swap.disk.written.get? chunk.sector) :
    after.contents slot = swap.contents slot := by
  unfold contents
  rw [layout_congr size]
  exact List.flatMap_congr fun chunk member => Disk.part_congr size (same chunk member) chunk.length

omit [Geometry] in
theorem lt_of_isOccupied {swap : SwapStore} {slot : SwapSlot} (occupied : swap.isOccupied slot = true) :
    slot.index < swap.capacity :=
  Bitmap.lt_of_isSet occupied

omit [Geometry] in
theorem isOccupied_free (swap : SwapStore) (slot other : SwapSlot) :
    (swap.free slot).2.isOccupied other =
      if other = slot then false else swap.isOccupied other := by
  obtain ⟨slot⟩ := slot
  obtain ⟨other⟩ := other
  change (swap.bitmap.clear slot).2.isSet other = _
  rw [Bitmap.isSet_clear]
  by_cases same : other = slot <;> simp [same, isOccupied]

omit [Geometry] in
theorem disk_free (swap : SwapStore) (slot : SwapSlot) : (swap.free slot).2.disk = swap.disk := rfl

omit [Geometry] in
theorem capacity_free (swap : SwapStore) (slot : SwapSlot) :
    (swap.free slot).2.capacity = swap.capacity :=
  swap.bitmap.length_clear slot.index

omit [Geometry] in
theorem shape_free (swap : SwapStore) (slot : SwapSlot) : (swap.free slot).2.shape = swap.shape := by
  rw [shape, shape, disk_free, capacity_free]

omit [Geometry] in
theorem free_eq (swap : SwapStore) (slot : SwapSlot) : (swap.free slot).1 = swap.isOccupied slot :=
  swap.bitmap.clear_eq slot.index

omit [Geometry] in
theorem free_vacant {swap : SwapStore} {slot : SwapSlot} (vacant : swap.isOccupied slot = false) :
    swap.free slot = (false, swap) := by
  unfold free
  rw [Bitmap.clear_of_clear vacant]

theorem contents_free (swap : SwapStore) (slot other : SwapSlot) :
    (swap.free slot).2.contents other = swap.contents other := rfl

theorem layout_apart (swap : SwapStore) (slot : SwapSlot) :
    (swap.layout slot).Pairwise fun a b => a.sector ≠ b.sector := by
  unfold layout
  rw [List.pairwise_map]
  exact List.pairwise_lt_range.imp fun less same => by
    have := Nat.add_left_cancel same
    omega

theorem isOccupied_ofDisk {disk : Disk} {swap : SwapStore} (opened : ofDisk disk = .ok swap)
    (slot : SwapSlot) : swap.isOccupied slot = false := by
  unfold ofDisk Disk.sectorCount at opened
  split at opened
  · cases opened
  · cases opened
    exact Bitmap.isSet_blank _ slot.index

/-- What comes of writing bytes to a store. A slot that was taken for a page that could not be sent is
given back, so that the marks are as they were. -/
inductive Writing (swap : SwapStore) (page : Bytes) : Except SwapError SwapSlot → SwapStore → Prop
  | misfit (differ : page.length ≠ pageSize) : Writing swap page (.error .pageSize) swap
  | full (whole : page.length = pageSize) (none : swap.bitmap.firstClear? = none) :
      Writing swap page (.error .full) swap
  | stored (whole : page.length = pageSize) {index : Nat} (lowest : swap.bitmap.firstClear? = some index)
      (inside : index < swap.bitmap.length) (clear : swap.bitmap.isSet index = false) {disk : Disk}
      (sent : Disk.Sent swap.disk page (swap.layout ⟨index⟩) (.ok ()) disk) :
      Writing swap page (.ok ⟨index⟩) { disk, bitmap := swap.bitmap.set index inside clear }
  | failed (whole : page.length = pageSize) {index : Nat} (lowest : swap.bitmap.firstClear? = some index)
      {error : BlockError} {disk : Disk}
      (sent : Disk.Sent swap.disk page (swap.layout ⟨index⟩) (.error error) disk) :
      Writing swap page (.error (.io error)) { swap with disk }

theorem writing_write (swap : SwapStore) (page : Bytes) :
    swap.Writing page (swap.write page).1 (swap.write page).2 := by
  unfold write
  split
  · rename_i differ
    exact .misfit differ
  · rename_i same
    have whole : page.length = pageSize := Decidable.not_not.1 same
    split
    · rename_i none
      exact .full whole (Bitmap.setFirstClear?_eq_none.1 none)
    · rename_i index bitmap found
      obtain ⟨inside, clear, lowest, rfl⟩ := Bitmap.setFirstClear?_eq_some found
      have sent := fun result disk => @Disk.transferChunks_write swap.disk disk page _ result
        (swap.layout_apart ⟨index⟩) fun chunk member => layout_fits member
      dsimp only
      split
      · rename_i disk transferred
        exact .stored whole lowest inside clear (sent _ _ transferred)
      · rename_i error disk transferred
        rw [Bitmap.clear_set]
        exact .failed whole lowest (sent _ _ transferred)

/-- A store keeps its shape, whether or not a page could be written. -/
theorem shape_write (swap : SwapStore) (page : Bytes) : (swap.write page).2.shape = swap.shape := by
  have writing := swap.writing_write page
  generalize (swap.write page).1 = result, (swap.write page).2 = after at writing
  cases writing with
  | misfit | full => rfl
  | stored _ _ _ _ sent => exact swap.shape_of_disk sent.size sent.count
  | failed _ _ sent => exact swap.shape_of_disk sent.size sent.count

/-- A page cannot be written if every slot is occupied, or if the controller fails. -/
theorem write_failed {swap : SwapStore} (placed : swap.OnDisk) {page : Bytes}
    (whole : page.length = pageSize) {error : SwapError} (failed : (swap.write page).1 = .error error) :
    (error = .full ∧ ∀ slot : SwapSlot, slot.index < swap.capacity → swap.isOccupied slot = true) ∨
      (error = .io .device ∧ swap.disk.writesLeft ≠ none) := by
  have writing := swap.writing_write page
  rw [failed] at writing
  generalize (swap.write page).2 = after at writing
  cases writing with
  | misfit differ => exact absurd whole differ
  | full _ none => exact .inl ⟨rfl, fun slot inside => Bitmap.firstClear?_eq_none none inside⟩
  | failed _ lowest sent =>
    obtain ⟨rfl, limited⟩ := sent.fails _ rfl fun chunk member =>
      placed.sector_lt (Bitmap.firstClear?_eq_some lowest).1 member
    exact .inr ⟨rfl, limited⟩

structure Wrote (swap : SwapStore) (page : Bytes) (slot : SwapSlot) (after : SwapStore) : Prop where
  size : after.disk.sectorSize = swap.disk.sectorSize
  full : page.length = pageSize
  below : slot.index < swap.capacity
  capacity : after.capacity = swap.capacity
  vacant : swap.isOccupied slot = false
  occupied : ∀ other, after.isOccupied other = if other = slot then true else swap.isOccupied other
  holds : after.contents slot = page
  others : ∀ other, other ≠ slot → after.contents other = swap.contents other

/-- The chunks of a page that was sent make up the page. -/
theorem contents_of_sent {swap after : SwapStore} {page : Bytes} {slot : SwapSlot}
    (positive : 0 < swap.disk.sectorSize) (whole : page.length = pageSize)
    (sent : Disk.Sent swap.disk page (swap.layout slot) (.ok ()) after.disk) :
    after.contents slot = page := by
  have chain := swap.chain_layout slot positive
  have short := (sector_bounds positive).2
  have parts : ∀ chunk ∈ swap.layout slot,
      after.disk.part chunk.sector chunk.length = page.slice chunk.offset chunk.length := by
    intro chunk member
    refine Disk.part_of_padded (Disk.length_slice_le page (layout_fits member)) sent.size
      (sent.written rfl chunk member) ?_
    obtain ⟨i, inside, rfl⟩ := mem_layout.1 member
    have begins := short i inside
    rw [Bytes.slice, List.length_take, List.length_drop, whole]
    dsimp only
    omega
  rw [contents, layout_congr sent.size, List.flatMap_congr parts, chain.flatMap_slice, Bytes.slice,
    List.drop_zero, Nat.sub_zero, ← whole, List.take_length]

/-- Sending a page to a slot leaves what is in the others. -/
theorem contents_of_sent_of_ne {swap after : SwapStore} {page : Bytes} {slot other : SwapSlot} {result}
    (sent : Disk.Sent swap.disk page (swap.layout slot) result after.disk) (differ : other ≠ slot) :
    after.contents other = swap.contents other := by
  refine contents_congr sent.size fun chunk member => ?_
  refine sent.others chunk.sector fun mine listed same => ?_
  exact differ (sector_injective member listed same.symm).1

theorem write_wrote {swap after : SwapStore} {page : Bytes} {slot : SwapSlot}
    (positive : 0 < swap.disk.sectorSize) (done : swap.write page = (.ok slot, after)) :
    swap.Wrote page slot after := by
  have writing := swap.writing_write page
  rw [done] at writing
  cases writing with
  | @stored whole index lowest inside clear disk sent =>
    refine ⟨sent.size, whole, inside, rfl, clear, fun other => ?_, ?_, fun other differ => ?_⟩
    · obtain ⟨other⟩ := other
      change (swap.bitmap.set index inside clear).isSet other = _
      rw [Bitmap.isSet_set]
      by_cases same : other = index <;> simp [same, isOccupied]
    · exact contents_of_sent positive whole sent
    · exact contents_of_sent_of_ne sent differ

end SwapStore

end DemandPaging
