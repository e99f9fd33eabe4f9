import DemandPaging.Disk
import DemandPaging.Swap.Bitmap

/-! The swap store: page-sized slots on a block device. A slot is a run of sectors just long
enough for a page; the rest of its last sector is padding. Freeing a slot does not erase it. -/
namespace DemandPaging

structure SwapSlot where
  index : Nat
deriving DecidableEq, Inhabited

def SwapSlot.debugText (slot : SwapSlot) : String := s!"SwapSlot({slot.index})"

/-- The part of a page that one sector of its slot holds. -/
structure Chunk where
  sector : Nat
  /-- Place of the part in the page. -/
  offset : Nat
  length : Nat

/-- Transfers chunk after chunk, up to the first that fails. -/
def transferChunks {m : Type → Type} [Monad m] (transfer : Chunk → m (Except BlockError Unit)) :
    List Chunk → m (Except BlockError Unit)
  | [] => return .ok ()
  | chunk :: rest => do
      match ← transfer chunk with
      | .ok () => transferChunks transfer rest
      | .error error => return .error error

/-- Slots of one page each on a block device. -/
structure SwapStore where
  disk : Disk
  /-- The slots that hold a page are marked. -/
  bitmap : Bitmap
deriving Inhabited

namespace SwapStore

def capacity (swap : SwapStore) : Nat := swap.bitmap.length

def used (swap : SwapStore) : Nat := swap.bitmap.used

/-- True if the slot exists and holds a page. -/
def isOccupied (swap : SwapStore) (slot : SwapSlot) : Bool := swap.bitmap.isSet slot.index

/-- Marks `slot` free. Answers whether it was in use. -/
def free (swap : SwapStore) (slot : SwapSlot) : Bool × SwapStore :=
  let (wasUsed, bitmap) := swap.bitmap.clear slot.index
  (wasUsed, { swap with bitmap })

variable [Geometry]

def sectorsPerSlot (sectorSize : Nat) : Nat :=
  (pageSize + sectorSize - 1) / sectorSize

def ofDisk (disk : Disk) : Except Fatal SwapStore := do
  let sectors ← disk.sectorCount
  return { disk, bitmap := .blank (sectors / sectorsPerSlot disk.sectorSize) }

def layout (swap : SwapStore) (slot : SwapSlot) : List Chunk :=
  let size := swap.disk.sectorSize
  let sectors := sectorsPerSlot size
  (List.range sectors).map fun i =>
    { sector := slot.index * sectors + i
      offset := i * size
      length := min size (pageSize - i * size) }

/-- Writes a page to the lowest free slot, which is taken first. If the device fails, the slot is given
back. -/
def write (swap : SwapStore) (page : Bytes) : Except SwapError SwapSlot × SwapStore :=
  if page.length ≠ pageSize then (.error .pageSize, swap)
  else
    match swap.bitmap.setFirstClear? with
    | none => (.error .full, swap)
    | some (index, bitmap) =>
        let transfer (chunk : Chunk) : StateM Disk (Except BlockError Unit) :=
          fun disk => disk.writePart chunk.sector (page.slice chunk.offset chunk.length)
        match transferChunks transfer (swap.layout ⟨index⟩) swap.disk with
        | (.ok (), disk) => (.ok ⟨index⟩, { disk, bitmap })
        | (.error error, disk) => (.error (.io error), { disk, bitmap := (bitmap.clear index).2 })

/-- Checks that a buffer of `length` bytes can take the page in `slot`. -/
def readable (swap : SwapStore) (slot : SwapSlot) (length : Nat) : Except SwapError Unit :=
  if length ≠ pageSize then .error .pageSize
  else if swap.isOccupied slot then .ok ()
  else .error (.notInUse slot.index)

/-- Reads the page in `slot` into `buffer`; the slot stays occupied. If the device fails, the
buffer holds what was read before. -/
def read (swap : SwapStore) (slot : SwapSlot) (buffer : Bytes) :
    Except SwapError Unit × Bytes × SwapStore :=
  match swap.readable slot buffer.length with
  | .error error => (.error error, buffer, swap)
  | .ok () =>
      let transfer (chunk : Chunk) : StateM (Bytes × Disk) (Except BlockError Unit) :=
        fun (buffer, disk) =>
          match disk.readPart chunk.sector chunk.length with
          | (.ok bytes, disk) => (.ok (), buffer.patch chunk.offset bytes, disk)
          | (.error error, disk) => (.error error, buffer, disk)
      match transferChunks transfer (swap.layout slot) (buffer, swap.disk) with
      | (.ok (), buffer, disk) => (.ok (), buffer, { swap with disk })
      | (.error error, buffer, disk) => (.error (.io error), buffer, { swap with disk })

end SwapStore

end DemandPaging
