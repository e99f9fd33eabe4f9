import DemandPaging.Geometry
import DemandPaging.SortedMap

/-! Block devices. A device holds sectors of one size and counts the transfers that succeed. The
memory manager reaches it through a controller that can be told to fail. Only what was written is
kept: a device of any size costs nothing as long as it is blank. -/
namespace DemandPaging

structure Disk where
  /-- Bytes in one sector. -/
  sectorSize : Nat
  /-- Number of sectors. -/
  count : Nat
  /-- What was last written to a sector. -/
  written : SortedMap Nat Bytes := .empty
  /-- Sectors read so far. -/
  reads : Nat := 0
  /-- Sectors written so far. -/
  writes : Nat := 0
  /-- Reads the controller still lets through, if there is an end to them. -/
  readsLeft : Option Nat := none
  /-- Writes the controller still lets through, if there is an end to them. -/
  writesLeft : Option Nat := none
deriving Inhabited

namespace Disk

def blank (sectorSize count : Nat) : Except Fatal Disk := do
  Word.room (← Word.mul sectorSize count) 1
  return { sectorSize, count }

/-- A zeroed device that holds exactly `slots` pages in sectors of the default size. -/
def withPageSlots [Geometry] (slots : Nat) : Except Fatal Disk := do
  let perPage := (pageSize + Geometry.defaultSectorSize - 1) / Geometry.defaultSectorSize
  blank Geometry.defaultSectorSize (← Word.mul slots perPage)

/-- Number of sectors on the device. A device with empty sectors cannot tell. -/
def sectorCount (disk : Disk) : Except Fatal Nat :=
  if disk.sectorSize = 0 then .error .divideByZero else .ok disk.count

/-- A disk looks at the number of its sectors only for a buffer of the length of one. -/
def measure (disk : Disk) (length : Nat) : Except Fatal Unit :=
  if length = disk.sectorSize then discard disk.sectorCount else .ok ()

/-- Checks the length of a buffer that is to hold one sector, and then the sector. -/
def check (disk : Disk) (sector length : Nat) : Except BlockError Unit :=
  if length ≠ disk.sectorSize then .error (.bufferSize disk.sectorSize length)
  else if sector < disk.count then .ok ()
  else .error (.outOfRange sector)

/-- The bytes of a sector, zeros if it was never written. -/
def contents (disk : Disk) (sector : Nat) : Bytes :=
  let bytes := (disk.written.get? sector).getD []
  bytes.take disk.sectorSize ++ List.replicate (disk.sectorSize - bytes.length) 0

def fetch (disk : Disk) (sector length : Nat) : Except BlockError Bytes × Disk :=
  match disk.check sector length with
  | .error error => (.error error, disk)
  | .ok () => (.ok (disk.contents sector), { disk with reads := disk.reads + 1 })

def store (disk : Disk) (sector : Nat) (bytes : Bytes) : Except BlockError Unit × Disk :=
  match disk.check sector bytes.length with
  | .error error => (.error error, disk)
  | .ok () =>
      (.ok (), { disk with
        written := disk.written.insert sector bytes
        writes := disk.writes + 1 })

/-- Reads one sector if the controller lets the transfer through. -/
def read (disk : Disk) (sector length : Nat) : Except BlockError Bytes × Disk :=
  match disk.readsLeft with
  | none => disk.fetch sector length
  | some 0 => (.error .device, disk)
  | some (left + 1) => { disk with readsLeft := some left }.fetch sector length

def write (disk : Disk) (sector : Nat) (bytes : Bytes) : Except BlockError Unit × Disk :=
  match disk.writesLeft with
  | none => disk.store sector bytes
  | some 0 => (.error .device, disk)
  | some (left + 1) => { disk with writesLeft := some left }.store sector bytes

/-- Reads the first `length` bytes of a sector: the whole sector at once, or a part of it by way of a
buffer that takes the sector. -/
def readPart (disk : Disk) (sector length : Nat) : Except BlockError Bytes × Disk :=
  if length = disk.sectorSize then disk.read sector length
  else
    let (result, disk) := disk.read sector disk.sectorSize
    (result.map (·.take length), disk)

/-- Bytes as they are sent to a sector: they fill it, or they go into a zeroed buffer that does. -/
def padded (disk : Disk) (bytes : Bytes) : Bytes :=
  if bytes.length = disk.sectorSize then bytes
  else Bytes.patch (List.replicate disk.sectorSize 0) 0 bytes

def writePart (disk : Disk) (sector : Nat) (bytes : Bytes) : Except BlockError Unit × Disk :=
  disk.write sector (disk.padded bytes)

end Disk

end DemandPaging
