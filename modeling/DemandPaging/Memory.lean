import DemandPaging.Address
import DemandPaging.SortedMap

/-! Physical memory: a run of bytes at consecutive addresses. Only the frames written are kept; all
others are zero. -/
namespace DemandPaging

structure Memory where
  first : Nat
  size : Nat
  /-- The frames written, by their place counted from the first. -/
  written : SortedMap Nat Bytes := .empty
deriving Inhabited

variable [Geometry]

namespace Memory

def ofSize (size : Nat) : Except Fatal Memory := do
  Word.room size 1
  return { first := 0, size }

/-- Zeroed memory of `count` frames from physical address zero on. -/
def ofFrames (count : Nat) : Except Fatal Memory := do
  ofSize (← Word.mul count pageSize)

def mapped (first count : Nat) : Memory where
  first
  size := count * pageSize

def frame (memory : Memory) (place : Nat) : Bytes :=
  (memory.written.get? place).getD (List.replicate pageSize 0)

/-- Place of an address: its frame, counted from the first, and its offset in there. -/
def locate (memory : Memory) (addr : PhysicalAddress) : Except Fatal (Nat × Nat) :=
  let start := memory.first * pageSize
  if start ≤ addr.value ∧ addr.value < start + memory.size then
    .ok ((addr.value - start) / pageSize, (addr.value - start) % pageSize)
  else .error .outOfMemoryBounds

def byteAt (memory : Memory) (addr : PhysicalAddress) : Except Fatal UInt8 := do
  let (place, offset) ← memory.locate addr
  return (memory.frame place).getD offset 0

def setByte (memory : Memory) (addr : PhysicalAddress) (byte : UInt8) : Except Fatal Memory := do
  let (place, offset) ← memory.locate addr
  let bytes := (memory.frame place).set offset byte
  return { memory with written := memory.written.insert place bytes }

def place (memory : Memory) (frame : FrameNumber) : Except Fatal Nat := do
  return (← memory.locate (← frame.start)).1

def read (memory : Memory) (frame : FrameNumber) : Except Fatal Bytes := do
  return memory.frame (← memory.place frame)

def write (memory : Memory) (frame : FrameNumber) (offset : Nat) (bytes : Bytes) :
    Except Fatal Memory := do
  let place ← memory.place frame
  let bytes := (memory.frame place).patch offset bytes
  return { memory with written := memory.written.insert place bytes }

/-- `length` bytes from the start of a frame, running on into the frames behind it. -/
def readRun (memory : Memory) (frame : FrameNumber) (length : Nat) : Except Fatal Bytes := do
  let place ← memory.place frame
  let run := (List.range (length / pageSize + 1)).flatMap fun i => memory.frame (place + i)
  return run.take length

end Memory

end DemandPaging
