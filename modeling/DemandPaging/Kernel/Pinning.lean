import DemandPaging.Kernel.Fault

/-! Pinned access of the kernel to user memory, and the copies built on it. -/
namespace DemandPaging

structure Piece where
  page : VirtualAddress
  frame : FrameNumber
  /-- Place of the part in the page. -/
  offset : Nat
  length : Nat

variable [Architecture]

namespace PinGuard

def frame? (guard : PinGuard) (addr : VirtualAddress) : Option FrameNumber :=
  (guard.pages.find? (·.1 == addr.pageBase)).map (·.2)

/-- Splits the range of `length` bytes from `start` on, which the guard was made for. -/
def pieces (guard : PinGuard) (start : VirtualAddress) (length : Nat) : List Piece :=
  guard.pages.map fun (page, frame) =>
    let first := max start.value page.value
    let last := min (start.value + length) (page.value + pageSize)
    { page, frame, offset := first - page.value, length := last - first }

end PinGuard

namespace Kernel

/-- Faults in and pins one page, after those in `pinned`. A race lost to other parties is run
again. -/
def pinPage (others : Interference) (space : SpaceId) (page : Nat) (access : Access)
    (pinned : List (VirtualAddress × FrameNumber)) : Nat → Faulting FrameNumber
  | 0 => throwThe Fatal .stalled
  | tries + 1 => do
      match ← resolve others space page access true pinned with
      | some frame => return frame
      | none => pinPage others space page access pinned tries

def dropGuard (guard : PinGuard) : Kernel Unit :=
  guard.pages.forM fun (_, frame) => unpin frame guard.owner

/-- Runs an action. If it stops the kernel, the pins of `guard` are dropped on the way out. -/
def guarded {α : Type} (guard : PinGuard) (action : Kernel α) : Kernel α :=
  tryCatch action fun cause => do
    dropGuard guard
    throw cause

/-- Pins consecutive pages from `page` on. When one fails, those before it are unpinned. -/
def pinPages (others : Interference) (space : SpaceId) (access : Access) (page : Nat)
    (pinned : List (VirtualAddress × FrameNumber)) : Nat → Faulting PinGuard
  | 0 => return ⟨space, pinned⟩
  | count + 1 => do
      let pin := (pinPage others space page access pinned others.patience).run
      match ← ExceptT.lift (guarded ⟨space, pinned⟩ pin) with
      | .ok frame =>
          pinPages others space access (page + pageSize) (pinned ++ [(⟨page⟩, frame)]) count
      | .error error =>
          dropGuard ⟨space, pinned⟩
          throw error

def pagesOver (addr : VirtualAddress) (length : Nat) : Nat :=
  (addr.pageOffset + length + pageSize - 1) / pageSize

/-- Faults in and pins every page that overlaps the `length` bytes from `addr` on, as if the user
had made the accesses. -/
def pinRange (others : Interference) (space : SpaceId) (addr : VirtualAddress) (length : Nat)
    (access : Access) : Faulting PinGuard := do
  if length = 0 then return ⟨space, []⟩
  let last := addr.value + length
  if Word.limit ≤ last ∨ (← get).config.userTop < last then throw (.kernelAddress addr.value)
  pinPages others space access addr.pageBase.value [] (pagesOver addr length)

def writePieces (space : SpaceId) : List Piece → Bytes → Kernel Unit
  | [], _ => return
  | piece :: rest, bytes => do
      writeFrame piece.frame piece.offset (bytes.take piece.length)
      setAccessed space piece.page true
      setDirty space piece.page true
      writePieces space rest (bytes.drop piece.length)

def copyToUser (others : Interference) (space : SpaceId) (target : VirtualAddress)
    (bytes : Bytes) : Faulting Unit := do
  let guard ← pinRange others space target bytes.length .write
  writePieces space (guard.pieces target bytes.length) bytes
  dropGuard guard

def copyFromUser (others : Interference) (space : SpaceId) (source : VirtualAddress)
    (length : Nat) : Faulting Bytes := do
  let guard ← pinRange others space source length .read
  let parts ← (guard.pieces source length).mapM fun piece => (do
    let bytes ← readFrame piece.frame
    setAccessed space piece.page true
    return bytes.slice piece.offset piece.length : Kernel Bytes)
  dropGuard guard
  return parts.flatten

end Kernel

end DemandPaging
