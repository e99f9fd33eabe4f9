import DemandPaging.Swap.Error

/-! Conditions that stop the kernel for good, as opposed to errors that kill one process or are
answered to the caller. -/
namespace DemandPaging

inductive Fatal where
  | addOverflow
  | subtractOverflow
  | multiplyOverflow
  | divideByZero
  /-- A table or a buffer of more bytes than half of the words can count. -/
  | capacityOverflow
  /-- A virtual address whose upper bits do not repeat its sign bit. -/
  | notCanonical
  /-- A physical address wider than the machine's address bus. -/
  | physicalTooWide
  /-- A physical address with no memory behind it. -/
  | outOfMemoryBounds
  /-- A directory entry built for an address inside a page. -/
  | unalignedEntry
  /-- A file segment that reads more than its page holds. -/
  | oversizedSegment
  /-- A frame number outside the user pool. -/
  | notInPool (frame : Nat)
  /-- Every assigned frame is pinned. -/
  | noEvictableFrame
  /-- A victim has to be saved and every slot is taken. -/
  | swapExhausted
  /-- Saving a victim failed on the device. -/
  | swapWriteFailed (error : SwapError)
  /-- A search that would never end: no frame of the ring holds a page, or no load ever wins. -/
  | stalled
deriving DecidableEq, Inhabited

def Fatal.message : Fatal → String
  | .addOverflow => "attempt to add with overflow"
  | .subtractOverflow => "attempt to subtract with overflow"
  | .multiplyOverflow => "attempt to multiply with overflow"
  | .divideByZero => "attempt to divide by zero"
  | .capacityOverflow => "capacity overflow"
  | .notCanonical => "address is not canonical"
  | .physicalTooWide => "physical address exceeds maximum width"
  | .outOfMemoryBounds => "physical address out of bounds"
  | .unalignedEntry => "physical address must be page-aligned (16-byte alignment)"
  | .oversizedSegment => "segment page reads more than a page"
  | .notInPool frame => s!"frame {frame} is not in the user pool"
  | .noEvictableFrame => "no evictable frames"
  | .swapExhausted => "swap space exhausted"
  | .swapWriteFailed error => s!"swap write failed: {error.message}"
  | .stalled => "search does not end"

end DemandPaging
