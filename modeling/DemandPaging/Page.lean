import DemandPaging.Address
import DemandPaging.File
import DemandPaging.Swap

/-! Descriptors of the virtual pages of a process. -/
namespace DemandPaging

inductive Backing where
  /-- Reserved, but no backing assigned yet. -/
  | unclassified
  /-- Zero-filled on first touch. -/
  | zero
  /-- Loaded from a file, with a zero-filled tail. -/
  | file (segment : FileSegment)
deriving DecidableEq, Inhabited

/-- True if eviction has to save the page even when it is clean, since there is nothing to load
it from again. -/
def Backing.alwaysSwaps (backing : Backing) : Bool :=
  backing == .zero

inductive PageState where
  /-- Not in memory; to be loaded from its backing. -/
  | unloaded
  /-- Mapped to a frame. -/
  | resident (frame : FrameNumber)
  /-- Evicted to a swap slot. -/
  | swapped (slot : SwapSlot)
deriving DecidableEq, Inhabited

def PageState.debugText : PageState → String
  | .unloaded => "Unloaded"
  | .resident frame => s!"Resident({frame.debugText})"
  | .swapped slot => s!"Swapped({slot.debugText})"

structure Page where
  addr : VirtualAddress
  backing : Backing
  writable : Bool
  /-- The kernel is using the page directly; it cannot be evicted. -/
  pinned : Bool := false
  state : PageState := .unloaded
  /-- Counts the state changes, so that an old copy of the descriptor can be told from the
  current one although the page is back in the same state. -/
  generation : Nat := 0
deriving DecidableEq, Inhabited

def Page.frame? (page : Page) : Option FrameNumber :=
  match page.state with
  | .resident frame => some frame
  | _ => none

def Page.isResident (page : Page) : Bool := page.frame?.isSome

end DemandPaging
