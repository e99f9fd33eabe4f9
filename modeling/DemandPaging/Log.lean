import DemandPaging.FaultError
import DemandPaging.FramePool

/-! The kernel log. An event says what happened; its level and its text follow from it. -/
namespace DemandPaging

inductive Level where
  | error
  | warn
  | info
  | debug
  | trace
deriving DecidableEq, Inhabited

namespace Level

def rank : Level → Nat
  | .error => 0
  | .warn => 1
  | .info => 2
  | .debug => 3
  | .trace => 4

def name : Level → String
  | .error => "error"
  | .warn => "warn"
  | .info => "info"
  | .debug => "debug"
  | .trace => "trace"

/-- True if a log that keeps events down to `threshold` keeps those of `level`. -/
def enabled (threshold : Option Level) (level : Level) : Bool :=
  threshold.any fun least => level.rank ≤ least.rank

end Level

inductive Event where
  | started (userTop maxStackSize : Nat)
  | poolReady (count : Nat) (first last : PhysicalAddress)
  | swapReady (slots sectorsPerSlot sectorSize : Nat)
  | spaceCreated (space : SpaceId)
  | spaceDestroyed (space : SpaceId) (pages : Nat)
  | segmentRegistered (space : SpaceId) (pages : Nat) (addr : VirtualAddress) (fileBytes : Nat)
  | stackGrown (space : SpaceId) (page : VirtualAddress)
  | loaded (space : SpaceId) (page : VirtualAddress) (frame : FrameNumber) (state : PageState)
  | unresolvable (space : SpaceId) (address : Nat) (error : FaultError)
  | secondChance (frame : FrameNumber) (page : VirtualAddress)
  | discarded (page : VirtualAddress) (frame : FrameNumber)
  | swappedOut (page : VirtualAddress) (frame : FrameNumber) (slot : SwapSlot)
  | allPinned (count : Nat)
  | swapFull (page : VirtualAddress) (space : SpaceId)
  | swapWriteFailed (page : VirtualAddress) (error : SwapError)
  | nothingAttached (frame : FrameNumber)
  | strayUnpin (frame : FrameNumber) (space : SpaceId)
  | strayFree (frame : FrameNumber)
  | releasedPinned (frame : FrameNumber)
  | slotNotInUse (slot : SwapSlot)
deriving DecidableEq, Inhabited

def SpaceId.number (space : SpaceId) : Nat := space + 1

namespace Event

def ofStore [Geometry] (swap : SwapStore) : Event :=
  .swapReady swap.capacity (SwapStore.sectorsPerSlot swap.disk.sectorSize) swap.disk.sectorSize

def level : Event → Level
  | .allPinned .. | .swapFull .. | .swapWriteFailed .. => .error
  | .unresolvable .. | .nothingAttached .. | .strayUnpin .. | .strayFree .. | .slotNotInUse .. =>
      .warn
  | .started .. | .poolReady .. | .swapReady .. => .info
  | .spaceCreated .. | .spaceDestroyed .. | .segmentRegistered .. | .stackGrown .. | .loaded ..
  | .releasedPinned .. => .debug
  | .secondChance .. | .discarded .. | .swappedOut .. => .trace

def text : Event → String
  | .started userTop maxStackSize =>
      s!"vmm: user space below {Word.hex userTop}, stack limit {Word.hex maxStackSize}"
  | .poolReady count first last =>
      s!"frame table: {count} user frames at {first.text}..{last.text}"
  | .swapReady slots sectorsPerSlot sectorSize =>
      s!"swap: {slots} slots ({sectorsPerSlot} sectors of {sectorSize} bytes each)"
  | .spaceCreated space => s!"created address space {space.number}"
  | .spaceDestroyed space pages => s!"destroyed address space {space.number} ({pages} pages)"
  | .segmentRegistered space pages addr fileBytes =>
      s!"address space {space.number}: registered {pages} pages at {addr.text} " ++
        s!"({fileBytes} file bytes)"
  | .stackGrown space page => s!"address space {space.number}: stack grows to {page.text}"
  | .loaded space page frame state =>
      s!"address space {space.number}: {page.text} resident in {frame.text} " ++
        s!"(was {state.debugText})"
  | .unresolvable space address error =>
      s!"address space {space.number}: unresolvable fault at {Word.hex address}: {error.message}"
  | .secondChance frame page => s!"clock: {frame.text} ({page.text}) gets a second chance"
  | .discarded page frame => s!"clock: discarding clean {page.text} from {frame.text}"
  | .swappedOut page frame slot =>
      s!"clock: {page.text} from {frame.text} to {slot.debugText}"
  | .allPinned count => s!"frame table: all {count} frames are pinned, nothing to evict"
  | .swapFull page space => s!"swap full evicting {page.text} of address space {space.number}"
  | .swapWriteFailed page error => s!"swap write failed evicting {page.text}: {error.message}"
  | .nothingAttached frame => s!"evicted frame {frame.text} had no page attached"
  | .strayUnpin frame space =>
      s!"frame {frame.text} unpinned by address space {space.number}, " ++
        "which holds no pin on it"
  | .strayFree frame => s!"frame {frame.text} freed while not assigned"
  | .releasedPinned frame =>
      s!"frame {frame.text} released while pinned, freeing at last unpin"
  | .slotNotInUse slot => s!"freeing swap slot {slot.index} which is not in use"

def line (event : Event) : String := s!"{event.level.name} {event.text}"

end Event

end DemandPaging
