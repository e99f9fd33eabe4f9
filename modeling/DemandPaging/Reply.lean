import DemandPaging.Architecture
import DemandPaging.Config
import DemandPaging.FaultError

/-! What callers are answered. -/
namespace DemandPaging

inductive Failure where
  | fault (error : FaultError)
  | registry (error : RegistryError)
  | swap (error : SwapError)
  | block (error : BlockError)
  | map (error : MapError)

inductive Reply where
  | done
  | nothing
  | truth (value : Bool)
  | number (value : Nat)
  | address (value : Nat)
  | bytes (value : Bytes)
  | page (page : Page)
  /-- Number of registered pages. -/
  | length (count : Nat)
  | resident (pages : List (VirtualAddress × FrameNumber))
  /-- Outcome of each of several registrations. -/
  | registered (pages : List (Except RegistryError VirtualAddress))
  | pinned (guard : Nat) (pages : List (VirtualAddress × FrameNumber))
  | slotWritten (slot : SwapSlot)
  /-- A read from swap that failed, and the buffer as it was left. -/
  | swapReadFailed (error : SwapError) (buffer : Bytes)
  /-- The physical address reached, and the faults on the way. -/
  | touched (addr : PhysicalAddress) (faults : Nat)
  /-- An access that kept faulting. -/
  | stuck
  | fault (fault : PageFault)
  | entry (entry : EntryView)
  | settings (config : Config)
  | diskInfo (sectorSize sectorCount reads writes : Nat)
  | failed (failure : Failure)

end DemandPaging
