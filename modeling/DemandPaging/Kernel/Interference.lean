import DemandPaging.Machine

/-! What other parties do to the machine while a load waits for a file or the swap device. No
table is locked at these points, so anything can happen there. -/
namespace DemandPaging

structure Load where
  space : SpaceId
  /-- The page as it was when the load began. -/
  page : Page
  /-- The frame obtained for it. -/
  frame : FrameNumber
  /-- The pages of its range that are pinned already, if the load is to pin a range. -/
  pinned : List (VirtualAddress × FrameNumber) := []
deriving DecidableEq, Inhabited

structure Interference [Architecture] where
  /-- What happens before a file answers the read of a load. -/
  beforeFileRead : Load → FileId → Kernel Unit
  /-- What happens before the swap device answers a sector read, of a load or of a caller. -/
  beforeSectorRead : Option Load → Kernel Unit
  /-- More than the number of loads in a row that other parties can spoil. -/
  patience : Nat

def Interference.none [Architecture] : Interference where
  beforeFileRead _ _ := pure ()
  beforeSectorRead _ := pure ()
  patience := 1

end DemandPaging
