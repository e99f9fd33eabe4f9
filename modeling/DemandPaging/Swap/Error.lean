import DemandPaging.Disk.Error

/-! Reasons a swap transfer fails. -/
namespace DemandPaging

inductive SwapError where
  /-- Every slot is occupied. -/
  | full
  /-- The slot is past the end of the device, or not occupied. -/
  | notInUse (slot : Nat)
  /-- The buffer is not exactly one page. -/
  | pageSize
  | io (error : BlockError)
deriving DecidableEq, Inhabited

def SwapError.message : SwapError → String
  | .full => "swap space exhausted"
  | .notInUse slot => s!"swap slot {slot} is not in use"
  | .pageSize => "swap transfers must be exactly one page"
  | .io error => s!"swap device: {error.message}"

end DemandPaging
