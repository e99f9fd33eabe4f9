/-! Memory accesses and the page faults that a processor reports for them. -/
namespace DemandPaging

/-- What a process does to a byte of its memory. -/
inductive Access where
  | read
  | write
deriving DecidableEq, Inhabited

/-- A page fault as the processor reports it. -/
structure PageFault where
  /-- The faulting address, a word that need not be canonical. -/
  address : Nat
  access : Access
  /-- The page was mapped and the access was not permitted. -/
  present : Bool
deriving DecidableEq, Inhabited

/-- Decodes an error code: bit 0 is set for a mapped page, bit 1 for a write. -/
def PageFault.ofErrorCode (address code : Nat) : PageFault where
  address
  access := if code.testBit 1 then .write else .read
  present := code.testBit 0

end DemandPaging
