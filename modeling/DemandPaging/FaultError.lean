import DemandPaging.Directory.Basic
import DemandPaging.Registry

/-! Why a fault, or a kernel's access on behalf of a process, cannot be resolved. Every reason is
fatal to that process only. -/
namespace DemandPaging

inductive FaultError where
  /-- The address is outside user space. -/
  | kernelAddress (address : Nat)
  /-- No page is registered at the address and it is not stack growth. -/
  | unmapped (addr : VirtualAddress)
  | writeToReadOnly (page : VirtualAddress)
  /-- The access would grow the stack past its maximum size. -/
  | stackOverflow (page : VirtualAddress)
  /-- The page was reserved but never given a backing. -/
  | unclassified (page : VirtualAddress)
  /-- The backing file ended before the page's share of it. -/
  | shortRead (page : VirtualAddress) (expected actual : Nat)
  | file (error : FileError)
  | swap (error : SwapError)
  | map (error : MapError)
  | registry (error : RegistryError)
deriving DecidableEq, Inhabited

namespace FaultError

def message : FaultError → String
  | .kernelAddress address => s!"access to non-user address {Word.hex address}"
  | .unmapped addr => s!"no page registered at {addr.text}"
  | .writeToReadOnly page => s!"write to read-only page {page.text}"
  | .stackOverflow page => s!"stack growth to {page.text} exceeds the stack limit"
  | .unclassified page => s!"page {page.text} has no backing"
  | .shortRead page expected actual =>
      s!"short read loading {page.text}: {actual} of {expected} bytes"
  | .file error => s!"reading backing file: {error.message}"
  | .swap error => s!"reading swap: {error.message}"
  | .map error => s!"installing mapping: {error.message}"
  | .registry error => s!"registering page: {error.message}"

def killedExitStatus : Int := -1

def exitStatus (_ : FaultError) : Int := killedExitStatus

end FaultError

end DemandPaging
