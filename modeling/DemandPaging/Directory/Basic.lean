import DemandPaging.Address

/-! What the page directories of all machines have in common. -/
namespace DemandPaging

inductive MapError where
  /-- The page or the frame address is not page-aligned. -/
  | unaligned
  | alreadyMapped (page : VirtualAddress)
  /-- A page table could not be allocated. -/
  | outOfMemory
deriving DecidableEq, Inhabited

def MapError.message : MapError → String
  | .unaligned => "page or frame is not page-aligned"
  | .alreadyMapped page => s!"page {page.text} is already mapped"
  | .outOfMemory => "out of memory for page tables"

/-- A large read-only page mapped before the directory is put to use. -/
structure HugeMapping where
  page : VirtualAddress
  frame : PhysicalAddress
  accessed : Bool
  dirty : Bool

/-- What a new directory starts from. Directories that own their tables need nothing. -/
structure DirectorySpec where
  /-- Frames at hand for page tables. -/
  tables : Nat
  huge : List HugeMapping

end DemandPaging
