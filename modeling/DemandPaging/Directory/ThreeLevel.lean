import DemandPaging.Access
import DemandPaging.Directory.Entry
import DemandPaging.SortedMap

/-! The page directory of the small machine: three levels of tables with sixteen entries each over
16-byte pages. Besides holding mappings it plays the part of the processor. -/
namespace DemandPaging

/-- A page directory of three levels. A table that was never needed is absent; an entry that was
never written is blank. -/
structure ThreeLevel where
  root : SortedMap Nat (SortedMap Nat (SortedMap Nat PageEntry)) := .empty

namespace ThreeLevel

instance : Inhabited ThreeLevel := ⟨{}⟩

/-- Place of an address in the table of a level; level 0 holds the entries of pages. -/
def index (addr : VirtualAddress) (level : Nat) : Nat :=
  (addr.value >>> (4 * (level + 1))) % 16

/-- The entry for the page of `addr`, if the tables reach that far. -/
def entry? (directory : ThreeLevel) (addr : VirtualAddress) : Option PageEntry := do
  let middle ← directory.root.get? (index addr 2)
  let leaf ← middle.get? (index addr 1)
  return (leaf.get? (index addr 0)).getD .blank

/-- Writes the entry for the page of `addr`, adding the tables that are missing. -/
def setEntry (directory : ThreeLevel) (addr : VirtualAddress) (entry : PageEntry) : ThreeLevel :=
  let middle := (directory.root.get? (index addr 2)).getD .empty
  let leaf := (middle.get? (index addr 1)).getD .empty
  ⟨directory.root.insert (index addr 2)
    (middle.insert (index addr 1) (leaf.insert (index addr 0) entry))⟩

def mapped? (directory : ThreeLevel) (addr : VirtualAddress) : Option PageEntry :=
  (directory.entry? addr).filter (·.isPresent)

/-- Maps a page with both bits clear. A failure changes nothing. -/
def install (directory : ThreeLevel) (page : VirtualAddress) (frame : PhysicalAddress)
    (writable : Bool) : Except MapError Unit × ThreeLevel :=
  if page.value % 16 ≠ 0 ∨ frame.value % 16 ≠ 0 then (.error .unaligned, directory)
  else if (directory.mapped? page).isSome then (.error (.alreadyMapped page), directory)
  else (.ok (), directory.setEntry page ⟨frame, PageFlags.forUser writable⟩)

def unmap (directory : ThreeLevel) (page : VirtualAddress) :
    Option PhysicalAddress × ThreeLevel :=
  match directory.mapped? page with
  | none => (none, directory)
  | some entry => (some entry.frame, directory.setEntry page .blank)

def flag (directory : ThreeLevel) (page : VirtualAddress) (asked : PageFlags) : Bool :=
  (directory.mapped? page).any (·.flags.has asked)

def setFlag (directory : ThreeLevel) (page : VirtualAddress) (changed : PageFlags)
    (value : Bool) : ThreeLevel :=
  match directory.mapped? page with
  | none => directory
  | some entry => directory.setEntry page (entry.update changed value)

def translate (directory : ThreeLevel) (addr : VirtualAddress) : Option PhysicalAddress :=
  (directory.mapped? addr).map fun entry => ⟨entry.frame.value + addr.value % 16⟩

/-- A user's access to one byte: the byte's physical address, with the accessed and dirty bits
set, or the fault that the processor raises. -/
def access (directory : ThreeLevel) (addr : VirtualAddress) (kind : Access) :
    Except PageFault PhysicalAddress × ThreeLevel :=
  match directory.mapped? addr with
  | none => (.error ⟨addr.value, kind, false⟩, directory)
  | some entry =>
      if kind = .write ∧ !entry.flags.has PageFlags.writable then
        (.error ⟨addr.value, kind, true⟩, directory)
      else
        let touched := entry.update PageFlags.accessed true
        let touched := if kind = .write then touched.update PageFlags.dirty true else touched
        (.ok ⟨entry.frame.value + addr.value % 16⟩, directory.setEntry addr touched)

end ThreeLevel

end DemandPaging
