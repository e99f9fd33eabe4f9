import DemandPaging.Access
import DemandPaging.Directory.Basic
import DemandPaging.SortedMap

/-! The page directory of the large machine: four levels of tables with 512 entries each over
4 KiB pages, where an entry of the second level can map a huge page of 2 MiB itself. Tables come
from a limited stock of frames. Every entry on the way to a page carries a write permission, and a
write needs all of them.

The walk that maps a page (`enter`, `descend` and `descendPastHuge`) is not the memory manager's own
code but an assumption on the page-table mapper that it calls: at each level the mapper adds the table
that is missing or widens the permission of the entry that is there, before it finds out whether that
entry leads to a table at all, and it undoes nothing when it fails further down. Huge pages are assumed
to be of 2 MiB. Entries of the third level that map 1 GiB are left out, so what is shown of huge pages
is shown of those of the second level only. -/
namespace DemandPaging
namespace FourLevel

/-- The entry that maps a page. Only user pages are mapped. -/
structure Leaf where
  frame : PhysicalAddress
  writable : Bool
  accessed : Bool := false
  dirty : Bool := false
deriving DecidableEq, Inhabited

structure Branch (τ : Type) where
  writable : Bool
  table : τ

abbrev Table1 := SortedMap Nat Leaf

inductive Entry2 where
  | table (branch : Branch Table1)
  | huge (leaf : Leaf)

abbrev Table2 := SortedMap Nat Entry2

abbrev Table3 := SortedMap Nat (Branch Table2)

abbrev Table4 := SortedMap Nat (Branch Table3)

structure Stocked (τ : Type) where
  table : τ
  stock : Nat

abbrev Change (τ : Type) := Except MapError Unit × Stocked τ

def hugeSize : Nat := 0x20_0000

/-- Place of an address in the table of a level, counted from 1. -/
def index (addr : VirtualAddress) (level : Nat) : Nat :=
  (addr.value >>> (12 + 9 * (level - 1))) % 512

/-- Follows an entry to the table below it, or takes a frame for an empty table. The permission of
the entry is widened before anything else is known of the table. -/
def enter {τ : Type} (found : Option (Branch τ)) (blank : τ) (writable : Bool)
    (stock : Nat) (change : Stocked τ → Change τ) :
    Option (Except MapError Unit × Branch τ × Nat) :=
  match found with
  | some branch =>
      let (result, below) := change ⟨branch.table, stock⟩
      some (result, ⟨branch.writable || writable, below.table⟩, below.stock)
  | none =>
      match stock with
      | 0 => none
      | left + 1 =>
          let (result, below) := change ⟨blank, left⟩
          some (result, ⟨writable, below.table⟩, below.stock)

def descend {τ : Type} (place : Nat) (writable : Bool) (blank : τ)
    (change : Stocked τ → Change τ) (above : Stocked (SortedMap Nat (Branch τ))) :
    Change (SortedMap Nat (Branch τ)) :=
  match enter (above.table.get? place) blank writable above.stock change with
  | none => (.error .outOfMemory, above)
  | some (result, branch, stock) => (result, ⟨above.table.insert place branch, stock⟩)

/-- Changes the table below the second-level entry at `place`, unless it maps a huge page. -/
def descendPastHuge (page : VirtualAddress) (place : Nat) (writable : Bool)
    (change : Stocked Table1 → Change Table1) (above : Stocked Table2) : Change Table2 :=
  let lower (found : Option (Branch Table1)) : Change Table2 :=
    match enter found .empty writable above.stock change with
    | none => (.error .outOfMemory, above)
    | some (result, branch, stock) =>
        (result, ⟨above.table.insert place (.table branch), stock⟩)
  match above.table.get? place with
  | none => lower none
  | some (.table branch) => lower (some branch)
  | some (.huge leaf) =>
      (.error (.alreadyMapped page), { above with
        table := above.table.insert place
          (.huge { leaf with writable := leaf.writable || writable }) })

end FourLevel

structure FourLevel where
  root : FourLevel.Table4 := .empty
  /-- Frames left for tables. -/
  stock : Nat

namespace FourLevel

instance : Inhabited FourLevel := ⟨{ stock := 0 }⟩

def changeBelow (directory : FourLevel) (page : VirtualAddress) (writable : Bool)
    (change : Stocked Table2 → Change Table2) : Except MapError Unit × FourLevel :=
  let (result, above) := descend (index page 4) writable .empty
    (descend (index page 3) writable .empty change) ⟨directory.root, directory.stock⟩
  (result, ⟨above.table, above.stock⟩)

/-- Maps a 4 KiB page with both bits clear. Tables and permissions that the walk has added stay
when it fails further down. -/
def install (directory : FourLevel) (page : VirtualAddress) (frame : PhysicalAddress)
    (writable : Bool) : Except MapError Unit × FourLevel :=
  if page.value % 4096 ≠ 0 ∨ frame.value % 4096 ≠ 0 then (.error .unaligned, directory)
  else
    let add (last : Stocked Table1) : Change Table1 :=
      if last.table.contains (index page 1) then (.error (.alreadyMapped page), last)
      else (.ok (), { last with table := last.table.insert (index page 1) { frame, writable } })
    directory.changeBelow page writable (descendPastHuge page (index page 2) writable add)

def installHuge (directory : FourLevel) (mapping : HugeMapping) : FourLevel :=
  let place := index mapping.page 2
  let add (last : Stocked Table2) : Change Table2 :=
    if last.table.contains place then (.error (.alreadyMapped mapping.page), last)
    else
      let leaf : Leaf :=
        { frame := mapping.frame
          writable := false
          accessed := mapping.accessed
          dirty := mapping.dirty }
      (.ok (), { last with table := last.table.insert place (.huge leaf) })
  (directory.changeBelow mapping.page false add).2

def ofSpec (spec : DirectorySpec) : FourLevel :=
  spec.huge.foldl installHuge { stock := spec.tables }

/-- The second-level entry on the way to `addr`, and whether the entries above it permit
writing. -/
def second? (directory : FourLevel) (addr : VirtualAddress) : Option (Entry2 × Bool) := do
  let third ← directory.root.get? (index addr 4)
  let second ← third.table.get? (index addr 3)
  let entry ← second.table.get? (index addr 2)
  return (entry, third.writable && second.writable)

structure Mapped where
  leaf : Leaf
  /-- Bytes in the page. -/
  size : Nat
  /-- Every entry on the way permits writing. -/
  mayWrite : Bool

def mapped? (directory : FourLevel) (addr : VirtualAddress) : Option Mapped := do
  match ← directory.second? addr with
  | (.huge leaf, above) => return ⟨leaf, hugeSize, above && leaf.writable⟩
  | (.table branch, above) =>
      let leaf ← branch.table.get? (index addr 1)
      return ⟨leaf, 4096, above && branch.writable && leaf.writable⟩

/-- Puts `entry` at the second level on the way to `addr`, if the tables reach that far. -/
def setSecond (directory : FourLevel) (addr : VirtualAddress) (entry : Entry2) : FourLevel :=
  match directory.root.get? (index addr 4) with
  | none => directory
  | some third =>
      match third.table.get? (index addr 3) with
      | none => directory
      | some second =>
          let second := { second with table := second.table.insert (index addr 2) entry }
          let third := { third with table := third.table.insert (index addr 3) second }
          { directory with root := directory.root.insert (index addr 4) third }

def unmap (directory : FourLevel) (page : VirtualAddress) : Option PhysicalAddress × FourLevel :=
  if page.value % 4096 ≠ 0 then (none, directory)
  else
    match directory.second? page with
    | some (.table branch, _) =>
        match branch.table.get? (index page 1) with
        | none => (none, directory)
        | some leaf =>
            (some leaf.frame, directory.setSecond page
              (.table { branch with table := branch.table.erase (index page 1) }))
    | _ => (none, directory)

def pageLeaf? (directory : FourLevel) (page : VirtualAddress) : Option Leaf :=
  if page.value % 4096 ≠ 0 then none else (directory.mapped? page).map (·.leaf)

def isAccessed (directory : FourLevel) (page : VirtualAddress) : Bool :=
  (directory.pageLeaf? page).any (·.accessed)

def isDirty (directory : FourLevel) (page : VirtualAddress) : Bool :=
  (directory.pageLeaf? page).any (·.dirty)

def updateLeaf (directory : FourLevel) (page : VirtualAddress) (change : Leaf → Leaf) :
    FourLevel :=
  match directory.second? page with
  | some (.table branch, _) =>
      match branch.table.get? (index page 1) with
      | none => directory
      | some leaf => directory.setSecond page
          (.table { branch with table := branch.table.insert (index page 1) (change leaf) })
  | _ => directory

def setAccessed (directory : FourLevel) (page : VirtualAddress) (value : Bool) : FourLevel :=
  if page.value % 4096 ≠ 0 then directory
  else directory.updateLeaf page fun leaf => { leaf with accessed := value }

def setDirty (directory : FourLevel) (page : VirtualAddress) (value : Bool) : FourLevel :=
  if page.value % 4096 ≠ 0 then directory
  else directory.updateLeaf page fun leaf => { leaf with dirty := value }

def translate (directory : FourLevel) (addr : VirtualAddress) : Option PhysicalAddress :=
  (directory.mapped? addr).map fun found => ⟨found.leaf.frame.value + addr.value % found.size⟩

def markLeaf (directory : FourLevel) (addr : VirtualAddress) (change : Leaf → Leaf) :
    FourLevel :=
  match directory.second? addr with
  | some (.huge leaf, _) => directory.setSecond addr (.huge (change leaf))
  | _ => directory.updateLeaf addr change

/-- A user's access to one byte: the byte's physical address, with the accessed and dirty bits
set, or the fault that the processor raises. -/
def access (directory : FourLevel) (addr : VirtualAddress) (kind : Access) :
    Except PageFault PhysicalAddress × FourLevel :=
  match directory.mapped? addr with
  | none => (.error ⟨addr.value, kind, false⟩, directory)
  | some found =>
      if kind = .write ∧ !found.mayWrite then (.error ⟨addr.value, kind, true⟩, directory)
      else
        (.ok ⟨found.leaf.frame.value + addr.value % found.size⟩,
          directory.markLeaf addr fun leaf =>
            { leaf with accessed := true, dirty := leaf.dirty || kind == .write })

end FourLevel

end DemandPaging
