import DemandPaging.Directory.FourLevel
import DemandPaging.Directory.ThreeLevel

/-! A machine as the memory manager sees it: its sizes and its page directories. -/
namespace DemandPaging

inductive EntryView where
  | threeLevel (entry : PageEntry)
  | fourLevel (leaf : FourLevel.Leaf) (huge : Bool)

/-- The sizes of a machine and the page directories that its processor walks. The bits of a page
without a mapping are clear, and setting them does nothing. -/
class Architecture extends Geometry where
  Directory : Type
  ofSpec : DirectorySpec → Directory
  /-- Maps a page to a frame for user access, with both bits clear. -/
  install : Directory → VirtualAddress → PhysicalAddress → Bool → Except MapError Unit × Directory
  /-- Removes the mapping of a page and answers the frame it led to. -/
  unmap : Directory → VirtualAddress → Option PhysicalAddress × Directory
  isAccessed : Directory → VirtualAddress → Bool
  isDirty : Directory → VirtualAddress → Bool
  setAccessed : Directory → VirtualAddress → Bool → Directory
  setDirty : Directory → VirtualAddress → Bool → Directory
  /-- The physical address that a virtual address is mapped to. -/
  translate : Directory → VirtualAddress → Option PhysicalAddress
  /-- The entry that the tables hold for an address, if they reach one. -/
  entry? : Directory → VirtualAddress → Option EntryView
  /-- One access of a user to one byte, as the processor performs it. -/
  access : Directory → VirtualAddress → Access → Except PageFault PhysicalAddress × Directory

namespace Architecture

instance [Architecture] : Inhabited Directory := ⟨ofSpec ⟨0, []⟩⟩

@[reducible] def small : Architecture where
  toGeometry := .small
  Directory := ThreeLevel
  ofSpec _ := {}
  install := ThreeLevel.install
  unmap := ThreeLevel.unmap
  isAccessed directory page := directory.flag page PageFlags.accessed
  isDirty directory page := directory.flag page PageFlags.dirty
  setAccessed directory page value := directory.setFlag page PageFlags.accessed value
  setDirty directory page value := directory.setFlag page PageFlags.dirty value
  translate := ThreeLevel.translate
  entry? directory page := (directory.entry? page).map .threeLevel
  access := ThreeLevel.access

@[reducible] def large : Architecture where
  toGeometry := .large
  Directory := FourLevel
  ofSpec := FourLevel.ofSpec
  install := FourLevel.install
  unmap := FourLevel.unmap
  isAccessed := FourLevel.isAccessed
  isDirty := FourLevel.isDirty
  setAccessed := FourLevel.setAccessed
  setDirty := FourLevel.setDirty
  translate := FourLevel.translate
  entry? directory page :=
    (directory.mapped? page).map fun found => .fourLevel found.leaf (found.size == FourLevel.hugeSize)
  access := FourLevel.access

end Architecture

end DemandPaging
