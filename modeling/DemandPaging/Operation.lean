import DemandPaging.Access
import DemandPaging.Directory.Basic
import DemandPaging.File
import DemandPaging.FramePool

/-! What callers can ask for. Addresses, lengths and numbers are words as the caller gives them;
they are checked when the operation is performed. -/
namespace DemandPaging

inductive BackingSpec where
  | unclassified
  | zero
  | file (file : FileId) (offset readBytes : Nat)

inductive RegistryOp where
  | create (addr : Nat) (backing : BackingSpec) (writable : Bool)
  | lookup (addr : Nat)
  | lookupFrame (frame : Nat)
  | remove (addr : Nat)
  | classify (addr : Nat) (backing : BackingSpec)
  | length
  | resident

inductive DirectoryOp where
  | install (addr phys : Nat) (writable : Bool)
  | unmap (addr : Nat)
  | isAccessed (addr : Nat)
  | isDirty (addr : Nat)
  | setAccessed (addr : Nat) (value : Bool)
  | setDirty (addr : Nat) (value : Bool)
  | translate (addr : Nat)
  | entry (addr : Nat)
  | access (addr : Nat) (kind : Access)

inductive DiskOp where
  | read (sector length : Nat)
  | write (sector : Nat) (bytes : Bytes)
  | info
  /-- Sets how many transfers the controller still lets through. -/
  | limit (reads writes : Option Nat)

/-- What can be asked of a swap store. Slots are named by the order in which they were noted. -/
inductive SwapOp where
  | write (bytes : Bytes)
  | read (name length : Nat)
  | free (name : Nat)
  | isOccupied (name : Nat)

inductive StoreOp where
  | swap (op : SwapOp)
  /-- Asked of the disk below the store. -/
  | disk (op : DiskOp)

inductive Op where
  | registry (space : SpaceId) (op : RegistryOp)
  | directory (space : SpaceId) (op : DirectoryOp)
  | disk (op : DiskOp)
  | swap (op : SwapOp)
  /-- A new space, on the directory of another one or on its own. -/
  | createSpace (share : Option SpaceId) (spec : DirectorySpec)
  | openFile (contents : Bytes) (mode : FileMode)
  | setFileMode (file : FileId) (mode : FileMode)
  | fileReads (file : FileId)
  /-- Registers consecutive zero pages, each on its own account. -/
  | registerZero (space : SpaceId) (addr count : Nat) (writable : Bool)
  | registerSegment (space : SpaceId) (file : FileId) (offset addr readBytes zeroBytes : Nat)
      (writable : Bool)
  | reserve (space : SpaceId) (addr : Nat) (writable : Bool)
  /-- A page fault, with the stack pointer recorded last unless one is given. -/
  | fault (space : SpaceId) (fault : PageFault) (stackPointer : Option Nat)
  /-- An access of the process, retried after each fault that was resolved. -/
  | touch (space : SpaceId) (addr : Nat) (kind : Access)
  | peek (space : SpaceId) (addr : Nat)
  | poke (space : SpaceId) (addr : Nat) (byte : UInt8)
  | copyTo (space : SpaceId) (addr : Nat) (bytes : Bytes)
  | copyFrom (space : SpaceId) (addr length : Nat)
  | pin (space : SpaceId) (addr length : Nat) (kind : Access)
  | unpin (guard : Nat)
  | guardFrame (guard addr : Nat)
  | release (space : SpaceId) (addr : Nat)
  | destroy (space : SpaceId)
  | setupStack (space : SpaceId)
  | setStackPointer (space : SpaceId) (stackPointer : Nat)
  | allocate (space : SpaceId) (zeroed : Bool)
  | free (frame : Nat)
  | isPinned (frame : Nat)
  | owner (frame : Nat)
  | writeFrame (frame : Nat) (bytes : Bytes)
  | readFrame (frame length : Nat)
  /-- Notes the slot that a page is swapped to. -/
  | noteSlot (space : SpaceId) (addr : Nat)
  | config
  /-- Has a script run before the next read of a file is answered. -/
  | beforeFileRead (file : FileId) (script : List Op)
  /-- Has a script run before the next sector read of the memory manager is answered. -/
  | beforeSectorRead (script : List Op)

mutual

def Op.scripts : Op → Nat
  | .beforeFileRead _ script => Op.scriptsIn script + 1
  | .beforeSectorRead script => Op.scriptsIn script + 1
  | _ => 0

def Op.scriptsIn : List Op → Nat
  | [] => 0
  | op :: rest => Op.scripts op + Op.scriptsIn rest

end

end DemandPaging
