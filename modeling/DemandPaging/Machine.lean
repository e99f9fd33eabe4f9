import DemandPaging.Log
import DemandPaging.Memory
import DemandPaging.Operation
import DemandPaging.Reply

/-! The state of the memory manager and everything it works on, and computations over it. A
computation that stops the kernel keeps the state it stopped in, so that the log survives. -/
namespace DemandPaging

abbrev DirectoryId := Nat

structure AddressSpace where
  registry : Registry
  /-- The page directory of the process. -/
  directory : DirectoryId
  /-- User stack pointer at the last fault or kernel entry. -/
  stackPointer : Nat
deriving Inhabited

/-- Pages that stay resident, each with its frame, until the guard is dropped. -/
structure PinGuard where
  /-- The address space holding the pins. -/
  owner : SpaceId
  /-- In ascending order. -/
  pages : List (VirtualAddress × FrameNumber)
deriving DecidableEq, Inhabited

structure Callers where
  /-- Guards in order of creation, without those dropped. -/
  guards : List (Option PinGuard) := []
  /-- Frames obtained and not given back, each with the space it was obtained for, the latest first. -/
  frames : List (SpaceId × FrameNumber) := []
  /-- Swap slots in the order in which they were noted. -/
  slots : List SwapSlot := []
  /-- What is to happen before the next read of a file. -/
  fileScripts : SortedMap FileId (List Op) := .empty
  /-- What is to happen before the next sector read. -/
  sectorScript : Option (List Op) := none
  /-- Answers to the operations of scripts, the latest first. -/
  replies : List Reply := []
deriving Inhabited

/-- The memory manager with its memory, swap, address spaces and files, and its callers. -/
structure Machine [Architecture] where
  config : Config
  pool : FramePool
  memory : Memory
  swap : SwapStore
  spaces : List AddressSpace := []
  directories : List Architecture.Directory := []
  files : List BackingFile := []
  stats : Stats := {}
  /-- What happened, the latest first. -/
  log : List Event := []
  callers : Callers := {}

/-- A computation over the machine that may stop the kernel. -/
abbrev Kernel [Architecture] := EStateM Fatal Machine

/-- A computation on behalf of a process, whose failure is fatal to that process only. -/
abbrev Faulting [Architecture] := ExceptT FaultError Kernel

variable [Architecture]

namespace Machine

/-- The address space of a number; one without pages if there is none. -/
def space (machine : Machine) (space : SpaceId) : AddressSpace :=
  machine.spaces.getD space default

def registry (machine : Machine) (space : SpaceId) : Registry :=
  (machine.space space).registry

def directory (machine : Machine) (space : SpaceId) : Architecture.Directory :=
  machine.directories.getD (machine.space space).directory default

def setSpace (machine : Machine) (space : SpaceId) (value : AddressSpace) : Machine :=
  { machine with spaces := machine.spaces.set space value }

def setRegistry (machine : Machine) (space : SpaceId) (registry : Registry) : Machine :=
  machine.setSpace space { machine.space space with registry }

def setDirectory (machine : Machine) (space : SpaceId) (directory : Architecture.Directory) :
    Machine :=
  { machine with
    directories := machine.directories.set (machine.space space).directory directory }

def setStackPointer (machine : Machine) (space : SpaceId) (stackPointer : Nat) : Machine :=
  machine.setSpace space { machine.space space with stackPointer }

def file (machine : Machine) (file : FileId) : BackingFile :=
  machine.files.getD file default

def setFile (machine : Machine) (file : FileId) (value : BackingFile) : Machine :=
  { machine with files := machine.files.set file value }

def isAccessed (machine : Machine) (space : SpaceId) (page : VirtualAddress) : Bool :=
  Architecture.isAccessed (machine.directory space) page

def isDirty (machine : Machine) (space : SpaceId) (page : VirtualAddress) : Bool :=
  Architecture.isDirty (machine.directory space) page

def translate (machine : Machine) (space : SpaceId) (addr : VirtualAddress) :
    Option PhysicalAddress :=
  Architecture.translate (machine.directory space) addr

end Machine

namespace Kernel

/-- A computation that cannot touch the machine, but may stop it. -/
def orStop {α : Type} : Except Fatal α → Kernel α
  | .ok value => pure value
  | .error cause => throw cause

def attempt {α : Type} (action : Faulting α) : Faulting (Except FaultError α) :=
  ExceptT.lift action.run

def emit (event : Event) : Kernel Unit :=
  modify fun machine => { machine with log := event :: machine.log }

def modifyPool (change : FramePool → FramePool) : Kernel Unit :=
  modify fun machine => { machine with pool := change machine.pool }

def modifyStats (change : Stats → Stats) : Kernel Unit :=
  modify fun machine => { machine with stats := change machine.stats }

def modifyCallers (change : Callers → Callers) : Kernel Unit :=
  modify fun machine => { machine with callers := change machine.callers }

def modifyRegistry (space : SpaceId) (change : Registry → Registry) : Kernel Unit :=
  modify fun machine => machine.setRegistry space (change (machine.registry space))

def setAccessed (space : SpaceId) (page : VirtualAddress) (value : Bool) : Kernel Unit :=
  modify fun machine =>
    machine.setDirectory space (Architecture.setAccessed (machine.directory space) page value)

def setDirty (space : SpaceId) (page : VirtualAddress) (value : Bool) : Kernel Unit :=
  modify fun machine =>
    machine.setDirectory space (Architecture.setDirty (machine.directory space) page value)

def install (space : SpaceId) (page : VirtualAddress) (frame : PhysicalAddress)
    (writable : Bool) : Kernel (Except MapError Unit) :=
  modifyGet fun machine =>
    let (result, directory) := Architecture.install (machine.directory space) page frame writable
    (result, machine.setDirectory space directory)

def unmap (space : SpaceId) (page : VirtualAddress) : Kernel (Option PhysicalAddress) :=
  modifyGet fun machine =>
    let (frame, directory) := Architecture.unmap (machine.directory space) page
    (frame, machine.setDirectory space directory)

def readFrame (frame : FrameNumber) : Kernel Bytes := do
  orStop ((← get).memory.read frame)

def writeFrame (frame : FrameNumber) (offset : Nat) (bytes : Bytes) : Kernel Unit := do
  let memory ← orStop ((← get).memory.write frame offset bytes)
  modify fun machine => { machine with memory }

def poolIndex (frame : FrameNumber) : Kernel Nat := do
  orStop ((← get).pool.index frame)

def freeSlot (slot : SwapSlot) : Kernel Unit := do
  let (wasUsed, swap) := (← get).swap.free slot
  modify fun machine => { machine with swap }
  if !wasUsed then emit (.slotNotInUse slot)

end Kernel

end DemandPaging
