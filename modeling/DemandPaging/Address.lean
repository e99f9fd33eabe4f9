import DemandPaging.Geometry

/-! Virtual addresses, physical addresses and frame numbers. Building an address checks it: an
address that the machine cannot express is fatal. -/
namespace DemandPaging

structure VirtualAddress where
  value : Nat
deriving DecidableEq, Inhabited

structure PhysicalAddress where
  value : Nat
deriving DecidableEq, Inhabited

/-- The number of a page-sized, page-aligned piece of physical memory. -/
structure FrameNumber where
  value : Nat
deriving DecidableEq, Inhabited

def VirtualAddress.text (a : VirtualAddress) : String := Word.hex a.value

def VirtualAddress.debugText (a : VirtualAddress) : String := s!"VirtualAddress({a.text})"

def VirtualAddress.diff (a b : VirtualAddress) : Except Fatal Nat := Word.sub a.value b.value

def PhysicalAddress.text (a : PhysicalAddress) : String := Word.hex a.value

def PhysicalAddress.debugText (a : PhysicalAddress) : String := s!"PhysicalAddress({a.text})"

def PhysicalAddress.diff (a b : PhysicalAddress) : Except Fatal Nat := Word.sub a.value b.value

def FrameNumber.text (f : FrameNumber) : String := toString f.value

def FrameNumber.debugText (f : FrameNumber) : String := s!"FrameNumber({f.text})"

def FrameNumber.add (f : FrameNumber) (n : Nat) : Except Fatal FrameNumber := do
  return ⟨← Word.add f.value n⟩

def FrameNumber.diff (f g : FrameNumber) : Except Fatal Nat := Word.sub f.value g.value

variable [Geometry]

namespace VirtualAddress

def ofWord? (a : Nat) : Option VirtualAddress :=
  if Canonical a then some ⟨a⟩ else none

def ofWord (a : Nat) : Except Fatal VirtualAddress :=
  if Canonical a then .ok ⟨a⟩ else .error .notCanonical

def pageBase (a : VirtualAddress) : VirtualAddress :=
  ⟨a.value - a.value % pageSize⟩

def pageOffset (a : VirtualAddress) : Nat :=
  a.value % pageSize

def isPageAligned (a : VirtualAddress) : Bool :=
  a.value % pageSize == 0

/-- True of the lower half of the virtual addresses. -/
def isUser (a : VirtualAddress) : Bool :=
  a.value < userTop

/-- The address `n` bytes further up: a word first, then an address. -/
def add (a : VirtualAddress) (n : Nat) : Except Fatal VirtualAddress := do
  ofWord (← Word.add a.value n)

def sub (a : VirtualAddress) (n : Nat) : Except Fatal VirtualAddress := do
  ofWord (← Word.sub a.value n)

end VirtualAddress

namespace PhysicalAddress

def ofWord (a : Nat) : Except Fatal PhysicalAddress :=
  if a < physicalLimit then .ok ⟨a⟩ else .error .physicalTooWide

def pageBase (a : PhysicalAddress) : PhysicalAddress :=
  ⟨a.value - a.value % pageSize⟩

def pageOffset (a : PhysicalAddress) : Nat :=
  a.value % pageSize

def frame (a : PhysicalAddress) : FrameNumber :=
  ⟨a.value / pageSize⟩

def add (a : PhysicalAddress) (n : Nat) : Except Fatal PhysicalAddress := do
  ofWord (← Word.add a.value n)

def sub (a : PhysicalAddress) (n : Nat) : Except Fatal PhysicalAddress := do
  ofWord (← Word.sub a.value n)

end PhysicalAddress

def FrameNumber.start (f : FrameNumber) : Except Fatal PhysicalAddress := do
  PhysicalAddress.ofWord (← Word.mul f.value pageSize)

end DemandPaging
