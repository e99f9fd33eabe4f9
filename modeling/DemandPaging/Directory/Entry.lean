import DemandPaging.Directory.Basic

/-! Entries of the small machine's page tables: the address of a frame and a byte of flags. -/
namespace DemandPaging

/-- The flags in the low byte of an entry. Bits without a meaning can be stored but not asked
for. -/
abbrev PageFlags := UInt8

namespace PageFlags

def present : PageFlags := 0x01
def writable : PageFlags := 0x02
def user : PageFlags := 0x04
def noExecute : PageFlags := 0x08
def accessed : PageFlags := 0x20
def dirty : PageFlags := 0x40

def known : PageFlags := 0x6f

def has (flags asked : PageFlags) : Bool := flags &&& asked == asked

def put (flags changed : PageFlags) (value : Bool) : PageFlags :=
  if value then flags ||| changed else flags &&& ~~~changed

def forUser (mayWrite : Bool) : PageFlags :=
  put (present ||| user) writable mayWrite

end PageFlags

structure PageEntry where
  frame : PhysicalAddress
  bits : PageFlags
deriving DecidableEq, Inhabited

namespace PageEntry

def blank : PageEntry := ⟨⟨0⟩, 0⟩

def ofFrame (frame : PhysicalAddress) (bits : PageFlags) : Except Fatal PageEntry :=
  if frame.value % 16 = 0 then .ok ⟨frame, bits⟩ else .error .unalignedEntry

def flags (entry : PageEntry) : PageFlags := entry.bits &&& PageFlags.known

def isPresent (entry : PageEntry) : Bool := entry.flags.has PageFlags.present

def address? (entry : PageEntry) : Option PhysicalAddress :=
  if entry.isPresent then some entry.frame else none

def setFlags (entry : PageEntry) (bits : PageFlags) : PageEntry := { entry with bits }

/-- Sets or clears flags. Flags without a meaning are lost. -/
def update (entry : PageEntry) (changed : PageFlags) (value : Bool) : PageEntry :=
  entry.setFlags (entry.flags.put changed value)

end PageEntry

end DemandPaging
