import DemandPaging.Word

/-! The sizes that make up a machine: page, virtual and physical address widths, and the defaults
that go with them. -/
namespace DemandPaging

/-- The sizes of one machine. A page has `2 ^ pageBits` bytes. -/
class Geometry where
  pageBits : Nat
  virtualBits : Nat
  physicalBits : Nat
  /-- Largest user stack in bytes, unless configured otherwise. -/
  maxStackSize : Nat
  /-- Frames in the user pool, unless configured otherwise. -/
  defaultFrames : Nat
  /-- Sector size of a disk described by a number of page slots. -/
  defaultSectorSize : Nat
  page_lt_virtual : pageBits < virtualBits := by decide
  virtual_le_word : virtualBits ≤ 64 := by decide
  page_le_physical : pageBits ≤ physicalBits := by decide
  sector_pos : 0 < defaultSectorSize := by decide

/-- A scale model: 16-byte pages and 16-bit addresses. -/
@[reducible] def Geometry.small : Geometry where
  pageBits := 4
  virtualBits := 16
  physicalBits := 16
  maxStackSize := 0x800
  defaultFrames := 64
  defaultSectorSize := 4

/-- Full size: 4 KiB pages and 48-bit addresses. -/
@[reducible] def Geometry.large : Geometry where
  pageBits := 12
  virtualBits := 48
  physicalBits := 48
  maxStackSize := 8 * 1024 * 1024
  defaultFrames := 4096
  defaultSectorSize := 512

section
variable [Geometry]

def pageSize : Nat := Nat.pow 2 Geometry.pageBits

/-- First address above user space, which is the lower half of the virtual addresses. -/
def userTop : Nat := Nat.pow 2 (Geometry.virtualBits - 1)

/-- First address that does not fit the physical address bus. -/
def physicalLimit : Nat := Nat.pow 2 Geometry.physicalBits

theorem pageSize_pos : 0 < pageSize := Nat.two_pow_pos _

/-- A word is a virtual address if the bits above the sign bit repeat it: it lies in the lower
half, or in the half at the very top of the words. -/
def Canonical (a : Nat) : Prop :=
  a < userTop ∨ (Word.limit - userTop ≤ a ∧ a < Word.limit)

instance (a : Nat) : Decidable (Canonical a) :=
  inferInstanceAs (Decidable (_ ∨ _))

end

end DemandPaging
