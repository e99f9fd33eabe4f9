import DemandPaging.Fatal

/-! Arithmetic on 64-bit machine words, where leaving the range of a word is fatal, and the
hexadecimal text of a word. A word is a natural number below `Word.limit`. -/
namespace DemandPaging

/-- A run of bytes, lowest address first. -/
abbrev Bytes := List UInt8

/-- Writes `bytes` over `buffer` from `offset` on. -/
def Bytes.patch (buffer : Bytes) (offset : Nat) (bytes : Bytes) : Bytes :=
  buffer.take offset ++ (bytes ++ buffer.drop (offset + bytes.length))

/-- The `length` bytes of `buffer` from `offset` on, fewer at its end. -/
def Bytes.slice (buffer : Bytes) (offset length : Nat) : Bytes :=
  (buffer.drop offset).take length

namespace Word

def limit : Nat := 0x1_0000_0000_0000_0000

/-- The sum, which has to be a word. -/
def add (a b : Nat) : Except Fatal Nat :=
  if a + b < limit then .ok (a + b) else .error .addOverflow

def sub (a b : Nat) : Except Fatal Nat :=
  if b ≤ a then .ok (a - b) else .error .subtractOverflow

def mul (a b : Nat) : Except Fatal Nat :=
  if a * b < limit then .ok (a * b) else .error .multiplyOverflow

/-- Makes room for `count` items of `size` bytes, which takes less than half of all addresses. -/
def room (count size : Nat) : Except Fatal Unit :=
  if 2 * (count * size) < limit then .ok () else .error .capacityOverflow

/-- The sum, or the largest word if the sum is none. -/
def saturatingAdd (a b : Nat) : Nat :=
  min (a + b) (limit - 1)

def wrappingAdd (a b : Nat) : Nat :=
  (a + b) % limit

def complement (a : Nat) : Nat :=
  limit - 1 - a

/-- Tests the bits below `align`, a power of two. -/
def isAligned (a align : Nat) : Except Fatal Bool := do
  return a &&& (← sub align 1) == 0

/-- Clears the bits below `align`, a power of two. -/
def alignDown (a align : Nat) : Except Fatal Nat := do
  return a &&& complement (← sub align 1)

/-- Lower-case hexadecimal with its base mark and no padding. -/
def hex (a : Nat) : String :=
  "0x" ++ String.ofList (Nat.toDigits 16 a)

end Word

end DemandPaging
