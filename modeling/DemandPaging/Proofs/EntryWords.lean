import DemandPaging.Architecture

/-! Entries of the small machine's page tables as the words that the tables hold, with the flags in
bits 0 to 7 and the address in bits 8 to 23. Main statements: an entry is known from its word, and
what is read of an entry or done to it is what masks and shifts read of its word and do to it. -/
namespace DemandPaging

attribute [local instance] Architecture.small

abbrev EntryWord := Nat

namespace EntryWord

def addressMask : EntryWord := 0xffff <<< 8

def flagsMask : EntryWord := 0xff

def pack (frame : PhysicalAddress) (bits : PageFlags) : EntryWord :=
  (frame.value <<< 8 &&& addressMask) ||| (bits.toNat &&& flagsMask)

def flags (word : EntryWord) : PageFlags := UInt8.ofNat (word &&& flagsMask) &&& PageFlags.known

def isPresent (word : EntryWord) : Bool := (flags word).has PageFlags.present

def address? (word : EntryWord) : Option PhysicalAddress :=
  if isPresent word then some ⟨(word &&& addressMask) >>> 8⟩ else none

def setFlags (word : EntryWord) (bits : PageFlags) : EntryWord :=
  (word &&& addressMask) ||| (bits.toNat &&& flagsMask)

def update (word : EntryWord) (changed : PageFlags) (value : Bool) : EntryWord :=
  setFlags word ((flags word).put changed value)

theorem and_flagsMask (word : EntryWord) : word &&& flagsMask = word % 256 :=
  Nat.and_two_pow_sub_one_eq_mod word 8

theorem and_addressMask (word : EntryWord) : word &&& addressMask = (word >>> 8) % 0x10000 * 256 := by
  have shifted : word &&& addressMask = (word >>> 8 &&& 0xffff) <<< 8 := by
    apply Nat.eq_of_testBit_eq
    intro i
    by_cases high : 8 ≤ i
    · simp [addressMask, Nat.testBit_shiftLeft, Nat.testBit_shiftRight, high, -Nat.reduceShiftLeft]
    · simp [addressMask, Nat.testBit_shiftLeft, high, -Nat.reduceShiftLeft]
  rw [shifted, Nat.shiftLeft_eq]
  exact congrArg (· * 256) (Nat.and_two_pow_sub_one_eq_mod (word >>> 8) 16)

/-- An address and a byte of flags do not meet in a word. -/
theorem or_eq_add (address : Nat) (bits : PageFlags) :
    address * 256 ||| (bits.toNat &&& flagsMask) = address * 256 + bits.toNat := by
  rw [and_flagsMask, Nat.mod_eq_of_lt bits.toNat_lt]
  have apart := Nat.shiftLeft_add_eq_or_of_lt bits.toNat_lt address
  rw [Nat.shiftLeft_eq] at apart
  exact apart.symm

end EntryWord

namespace PageEntry

/-- An entry as one word: the flags in bits 0 to 7, the address in bits 8 to 23. -/
def word (entry : PageEntry) : Nat := entry.frame.value <<< 8 ||| entry.bits.toNat

def ofWord (word : Nat) : PageEntry := ⟨⟨(word >>> 8) % 0x10000⟩, UInt8.ofNat word⟩

structure Fits (entry : PageEntry) : Prop where
  aligned : entry.frame.pageOffset = 0
  inside : entry.frame.value < physicalLimit

variable {entry : PageEntry} {bits : PageFlags}

theorem word_eq (entry : PageEntry) : entry.word = entry.frame.value * 256 + entry.bits.toNat := by
  rw [word, ← Nat.shiftLeft_add_eq_or_of_lt entry.bits.toNat_lt, Nat.shiftLeft_eq]

theorem word_mod (entry : PageEntry) : entry.word % 256 = entry.bits.toNat := by
  have small := entry.bits.toNat_lt
  rw [word_eq]
  omega

theorem Fits.word_shiftRight (fits : entry.Fits) : (entry.word >>> 8) % 0x10000 = entry.frame.value := by
  have inside : entry.frame.value < 65536 := fits.inside
  have small := entry.bits.toNat_lt
  rw [word_eq, Nat.shiftRight_eq_div_pow]
  omega

theorem Fits.ofWord_word (fits : entry.Fits) : ofWord entry.word = entry := by
  have address : (entry.word >>> 8) % 0x10000 = entry.frame.value := fits.word_shiftRight
  have flags : UInt8.ofNat entry.word = entry.bits := by
    apply UInt8.toNat_inj.1
    rw [UInt8.toNat_ofNat']
    exact entry.word_mod
  rw [ofWord, address, flags]

theorem word_blank : blank.word = 0 := rfl

theorem Fits.pack_eq (fits : entry.Fits) : EntryWord.pack entry.frame entry.bits = entry.word := by
  have inside : entry.frame.value < 0x10000 := fits.inside
  rw [EntryWord.pack, EntryWord.and_addressMask, Nat.shiftLeft_shiftRight, Nat.mod_eq_of_lt inside,
    EntryWord.or_eq_add, word_eq]

theorem flags_word (entry : PageEntry) : EntryWord.flags entry.word = entry.flags := by
  rw [EntryWord.flags, EntryWord.and_flagsMask, word_mod, UInt8.ofNat_toNat, flags]

theorem isPresent_word (entry : PageEntry) : EntryWord.isPresent entry.word = entry.isPresent := by
  rw [EntryWord.isPresent, flags_word, isPresent]

theorem Fits.address?_word (fits : entry.Fits) : EntryWord.address? entry.word = entry.address? := by
  rw [EntryWord.address?, isPresent_word, EntryWord.and_addressMask, fits.word_shiftRight, address?,
    Nat.shiftRight_eq_div_pow, Nat.mul_div_cancel _ (by decide)]

theorem Fits.setFlags_word (fits : entry.Fits) (bits : PageFlags) :
    EntryWord.setFlags entry.word bits = (entry.setFlags bits).word := by
  rw [EntryWord.setFlags, EntryWord.and_addressMask, fits.word_shiftRight, EntryWord.or_eq_add, word_eq]
  rfl

/-- Setting or clearing a flag in the word leaves the address and the other flags with a meaning. -/
theorem Fits.update_word (fits : entry.Fits) (changed : PageFlags) (value : Bool) :
    EntryWord.update entry.word changed value = (entry.update changed value).word := by
  rw [EntryWord.update, flags_word, fits.setFlags_word, update]

theorem Fits.setFlags (fits : entry.Fits) (bits : PageFlags) : (entry.setFlags bits).Fits :=
  ⟨fits.aligned, fits.inside⟩

theorem Fits.update (fits : entry.Fits) (changed : PageFlags) (value : Bool) :
    (entry.update changed value).Fits :=
  fits.setFlags _

end PageEntry

end DemandPaging
