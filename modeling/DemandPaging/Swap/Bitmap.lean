/-! Bitmaps: a mark for each of a number of items, packed into words of 64. The bits to spare in the
last word are never set. Main statements: what is marked after a mark was set or cleared, and that the
scan of the words finds the lowest item that is not marked. -/
namespace DemandPaging
namespace Bitmap

def wordOf (words : List (BitVec 64)) (index : Nat) : BitVec 64 := words.getD (index / 64) 0

def mask (index : Nat) : BitVec 64 := 1#64 <<< (index % 64)

def marked (words : List (BitVec 64)) (index : Nat) : Bool := wordOf words index &&& mask index != 0

def mark (words : List (BitVec 64)) (index : Nat) : List (BitVec 64) :=
  words.set (index / 64) (wordOf words index ||| mask index)

def unmark (words : List (BitVec 64)) (index : Nat) : List (BitVec 64) :=
  words.set (index / 64) (wordOf words index &&& ~~~mask index)

def trailingOnes (word : BitVec 64) : Nat := (List.range 64).findIdx fun i => !word.getLsbD i

variable {words : List (BitVec 64)} {index other : Nat}

theorem getLsbD_mask (index i : Nat) :
    (mask index).getLsbD i = (decide (i < 64) && decide (i = index % 64)) := by
  have small : index % 64 < 64 := Nat.mod_lt _ (by decide)
  rw [mask, ← BitVec.twoPow_eq, BitVec.getLsbD_twoPow]
  by_cases same : i = index % 64 <;> simp [same, small, eq_comm]

theorem marked_eq (words : List (BitVec 64)) (index : Nat) :
    marked words index = (wordOf words index).getLsbD (index % 64) := by
  have small : index % 64 < 64 := Nat.mod_lt _ (by decide)
  have set : mask index ≠ 0 := fun clear => by
    have bit := getLsbD_mask index (index % 64)
    simp [clear, small] at bit
  rw [marked, mask, ← BitVec.twoPow_eq, BitVec.and_twoPow, BitVec.twoPow_eq]
  cases (wordOf words index).getLsbD (index % 64) with
  | true => simpa [mask] using set
  | false => rfl

theorem wordOf_set (word : BitVec 64) (inside : index / 64 < words.length) :
    wordOf (words.set (index / 64) word) other =
      if index / 64 = other / 64 then word else wordOf words other := by
  simp only [wordOf, List.getD_eq_getElem?_getD, List.getElem?_set, inside, if_true]
  split <;> rfl

theorem marked_mark (inside : index / 64 < words.length) :
    marked (mark words index) other = (decide (other = index) || marked words other) := by
  have small : other % 64 < 64 := Nat.mod_lt _ (by decide)
  rw [marked_eq, marked_eq, mark, wordOf_set _ inside]
  split
  · rename_i word
    have here : wordOf words index = wordOf words other := by rw [wordOf, wordOf, word]
    have place : other % 64 = index % 64 ↔ other = index := by omega
    rw [BitVec.getLsbD_or, getLsbD_mask, here, Bool.or_comm]
    simp [small, place]
  · rename_i word
    have differ : other ≠ index := fun same => word (by rw [same])
    simp [differ]

theorem marked_unmark (inside : index / 64 < words.length) :
    marked (unmark words index) other = (!decide (other = index) && marked words other) := by
  have small : other % 64 < 64 := Nat.mod_lt _ (by decide)
  rw [marked_eq, marked_eq, unmark, wordOf_set _ inside]
  split
  · rename_i word
    have here : wordOf words index = wordOf words other := by rw [wordOf, wordOf, word]
    have place : other % 64 = index % 64 ↔ other = index := by omega
    rw [BitVec.getLsbD_and, BitVec.getLsbD_not, getLsbD_mask, here, Bool.and_comm]
    simp [small, place]
  · rename_i word
    have differ : other ≠ index := fun same => word (by rw [same])
    simp [differ]

theorem getLsbD_of_lt_trailingOnes {word : BitVec 64} {i : Nat} (below : i < trailingOnes word) :
    word.getLsbD i = true := by
  have set := List.not_of_lt_findIdx below
  rw [List.getElem_range] at set
  simpa using set

theorem trailingOnes_lt {word : BitVec 64} (some : word ≠ BitVec.allOnes 64) :
    trailingOnes word < 64 := by
  refine Nat.lt_of_not_le fun all => some (BitVec.eq_of_getLsbD_eq fun i inside => ?_)
  rw [getLsbD_of_lt_trailingOnes (Nat.lt_of_lt_of_le inside all), BitVec.getLsbD_allOnes]
  exact (decide_eq_true inside).symm

theorem getLsbD_trailingOnes {word : BitVec 64} (some : word ≠ BitVec.allOnes 64) :
    word.getLsbD (trailingOnes word) = false := by
  have inside : trailingOnes word < (List.range 64).length := by
    rw [List.length_range]
    exact trailingOnes_lt some
  have clear : (!word.getLsbD (List.range 64)[trailingOnes word]) = true :=
    List.findIdx_getElem (w := inside)
  rw [List.getElem_range] at clear
  exact (Bool.not_eq_true' _).mp clear

theorem marked_replicate (count index : Nat) : marked (List.replicate count 0) index = false := by
  rw [marked_eq, wordOf, List.getD_eq_getElem?_getD, List.getElem?_replicate]
  split <;> exact BitVec.getLsbD_zero

/-- One more item satisfies `q` than `p`, if it is the only difference between them. -/
theorem countP_range_succ {p q : Nat → Bool} (others : ∀ other, other ≠ index → q other = p other)
    (before : p index = false) (after : q index = true) {count : Nat} (inside : index < count) :
    (List.range count).countP q = (List.range count).countP p + 1 := by
  induction count with
  | zero => exact absurd inside (Nat.not_lt_zero _)
  | succ count ih =>
    simp only [List.range_succ, List.countP_append, List.countP_singleton]
    rcases Nat.lt_succ_iff_lt_or_eq.1 inside with earlier | last
    · rw [ih earlier, others count (Nat.ne_of_gt earlier)]
      omega
    · subst last
      have below : (List.range index).countP q = (List.range index).countP p :=
        List.countP_congr fun other member => by
          rw [others other (Nat.ne_of_lt (List.mem_range.1 member))]
      rw [below, before, after]
      rfl

end Bitmap

/-- Marks of `length` items. -/
structure Bitmap where
  words : List (BitVec 64)
  length : Nat
  /-- Number of items that are marked. -/
  used : Nat
  enough : words.length = (length + 63) / 64
  spare : ∀ index, length ≤ index → Bitmap.marked words index = false
  counted : used = (List.range length).countP (Bitmap.marked words)

namespace Bitmap

def blank (length : Nat) : Bitmap where
  words := List.replicate ((length + 63) / 64) 0
  length := length
  used := 0
  enough := List.length_replicate
  spare index _ := marked_replicate _ index
  counted := by
    rw [List.countP_congr (q := fun _ => false) fun index _ => by rw [marked_replicate]]
    simp

instance : Inhabited Bitmap := ⟨blank 0⟩

variable {bitmap : Bitmap} {index other : Nat}

theorem word_lt (inside : index < bitmap.length) : index / 64 < bitmap.words.length := by
  rw [bitmap.enough]
  omega

/-- True of an item that there is and that is marked. -/
def isSet (bitmap : Bitmap) (index : Nat) : Bool :=
  decide (index < bitmap.length) && marked bitmap.words index

theorem isSet_eq (bitmap : Bitmap) (index : Nat) : bitmap.isSet index = marked bitmap.words index := by
  unfold isSet
  by_cases inside : index < bitmap.length
  · simp [inside]
  · simp [inside, bitmap.spare index (Nat.le_of_not_lt inside)]

theorem lt_of_isSet (set : bitmap.isSet index = true) : index < bitmap.length := by
  unfold isSet at set
  exact of_decide_eq_true (Bool.and_eq_true_iff.1 set).1

theorem isSet_blank (length index : Nat) : (blank length).isSet index = false := by
  rw [isSet_eq]
  exact marked_replicate _ index

def set (bitmap : Bitmap) (index : Nat) (inside : index < bitmap.length)
    (clear : bitmap.isSet index = false) : Bitmap where
  words := mark bitmap.words index
  length := bitmap.length
  used := bitmap.used + 1
  enough := (List.length_set ..).trans bitmap.enough
  spare other beyond := by
    rw [marked_mark (word_lt inside), bitmap.spare other beyond]
    simp [Nat.ne_of_gt (Nat.lt_of_lt_of_le inside beyond)]
  counted := by
    rw [bitmap.counted]
    refine (countP_range_succ (fun other differ => ?_) ?_ ?_ inside).symm
    · simp [marked_mark (word_lt inside), differ]
    · rw [← isSet_eq, clear]
    · simp [marked_mark (word_lt inside)]

def unset (bitmap : Bitmap) (index : Nat) (set : bitmap.isSet index = true) : Bitmap where
  words := unmark bitmap.words index
  length := bitmap.length
  used := bitmap.used - 1
  enough := (List.length_set ..).trans bitmap.enough
  spare other beyond := by
    rw [marked_unmark (word_lt (lt_of_isSet set)), bitmap.spare other beyond, Bool.and_false]
  counted := by
    have inside := lt_of_isSet set
    have fewer := countP_range_succ (p := marked (unmark bitmap.words index)) (q := marked bitmap.words)
      (fun other differ => by simp [marked_unmark (word_lt inside), differ])
      (by simp [marked_unmark (word_lt inside)]) (by rw [← isSet_eq, set]) inside
    rw [bitmap.counted, fewer, Nat.add_sub_cancel]

/-- The lowest item that is not marked. Words that are full are skipped. -/
def firstClear? (bitmap : Bitmap) : Option Nat :=
  match bitmap.words.findIdx? (· != BitVec.allOnes 64) with
  | none => none
  | some place =>
      let index := place * 64 + trailingOnes (bitmap.words.getD place 0)
      if index < bitmap.length then some index else none

/-- All items of a full word are marked. -/
theorem isSet_of_full (full : wordOf bitmap.words index = BitVec.allOnes 64) :
    bitmap.isSet index = true := by
  have small : index % 64 < 64 := Nat.mod_lt _ (by decide)
  rw [isSet_eq, marked_eq, full, BitVec.getLsbD_allOnes]
  exact decide_eq_true small

/-- The scan stops at an item that is not marked, or at a bit to spare, behind items that all are. -/
theorem scan_place {place : Nat}
    (found : bitmap.words.findIdx? (· != BitVec.allOnes 64) = some place) :
    let first := place * 64 + trailingOnes (bitmap.words.getD place 0)
    bitmap.isSet first = false ∧ ∀ lower, lower < first → bitmap.isSet lower = true := by
  obtain ⟨inside, partly, full⟩ := List.findIdx?_eq_some_iff_getElem.1 found
  have here : bitmap.words.getD place 0 = bitmap.words[place] := by
    rw [List.getD_eq_getElem?_getD, List.getElem?_eq_getElem inside, Option.getD_some]
  have partly : bitmap.words.getD place 0 ≠ BitVec.allOnes 64 := by
    rw [here]
    exact bne_iff_ne.1 partly
  have small := trailingOnes_lt partly
  intro first
  have inWord : ∀ index, index / 64 = place →
      bitmap.isSet index = (bitmap.words.getD place 0).getLsbD (index % 64) := by
    intro index word
    rw [isSet_eq, marked_eq, wordOf, word]
  constructor
  · rw [inWord first (by omega), show first % 64 = trailingOnes (bitmap.words.getD place 0) by omega]
    exact getLsbD_trailingOnes partly
  · intro lower below
    by_cases same : lower / 64 = place
    · rw [inWord lower same]
      exact getLsbD_of_lt_trailingOnes (by omega)
    · have earlier : lower / 64 < place := by omega
      refine isSet_of_full ?_
      rw [wordOf, List.getD_eq_getElem?_getD, List.getElem?_eq_getElem (Nat.lt_trans earlier inside)]
      simpa using full (lower / 64) earlier

theorem firstClear?_eq_some (found : bitmap.firstClear? = some index) :
    index < bitmap.length ∧ bitmap.isSet index = false ∧
      ∀ lower, lower < index → bitmap.isSet lower = true := by
  unfold firstClear? at found
  split at found
  · cases found
  · rename_i place scanned
    dsimp only at found
    split at found
    · rename_i inside
      cases found
      exact ⟨inside, scan_place scanned⟩
    · cases found

theorem firstClear?_eq_none (full : bitmap.firstClear? = none) (inside : index < bitmap.length) :
    bitmap.isSet index = true := by
  unfold firstClear? at full
  split at full
  · rename_i scanned
    have here := word_lt inside
    have whole := List.findIdx?_eq_none_iff.1 scanned _ (List.getElem_mem here)
    refine isSet_of_full ?_
    rw [wordOf, List.getD_eq_getElem?_getD, List.getElem?_eq_getElem here]
    simpa using whole
  · rename_i place scanned
    dsimp only at full
    split at full
    · cases full
    · rename_i beyond
      exact (scan_place scanned).2 index (by omega)

def setFirstClear? (bitmap : Bitmap) : Option (Nat × Bitmap) :=
  match found : bitmap.firstClear? with
  | none => none
  | some index =>
      some (index, bitmap.set index (firstClear?_eq_some found).1 (firstClear?_eq_some found).2.1)

/-- Takes the mark of an item away, and answers whether it had one. -/
def clear (bitmap : Bitmap) (index : Nat) : Bool × Bitmap :=
  if set : bitmap.isSet index then (true, bitmap.unset index set) else (false, bitmap)

theorem isSet_set (inside : index < bitmap.length) (clear : bitmap.isSet index = false) :
    (bitmap.set index inside clear).isSet other = (decide (other = index) || bitmap.isSet other) := by
  rw [isSet_eq, isSet_eq]
  exact marked_mark (word_lt inside)

theorem isSet_clear (bitmap : Bitmap) (index other : Nat) :
    (bitmap.clear index).2.isSet other = (!decide (other = index) && bitmap.isSet other) := by
  unfold clear
  split
  · rename_i set
    rw [isSet_eq, isSet_eq]
    exact marked_unmark (word_lt (lt_of_isSet set))
  · rename_i clear
    by_cases same : other = index
    · subst same
      simpa using clear
    · simp [same]

theorem length_clear (bitmap : Bitmap) (index : Nat) :
    (bitmap.clear index).2.length = bitmap.length := by
  unfold clear
  split <;> rfl

theorem clear_eq (bitmap : Bitmap) (index : Nat) : (bitmap.clear index).1 = bitmap.isSet index := by
  unfold clear
  split
  · rename_i set
    exact set.symm
  · rename_i clear
    exact (Bool.not_eq_true _ ▸ clear).symm

theorem clear_of_clear (clear : bitmap.isSet index = false) : bitmap.clear index = (false, bitmap) := by
  simp [Bitmap.clear, clear]

theorem setFirstClear?_eq_some {after : Bitmap} (found : bitmap.setFirstClear? = some (index, after)) :
    ∃ inside clear, bitmap.firstClear? = some index ∧ after = bitmap.set index inside clear := by
  unfold setFirstClear? at found
  split at found
  · cases found
  · rename_i lowest
    cases found
    exact ⟨_, _, lowest, rfl⟩

theorem setFirstClear?_eq_none : bitmap.setFirstClear? = none ↔ bitmap.firstClear? = none := by
  unfold setFirstClear?
  split <;> simp_all

/-- Bitmaps with the same marks are the same: no bit of a word is free to differ. -/
theorem ext {a b : Bitmap} (length : a.length = b.length)
    (same : ∀ index, a.isSet index = b.isSet index) : a = b := by
  have marks : marked a.words = marked b.words := funext fun index => by
    rw [← isSet_eq, ← isSet_eq, same]
  have words : a.words = b.words := by
    refine List.ext_getElem (by rw [a.enough, b.enough, length]) fun place left right => ?_
    refine BitVec.eq_of_getLsbD_eq fun i small => ?_
    have bit := congrFun marks (place * 64 + i)
    rw [marked_eq, marked_eq, wordOf, wordOf, show (place * 64 + i) / 64 = place by omega,
      show (place * 64 + i) % 64 = i by omega, List.getD_eq_getElem?_getD, List.getD_eq_getElem?_getD,
      List.getElem?_eq_getElem left, List.getElem?_eq_getElem right] at bit
    exact bit
  have used : a.used = b.used := by rw [a.counted, b.counted, length, marks]
  cases a
  cases b
  cases length
  cases words
  cases used
  rfl

/-- Taking a mark away that was just set leaves the bitmap as it was. -/
theorem clear_set (inside : index < bitmap.length) (clear : bitmap.isSet index = false) :
    ((bitmap.set index inside clear).clear index).2 = bitmap := by
  refine ext ?_ fun other => ?_
  · rw [length_clear]
    rfl
  · rw [isSet_clear, isSet_set]
    by_cases same : other = index
    · simp [same, clear]
    · simp [same]

end Bitmap

end DemandPaging
