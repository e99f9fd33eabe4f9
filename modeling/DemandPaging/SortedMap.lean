import Std.Data.ExtTreeMap

/-! Finite maps that list their entries in ascending order of the keys. Keys are numbered: each
stands for one natural number and each natural number for one key. Balancing is no part of a map,
so maps with the same values at all keys are equal. Main statements: what a map holds at a key after
an insertion or a removal, and that `toList` holds just the entries, in ascending order. -/
namespace DemandPaging

/-- Keys numbered by the natural numbers. -/
class Ranked (κ : Type) where
  rank : κ → Nat
  ofRank : Nat → κ
  ofRank_rank : ∀ key, ofRank (rank key) = key
  rank_ofRank : ∀ n, rank (ofRank n) = n

export Ranked (rank ofRank ofRank_rank rank_ofRank)

instance : Ranked Nat := ⟨id, id, fun _ => rfl, fun _ => rfl⟩

theorem rank_injective {κ : Type} [Ranked κ] {a b : κ} (same : rank a = rank b) : a = b := by
  rw [← ofRank_rank a, same, ofRank_rank]

structure SortedMap (κ ν : Type) [Ranked κ] where
  /-- The values by the numbers of their keys. -/
  tree : Std.ExtTreeMap Nat ν

namespace SortedMap
variable {κ ν : Type} [Ranked κ]

def empty : SortedMap κ ν := ⟨∅⟩

instance : Inhabited (SortedMap κ ν) := ⟨empty⟩

def get? (map : SortedMap κ ν) (key : κ) : Option ν := map.tree[rank key]?

def contains (map : SortedMap κ ν) (key : κ) : Bool := (map.get? key).isSome

def insert (map : SortedMap κ ν) (key : κ) (value : ν) : SortedMap κ ν :=
  ⟨map.tree.insert (rank key) value⟩

def erase (map : SortedMap κ ν) (key : κ) : SortedMap κ ν := ⟨map.tree.erase (rank key)⟩

def size (map : SortedMap κ ν) : Nat := map.tree.size

def isEmpty (map : SortedMap κ ν) : Bool := map.tree.isEmpty

def toList (map : SortedMap κ ν) : List (κ × ν) :=
  map.tree.toList.map fun (n, value) => (ofRank n, value)

def values (map : SortedMap κ ν) : List ν := map.tree.toList.map (·.2)

theorem ext {a b : SortedMap κ ν} (same : ∀ key, a.get? key = b.get? key) : a = b := by
  obtain ⟨a⟩ := a
  obtain ⟨b⟩ := b
  congr
  apply Std.ExtTreeMap.ext_getElem?
  intro n
  simpa [get?, rank_ofRank] using same (ofRank n)

@[simp] theorem get?_empty (key : κ) : (empty : SortedMap κ ν).get? key = none := by
  simp [get?, empty]

/-- There is nothing in an empty map. -/
theorem get?_of_isEmpty {map : SortedMap κ ν} (none : map.isEmpty = true) (key : κ) :
    map.get? key = .none := by
  rw [get?, Std.ExtTreeMap.isEmpty_iff.1 none]
  exact Std.ExtTreeMap.getElem?_empty

theorem get?_insert (map : SortedMap κ ν) (key other : κ) (value : ν) :
    (map.insert key value).get? other =
      if rank key = rank other then some value else map.get? other := by
  simp only [get?, insert, Std.ExtTreeMap.getElem?_insert, Nat.compare_eq_eq]

theorem get?_erase (map : SortedMap κ ν) (key other : κ) :
    (map.erase key).get? other = if rank key = rank other then none else map.get? other := by
  simp only [get?, erase, Std.ExtTreeMap.getElem?_erase, Nat.compare_eq_eq]

@[simp] theorem get?_insert_self (map : SortedMap κ ν) (key : κ) (value : ν) :
    (map.insert key value).get? key = some value := by
  rw [get?_insert, if_pos rfl]

@[simp] theorem get?_erase_self (map : SortedMap κ ν) (key : κ) :
    (map.erase key).get? key = none := by
  rw [get?_erase, if_pos rfl]

theorem get?_insert_of_ne (map : SortedMap κ ν) {key other : κ} (value : ν) (ne : key ≠ other) :
    (map.insert key value).get? other = map.get? other := by
  rw [get?_insert, if_neg fun same => ne (rank_injective same)]

theorem get?_erase_of_ne (map : SortedMap κ ν) {key other : κ} (ne : key ≠ other) :
    (map.erase key).get? other = map.get? other := by
  rw [get?_erase, if_neg fun same => ne (rank_injective same)]

theorem size_insert {map : SortedMap κ ν} {key : κ} (absent : map.get? key = none) (value : ν) :
    (map.insert key value).size = map.size + 1 := by
  have fresh : ¬map.tree.contains (rank key) = true := by
    rw [Std.ExtTreeMap.contains_eq_isSome_getElem?]
    change ¬(map.get? key).isSome = true
    simp [absent]
  simp [size, insert, Std.ExtTreeMap.size_insert, fresh]

theorem mem_toList {map : SortedMap κ ν} {key : κ} {value : ν} :
    (key, value) ∈ map.toList ↔ map.get? key = some value := by
  simp only [toList, List.mem_map, get?]
  constructor
  · rintro ⟨⟨n, v⟩, entry, same⟩
    cases same
    rw [rank_ofRank]
    exact Std.ExtTreeMap.mem_toList_iff_getElem?_eq_some.1 entry
  · intro found
    exact ⟨(rank key, value), Std.ExtTreeMap.mem_toList_iff_getElem?_eq_some.2 found,
      by rw [ofRank_rank]⟩

/-- A map lists its entries in ascending order, each key once. -/
theorem toList_ascending (map : SortedMap κ ν) :
    map.toList.Pairwise fun a b => rank a.1 < rank b.1 := by
  rw [toList, List.pairwise_map]
  refine Std.ExtTreeMap.ordered_keys_toList.imp fun less => ?_
  simpa only [rank_ofRank] using Nat.compare_eq_lt.1 less

theorem values_eq (map : SortedMap κ ν) : map.values = map.toList.map (·.2) := by
  simp [values, toList, Function.comp_def]

end SortedMap

end DemandPaging
