import DemandPaging.Directory.FourLevel

/-! A directory of four levels, level by level: what addresses are mapped by is found behind the entries of one
table after another. Main statements: the mappings of the whole directory by way of its tables, how a table is
entered that may not be there yet, and what one entry of the second level decides. -/
namespace DemandPaging.FourLevel

/-- What addresses are mapped by. -/
abbrev View := VirtualAddress → Option Mapped

def Mapped.under (found : Mapped) (writable : Bool) : Mapped :=
  { found with mayWrite := writable && found.mayWrite }

def behind {τ : Type} (look : τ → View) (branch : Branch τ) : View := fun addr =>
  (look branch.table addr).map (·.under branch.writable)

def through {τ : Type} (look : τ → View) (level : Nat) (table : SortedMap Nat (Branch τ)) : View := fun addr =>
  (table.get? (index addr level)).bind fun branch => behind look branch addr

def look1 (table : Table1) : View := fun addr =>
  (table.get? (index addr 1)).map fun leaf => ⟨leaf, 4096, leaf.writable⟩

def lookEntry : Entry2 → View
  | .table branch => behind look1 branch
  | .huge leaf => fun _ => some ⟨leaf, hugeSize, leaf.writable⟩

def look2 (table : Table2) : View := fun addr =>
  (table.get? (index addr 2)).bind fun entry => lookEntry entry addr

def look3 : Table3 → View := through look2 3

def look4 : Table4 → View := through look3 4

theorem mapped?_eq (directory : FourLevel) : directory.mapped? = look4 directory.root := by
  funext addr
  unfold mapped? second? look4 look3 through behind look2
  cases upper : directory.root.get? (index addr 4) with
  | none => rfl
  | some third =>
    cases middle : third.table.get? (index addr 3) with
    | none => simp [middle]
    | some second =>
      cases lower : second.table.get? (index addr 2) with
      | none => simp [middle, lower]
      | some entry =>
        cases entry with
        | huge leaf => simp [middle, lower, lookEntry, Mapped.under, Bool.and_assoc]
        | table branch =>
          cases last : branch.table.get? (index addr 1) with
          | none => simp [middle, lower, last, lookEntry, behind, look1]
          | some leaf => simp [middle, lower, last, lookEntry, behind, look1, Mapped.under, Bool.and_assoc]

def SameHuge (page addr : VirtualAddress) : Prop :=
  index addr 4 = index page 4 ∧ index addr 3 = index page 3 ∧ index addr 2 = index page 2

instance (page addr : VirtualAddress) : Decidable (SameHuge page addr) :=
  inferInstanceAs (Decidable (_ ∧ _ ∧ _))

section
variable {τ : Type} {look : τ → View} {writable : Bool}

/-- An entry that was not there permits nothing, and leads to an empty table. -/
theorem enter_eq {found : Option (Branch τ)} {blank : τ} {stock left : Nat}
    {change : Stocked τ → Change τ} {result : Except MapError Unit} {branch : Branch τ}
    (entered : enter found blank writable stock change = some (result, branch, left)) :
    ∃ stock', result = (change ⟨(found.getD ⟨false, blank⟩).table, stock'⟩).1 ∧
      branch = ⟨(found.getD ⟨false, blank⟩).writable || writable,
        (change ⟨(found.getD ⟨false, blank⟩).table, stock'⟩).2.table⟩ := by
  cases found with
  | some old =>
    cases entered
    exact ⟨stock, rfl, rfl⟩
  | none =>
    cases stock with
    | zero => simp [enter] at entered
    | succ stock =>
      cases entered
      exact ⟨stock, rfl, by simp⟩

theorem enter_eq_none {found : Option (Branch τ)} {blank : τ} {stock : Nat}
    {change : Stocked τ → Change τ} (stopped : enter found blank writable stock change = none) :
    found = none := by
  cases found with
  | some old => simp [enter] at stopped
  | none => rfl

/-- There is nothing behind an entry that was not there. -/
theorem behind_getD {blank : τ} (nothing : ∀ addr, look blank addr = none) (found : Option (Branch τ))
    (addr : VirtualAddress) :
    behind look (found.getD ⟨false, blank⟩) addr = found.bind fun branch => behind look branch addr := by
  cases found with
  | some branch => rfl
  | none => simp [behind, nothing]

end

section
variable {page : VirtualAddress} {writable : Bool}

/-- Changes the table behind the second-level entry at `place`, which leads to one if it is there. -/
def lower (place : Nat) (writable : Bool) (change : Stocked Table1 → Change Table1)
    (above : Stocked Table2) (found : Option (Branch Table1)) : Change Table2 :=
  match enter found .empty writable above.stock change with
  | none => (.error .outOfMemory, above)
  | some (result, branch, stock) => (result, ⟨above.table.insert place (.table branch), stock⟩)

theorem descendPastHuge_eq (place : Nat) (change : Stocked Table1 → Change Table1)
    (above : Stocked Table2) :
    descendPastHuge page place writable change above = match above.table.get? place with
      | none => lower place writable change above none
      | some (.table branch) => lower place writable change above (some branch)
      | some (.huge leaf) => (.error (.alreadyMapped page), { above with
          table := above.table.insert place
            (.huge { leaf with writable := leaf.writable || writable }) }) :=
  rfl

end

section
variable {directory : FourLevel} {page : VirtualAddress} {entry old : Entry2} {above : Bool}

theorem mapped?_eq_bind (directory : FourLevel) (addr : VirtualAddress) :
    directory.mapped? addr = (directory.second? addr).bind fun found =>
      (lookEntry found.1 addr).map (·.under found.2) := by
  unfold mapped?
  cases directory.second? addr with
  | none => rfl
  | some found =>
    obtain ⟨entry, above⟩ := found
    cases entry with
    | huge leaf => rfl
    | table branch =>
      cases last : branch.table.get? (index addr 1) with
      | none => simp [lookEntry, behind, look1, last]
      | some leaf => simp [lookEntry, behind, look1, last, Mapped.under, Bool.and_assoc]

theorem second?_of_same {addr : VirtualAddress} (same : SameHuge page addr) :
    directory.second? addr = directory.second? page := by
  rw [second?, same.1, same.2.1, same.2.2, second?]

theorem second?_setSecond (found : directory.second? page = some (old, above)) (addr : VirtualAddress) :
    (directory.setSecond page entry).second? addr =
      if SameHuge page addr then some (entry, above) else directory.second? addr := by
  obtain ⟨third, upper, below⟩ := Option.bind_eq_some_iff.1 found
  obtain ⟨second, middle, below⟩ := Option.bind_eq_some_iff.1 below
  obtain ⟨_, lower, there⟩ := Option.bind_eq_some_iff.1 below
  cases there
  by_cases fourth : index addr 4 = index page 4
  · by_cases three : index addr 3 = index page 3
    · by_cases two : index addr 2 = index page 2
      · simp [SameHuge, setSecond, second?, upper, middle, fourth, three, two]
      · have other : index page 2 ≠ index addr 2 := Ne.symm two
        simp [SameHuge, setSecond, second?, upper, middle, fourth, three, two,
          SortedMap.get?_insert_of_ne _ _ other]
    · have other : index page 3 ≠ index addr 3 := Ne.symm three
      simp [SameHuge, setSecond, second?, upper, middle, fourth, three,
        SortedMap.get?_insert_of_ne _ _ other]
  · have other : index page 4 ≠ index addr 4 := Ne.symm fourth
    simp [SameHuge, setSecond, second?, upper, middle, fourth, SortedMap.get?_insert_of_ne _ _ other]

end

end DemandPaging.FourLevel
