import DemandPaging.Proofs.FourLevelViews

/-! An installation that succeeds, followed down the four levels. Main statement: one page has a new leaf then
and all others the leaf they had. An installation is refused only for want of a table or where the page is
mapped. -/
namespace DemandPaging.FourLevel

def SamePage (page addr : VirtualAddress) : Prop :=
  index addr 4 = index page 4 ∧ index addr 3 = index page 3 ∧ index addr 2 = index page 2 ∧
    index addr 1 = index page 1

instance (page addr : VirtualAddress) : Decidable (SamePage page addr) :=
  inferInstanceAs (Decidable (_ ∧ _ ∧ _ ∧ _))

theorem SamePage.refl (page : VirtualAddress) : SamePage page page := ⟨rfl, rfl, rfl, rfl⟩

theorem SamePage.sameHuge {page addr : VirtualAddress} (same : SamePage page addr) :
    SameHuge page addr :=
  ⟨same.1, same.2.1, same.2.2.1⟩

theorem mapped?_of_same {page addr : VirtualAddress} (directory : FourLevel)
    (same : SamePage page addr) : directory.mapped? addr = directory.mapped? page := by
  rw [mapped?, second?_of_same same.sameHuge, same.2.2.2, ← mapped?]

/-- The leaf of an address and the size of its page, whatever the entries on the way permit. -/
def leaves (view : View) (addr : VirtualAddress) : Option (Leaf × Nat) :=
  (view addr).map fun found => (found.leaf, found.size)

theorem leaves_behind {τ : Type} (look : τ → View) (branch : Branch τ) :
    leaves (behind look branch) = leaves (look branch.table) := by
  funext addr
  simp only [leaves, behind, Option.map_map]
  rfl

/-- What comes of mapping the addresses of `inside` by a leaf, on the way to `page`. -/
structure Put (page : VirtualAddress) (leaf : Leaf) (inside : VirtualAddress → Prop)
    (result : Except MapError Unit) (before after : View) : Prop where
  there : result = .ok () → ∀ {addr}, inside addr → leaves after addr = some (leaf, 4096)
  elsewhere : result = .ok () → ∀ {addr}, ¬inside addr → leaves after addr = leaves before addr
  refused : ∀ {error}, result = .error error →
    error = .outOfMemory ∨ (leaves before page).isSome = true

section
variable {τ : Type} {look : τ → View} {page : VirtualAddress} {leaf : Leaf} {writable : Bool}
  {inside : VirtualAddress → Prop} {result : Except MapError Unit} {before after : View}

theorem Put.exhausted : Put page leaf inside (.error .outOfMemory) before after where
  there := by
    rintro ⟨⟩
  elsewhere := by
    rintro ⟨⟩
  refused := by
    rintro _ ⟨⟩
    exact .inl rfl

theorem Put.taken (mapped : (leaves before page).isSome = true) :
    Put page leaf inside (.error (.alreadyMapped page)) before after where
  there := by
    rintro ⟨⟩
  elsewhere := by
    rintro ⟨⟩
  refused _ := .inr mapped

/-- What was put at one place of a table is all that was put in it. -/
theorem Put.at (within : VirtualAddress → Prop) {inner outer : View}
    (put : Put page leaf inside result inner outer)
    (was : ∀ {addr}, within addr → before addr = inner addr)
    (is : ∀ {addr}, within addr → after addr = outer addr)
    (elsewhere : ∀ {addr}, ¬within addr → after addr = before addr) (here : within page) :
    Put page leaf (fun addr => within addr ∧ inside addr) result before after where
  there done addr known := by
    rw [leaves, is known.1]
    exact put.there done known.2
  elsewhere done addr outside := by
    by_cases known : within addr
    · rw [leaves, leaves, is known, was known]
      exact put.elsewhere done fun inner => outside ⟨known, inner⟩
    · rw [leaves, leaves, elsewhere known]
  refused failed := by
    rw [leaves, was here]
    exact put.refused failed

def Puts (look : τ → View) (page : VirtualAddress) (leaf : Leaf) (inside : VirtualAddress → Prop)
    (change : Stocked τ → Change τ) : Prop :=
  ∀ stocked, Put page leaf inside (change stocked).1 (look stocked.table)
    (look (change stocked).2.table)

theorem Put.enter {found : Option (Branch τ)} {blank : τ} {stock left : Nat}
    {change : Stocked τ → Change τ} {branch : Branch τ} (puts : Puts look page leaf inside change)
    (entered : FourLevel.enter found blank writable stock change = some (result, branch, left)) :
    Put page leaf inside result (behind look (found.getD ⟨false, blank⟩)) (behind look branch) := by
  obtain ⟨stock', rfl, rfl⟩ := enter_eq entered
  have put := puts ⟨(found.getD ⟨false, blank⟩).table, stock'⟩
  constructor
  · rw [leaves_behind]
    exact put.there
  · rw [leaves_behind, leaves_behind]
    exact put.elsewhere
  · rw [leaves_behind]
    exact put.refused

theorem Puts.descend {change : Stocked τ → Change τ} {level : Nat} {blank : τ}
    (nothing : ∀ addr, look blank addr = none) (puts : Puts look page leaf inside change) :
    Puts (through look level) page leaf
      (fun addr => index addr level = index page level ∧ inside addr)
      (descend (index page level) writable blank change) := by
  rintro ⟨table, stock⟩
  unfold FourLevel.descend
  cases entered : enter (table.get? (index page level)) blank writable stock change with
  | none => exact .exhausted
  | some outcome =>
    obtain ⟨result, branch, left⟩ := outcome
    apply (Put.enter puts entered).at fun addr => index addr level = index page level
    · intro addr within
      rw [behind_getD nothing, ← within]
      rfl
    · intro addr within
      simp [through, within]
    · intro addr outside
      simp only [through]
      rw [SortedMap.get?_insert_of_ne _ _ (Ne.symm outside)]
    · rfl

end

section
variable {page : VirtualAddress} {leaf : Leaf} {writable : Bool} {inside : VirtualAddress → Prop}

theorem Puts.lower {change : Stocked Table1 → Change Table1} {above : Stocked Table2}
    {found : Option (Branch Table1)} (puts : Puts look1 page leaf inside change)
    (was : ∀ {addr}, index addr 2 = index page 2 →
      look2 above.table addr = found.bind fun branch => behind look1 branch addr) :
    Put page leaf (fun addr => index addr 2 = index page 2 ∧ inside addr)
      (lower (index page 2) writable change above found).1 (look2 above.table)
      (look2 (lower (index page 2) writable change above found).2.table) := by
  unfold FourLevel.lower
  cases entered : enter found .empty writable above.stock change with
  | none => exact .exhausted
  | some outcome =>
    obtain ⟨result, branch, left⟩ := outcome
    apply (Put.enter puts entered).at fun addr => index addr 2 = index page 2
    · intro addr within
      rw [was within, behind_getD fun addr => by simp [look1]]
    · intro addr within
      simp [look2, within, lookEntry]
    · intro addr outside
      simp only [look2]
      rw [SortedMap.get?_insert_of_ne _ _ (Ne.symm outside)]
    · rfl

theorem Puts.descendPastHuge {change : Stocked Table1 → Change Table1}
    (puts : Puts look1 page leaf inside change) :
    Puts look2 page leaf (fun addr => index addr 2 = index page 2 ∧ inside addr)
      (descendPastHuge page (index page 2) writable change) := by
  rintro ⟨table, stock⟩
  rw [descendPastHuge_eq]
  cases there : table.get? (index page 2) with
  | none =>
    apply puts.lower
    intro addr within
    simp [look2, within, there]
  | some entry =>
    cases entry with
    | table branch =>
      apply puts.lower
      intro addr within
      simp [look2, within, there, lookEntry]
    | huge leaf =>
      apply Put.taken
      simp [leaves, look2, there, lookEntry]

theorem puts_add (frame : PhysicalAddress) :
    Puts look1 page { frame, writable } (fun addr => index addr 1 = index page 1) fun last =>
      if last.table.contains (index page 1) then (.error (.alreadyMapped page), last)
      else (.ok (), { last with table := last.table.insert (index page 1) { frame, writable } }) := by
  rintro ⟨table, stock⟩
  cases present : table.contains (index page 1) with
  | true =>
    simp only [present, if_true]
    apply Put.taken
    simpa [leaves, look1, SortedMap.contains] using present
  | false =>
    simp only [present, Bool.false_eq_true, if_false]
    constructor
    · intro _ addr within
      simp [leaves, look1, within]
    · intro _ addr outside
      simp only [leaves, look1]
      rw [SortedMap.get?_insert_of_ne _ _ (Ne.symm outside)]
    · rintro _ ⟨⟩

end

theorem put_changeBelow {page : VirtualAddress} {leaf : Leaf} {writable : Bool}
    {inside : VirtualAddress → Prop} {change : Stocked Table2 → Change Table2}
    (puts : Puts look2 page leaf inside change) (directory : FourLevel) :
    Put page leaf
      (fun addr => index addr 4 = index page 4 ∧ index addr 3 = index page 3 ∧ inside addr)
      (directory.changeBelow page writable change).1 directory.mapped?
      (directory.changeBelow page writable change).2.mapped? := by
  have third : Puts look3 page leaf (fun addr => index addr 3 = index page 3 ∧ inside addr)
      (descend (index page 3) writable .empty change) :=
    Puts.descend (fun addr => by simp [look2]) puts
  have fourth : Puts look4 page leaf
      (fun addr => index addr 4 = index page 4 ∧ index addr 3 = index page 3 ∧ inside addr)
      (descend (index page 4) writable .empty (descend (index page 3) writable .empty change)) :=
    Puts.descend (fun addr => by simp [look3, through]) third
  rw [mapped?_eq, mapped?_eq]
  exact fourth ⟨directory.root, directory.stock⟩

section
variable {directory after : FourLevel} {page addr : VirtualAddress} {frame : PhysicalAddress}
  {writable : Bool}

/-- What an installation does to the leaves, if the addresses are aligned. -/
theorem put_install (aligned : ¬(page.value % 4096 ≠ 0 ∨ frame.value % 4096 ≠ 0)) :
    Put page { frame, writable } (SamePage page) (directory.install page frame writable).1
      directory.mapped? (directory.install page frame writable).2.mapped? := by
  unfold install
  rw [if_neg aligned]
  exact put_changeBelow (puts_add frame).descendPastHuge directory

theorem aligned_of_install
    (done : directory.install page frame writable = (.ok (), after)) :
    ¬(page.value % 4096 ≠ 0 ∨ frame.value % 4096 ≠ 0) := by
  intro unaligned
  rw [install, if_pos unaligned] at done
  cases done

end

end DemandPaging.FourLevel
