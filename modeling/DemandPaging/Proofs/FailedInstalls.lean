import DemandPaging.Proofs.FourLevelViews

/-! What an installation that fails leaves behind in a directory of four levels. On its way down it has added
tables and widened permissions of entries. New tables map nothing, and a wider entry is not seen where every
page that may be written is so by itself. Main statement: nothing is seen of an installation that fails,
unless it was to permit writing and came to a huge page. Then that page can be written, at all of its
addresses, and nothing else is seen. -/
namespace DemandPaging.FourLevel

/-- A mapping that permits writing, otherwise as it was. -/
def Mapped.granted (found : Mapped) : Mapped :=
  { found with leaf := { found.leaf with writable := true }, mayWrite := true }

/-- No mapping permits writing but by itself. -/
def WritesNeedLeaf (view : View) : Prop :=
  ∀ {addr found}, view addr = some found → found.mayWrite = true → found.leaf.writable = true

/-- A mapping that permits writing by itself is not held back by the entries on the way to it. -/
def SaneOn (domain : VirtualAddress → Prop) (view : View) : Prop :=
  ∀ {addr found}, domain addr → view addr = some found → found.mayWrite = found.leaf.writable

/-- An installation at `page` that is to permit writing comes to a huge page, which `addr` is in. -/
def Opens (page : VirtualAddress) (writable : Bool) (view : View) (addr : VirtualAddress) : Prop :=
  writable = true ∧ (∃ found, view page = some found ∧ found.size = hugeSize) ∧ SameHuge page addr

/-- What an installation at `page` has done to the mappings at the addresses of `domain`. -/
structure Walked (page : VirtualAddress) (writable : Bool) (domain : VirtualAddress → Prop) (failed : Prop)
    (before after : View) : Prop where
  sane : SaneOn domain before → SaneOn domain after
  /-- A mapping that permits writing was there, or was asked for. -/
  fresh : ∀ {addr found}, domain addr → after addr = some found → found.leaf.writable = true →
    writable = true ∨ ∃ old, before addr = some old ∧ old.leaf.writable = true
  granted : failed → SaneOn domain before → ∀ {addr}, domain addr → Opens page writable before addr →
    after addr = (before addr).map Mapped.granted
  kept : failed → SaneOn domain before → ∀ {addr}, domain addr → ¬Opens page writable before addr →
    after addr = before addr

section
variable {τ : Type} {look : τ → View} {page : VirtualAddress} {writable : Bool} {failed : Prop}
  {domain : VirtualAddress → Prop} {before after : View}

theorem writesNeedLeaf_behind (need : ∀ table, WritesNeedLeaf (look table)) (branch : Branch τ) :
    WritesNeedLeaf (behind look branch) := by
  intro addr found seen may
  obtain ⟨below, there, rfl⟩ := Option.map_eq_some_iff.1 seen
  simp only [Mapped.under, Bool.and_eq_true] at may
  change below.leaf.writable = true
  exact need branch.table there may.2

theorem writesNeedLeaf_through (need : ∀ table, WritesNeedLeaf (look table)) (level : Nat)
    (table : SortedMap Nat (Branch τ)) : WritesNeedLeaf (through look level table) := by
  intro addr found seen may
  obtain ⟨branch, _, there⟩ := Option.bind_eq_some_iff.1 seen
  exact writesNeedLeaf_behind need branch there may

theorem writesNeedLeaf_look1 (table : Table1) : WritesNeedLeaf (look1 table) := by
  intro addr found seen may
  obtain ⟨leaf, _, rfl⟩ := Option.map_eq_some_iff.1 seen
  exact may

theorem writesNeedLeaf_look2 (table : Table2) : WritesNeedLeaf (look2 table) := by
  intro addr found seen may
  obtain ⟨entry, _, there⟩ := Option.bind_eq_some_iff.1 seen
  cases entry with
  | table branch => exact writesNeedLeaf_behind writesNeedLeaf_look1 branch there may
  | huge leaf =>
    cases there
    exact may

/-- Where nothing has changed, and no huge page was in the way of what failed. -/
theorem Walked.unchanged
    (small : failed → ∀ {found}, before page = some found → found.size ≠ hugeSize) :
    Walked page writable domain failed before before := by
  constructor
  · intro sane
    exact sane
  · intro addr found _ seen may
    exact .inr ⟨found, seen, may⟩
  · rintro fails - addr - ⟨-, ⟨found, there, huge⟩, -⟩
    exact absurd huge (small fails there)
  · intro _ _ addr _ _
    rfl

/-- Where a page is mapped, and no more is permitted than is asked for. -/
theorem Walked.added (inside : VirtualAddress → Prop) [DecidablePred inside] (leaf : Leaf) {size : Nat}
    (asked : leaf.writable = true → writable = true) (succeeds : ¬failed)
    (is : ∀ addr, after addr = if inside addr then some ⟨leaf, size, leaf.writable⟩ else before addr) :
    Walked page writable domain failed before after := by
  constructor
  · intro sane addr found known seen
    rw [is] at seen
    split at seen
    · cases seen
      rfl
    · exact sane known seen
  · intro addr found _ seen may
    rw [is] at seen
    split at seen
    · cases seen
      exact .inl (asked may)
    · exact .inr ⟨found, seen, may⟩
  · intro fails
    exact absurd fails succeeds
  · intro fails
    exact absurd fails succeeds

/-- Behind an entry, all is done that is done in its table. -/
theorem Walked.behind {old new : Branch τ} (need : ∀ table, WritesNeedLeaf (look table))
    (wider : new.writable = (old.writable || writable))
    (walked : Walked page writable domain failed (look old.table) (look new.table)) :
    Walked page writable domain failed (behind look old) (behind look new) := by
  -- What is sane behind an entry is sane in its table, and the entry permits what the page does.
  have inner : SaneOn domain (FourLevel.behind look old) → SaneOn domain (look old.table) := by
    intro sane addr found here there
    have whole := sane here (Option.map_eq_some_iff.2 ⟨found, there, rfl⟩)
    cases may : found.mayWrite with
    | true => exact (need _ there may).symm
    | false =>
      simp only [Mapped.under, may, Bool.and_false] at whole
      exact whole
  have outer : SaneOn domain (FourLevel.behind look old) → ∀ {addr found}, domain addr →
      look old.table addr = some found → found.leaf.writable = true → old.writable = true := by
    intro sane addr found here there may
    have whole := sane here (Option.map_eq_some_iff.2 ⟨found, there, rfl⟩)
    simp only [Mapped.under, may, Bool.and_eq_true] at whole
    exact whole.1
  have opens : ∀ {addr}, Opens page writable (FourLevel.behind look old) addr ↔
      Opens page writable (look old.table) addr := by
    intro addr
    have same : (∃ found, FourLevel.behind look old page = some found ∧ found.size = hugeSize) ↔
        ∃ found, look old.table page = some found ∧ found.size = hugeSize := by
      constructor
      · rintro ⟨_, seen, huge⟩
        obtain ⟨below, there, rfl⟩ := Option.map_eq_some_iff.1 seen
        exact ⟨below, there, huge⟩
      · rintro ⟨below, there, huge⟩
        exact ⟨_, Option.map_eq_some_iff.2 ⟨below, there, rfl⟩, huge⟩
    rw [Opens, Opens, same]
  constructor
  · intro sane addr found here seen
    obtain ⟨below, there, rfl⟩ := Option.map_eq_some_iff.1 seen
    have same := walked.sane (inner sane) here there
    simp only [Mapped.under, same, wider]
    cases may : below.leaf.writable with
    | false => simp
    | true =>
      rcases walked.fresh here there may with asked | ⟨known, was, permitted⟩
      · simp [asked]
      · simp [outer sane here was permitted]
  · intro addr found here seen may
    obtain ⟨below, there, rfl⟩ := Option.map_eq_some_iff.1 seen
    rcases walked.fresh here there may with asked | ⟨known, was, permitted⟩
    · exact .inl asked
    · exact .inr ⟨_, Option.map_eq_some_iff.2 ⟨known, was, rfl⟩, permitted⟩
  · intro fails sane addr here opened
    have now := walked.granted fails (inner sane) here (opens.1 opened)
    simp only [FourLevel.behind, now, wider, opened.1, Bool.or_true, Option.map_map]
    congr 1
  · intro fails sane addr here closed
    have now := walked.kept fails (inner sane) here fun opened => closed (opens.2 opened)
    simp only [FourLevel.behind, now, wider]
    cases there : look old.table addr with
    | none => rfl
    | some found =>
      cases may : found.mayWrite with
      | false => simp [Mapped.under, may]
      | true =>
        have permitted := outer sane here there (need _ there may)
        simp [Mapped.under, permitted]

/-- What was done at one place of a table is all that was done in it. -/
theorem Walked.at (inside : VirtualAddress → Prop) {inner outer : View}
    (walked : Walked page writable (fun addr => domain addr ∧ inside addr) failed inner outer)
    (was : ∀ {addr}, inside addr → before addr = inner addr)
    (is : ∀ {addr}, inside addr → after addr = outer addr)
    (elsewhere : ∀ {addr}, ¬inside addr → after addr = before addr) (here : inside page)
    (whole : ∀ {addr}, SameHuge page addr → inside addr) :
    Walked page writable domain failed before after := by
  have sane_inner : SaneOn domain before → SaneOn (fun addr => domain addr ∧ inside addr) inner := by
    intro sane addr found within seen
    exact sane within.1 ((was within.2).trans seen)
  have opens : ∀ {addr}, Opens page writable before addr ↔ Opens page writable inner addr := by
    intro addr
    rw [Opens, Opens, was here]
  constructor
  · intro sane addr found known seen
    by_cases within : inside addr
    · exact walked.sane (sane_inner sane) ⟨known, within⟩ ((is within).symm.trans seen)
    · exact sane known ((elsewhere within).symm.trans seen)
  · intro addr found known seen may
    by_cases within : inside addr
    · rw [was within]
      exact walked.fresh ⟨known, within⟩ ((is within).symm.trans seen) may
    · exact .inr ⟨found, (elsewhere within).symm.trans seen, may⟩
  · intro fails sane addr known opened
    have within := whole opened.2.2
    rw [is within, was within]
    exact walked.granted fails (sane_inner sane) ⟨known, within⟩ (opens.1 opened)
  · intro fails sane addr known closed
    by_cases within : inside addr
    · rw [is within, was within]
      exact walked.kept fails (sane_inner sane) ⟨known, within⟩ fun opened => closed (opens.2 opened)
    · exact elsewhere within

theorem writesNeedLeaf_look3 : ∀ table, WritesNeedLeaf (look3 table) :=
  writesNeedLeaf_through writesNeedLeaf_look2 3

/-- A change on the way to `page`, as far as the mappings at the addresses of `domain` tell. -/
def Walks (look : τ → View) (page : VirtualAddress) (writable : Bool) (domain : VirtualAddress → Prop)
    (fails : Except MapError Unit → Prop) (change : Stocked τ → Change τ) : Prop :=
  ∀ stocked, Walked page writable domain (fails (change stocked).1) (look stocked.table)
    (look (change stocked).2.table)

variable {fails : Except MapError Unit → Prop}

/-- Entering a table does behind the entry what is done in the table. -/
theorem Walked.enter {found : Option (Branch τ)} {blank : τ} {stock left : Nat}
    {change : Stocked τ → Change τ} {result : Except MapError Unit} {branch : Branch τ}
    (need : ∀ table, WritesNeedLeaf (look table)) (walks : Walks look page writable domain fails change)
    (entered : FourLevel.enter found blank writable stock change = some (result, branch, left)) :
    Walked page writable domain (fails result)
      (FourLevel.behind look (found.getD ⟨false, blank⟩)) (FourLevel.behind look branch) := by
  obtain ⟨stock', rfl, rfl⟩ := enter_eq entered
  exact Walked.behind need rfl (walks _)

theorem Walks.descend {change : Stocked τ → Change τ} {level : Nat} {blank : τ}
    (need : ∀ table, WritesNeedLeaf (look table)) (nothing : ∀ addr, look blank addr = none)
    (whole : ∀ {addr}, SameHuge page addr → index addr level = index page level)
    (walks : Walks look page writable (fun addr => domain addr ∧ index addr level = index page level)
      fails change) :
    Walks (through look level) page writable domain fails
      (descend (index page level) writable blank change) := by
  rintro ⟨table, stock⟩
  unfold FourLevel.descend
  cases entered : enter (table.get? (index page level)) blank writable stock change with
  | none =>
    apply Walked.unchanged
    intro _ found seen
    rw [through, enter_eq_none entered] at seen
    cases seen
  | some outcome =>
    obtain ⟨result, branch, left⟩ := outcome
    apply (Walked.enter need walks entered).at fun addr => index addr level = index page level
    · intro addr inside
      rw [behind_getD nothing, ← inside]
      rfl
    · intro addr inside
      simp [through, inside]
    · intro addr outside
      simp only [through]
      rw [SortedMap.get?_insert_of_ne _ _ (Ne.symm outside)]
    · rfl
    · exact whole

end

section
variable {page : VirtualAddress} {writable : Bool} {domain : VirtualAddress → Prop}
  {fails : Except MapError Unit → Prop}

/-- A huge page in the way can be written from then on, at all of its addresses. -/
theorem Walked.huge {failed : Prop} (same : ∀ {addr}, domain addr → SameHuge page addr) (leaf : Leaf) :
    Walked page writable domain failed (lookEntry (.huge leaf))
      (lookEntry (.huge { leaf with writable := leaf.writable || writable })) := by
  constructor
  · rintro - addr _ - ⟨⟩
    rfl
  · rintro addr _ - ⟨⟩ may
    rcases Bool.or_eq_true_iff.1 may with permitted | asked
    · exact .inr ⟨_, rfl, permitted⟩
    · exact .inl asked
  · rintro - - addr - ⟨rfl, -, -⟩
    simp [lookEntry, Mapped.granted]
  · intro _ _ addr known closed
    have refused : writable = false :=
      Bool.eq_false_iff.2 fun asked => closed ⟨asked, ⟨_, rfl, rfl⟩, same known⟩
    simp [lookEntry, refused]

/-- The entry in the way of `page` is all that has changed in a table of the second level. -/
theorem Walked.replaced {failed : Prop} {table : Table2} {inner : View} {entry : Entry2}
    (walked : Walked page writable (fun addr => domain addr ∧ index addr 2 = index page 2) failed inner
      (lookEntry entry))
    (was : ∀ {addr}, index addr 2 = index page 2 → look2 table addr = inner addr) :
    Walked page writable domain failed (look2 table)
      (look2 (table.insert (index page 2) entry)) := by
  apply walked.at fun addr => index addr 2 = index page 2
  · exact was
  · intro addr inside
    simp [look2, inside]
  · intro addr outside
    simp only [look2]
    rw [SortedMap.get?_insert_of_ne _ _ (Ne.symm outside)]
  · rfl
  · intro addr known
    exact known.2.2

theorem Walks.lower {change : Stocked Table1 → Change Table1} {above : Stocked Table2}
    {found : Option (Branch Table1)}
    (walks : Walks look1 page writable (fun addr => domain addr ∧ index addr 2 = index page 2)
      fails change)
    (was : ∀ {addr}, index addr 2 = index page 2 →
      look2 above.table addr = found.bind fun branch => behind look1 branch addr) :
    Walked page writable domain 
      (fails (lower (index page 2) writable change above found).1) (look2 above.table)
        (look2 (lower (index page 2) writable change above found).2.table) := by
  unfold FourLevel.lower
  cases entered : enter found .empty writable above.stock change with
  | none =>
    apply Walked.unchanged
    intro _ mapped seen
    rw [was rfl, enter_eq_none entered] at seen
    cases seen
  | some outcome =>
    obtain ⟨result, branch, left⟩ := outcome
    apply Walked.replaced (Walked.enter writesNeedLeaf_look1 walks entered)
    intro addr inside
    rw [was inside, behind_getD fun addr => by simp [look1]]

/-- The change of a table of the second level, which may hold a huge page already. -/
theorem Walks.descendPastHuge {change : Stocked Table1 → Change Table1}
    (same : ∀ {addr}, domain addr → index addr 2 = index page 2 → SameHuge page addr)
    (walks : Walks look1 page writable (fun addr => domain addr ∧ index addr 2 = index page 2)
      fails change) :
    Walks look2 page writable domain fails (descendPastHuge page (index page 2) writable change) := by
  rintro ⟨table, stock⟩
  rw [descendPastHuge_eq]
  cases there : table.get? (index page 2) with
  | none =>
    apply walks.lower
    intro addr inside
    simp [look2, inside, there]
  | some entry =>
    cases entry with
    | table branch =>
      apply walks.lower
      intro addr inside
      simp [look2, inside, there, lookEntry]
    | huge leaf =>
      apply Walked.replaced (Walked.huge (fun known => same known.1 known.2) leaf)
      intro addr inside
      simp [look2, inside, there]

/-- A page is mapped in a table of the last level, unless it is mapped there. -/
theorem walks_add (frame : PhysicalAddress) (succeeds : ¬fails (.ok ())) :
    Walks look1 page writable domain fails fun last =>
      if last.table.contains (index page 1) then (.error (.alreadyMapped page), last)
      else (.ok (), { last with table := last.table.insert (index page 1) { frame, writable } }) := by
  rintro ⟨table, stock⟩
  cases present : table.contains (index page 1) with
  | true =>
    simp only [present, if_true]
    apply Walked.unchanged
    intro _ found seen
    obtain ⟨leaf, _, rfl⟩ := Option.map_eq_some_iff.1 seen
    simp [hugeSize]
  | false =>
    simp only [present, Bool.false_eq_true, if_false]
    apply Walked.added (fun addr => index page 1 = index addr 1) { frame, writable } id succeeds
    intro addr
    simp only [look1, SortedMap.get?_insert, rank, id]
    split
    · rfl
    · rfl

/-- A huge page is mapped in a table of the second level, unless there is something in its place. -/
theorem walks_addHuge (leaf : Leaf) :
    Walks look2 page leaf.writable domain (fun _ => False) fun last =>
      if last.table.contains (index page 2) then (.error (.alreadyMapped page), last)
      else (.ok (), { last with table := last.table.insert (index page 2) (.huge leaf) }) := by
  rintro ⟨table, stock⟩
  cases present : table.contains (index page 2) with
  | true =>
    simp only [present, if_true]
    exact Walked.unchanged False.elim
  | false =>
    simp only [present, Bool.false_eq_true, if_false]
    apply Walked.added (fun addr => index page 2 = index addr 2) leaf id id
    intro addr
    simp only [look2, SortedMap.get?_insert, rank, id]
    split
    · rfl
    · rfl

/-- A change below the upper two levels, in the whole directory. -/
theorem walked_changeBelow (fails : Except MapError Unit → Prop)
    {change : Stocked Table2 → Change Table2}
    (walks : ∀ {domain : VirtualAddress → Prop},
      (∀ {addr}, domain addr → index addr 4 = index page 4 ∧ index addr 3 = index page 3) →
      Walks look2 page writable domain fails change) (directory : FourLevel) :
    Walked page writable (fun _ => True) (fails (directory.changeBelow page writable change).1)
      directory.mapped? (directory.changeBelow page writable change).2.mapped? := by
  have third : Walks look3 page writable (fun addr => True ∧ index addr 4 = index page 4) fails
      (descend (index page 3) writable .empty change) :=
    Walks.descend writesNeedLeaf_look2 (fun addr => by simp [look2]) (fun same => same.2.1)
      (walks fun known => ⟨known.1.2, known.2⟩)
  have fourth : Walks look4 page writable (fun _ => True) fails
      (descend (index page 4) writable .empty (descend (index page 3) writable .empty change)) :=
    Walks.descend writesNeedLeaf_look3 (fun addr => by simp [look3, through]) (fun same => same.1) third
  rw [mapped?_eq, mapped?_eq]
  exact fourth ⟨directory.root, directory.stock⟩

end

/-- A mapping that permits writing by itself is held back nowhere. -/
def Sane (directory : FourLevel) : Prop := SaneOn (fun _ => True) directory.mapped?

section
variable {directory : FourLevel} {page : VirtualAddress} {frame : PhysicalAddress} {writable : Bool}

/-- What an installation does to the mappings, if the addresses are aligned. -/
theorem walked_install (aligned : ¬(page.value % 4096 ≠ 0 ∨ frame.value % 4096 ≠ 0)) :
    Walked page writable (fun _ => True) (∃ error, (directory.install page frame writable).1 = .error error)
      directory.mapped? (directory.install page frame writable).2.mapped? := by
  unfold install
  rw [if_neg aligned]
  apply walked_changeBelow fun result => ∃ error, result = .error error
  intro domain known
  apply Walks.descendPastHuge
  · intro addr here same
    exact ⟨(known here).1, (known here).2, same⟩
  · apply walks_add
    rintro ⟨error, fails⟩
    cases fails

theorem install_huge {found : Mapped} (aligned : ¬(page.value % 4096 ≠ 0 ∨ frame.value % 4096 ≠ 0))
    (seen : directory.mapped? page = some found) (huge : found.size = hugeSize) :
    (directory.install page frame writable).1 = .error (.alreadyMapped page) := by
  rw [mapped?_eq] at seen
  obtain ⟨third, upper, behindThird⟩ := Option.bind_eq_some_iff.1 seen
  obtain ⟨inThird, seenThird, rfl⟩ := Option.map_eq_some_iff.1 behindThird
  obtain ⟨second, middle, behindSecond⟩ := Option.bind_eq_some_iff.1 seenThird
  obtain ⟨inSecond, seenSecond, rfl⟩ := Option.map_eq_some_iff.1 behindSecond
  obtain ⟨entry, lower, seenEntry⟩ := Option.bind_eq_some_iff.1 seenSecond
  cases entry with
  | table branch =>
    obtain ⟨below, seenLast, rfl⟩ := Option.map_eq_some_iff.1 seenEntry
    obtain ⟨leaf, last, rfl⟩ := Option.map_eq_some_iff.1 seenLast
    simp [Mapped.under, hugeSize] at huge
  | huge leaf =>
    simp [install, aligned, changeBelow, descend, upper, enter, middle, descendPastHuge, lower]

theorem Sane.install (sane : directory.Sane) : (directory.install page frame writable).2.Sane := by
  by_cases aligned : page.value % 4096 ≠ 0 ∨ frame.value % 4096 ≠ 0
  · rw [FourLevel.install, if_pos aligned]
    exact sane
  · exact (walked_install aligned).sane sane

def mapHuge (directory : FourLevel) (page : VirtualAddress) (leaf : Leaf) : FourLevel :=
  (directory.changeBelow page leaf.writable fun last =>
    if last.table.contains (index page 2) then (.error (.alreadyMapped page), last)
    else (.ok (), { last with table := last.table.insert (index page 2) (.huge leaf) })).2

theorem installHuge_eq (directory : FourLevel) (mapping : HugeMapping) :
    directory.installHuge mapping = directory.mapHuge mapping.page
      { frame := mapping.frame, writable := false, accessed := mapping.accessed,
        dirty := mapping.dirty } :=
  rfl

theorem Sane.mapHuge (sane : directory.Sane) (leaf : Leaf) : (directory.mapHuge page leaf).Sane :=
  (walked_changeBelow (fun _ => False) (fun _ => walks_addHuge leaf) directory).sane sane

end

/-- Every mapping was there, with the size and the permissions it has. -/
def Within (after before : View) : Prop :=
  ∀ {addr found}, after addr = some found → ∃ old, before addr = some old ∧
    found.size = old.size ∧ found.mayWrite = old.mayWrite ∧
    found.leaf.writable = old.leaf.writable

theorem Sane.within {before after : FourLevel} (sane : before.Sane)
    (within : Within after.mapped? before.mapped?) : after.Sane := by
  intro addr found known seen
  obtain ⟨old, was, -, may, permits⟩ := within seen
  rw [may, permits]
  exact sane known was

section
variable {directory : FourLevel} {page : VirtualAddress} {entry old : Entry2} {above : Bool}

/-- Replacing an entry of the second level by one that maps no more and permits the same. -/
theorem within_setSecond (found : directory.second? page = some (old, above))
    (within : Within (lookEntry entry) (lookEntry old)) :
    Within (directory.setSecond page entry).mapped? directory.mapped? := by
  intro addr mapped seen
  rw [mapped?_eq_bind, second?_setSecond found] at seen
  by_cases same : SameHuge page addr
  · rw [if_pos same] at seen
    obtain ⟨below, there, rfl⟩ := Option.map_eq_some_iff.1 seen
    obtain ⟨earlier, was, size, may, permits⟩ := within there
    refine ⟨earlier.under above, ?_, size, ?_, permits⟩
    · rw [mapped?_eq_bind, second?_of_same same, found]
      simp [was]
    · simp [Mapped.under, may]
  · rw [if_neg same, ← mapped?_eq_bind] at seen
    exact ⟨mapped, seen, rfl, rfl, rfl⟩

theorem Within.refl (view : View) : Within view view := by
  intro addr found seen
  exact ⟨found, seen, rfl, rfl, rfl⟩

/-- What is found behind an entry after a change of the table there. -/
theorem within_table {branch : Branch Table1} {table : Table1}
    (within : Within (look1 table) (look1 branch.table)) :
    Within (lookEntry (.table { branch with table })) (lookEntry (.table branch)) := by
  intro addr found seen
  obtain ⟨below, there, rfl⟩ := Option.map_eq_some_iff.1 seen
  obtain ⟨earlier, was, size, may, permits⟩ := within there
  refine ⟨earlier.under branch.writable, Option.map_eq_some_iff.2 ⟨earlier, was, rfl⟩, size, ?_,
    permits⟩
  simp [Mapped.under, may]

theorem within_unmap : Within (directory.unmap page).2.mapped? directory.mapped? := by
  unfold unmap
  split
  · exact Within.refl _
  · split
    · next branch above found =>
      split
      · exact Within.refl _
      · apply within_setSecond found
        apply within_table
        intro addr mapped seen
        obtain ⟨leaf, there, rfl⟩ := Option.map_eq_some_iff.1 seen
        rw [SortedMap.get?_erase] at there
        split at there
        · cases there
        · exact ⟨_, Option.map_eq_some_iff.2 ⟨leaf, there, rfl⟩, rfl, rfl, rfl⟩
    · exact Within.refl _

variable {change : Leaf → Leaf} (permits : ∀ leaf, (change leaf).writable = leaf.writable)
include permits

theorem within_updateLeaf : Within (directory.updateLeaf page change).mapped? directory.mapped? := by
  unfold updateLeaf
  split
  · next branch above found =>
    split
    · exact Within.refl _
    · next leaf last =>
      apply within_setSecond found
      apply within_table
      intro addr mapped seen
      obtain ⟨now, there, rfl⟩ := Option.map_eq_some_iff.1 seen
      rw [SortedMap.get?_insert] at there
      split at there
      · next same =>
        cases there
        refine ⟨_, Option.map_eq_some_iff.2 ⟨leaf, ?_, rfl⟩, rfl, permits leaf, permits leaf⟩
        rw [← last, rank_injective same]
      · exact ⟨_, Option.map_eq_some_iff.2 ⟨now, there, rfl⟩, rfl, rfl, rfl⟩
  · exact Within.refl _

theorem within_markLeaf : Within (directory.markLeaf page change).mapped? directory.mapped? := by
  unfold markLeaf
  split
  · next leaf above found =>
    apply within_setSecond found
    rintro addr mapped ⟨⟩
    exact ⟨_, rfl, rfl, permits leaf, permits leaf⟩
  · exact within_updateLeaf permits

end

/-- Directories as they come about. Huge pages may be mapped by others, and be permitted to be written. -/
inductive Built : FourLevel → Prop
  | blank (stock : Nat) : Built { stock }
  | mapHuge {directory} (built : Built directory) (page : VirtualAddress) (leaf : Leaf) :
      Built (directory.mapHuge page leaf)
  | install {directory} (built : Built directory) (page : VirtualAddress) (frame : PhysicalAddress)
      (writable : Bool) : Built (directory.install page frame writable).2
  | unmap {directory} (built : Built directory) (page : VirtualAddress) : Built (directory.unmap page).2
  | setAccessed {directory} (built : Built directory) (page : VirtualAddress) (value : Bool) :
      Built (directory.setAccessed page value)
  | setDirty {directory} (built : Built directory) (page : VirtualAddress) (value : Bool) :
      Built (directory.setDirty page value)
  | access {directory} (built : Built directory) (addr : VirtualAddress) (kind : Access) :
      Built (directory.access addr kind).2

namespace Built
variable {directory : FourLevel}

theorem ofSpec (spec : DirectorySpec) : Built (FourLevel.ofSpec spec) := by
  have mapped : ∀ (mappings : List HugeMapping) {directory : FourLevel}, Built directory →
      Built (mappings.foldl installHuge directory) := by
    intro mappings
    induction mappings with
    | nil =>
      intro directory built
      exact built
    | cons mapping mappings ih =>
      intro directory built
      rw [List.foldl_cons, installHuge_eq]
      exact ih (built.mapHuge _ _)
  exact mapped spec.huge (blank spec.tables)

/-- No page of a directory that may be written is held back by the tables on the way to it. -/
theorem sane (built : Built directory) : directory.Sane := by
  induction built with
  | blank stock =>
    intro addr found _ seen
    simp [mapped?_eq_bind, second?] at seen
  | mapHuge _ page leaf ih => exact ih.mapHuge leaf
  | install _ page frame writable ih => exact ih.install
  | unmap _ page ih => exact ih.within within_unmap
  | setAccessed _ page value ih =>
    unfold FourLevel.setAccessed
    split
    · exact ih
    · refine ih.within (within_updateLeaf ?_)
      intro leaf
      rfl
  | setDirty _ page value ih =>
    unfold FourLevel.setDirty
    split
    · exact ih
    · refine ih.within (within_updateLeaf ?_)
      intro leaf
      rfl
  | access _ addr kind ih =>
    unfold FourLevel.access
    split
    · exact ih
    · split
      · exact ih
      · refine ih.within (within_markLeaf ?_)
        intro leaf
        rfl

end Built

/-- What can be told of an address from its accesses and from the bits of its page. -/
structure Shown where
  target : PhysicalAddress
  mayWrite : Bool
  accessed : Bool
  dirty : Bool
deriving DecidableEq

def Mapped.shown (found : Mapped) (addr : VirtualAddress) : Shown where
  target := ⟨found.leaf.frame.value + addr.value % found.size⟩
  mayWrite := found.mayWrite
  accessed := found.leaf.accessed
  dirty := found.leaf.dirty

def shown (directory : FourLevel) (addr : VirtualAddress) : Option Shown :=
  (directory.mapped? addr).map (·.shown addr)

section
variable {directory : FourLevel} {page : VirtualAddress} {frame : PhysicalAddress} {writable : Bool}

/-- Nothing that is shown changes where an installation fails, unless it was to permit writing and finds a
huge page. All addresses of that page may be written from then on, and no more is changed. -/
theorem Built.failed_install {error : MapError} (built : Built directory)
    (failed : (directory.install page frame writable).1 = .error error) (addr : VirtualAddress) :
    (directory.install page frame writable).2.shown addr =
      if error = .alreadyMapped page ∧ writable = true ∧
          (directory.mapped? page).any (·.size == hugeSize) = true ∧ SameHuge page addr then
        (directory.shown addr).map fun before => { before with mayWrite := true }
      else directory.shown addr := by
  by_cases aligned : page.value % 4096 ≠ 0 ∨ frame.value % 4096 ≠ 0
  · rw [FourLevel.install, if_pos aligned] at failed
    cases failed
    rw [FourLevel.install, if_pos aligned, if_neg fun opened => by simp at opened]
  · have walked := @walked_install directory page frame writable aligned
    have fails : ∃ error, (directory.install page frame writable).1 = .error error := ⟨error, failed⟩
    by_cases opened : Opens page writable directory.mapped? addr
    · obtain ⟨asked, ⟨found, seen, huge⟩, same⟩ := opened
      have already : error = .alreadyMapped page := by
        rw [install_huge aligned seen huge] at failed
        cases failed
        rfl
      rw [if_pos ⟨already, asked, by simp [seen, huge], same⟩, shown,
        walked.granted fails built.sane trivial ⟨asked, ⟨found, seen, huge⟩, same⟩, shown]
      simp only [Option.map_map]
      congr 1
    · rw [if_neg, shown, walked.kept fails built.sane trivial opened, shown]
      rintro ⟨-, asked, there, same⟩
      cases seen : directory.mapped? page with
      | none => simp [seen] at there
      | some found => exact opened ⟨asked, ⟨found, seen, by simpa [seen] using there⟩, same⟩

end

def hugeReadOnly : FourLevel :=
  ofSpec { tables := 16, huge := [⟨⟨0x20_0000⟩, ⟨0x40_0000⟩, false, false⟩] }

theorem hugeReadOnly_failed_install : Built hugeReadOnly ∧
    (hugeReadOnly.install ⟨0x20_1000⟩ ⟨0x1000⟩ true).1 = .error (.alreadyMapped ⟨0x20_1000⟩) ∧
    (hugeReadOnly.install ⟨0x20_1000⟩ ⟨0x1000⟩ true).2.shown ⟨0x20_0010⟩ =
      some ⟨⟨0x40_0010⟩, true, false, false⟩ := by
  have built : Built hugeReadOnly := Built.ofSpec _
  have failed : (hugeReadOnly.install ⟨0x20_1000⟩ ⟨0x1000⟩ true).1 =
      .error (.alreadyMapped ⟨0x20_1000⟩) := rfl
  refine ⟨built, failed, ?_⟩
  rw [built.failed_install failed]
  decide +kernel

/-- A write that raised a fault is performed after an installation that failed. -/
theorem hugeReadOnly_written : Built hugeReadOnly ∧
    (hugeReadOnly.install ⟨0x20_1000⟩ ⟨0x1000⟩ true).1 = .error (.alreadyMapped ⟨0x20_1000⟩) ∧
    (hugeReadOnly.access ⟨0x20_0010⟩ .write).1 = .error ⟨0x20_0010, .write, true⟩ ∧
    ((hugeReadOnly.install ⟨0x20_1000⟩ ⟨0x1000⟩ true).2.access ⟨0x20_0010⟩ .write).1 = .ok ⟨0x40_0010⟩ ∧
    (hugeReadOnly.install ⟨0x20_1000⟩ ⟨0x1000⟩ true).2.shown ⟨0x20_0010⟩ ≠
      hugeReadOnly.shown ⟨0x20_0010⟩ :=
  ⟨Built.ofSpec _, rfl, rfl, rfl, by decide +kernel⟩

end DemandPaging.FourLevel
