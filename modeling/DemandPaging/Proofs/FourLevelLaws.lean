import DemandPaging.Proofs.Directories
import DemandPaging.Proofs.FailedInstalls
import DemandPaging.Proofs.FourLevelInstalls

/-! The directories of the large machine are lawful as long as no huge pages are mapped in them. Where an
installation fails they map what they mapped, and every other operation replaces one entry of the second
level. Tables can run out, so an installation may be refused on this machine even where a page is not mapped. -/
namespace DemandPaging.FourLevel

/-- No huge page is mapped, and no page that may be written is held back by the entries on the way
to it. -/
structure SmallPages (directory : FourLevel) : Prop where
  sane : directory.Sane
  size : ∀ {addr found}, directory.mapped? addr = some found → found.size = 4096

namespace SmallPages
variable {directory after : FourLevel} {page : VirtualAddress} {frame : PhysicalAddress}
  {writable : Bool} (small : directory.SmallPages)
include small

/-- A mapping is known from its leaf. -/
theorem mapped?_eq (addr : VirtualAddress) :
    directory.mapped? addr =
      (leaves directory.mapped? addr).map fun (leaf, size) => ⟨leaf, size, leaf.writable⟩ := by
  cases found : directory.mapped? addr with
  | none => simp [leaves, found]
  | some mapped => simp [leaves, found, ← small.sane trivial found]

theorem within (within : Within after.mapped? directory.mapped?) : after.SmallPages where
  sane := Sane.within small.sane within
  size seen := by
    obtain ⟨old, was, size, -⟩ := within seen
    exact size.trans (small.size was)

theorem install_refused {error : MapError}
    (refused : directory.install page frame writable = (.error error, after))
    (addr : VirtualAddress) : after.mapped? addr = directory.mapped? addr := by
  by_cases aligned : page.value % 4096 ≠ 0 ∨ frame.value % 4096 ≠ 0
  · rw [FourLevel.install, if_pos aligned] at refused
    cases refused
    rfl
  · have walked := @walked_install directory page frame writable aligned
    rw [refused] at walked
    apply walked.kept ⟨error, rfl⟩ small.sane trivial
    rintro ⟨-, ⟨found, seen, huge⟩, -⟩
    rw [small.size seen] at huge
    exact absurd huge (by decide)

theorem install : (directory.install page frame writable).2.SmallPages := by
  cases ended : directory.install page frame writable with
  | mk result after =>
    cases result with
    | error error =>
      apply small.within
      intro addr found seen
      rw [small.install_refused ended] at seen
      exact ⟨found, seen, rfl, rfl, rfl⟩
    | ok _ =>
      have put := @put_install directory page frame writable (aligned_of_install ended)
      have sane := @Sane.install directory page frame writable small.sane
      rw [ended] at put sane
      refine ⟨sane, ?_⟩
      intro addr found seen
      have leaf : some (found.leaf, found.size) = leaves after.mapped? addr := by
        rw [leaves, seen]
        rfl
      by_cases same : SamePage page addr
      · rw [put.there rfl same] at leaf
        exact congrArg Prod.snd (Option.some.inj leaf)
      · rw [put.elsewhere rfl same] at leaf
        obtain ⟨old, there, known⟩ := Option.map_eq_some_iff.1 leaf.symm
        exact (congrArg Prod.snd known).symm.trans (small.size there)

/-- An installation maps the addresses of its page and no others. -/
theorem mapped?_install (done : directory.install page frame writable = (.ok (), after))
    (addr : VirtualAddress) :
    after.mapped? addr =
      if SamePage page addr then some ⟨{ frame, writable }, 4096, writable⟩
      else directory.mapped? addr := by
  have put := @put_install directory page frame writable (aligned_of_install done)
  have small_after := @SmallPages.install directory page frame writable small
  rw [done] at put small_after
  rw [small_after.mapped?_eq]
  split
  · next same =>
    rw [put.there rfl same]
    rfl
  · next other => rw [put.elsewhere rfl other, ← small.mapped?_eq]

omit small in
/-- An installation is refused for want of a table only, if the page is not mapped. -/
theorem outOfMemory_of_refused {error : MapError}
    (aligned : ¬(page.value % 4096 ≠ 0 ∨ frame.value % 4096 ≠ 0))
    (unmapped : directory.mapped? page = none)
    (refused : directory.install page frame writable = (.error error, after)) :
    error = .outOfMemory := by
  have put := @put_install directory page frame writable aligned
  rw [refused] at put
  rcases put.refused rfl with full | mapped
  · exact full
  · simp [leaves, unmapped] at mapped

theorem not_huge {leaf : Leaf} {above : Bool} :
    directory.second? page ≠ some (.huge leaf, above) := by
  intro second
  have seen : directory.mapped? page = some ⟨leaf, hugeSize, above && leaf.writable⟩ := by
    simp [mapped?, second]
  exact absurd (small.size seen) (by simp [hugeSize])

end SmallPages

section
variable {directory : FourLevel} {page : VirtualAddress} {branch : Branch Table1} {above : Bool}
  (second : directory.second? page = some (.table branch, above))
include second

theorem mapped?_of_second? :
    directory.mapped? page = (branch.table.get? (index page 1)).map fun leaf =>
      ⟨leaf, 4096, above && branch.writable && leaf.writable⟩ := by
  cases last : branch.table.get? (index page 1) with
  | none => simp [mapped?, second, last]
  | some leaf => simp [mapped?, second, last]

/-- One place is changed in the table that the way to `page` leads to. -/
theorem mapped?_setSecond (table : Table1)
    (elsewhere : ∀ place, place ≠ index page 1 → table.get? place = branch.table.get? place)
    (addr : VirtualAddress) :
    (directory.setSecond page (.table { branch with table })).mapped? addr =
      if SamePage page addr then
        (table.get? (index page 1)).map fun leaf =>
          ⟨leaf, 4096, above && branch.writable && leaf.writable⟩
      else directory.mapped? addr := by
  have replaced := @second?_setSecond directory page (.table { branch with table }) _ _ second addr
  by_cases huge : SameHuge page addr
  · rw [if_pos huge] at replaced
    rw [mapped?_of_second? replaced, mapped?_of_second? ((second?_of_same huge).trans second)]
    by_cases last : index addr 1 = index page 1
    · rw [if_pos ⟨huge.1, huge.2.1, huge.2.2, last⟩, last]
    · rw [if_neg fun same : SamePage page addr => last same.2.2.2, elsewhere _ last]
  · rw [if_neg huge] at replaced
    rw [if_neg fun same : SamePage page addr => huge same.sameHuge, mapped?, replaced, ← mapped?]

end

/-- A change of a leaf that maps the same frame with the same permission. -/
structure Marks (change : Leaf → Leaf) : Prop where
  frame : ∀ leaf, (change leaf).frame = leaf.frame
  writable : ∀ leaf, (change leaf).writable = leaf.writable

theorem marks_accessed (value : Bool) : Marks fun leaf => { leaf with accessed := value } :=
  ⟨fun _ => rfl, fun _ => rfl⟩

theorem marks_dirty (value : Bool) : Marks fun leaf => { leaf with dirty := value } :=
  ⟨fun _ => rfl, fun _ => rfl⟩

theorem marks_access (kind : Access) :
    Marks fun leaf => { leaf with accessed := true, dirty := leaf.dirty || kind == .write } :=
  ⟨fun _ => rfl, fun _ => rfl⟩

namespace SmallPages
variable {directory : FourLevel} {page : VirtualAddress} (small : directory.SmallPages)
include small

theorem mapped?_unmap (aligned : page.value % 4096 = 0) (addr : VirtualAddress) :
    (directory.unmap page).2.mapped? addr =
      if SamePage page addr then none else directory.mapped? addr := by
  have absent (nothing : directory.mapped? page = none) :
      directory.mapped? addr = if SamePage page addr then none else directory.mapped? addr := by
    split
    · next same => rw [mapped?_of_same directory same, nothing]
    · rfl
  rw [unmap, if_neg (by simp [aligned])]
  cases second : directory.second? page with
  | none => exact absent (by simp [mapped?, second])
  | some found =>
    obtain ⟨entry, above⟩ := found
    cases entry with
    | huge leaf => exact absurd second small.not_huge
    | table branch =>
      cases last : branch.table.get? (index page 1) with
      | none =>
        simp only [last]
        exact absent (by simp [mapped?_of_second? second, last])
      | some leaf =>
        simp only [last]
        rw [mapped?_setSecond second _ fun place other => SortedMap.get?_erase_of_ne _ other.symm]
        simp

variable {change : Leaf → Leaf} (marks : Marks change)
include marks

theorem mapped?_updateLeaf (addr : VirtualAddress) :
    (directory.updateLeaf page change).mapped? addr =
      if SamePage page addr then
        (directory.mapped? page).map fun found => { found with leaf := change found.leaf }
      else directory.mapped? addr := by
  have absent (nothing : directory.mapped? page = none) :
      directory.mapped? addr = if SamePage page addr then
        (directory.mapped? page).map fun found => { found with leaf := change found.leaf }
      else directory.mapped? addr := by
    split
    · next same =>
      rw [mapped?_of_same directory same, nothing]
      rfl
    · rfl
  unfold updateLeaf
  cases second : directory.second? page with
  | none => exact absent (by simp [mapped?, second])
  | some found =>
    obtain ⟨entry, above⟩ := found
    cases entry with
    | huge leaf => exact absurd second small.not_huge
    | table branch =>
      cases last : branch.table.get? (index page 1) with
      | none =>
        simp only [last]
        exact absent (by simp [mapped?_of_second? second, last])
      | some leaf =>
        simp only [last]
        rw [mapped?_setSecond second _ fun place other =>
          SortedMap.get?_insert_of_ne _ _ other.symm, mapped?_of_second? second, last]
        simp [marks.writable]

theorem updateLeaf : (directory.updateLeaf page change).SmallPages :=
  small.within (within_updateLeaf marks.writable)

omit marks in
theorem markLeaf_eq (change : Leaf → Leaf) :
    directory.markLeaf page change = directory.updateLeaf page change := by
  unfold markLeaf
  split
  · next second => exact absurd second small.not_huge
  · rfl

end SmallPages

attribute [local instance] Architecture.large

section
variable {page other : VirtualAddress}

theorem aligned_of_isPage (is_page : page.IsPage) : page.value % 4096 = 0 :=
  beq_iff_eq.1 is_page.aligned

/-- Forty-eight bits of a canonical address determine it. -/
theorem samePage_iff (left : page.IsPage) (right : other.IsPage) :
    SamePage page other ↔ page = other := by
  constructor
  · intro same
    have first := aligned_of_isPage left
    have second := aligned_of_isPage right
    have low : page.value < 2 ^ 47 ∨ 2 ^ 64 - 2 ^ 47 ≤ page.value ∧ page.value < 2 ^ 64 :=
      left.canonical
    have high : other.value < 2 ^ 47 ∨ 2 ^ 64 - 2 ^ 47 ≤ other.value ∧ other.value < 2 ^ 64 :=
      right.canonical
    obtain ⟨page⟩ := page
    obtain ⟨other⟩ := other
    simp only [SamePage, index, Nat.shiftRight_eq_div_pow] at same
    obtain ⟨four, three, two, one⟩ := same
    simp only [VirtualAddress.mk.injEq]
    dsimp only at first second low high
    omega
  · rintro rfl
    exact .refl page

theorem samePage_pageBase (addr : VirtualAddress) : SamePage addr.pageBase addr := by
  obtain ⟨value⟩ := addr
  have base : (VirtualAddress.pageBase ⟨value⟩).value = value - value % 4096 := rfl
  simp only [SamePage, index, base, Nat.shiftRight_eq_div_pow]
  omega

end

theorem mapping_eq (directory : FourLevel) (addr : VirtualAddress) :
    Architecture.mapping directory addr = (directory.mapped? addr).map fun found =>
      (⟨found.leaf.frame.value + addr.value % found.size⟩, found.mayWrite) := by
  change (directory.translate addr).map (fun phys =>
    (phys, (directory.access addr .write).1.isOk)) = _
  unfold translate access
  cases directory.mapped? addr with
  | none => rfl
  | some found => cases may : found.mayWrite <;> simp [may, Except.isOk, Except.toBool]

theorem pageLeaf?_eq (directory : FourLevel) {page : VirtualAddress} (is_page : page.IsPage) :
    directory.pageLeaf? page = (directory.mapped? page).map (·.leaf) := by
  rw [pageLeaf?, if_neg (by simp [aligned_of_isPage is_page])]

def bit (directory : FourLevel) (read : Leaf → Bool) (page : VirtualAddress) : Bool :=
  (directory.mapped? page).any fun found => read found.leaf

theorem isDirty_eq (directory : FourLevel) {page : VirtualAddress} (is_page : page.IsPage) :
    directory.isDirty page = directory.bit Leaf.dirty page := by
  rw [isDirty, pageLeaf?_eq directory is_page, Option.any_map, bit]

theorem isAccessed_eq (directory : FourLevel) {page : VirtualAddress} (is_page : page.IsPage) :
    directory.isAccessed page = directory.bit Leaf.accessed page := by
  rw [isAccessed, pageLeaf?_eq directory is_page, Option.any_map, bit]

theorem setAccessed_eq (directory : FourLevel) {page : VirtualAddress} (is_page : page.IsPage)
    (value : Bool) : directory.setAccessed page value =
      directory.updateLeaf page fun leaf => { leaf with accessed := value } := by
  rw [setAccessed, if_neg (by simp [aligned_of_isPage is_page])]

theorem setDirty_eq (directory : FourLevel) {page : VirtualAddress} (is_page : page.IsPage)
    (value : Bool) : directory.setDirty page value =
      directory.updateLeaf page fun leaf => { leaf with dirty := value } := by
  rw [setDirty, if_neg (by simp [aligned_of_isPage is_page])]

namespace SmallPages
variable {directory after : FourLevel} {page other addr : VirtualAddress} {change : Leaf → Leaf}
  (small : directory.SmallPages)
include small

/-- The mapping of a page serves every address in it. -/
theorem mapping_pageBase (addr : VirtualAddress) :
    Architecture.mapping directory addr.pageBase =
      (directory.mapped? addr).map fun found => (found.leaf.frame, found.mayWrite) := by
  rw [mapping_eq, ← mapped?_of_same directory (samePage_pageBase addr)]
  cases found : directory.mapped? addr with
  | none => rfl
  | some mapped =>
    have base : addr.pageBase.value % 4096 = 0 := addr.pageBase_mod
    simp [small.size found, base]

/-- A leaf put in place of one for the same frame with the same permission changes no mapping. -/
theorem mapping_updateLeaf (marks : Marks change) (other : VirtualAddress) :
    Architecture.mapping (directory.updateLeaf page change) other =
      Architecture.mapping directory other := by
  rw [mapping_eq, mapping_eq, small.mapped?_updateLeaf marks]
  split
  · next same =>
    rw [mapped?_of_same directory same, Option.map_map]
    simp [Function.comp_def, marks.frame]
  · rfl

theorem bit_updateLeaf (marks : Marks change) (read : Leaf → Bool) (other : VirtualAddress) :
    (directory.updateLeaf page change).bit read other =
      if SamePage page other then directory.bit (fun leaf => read (change leaf)) page
      else directory.bit read other := by
  rw [bit, small.mapped?_updateLeaf marks]
  split
  · rw [Option.any_map, bit]
  · rfl

theorem bit_setAccessed (is_page : page.IsPage) (value : Bool) (read : Leaf → Bool)
    (other : VirtualAddress) : (directory.setAccessed page value).bit read other =
      if SamePage page other then directory.bit (fun leaf => read { leaf with accessed := value }) page
      else directory.bit read other := by
  rw [setAccessed_eq _ is_page, small.bit_updateLeaf (marks_accessed value)]

theorem alike_updateLeaf (marks : Marks change)
    (dirty : ∀ leaf, leaf.dirty = true → (change leaf).dirty = true) :
    Architecture.Alike directory (directory.updateLeaf page change) where
  mapping _ := small.mapping_updateLeaf marks _
  dirty {other} is_page was := by
    have was : directory.isDirty other = true := was
    change (directory.updateLeaf page change).isDirty other = true
    rw [isDirty_eq _ is_page] at was ⊢
    rw [small.bit_updateLeaf marks]
    split
    · next same =>
      rw [bit, mapped?_of_same directory same] at was
      cases found : directory.mapped? page with
      | none => simp [found] at was
      | some mapped =>
        have marked : mapped.leaf.dirty = true := by simpa [found] using was
        simp [bit, found, dirty _ marked]
    · exact was

theorem unmap : (directory.unmap page).2.SmallPages := small.within within_unmap

theorem bit_unmap (is_page : page.IsPage) (read : Leaf → Bool) (other : VirtualAddress) :
    (directory.unmap page).2.bit read other =
      if SamePage page other then false else directory.bit read other := by
  rw [bit, small.mapped?_unmap (aligned_of_isPage is_page)]
  split
  · rfl
  · rfl

theorem access_result (kind : Access) : (directory.access addr kind).1 =
    Architecture.verdict addr kind (Architecture.mapping directory addr.pageBase) := by
  rw [small.mapping_pageBase, FourLevel.access]
  cases found : directory.mapped? addr with
  | none => rfl
  | some mapped =>
    simp only [Option.map_some, Architecture.verdict, small.size found]
    split <;> rfl

/-- An access that goes through marks the leaf of its page. -/
theorem access_marks (kind : Access) : (directory.access addr kind).2 =
    if (directory.access addr kind).1.isOk = true then
      directory.updateLeaf addr fun leaf =>
        { leaf with accessed := true, dirty := leaf.dirty || kind == .write }
    else directory := by
  unfold FourLevel.access
  cases found : directory.mapped? addr with
  | none => rfl
  | some mapped =>
    dsimp only
    split
    · rfl
    · exact small.markLeaf_eq _

theorem access (kind : Access) : (directory.access addr kind).2.SmallPages := by
  rw [small.access_marks]
  split
  · exact small.updateLeaf (marks_access kind)
  · exact small

theorem access_alike (kind : Access) :
    Architecture.Alike directory (directory.access addr kind).2 := by
  rw [small.access_marks]
  split
  · apply small.alike_updateLeaf (marks_access kind)
    intro leaf dirty
    simp [dirty]
  · exact .refl directory

theorem dirty_access (canonical : Canonical addr.value) {phys : PhysicalAddress}
    (reached : (directory.access addr .write).1 = .ok phys) :
    (directory.access addr .write).2.isDirty addr.pageBase = true := by
  have through : (directory.mapped? addr).isSome = true := by
    rw [FourLevel.access] at reached
    cases found : directory.mapped? addr with
    | none => simp [found] at reached
    | some mapped => rfl
  have passed : (directory.access addr .write).1.isOk = true := by
    rw [reached]
    rfl
  rw [small.access_marks, if_pos passed, isDirty_eq _ (VirtualAddress.isPage_pageBase canonical),
    bit, ← mapped?_of_same _ (samePage_pageBase addr), small.mapped?_updateLeaf (marks_access .write),
    if_pos (.refl addr)]
  cases found : directory.mapped? addr with
  | none => simp [found] at through
  | some mapped => simp

theorem setAccessed_alike (value : Bool) :
    Architecture.Alike directory (directory.setAccessed addr value) := by
  unfold FourLevel.setAccessed
  split
  · exact .refl directory
  · exact small.alike_updateLeaf (marks_accessed value) fun _ dirty => dirty

theorem setAccessed (value : Bool) : (directory.setAccessed addr value).SmallPages := by
  unfold FourLevel.setAccessed
  split
  · exact small
  · exact small.updateLeaf (marks_accessed value)

theorem setDirty (value : Bool) : (directory.setDirty addr value).SmallPages := by
  unfold FourLevel.setDirty
  split
  · exact small
  · exact small.updateLeaf (marks_dirty value)

theorem mapping_setDirty (value : Bool) (other : VirtualAddress) :
    Architecture.mapping (directory.setDirty addr value) other =
      Architecture.mapping directory other := by
  unfold FourLevel.setDirty
  split
  · rfl
  · exact small.mapping_updateLeaf (marks_dirty value) other

end SmallPages

theorem mapped?_blank (tables : Nat) (addr : VirtualAddress) :
    (ofSpec ⟨tables, []⟩).mapped? addr = none := by
  simp [ofSpec, mapped?, second?]

instance lawful : @Architecture.Lawful Architecture.large where
  Sane := SmallPages
  sane_new tables := by
    constructor
    · intro addr found _ seen
      cases (mapped?_blank tables addr).symm.trans seen
    · intro addr found seen
      cases (mapped?_blank tables addr).symm.trans seen
  mapping_new tables page _ := by
    change Architecture.mapping (ofSpec ⟨tables, []⟩) page = none
    rw [mapping_eq, mapped?_blank]
    rfl
  sane_install small _ := small.install
  mapping_install small is_page other_page done := by
    rw [mapping_eq, mapping_eq, small.mapped?_install done]
    simp only [samePage_iff is_page other_page]
    split
    · simp [aligned_of_isPage other_page]
    · rfl
  dirty_install {directory after page other frame writable} small is_page other_page done := by
    change after.isDirty other = if page = other then false else directory.isDirty other
    rw [isDirty_eq _ other_page, isDirty_eq _ other_page, bit, small.mapped?_install done]
    simp only [samePage_iff is_page other_page]
    split
    · rfl
    · rfl
  install_refused {directory after} _ _ _ _ small _ refused := by
    have same := small.install_refused refused
    constructor
    · intro page _
      rw [mapping_eq, mapping_eq, same]
    · intro page is_page was
      have was : directory.isDirty page = true := was
      change after.isDirty page = true
      rw [isDirty_eq _ is_page] at was ⊢
      rwa [bit, same]
  sane_unmap small _ := small.unmap
  mapping_unmap {directory page other} small is_page other_page := by
    change Architecture.mapping (directory.unmap page).2 other = _
    rw [mapping_eq, mapping_eq, small.mapped?_unmap (aligned_of_isPage is_page)]
    simp only [samePage_iff is_page other_page]
    split
    · rfl
    · rfl
  dirty_unmap {directory page other} small is_page other_page differ := by
    change (directory.unmap page).2.isDirty other = directory.isDirty other
    rw [isDirty_eq _ other_page, isDirty_eq _ other_page, small.bit_unmap is_page,
      if_neg fun same => differ ((samePage_iff is_page other_page).1 same)]
  sane_setAccessed small _ := small.setAccessed _
  setAccessed_alike small _ := small.setAccessed_alike _
  sane_setDirty small _ := small.setDirty _
  mapping_setDirty small _ _ := small.mapping_setDirty _ _
  dirty_setDirty {directory value page other} small is_page other_page := by
    change (directory.setDirty page value).isDirty other =
      if page = other then _ else directory.isDirty other
    rw [isDirty_eq _ other_page, isDirty_eq _ other_page, setDirty_eq _ is_page,
      small.bit_updateLeaf (marks_dirty value), mapping_eq, Option.isSome_map]
    simp only [samePage_iff is_page other_page]
    split
    · cases found : directory.mapped? page <;> simp [bit, found]
    · rfl
  dirty_mapped {directory page} small is_page dirty := by
    have dirty : directory.isDirty page = true := dirty
    rw [isDirty_eq _ is_page] at dirty
    rw [mapping_eq, Option.isSome_map]
    cases found : directory.mapped? page with
    | none => simp [bit, found] at dirty
    | some mapped => rfl
  sane_access small _ := small.access _
  access_alike small _ := small.access_alike _
  access_result small _ := small.access_result _
  dirty_access small canonical reached := small.dirty_access canonical reached
  translate_eq {directory addr} small _ := by
    change directory.translate addr = _
    rw [small.mapping_pageBase, translate, Option.map_map]
    cases found : directory.mapped? addr with
    | none => rfl
    | some mapped => simp [small.size found]; rfl

instance secondChance : @Architecture.SecondChance Architecture.large lawful where
  cleared {directory page} small is_page := by
    change (directory.setAccessed page false).isAccessed page = false
    rw [isAccessed_eq _ is_page, SmallPages.bit_setAccessed small is_page, if_pos (.refl page)]
    cases found : directory.mapped? page <;> simp [bit, found]
  untouched {directory page other} small is_page other_page clear := by
    have clear : directory.isAccessed other = false := clear
    change (directory.setAccessed page false).isAccessed other = false
    rw [isAccessed_eq _ other_page] at clear ⊢
    rw [SmallPages.bit_setAccessed small is_page]
    split
    · cases found : directory.mapped? page <;> simp [bit, found]
    · exact clear
  dirty_setAccessed {directory page other} small is_page other_page := by
    change (directory.setAccessed page false).isDirty other = directory.isDirty other
    rw [isDirty_eq _ other_page, isDirty_eq _ other_page, SmallPages.bit_setAccessed small is_page]
    split
    · next same => rw [bit, bit, mapped?_of_same directory same]
    · rfl

instance accessedBits : @Architecture.AccessedBits Architecture.large lawful where
  accessed_setAccessed {directory page other} small is_page other_page differ := by
    change (directory.setAccessed page false).isAccessed other = directory.isAccessed other
    rw [isAccessed_eq _ other_page, isAccessed_eq _ other_page, SmallPages.bit_setAccessed small is_page,
      if_neg fun same => differ ((samePage_iff is_page other_page).1 same)]
  accessed_unmap {directory page other} small is_page other_page := by
    change (directory.unmap page).2.isAccessed other =
      if page = other then false else directory.isAccessed other
    rw [isAccessed_eq _ other_page, isAccessed_eq _ other_page, SmallPages.bit_unmap small is_page]
    simp only [samePage_iff is_page other_page]

instance obliging : @Architecture.Obliging Architecture.large lawful where
  refuses {directory after error page frame writable} _ is_page aligned unmapped refused := by
    have frame_aligned : frame.value % 4096 = 0 := aligned
    have absent : directory.mapped? page = none := by
      rw [mapping_eq] at unmapped
      exact Option.map_eq_none_iff.1 unmapped
    apply SmallPages.outOfMemory_of_refused _ absent refused
    simp [aligned_of_isPage is_page, frame_aligned]

end DemandPaging.FourLevel
