import DemandPaging.Proofs.Directories

/-! The directories of the small machine are lawful. An address takes one route through the three
tables, and the addresses of two pages never share a route. -/
namespace DemandPaging
namespace ThreeLevel

/-- The places that an address takes in the tables, the root first. -/
def route (addr : VirtualAddress) : Nat × Nat × Nat := (index addr 2, index addr 1, index addr 0)

theorem canonical_iff {a : Nat} : @Canonical Geometry.small a ↔
    a < 32768 ∨ (18446744073709518848 ≤ a ∧ a < 18446744073709551616) := Iff.rfl

/-- Sixteen bits of a canonical address determine it. -/
theorem route_injective {a b : VirtualAddress} (left : @Canonical Geometry.small a.value)
    (right : @Canonical Geometry.small b.value) (offset : a.value % 16 = b.value % 16)
    (same : route a = route b) : a = b := by
  obtain ⟨a⟩ := a
  obtain ⟨b⟩ := b
  simp only [route, index, Prod.mk.injEq, Nat.shiftRight_eq_div_pow] at same
  obtain ⟨root, middle, leaf⟩ := same
  rw [canonical_iff] at left right
  simp only [VirtualAddress.mk.injEq]
  dsimp only at offset left right
  omega

theorem route_pageBase (addr : VirtualAddress) :
    route (@VirtualAddress.pageBase Geometry.small addr) = route addr := by
  obtain ⟨a⟩ := addr
  change route ⟨a - a % 16⟩ = route ⟨a⟩
  simp only [route, index, Prod.mk.injEq, Nat.shiftRight_eq_div_pow]
  omega

theorem mapped?_setEntry (directory : ThreeLevel) (addr other : VirtualAddress)
    (entry : PageEntry) :
    (directory.setEntry addr entry).mapped? other =
      if route addr = route other then (some entry).filter (·.isPresent)
      else directory.mapped? other := by
  unfold mapped? entry? setEntry
  simp only [SortedMap.get?_insert, route, Prod.mk.injEq, rank, id]
  by_cases root : index addr 2 = index other 2
  · by_cases middle : index addr 1 = index other 1
    · by_cases leaf : index addr 0 = index other 0
      · simp [root, middle, leaf]
      · cases second : directory.root.get? (index other 2) with
        | none =>
          simp [root, middle, leaf, second, SortedMap.get?_insert, rank, PageEntry.blank,
            PageEntry.isPresent, PageEntry.flags, PageFlags.has, PageFlags.present]
        | some table =>
          cases third : table.get? (index other 1) with
          | none =>
            simp [root, middle, leaf, second, third, SortedMap.get?_insert, rank, PageEntry.blank,
              PageEntry.isPresent, PageEntry.flags, PageFlags.has, PageFlags.present]
          | some last =>
            simp [root, middle, leaf, second, third, SortedMap.get?_insert, rank]
    · cases second : directory.root.get? (index other 2) with
      | none => simp [root, middle, second, SortedMap.get?_insert, rank]
      | some table => simp [root, middle, second, SortedMap.get?_insert, rank]
  · simp [root]

theorem mapped?_route (directory : ThreeLevel) {a b : VirtualAddress} (same : route a = route b) :
    directory.mapped? a = directory.mapped? b := by
  simp only [route, Prod.mk.injEq] at same
  obtain ⟨root, middle, leaf⟩ := same
  simp only [mapped?, entry?, root, middle, leaf]

end ThreeLevel

/-! What an update does to the flags with a meaning. -/
namespace PageEntry

theorem forall_flags (claim : PageFlags → Bool)
    (all : (List.range 256).all (fun n => claim (UInt8.ofNat n)) = true) (bits : PageFlags) :
    claim bits = true := by
  have here := List.all_eq_true.1 all bits.toNat (List.mem_range.2 bits.toNat_lt)
  rwa [UInt8.ofNat_toNat] at here

private def keeps (changed kept bits : PageFlags) : Bool :=
  ((bits &&& PageFlags.known).put changed true &&& PageFlags.known).has kept ==
      (bits &&& PageFlags.known).has kept &&
    ((bits &&& PageFlags.known).put changed false &&& PageFlags.known).has kept ==
      (bits &&& PageFlags.known).has kept

private theorem update_keeps {changed kept : PageFlags}
    (all : (List.range 256).all (fun n => keeps changed kept (UInt8.ofNat n)) = true)
    (entry : PageEntry) (value : Bool) :
    (entry.update changed value).flags.has kept = entry.flags.has kept := by
  have both := forall_flags (keeps changed kept) all entry.bits
  simp only [keeps, Bool.and_eq_true, beq_iff_eq] at both
  cases value with
  | true => exact both.1
  | false => exact both.2

variable (entry : PageEntry) (value : Bool)

@[simp] theorem frame_update (changed : PageFlags) : (entry.update changed value).frame = entry.frame :=
  rfl

@[simp] theorem isPresent_accessed :
    (entry.update PageFlags.accessed value).isPresent = entry.isPresent :=
  update_keeps (by decide +kernel) entry value

@[simp] theorem isPresent_dirty :
    (entry.update PageFlags.dirty value).isPresent = entry.isPresent :=
  update_keeps (by decide +kernel) entry value

@[simp] theorem writable_accessed :
    (entry.update PageFlags.accessed value).flags.has PageFlags.writable =
      entry.flags.has PageFlags.writable :=
  update_keeps (by decide +kernel) entry value

@[simp] theorem writable_dirty :
    (entry.update PageFlags.dirty value).flags.has PageFlags.writable =
      entry.flags.has PageFlags.writable :=
  update_keeps (by decide +kernel) entry value

@[simp] theorem dirty_accessed :
    (entry.update PageFlags.accessed value).flags.has PageFlags.dirty =
      entry.flags.has PageFlags.dirty :=
  update_keeps (by decide +kernel) entry value

@[simp] theorem dirty_dirty :
    (entry.update PageFlags.dirty value).flags.has PageFlags.dirty = value := by
  cases value with
  | true =>
    exact forall_flags (fun bits =>
      ((bits &&& PageFlags.known).put PageFlags.dirty true &&& PageFlags.known).has PageFlags.dirty)
      (by decide +kernel) entry.bits
  | false =>
    have clear := forall_flags (fun bits =>
      !((bits &&& PageFlags.known).put PageFlags.dirty false &&& PageFlags.known).has
        PageFlags.dirty) (by decide +kernel) entry.bits
    exact (Bool.not_eq_true' _).mp clear

@[simp] theorem accessed_dirty :
    (entry.update PageFlags.dirty value).flags.has PageFlags.accessed =
      entry.flags.has PageFlags.accessed :=
  update_keeps (by decide +kernel) entry value

@[simp] theorem accessed_accessed :
    (entry.update PageFlags.accessed value).flags.has PageFlags.accessed = value := by
  cases value with
  | true =>
    exact forall_flags (fun bits => ((bits &&& PageFlags.known).put PageFlags.accessed true &&&
      PageFlags.known).has PageFlags.accessed) (by decide +kernel) entry.bits
  | false =>
    have clear := forall_flags (fun bits =>
      !((bits &&& PageFlags.known).put PageFlags.accessed false &&& PageFlags.known).has
        PageFlags.accessed) (by decide +kernel) entry.bits
    exact (Bool.not_eq_true' _).mp clear

theorem user_flags (frame : PhysicalAddress) (writable : Bool) :
    (PageEntry.mk frame (PageFlags.forUser writable)).isPresent = true ∧
      (PageEntry.mk frame (PageFlags.forUser writable)).flags.has PageFlags.writable = writable ∧
      (PageEntry.mk frame (PageFlags.forUser writable)).flags.has PageFlags.dirty = false := by
  change (PageFlags.forUser writable &&& PageFlags.known).has PageFlags.present = true ∧
    (PageFlags.forUser writable &&& PageFlags.known).has PageFlags.writable = writable ∧
      (PageFlags.forUser writable &&& PageFlags.known).has PageFlags.dirty = false
  cases writable <;> decide

theorem user_unaccessed (frame : PhysicalAddress) (writable : Bool) :
    (PageEntry.mk frame (PageFlags.forUser writable)).flags.has PageFlags.accessed = false := by
  change (PageFlags.forUser writable &&& PageFlags.known).has PageFlags.accessed = false
  cases writable <;> decide

end PageEntry

namespace ThreeLevel

attribute [local instance] Architecture.small

theorem mapping_eq (directory : ThreeLevel) (addr : VirtualAddress) :
    Architecture.mapping directory addr = (directory.mapped? addr).map fun entry =>
      (⟨entry.frame.value + addr.value % 16⟩, entry.flags.has PageFlags.writable) := by
  change (directory.translate addr).map (fun phys =>
    (phys, (directory.access addr .write).1.isOk)) = _
  unfold translate access
  cases found : directory.mapped? addr with
  | none => rfl
  | some entry =>
    cases writable : entry.flags.has PageFlags.writable <;> simp [writable, Except.isOk, Except.toBool]

theorem isDirty_eq (directory : ThreeLevel) (addr : VirtualAddress) :
    Architecture.isDirty directory addr =
      (directory.mapped? addr).any (·.flags.has PageFlags.dirty) := rfl

theorem route_eq_iff {page other : VirtualAddress} (left : page.IsPage) (right : other.IsPage) :
    route page = route other ↔ page = other := by
  constructor
  · intro same
    refine route_injective left.canonical right.canonical ?_ same
    have first : (page.value % 16 == 0) = true := left.aligned
    have second : (other.value % 16 == 0) = true := right.aligned
    rw [beq_iff_eq] at first second
    rw [first, second]
  · intro same
    rw [same]

/-- An entry put in place of one for the same frame with the same permission changes no mapping. -/
theorem mapping_revise {directory : ThreeLevel} {addr : VirtualAddress} {old : PageEntry}
    (new : PageEntry) (found : directory.mapped? addr = some old) (frame : new.frame = old.frame)
    (present : new.isPresent = old.isPresent)
    (writable : new.flags.has PageFlags.writable = old.flags.has PageFlags.writable)
    (other : VirtualAddress) :
    Architecture.mapping (directory.setEntry addr new) other =
      Architecture.mapping directory other := by
  rw [mapping_eq, mapping_eq, mapped?_setEntry]
  split
  · rename_i same
    rw [← mapped?_route directory same, found]
    have old_present : old.isPresent = true := (Option.filter_eq_some_iff.1 found).2
    simp [Option.filter, present, old_present, frame, writable]
  · rfl

theorem mapped?_blank (directory : ThreeLevel) (addr other : VirtualAddress) :
    (directory.setEntry addr .blank).mapped? other =
      if route addr = route other then none else directory.mapped? other := by
  rw [mapped?_setEntry]
  rfl

theorem mapped?_new (directory : ThreeLevel) (page other : VirtualAddress)
    (frame : PhysicalAddress) (writable : Bool) :
    (directory.setEntry page ⟨frame, PageFlags.forUser writable⟩).mapped? other =
      if route page = route other then some ⟨frame, PageFlags.forUser writable⟩
      else directory.mapped? other := by
  rw [mapped?_setEntry]
  have present := (PageEntry.user_flags frame writable).1
  simp [Option.filter, present]

theorem install_ok {directory after : ThreeLevel} {page : VirtualAddress} {frame : PhysicalAddress}
    {writable : Bool} (done : directory.install page frame writable = (.ok (), after)) :
    page.value % 16 = 0 ∧
      after = directory.setEntry page ⟨frame, PageFlags.forUser writable⟩ := by
  unfold install at done
  split at done
  · cases done
  · split at done
    · cases done
    · rename_i aligned _
      cases done
      exact ⟨by omega, rfl⟩

theorem install_refused {directory after : ThreeLevel} {page : VirtualAddress}
    {frame : PhysicalAddress} {writable : Bool} {error : MapError}
    (refused : directory.install page frame writable = (.error error, after)) :
    after = directory := by
  unfold install at refused
  split at refused
  · cases refused
    rfl
  · split at refused
    · cases refused
      rfl
    · cases refused

theorem unmap_eq (directory : ThreeLevel) (page other : VirtualAddress) :
    (directory.unmap page).2.mapped? other =
      if route page = route other then none else directory.mapped? other := by
  unfold unmap
  cases found : directory.mapped? page with
  | none =>
    dsimp only
    split
    · rename_i same
      rw [← mapped?_route directory same, found]
    · rfl
  | some entry => exact mapped?_blank directory page other

theorem alike_setAccessed (directory : ThreeLevel) (addr : VirtualAddress) (value : Bool) :
    Architecture.Alike directory (directory.setFlag addr PageFlags.accessed value) := by
  unfold setFlag
  cases found : directory.mapped? addr with
  | none => exact .refl directory
  | some entry =>
    constructor
    · intro page _
      exact mapping_revise (entry.update PageFlags.accessed value) found rfl
        (entry.isPresent_accessed value) (entry.writable_accessed value) page
    · intro page _ dirty
      rw [isDirty_eq, mapped?_setEntry]
      rw [isDirty_eq] at dirty
      split
      · rename_i same
        rw [← mapped?_route directory same, found] at dirty
        have present : entry.isPresent = true := (Option.filter_eq_some_iff.1 found).2
        simpa [Option.filter, present] using dirty
      · exact dirty

theorem mapped?_setAccessed (directory : ThreeLevel) (page other : VirtualAddress) (value : Bool) :
    (directory.setFlag page PageFlags.accessed value).mapped? other =
      if route page = route other then
        (directory.mapped? page).map (·.update PageFlags.accessed value)
      else directory.mapped? other := by
  unfold setFlag
  cases found : directory.mapped? page with
  | none =>
    dsimp only
    split
    · rename_i same
      rw [← mapped?_route directory same, found]
      rfl
    · rfl
  | some entry =>
    have present : entry.isPresent = true := (Option.filter_eq_some_iff.1 found).2
    rw [mapped?_setEntry]
    simp [Option.filter, present]

theorem mapping_setDirty (directory : ThreeLevel) (addr : VirtualAddress) (value : Bool)
    (page : VirtualAddress) :
    Architecture.mapping (directory.setFlag addr PageFlags.dirty value) page =
      Architecture.mapping directory page := by
  unfold setFlag
  cases found : directory.mapped? addr with
  | none => rfl
  | some entry =>
    exact mapping_revise (entry.update PageFlags.dirty value) found rfl
      (entry.isPresent_dirty value) (entry.writable_dirty value) page

theorem isDirty_setDirty (directory : ThreeLevel) (page other : VirtualAddress) (value : Bool) :
    Architecture.isDirty (directory.setFlag page PageFlags.dirty value) other =
      if route page = route other then value && (directory.mapped? page).isSome
      else Architecture.isDirty directory other := by
  unfold setFlag
  cases found : directory.mapped? page with
  | none =>
    dsimp only
    split
    · rename_i same
      rw [isDirty_eq, ← mapped?_route directory same, found]
      simp
    · rfl
  | some entry =>
    rw [isDirty_eq, mapped?_setEntry]
    split
    · have present : entry.isPresent = true := (Option.filter_eq_some_iff.1 found).2
      simp [Option.filter, present]
    · rfl

/-- What an access leaves behind is an entry with more flags. -/
theorem access_ok {directory after : ThreeLevel} {addr : VirtualAddress} {kind : Access}
    {phys : PhysicalAddress} (reached : directory.access addr kind = (.ok phys, after)) :
    ∃ entry, directory.mapped? addr = some entry ∧ entry.isPresent = true ∧
      after = directory.setEntry addr (if kind = .write then
        (entry.update PageFlags.accessed true).update PageFlags.dirty true
        else entry.update PageFlags.accessed true) := by
  unfold access at reached
  cases found : directory.mapped? addr with
  | none =>
    rw [found] at reached
    cases reached
  | some entry =>
    rw [found] at reached
    dsimp only at reached
    split at reached
    · cases reached
    · cases reached
      exact ⟨entry, rfl, (Option.filter_eq_some_iff.1 found).2, rfl⟩

theorem access_refused {directory after : ThreeLevel} {addr : VirtualAddress} {kind : Access}
    {fault : PageFault} (refused : directory.access addr kind = (.error fault, after)) :
    after = directory := by
  unfold access at refused
  split at refused
  · cases refused
    rfl
  · split at refused
    · cases refused
      rfl
    · cases refused

theorem access_alike (directory : ThreeLevel) (addr : VirtualAddress) (kind : Access) :
    Architecture.Alike directory (directory.access addr kind).2 := by
  cases ended : directory.access addr kind with
  | mk result after =>
    cases result with
    | error fault =>
      rw [access_refused ended]
      exact .refl directory
    | ok phys =>
      obtain ⟨entry, found, present, rfl⟩ := access_ok ended
      constructor
      · intro page _
        refine mapping_revise _ found ?_ ?_ ?_ page <;> split <;> simp
      · intro page _ dirty
        rw [isDirty_eq] at dirty
        rw [isDirty_eq, mapped?_setEntry]
        split
        · rename_i same
          rw [← mapped?_route directory same, found] at dirty
          have dirty : entry.flags.has PageFlags.dirty = true := dirty
          split <;> simp [Option.filter, present, dirty]
        · exact dirty

theorem dirty_access {directory : ThreeLevel} {addr : VirtualAddress} {phys : PhysicalAddress}
    (reached : (directory.access addr .write).1 = .ok phys) :
    Architecture.isDirty (directory.access addr .write).2
      (@VirtualAddress.pageBase Geometry.small addr) = true := by
  cases ended : directory.access addr .write with
  | mk result after =>
    rw [ended] at reached
    cases reached
    obtain ⟨entry, found, present, rfl⟩ := access_ok ended
    rw [isDirty_eq, mapped?_route _ (route_pageBase addr), mapped?_setEntry, if_pos rfl]
    simp [Option.filter, present]

/-- The mapping of a page serves every address in it. -/
theorem mapping_pageBase (directory : ThreeLevel) (addr : VirtualAddress) :
    Architecture.mapping directory (@VirtualAddress.pageBase Geometry.small addr) =
      (directory.mapped? addr).map fun entry =>
        (entry.frame, entry.flags.has PageFlags.writable) := by
  rw [mapping_eq, mapped?_route _ (route_pageBase addr)]
  have base : (addr.value - addr.value % 16) % 16 = 0 := by omega
  change (directory.mapped? addr).map (fun entry => ((⟨entry.frame.value +
    (addr.value - addr.value % 16) % 16⟩ : PhysicalAddress), _)) = _
  rw [base]
  rfl

instance lawful : @Architecture.Lawful Architecture.small where
  Sane _ := True
  sane_new _ := trivial
  mapping_new tables page _ := by
    rw [mapping_eq]
    rfl
  sane_install _ _ := trivial
  mapping_install _ page other done := by
    obtain ⟨_, rfl⟩ := install_ok done
    rw [mapping_eq, mapping_eq, mapped?_new]
    simp only [route_eq_iff page other]
    split
    · have aligned : (_ % 16 == 0) = true := other.aligned
      rw [beq_iff_eq] at aligned
      simp [aligned, (PageEntry.user_flags _ _).2.1]
    · rfl
  dirty_install _ page other done := by
    obtain ⟨_, rfl⟩ := install_ok done
    rw [isDirty_eq, isDirty_eq, mapped?_new]
    simp only [route_eq_iff page other]
    split
    · exact (PageEntry.user_flags _ _).2.2
    · rfl
  install_refused _ _ refused := by
    rw [install_refused refused]
    exact .refl _
  sane_unmap _ _ := trivial
  mapping_unmap _ page other := by
    change Architecture.mapping (ThreeLevel.unmap _ _).2 _ = _
    rw [mapping_eq, mapping_eq, unmap_eq]
    simp only [route_eq_iff page other]
    split <;> rfl
  dirty_unmap _ page other differ := by
    change Architecture.isDirty (ThreeLevel.unmap _ _).2 _ = _
    rw [isDirty_eq, isDirty_eq, unmap_eq, 
      if_neg fun same => differ ((route_eq_iff page other).1 same)]
  sane_setAccessed _ _ := trivial
  setAccessed_alike _ _ := alike_setAccessed _ _ _
  sane_setDirty _ _ := trivial
  mapping_setDirty _ _ _ := mapping_setDirty _ _ _ _
  dirty_setDirty _ page other := by
    refine (isDirty_setDirty _ _ _ _).trans ?_
    rw [mapping_eq, Option.isSome_map]
    simp only [route_eq_iff page other]
  dirty_mapped {directory page} _ _ dirty := by
    rw [isDirty_eq] at dirty
    rw [mapping_eq, Option.isSome_map]
    cases found : directory.mapped? page with
    | none => simp [found] at dirty
    | some entry => rfl
  sane_access _ _ := trivial
  access_alike _ _ := access_alike _ _ _
  access_result {directory addr kind} _ _ := by
    change (ThreeLevel.access directory addr kind).1 = _
    rw [mapping_pageBase]
    unfold access
    cases directory.mapped? addr with
    | none => rfl
    | some entry =>
      simp only [Option.map_some, Architecture.verdict]
      split <;> rfl
  dirty_access _ _ reached := dirty_access reached
  translate_eq {directory addr} _ _ := by
    change directory.translate addr = _
    rw [mapping_pageBase, Option.map_map]
    rfl

instance secondChance : @Architecture.SecondChance Architecture.small lawful where
  cleared {directory page} _ _ := by
    change flag (setFlag _ _ _ _) _ _ = _
    rw [flag, mapped?_setAccessed, if_pos rfl]
    cases directory.mapped? page <;> simp
  untouched {directory page other} _ _ _ clear := by
    change flag (setFlag _ _ _ _) _ _ = _
    rw [flag, mapped?_setAccessed]
    split
    · cases directory.mapped? page <;> simp
    · exact clear
  dirty_setAccessed {directory page other} _ _ _ := by
    change flag (setFlag _ _ _ _) _ _ = flag _ _ _
    rw [flag, flag, mapped?_setAccessed]
    split
    · rename_i same
      rw [← mapped?_route directory same]
      cases directory.mapped? page <;> simp
    · rfl

instance accessedBits : @Architecture.AccessedBits Architecture.small lawful where
  accessed_setAccessed {directory page other} _ is_page other_page differ := by
    change flag (setFlag _ _ _ _) _ _ = flag _ _ _
    rw [flag, flag, mapped?_setAccessed, if_neg]
    intro same
    exact differ ((route_eq_iff is_page other_page).1 same)
  accessed_unmap {directory page other} _ is_page other_page := by
    change flag (unmap _ _).2 _ _ = if page = other then false else flag _ _ _
    rw [flag, flag, unmap_eq]
    simp only [route_eq_iff is_page other_page]
    split
    · rfl
    · rfl

instance ample : @Architecture.Ample Architecture.small lawful where
  installs {directory page frame writable} _ is_page aligned unmapped := by
    have page_aligned : page.value % 16 = 0 := beq_iff_eq.1 is_page.aligned
    have frame_aligned : frame.value % 16 = 0 := aligned
    have absent : directory.mapped? page = none := by
      rw [mapping_eq] at unmapped
      exact Option.map_eq_none_iff.1 unmapped
    change (directory.install page frame writable).1 = _
    simp [install, page_aligned, frame_aligned, absent]

instance obliging : @Architecture.Obliging Architecture.small lawful :=
  @Architecture.Ample.obliging Architecture.small lawful ample

end ThreeLevel

end DemandPaging
