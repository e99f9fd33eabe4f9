import DemandPaging.Architecture

/-! What the memory manager relies on in a page directory. All is said of what can be observed: where
addresses are mapped to, which accesses go through and which dirty bits are set. A machine has
lawful directories if its directories satisfy this as long as only the memory manager and the
processor use them. -/
namespace DemandPaging

structure VirtualAddress.IsPage [Geometry] (addr : VirtualAddress) : Prop where
  canonical : Canonical addr.value
  aligned : addr.isPageAligned = true

namespace VirtualAddress
variable [Geometry]

theorem isPage_of_user {addr : VirtualAddress} (aligned : addr.isPageAligned = true)
    (user : addr.isUser = true) : addr.IsPage :=
  ⟨.inl (of_decide_eq_true user), aligned⟩

theorem pageSize_dvd_userTop : pageSize ∣ userTop :=
  Nat.pow_dvd_pow 2 (Nat.le_sub_one_of_lt Geometry.page_lt_virtual)

theorem pageSize_dvd_limit : pageSize ∣ Word.limit :=
  Nat.pow_dvd_pow 2 (Nat.le_trans (Nat.le_of_lt Geometry.page_lt_virtual) Geometry.virtual_le_word)

theorem pageBase_mod (addr : VirtualAddress) : addr.pageBase.value % pageSize = 0 := by
  have split := Nat.div_add_mod addr.value pageSize
  have base : addr.pageBase.value = pageSize * (addr.value / pageSize) := by
    change addr.value - addr.value % pageSize = _
    omega
  rw [base, Nat.mul_mod_right]

theorem isPage_pageBase {addr : VirtualAddress} (canonical : Canonical addr.value) :
    addr.pageBase.IsPage := by
  refine ⟨?_, beq_iff_eq.2 addr.pageBase_mod⟩
  have below : addr.pageBase.value ≤ addr.value := Nat.sub_le _ _
  rcases canonical with lower | ⟨upper, word⟩
  · exact .inl (Nat.lt_of_le_of_lt below lower)
  · refine .inr ⟨?_, Nat.lt_of_le_of_lt below word⟩
    -- The upper half starts at a page, so it holds the whole page of each of its addresses.
    obtain ⟨pages, start⟩ := Nat.dvd_sub pageSize_dvd_limit pageSize_dvd_userTop
    rw [start] at upper ⊢
    have inside : pages ≤ addr.value / pageSize := by
      rw [Nat.le_div_iff_mul_le pageSize_pos, Nat.mul_comm]
      exact upper
    have split := Nat.div_add_mod addr.value pageSize
    have base : addr.pageBase.value = pageSize * (addr.value / pageSize) := by
      change addr.value - addr.value % pageSize = _
      omega
    rw [base]
    exact Nat.mul_le_mul_left pageSize inside

theorem pageBase_of_isPage {addr : VirtualAddress} (page : addr.isPageAligned = true) :
    addr.pageBase = addr := by
  obtain ⟨value⟩ := addr
  have aligned : (value % pageSize == 0) = true := page
  rw [beq_iff_eq] at aligned
  change (⟨value - value % pageSize⟩ : VirtualAddress) = ⟨value⟩
  rw [aligned, Nat.sub_zero]

theorem ofWord_ok {a : Nat} {addr : VirtualAddress} (found : ofWord a = .ok addr) :
    Canonical a ∧ addr = ⟨a⟩ := by
  unfold ofWord at found
  split at found
  · rename_i canonical
    cases found
    exact ⟨canonical, rfl⟩
  · cases found

end VirtualAddress

namespace Architecture

/-- Where a directory maps an address, and whether a process may write there. -/
def mapping [Architecture] (directory : Directory) (addr : VirtualAddress) :
    Option (PhysicalAddress × Bool) :=
  (translate directory addr).map fun phys => (phys, (access directory addr .write).1.isOk)

def verdict [Geometry] (addr : VirtualAddress) (kind : Access) :
    Option (PhysicalAddress × Bool) → Except PageFault PhysicalAddress
  | none => .error ⟨addr.value, kind, false⟩
  | some (frame, writable) =>
      if kind = .write ∧ !writable then .error ⟨addr.value, kind, true⟩
      else .ok ⟨frame.value + addr.pageOffset⟩

/-- The two directories map all pages alike, and a page that was dirty is dirty still. -/
structure Alike [Architecture] (before after : Directory) : Prop where
  mapping : ∀ {page : VirtualAddress}, page.IsPage → mapping after page = mapping before page
  dirty : ∀ {page : VirtualAddress}, page.IsPage → isDirty before page = true →
    isDirty after page = true

/-- Directories that do what the memory manager expects. -/
class Lawful [Architecture] where
  /-- True of the directories that arise from an empty one. -/
  Sane : Directory → Prop
  sane_new : ∀ tables, Sane (ofSpec ⟨tables, []⟩)
  mapping_new : ∀ tables {page : VirtualAddress}, page.IsPage →
    mapping (ofSpec ⟨tables, []⟩) page = none
  sane_install : ∀ {directory} {page : VirtualAddress} {frame writable}, Sane directory →
    page.IsPage → Sane (install directory page frame writable).2
  mapping_install : ∀ {directory after} {page other : VirtualAddress} {frame writable},
    Sane directory → page.IsPage → other.IsPage →
    install directory page frame writable = (.ok (), after) →
    mapping after other = if page = other then some (frame, writable) else mapping directory other
  dirty_install : ∀ {directory after} {page other : VirtualAddress} {frame writable},
    Sane directory → page.IsPage → other.IsPage →
    install directory page frame writable = (.ok (), after) →
    isDirty after other = if page = other then false else isDirty directory other
  /-- A refused mapping changes none. -/
  install_refused : ∀ {directory after error} {page : VirtualAddress} {frame writable},
    Sane directory → page.IsPage →
    install directory page frame writable = (.error error, after) → Alike directory after
  sane_unmap : ∀ {directory} {page : VirtualAddress}, Sane directory → page.IsPage →
    Sane (unmap directory page).2
  mapping_unmap : ∀ {directory} {page other : VirtualAddress}, Sane directory → page.IsPage →
    other.IsPage →
    mapping (unmap directory page).2 other = if page = other then none else mapping directory other
  dirty_unmap : ∀ {directory} {page other : VirtualAddress}, Sane directory → page.IsPage →
    other.IsPage → page ≠ other →
    isDirty (unmap directory page).2 other = isDirty directory other
  sane_setAccessed : ∀ {directory addr value}, Sane directory → Canonical addr.value →
    Sane (setAccessed directory addr value)
  setAccessed_alike : ∀ {directory addr value}, Sane directory → Canonical addr.value →
    Alike directory (setAccessed directory addr value)
  sane_setDirty : ∀ {directory addr value}, Sane directory → Canonical addr.value →
    Sane (setDirty directory addr value)
  mapping_setDirty : ∀ {directory addr value} {page : VirtualAddress}, Sane directory →
    Canonical addr.value → page.IsPage →
    mapping (setDirty directory addr value) page = mapping directory page
  dirty_setDirty : ∀ {directory value} {page other : VirtualAddress}, Sane directory →
    page.IsPage → other.IsPage → isDirty (setDirty directory page value) other =
      if page = other then value && (mapping directory page).isSome else isDirty directory other
  dirty_mapped : ∀ {directory} {page : VirtualAddress}, Sane directory → page.IsPage →
    isDirty directory page = true → (mapping directory page).isSome = true
  sane_access : ∀ {directory addr kind}, Sane directory → Canonical addr.value →
    Sane (access directory addr kind).2
  access_alike : ∀ {directory addr kind}, Sane directory → Canonical addr.value →
    Alike directory (access directory addr kind).2
  access_result : ∀ {directory addr kind}, Sane directory → Canonical addr.value →
    (access directory addr kind).1 = verdict addr kind (mapping directory addr.pageBase)
  dirty_access : ∀ {directory addr phys}, Sane directory → Canonical addr.value →
    (access directory addr .write).1 = .ok phys →
    isDirty (access directory addr .write).2 addr.pageBase = true
  translate_eq : ∀ {directory addr}, Sane directory → Canonical addr.value →
    translate directory addr = (mapping directory addr.pageBase).map fun (frame, _) =>
      ⟨frame.value + addr.pageOffset⟩

/-- Directories that do what the clock expects of the accessed bits: clearing that of a page sets no
other, and leaves all dirty bits as they are. -/
class SecondChance [Architecture] [Lawful] : Prop where
  cleared : ∀ {directory} {page : VirtualAddress}, Lawful.Sane directory → page.IsPage →
    isAccessed (setAccessed directory page false) page = false
  untouched : ∀ {directory} {page other : VirtualAddress}, Lawful.Sane directory → page.IsPage →
    other.IsPage → isAccessed directory other = false →
    isAccessed (setAccessed directory page false) other = false
  dirty_setAccessed : ∀ {directory} {page other : VirtualAddress}, Lawful.Sane directory →
    page.IsPage → other.IsPage →
    isDirty (setAccessed directory page false) other = isDirty directory other

/-- Directories in which every page has an accessed bit of its own, which goes with its mapping. -/
class AccessedBits [Architecture] [Lawful] : Prop extends SecondChance where
  accessed_setAccessed : ∀ {directory} {page other : VirtualAddress}, Lawful.Sane directory →
    page.IsPage → other.IsPage → page ≠ other →
    isAccessed (setAccessed directory page false) other = isAccessed directory other
  accessed_unmap : ∀ {directory} {page other : VirtualAddress}, Lawful.Sane directory →
    page.IsPage → other.IsPage →
    isAccessed (unmap directory page).2 other =
      if page = other then false else isAccessed directory other

/-- Directories that can map a page wherever it is not mapped yet, unless there is no memory for a table on
the way. -/
class Obliging [Architecture] [Lawful] : Prop where
  refuses : ∀ {directory after error} {page : VirtualAddress} {frame : PhysicalAddress} {writable},
    Lawful.Sane directory → page.IsPage → frame.value % pageSize = 0 → mapping directory page = none →
    install directory page frame writable = (.error error, after) → error = .outOfMemory

/-- Directories that map a page wherever it is not mapped yet. -/
class Ample [Architecture] [Lawful] : Prop where
  installs : ∀ {directory} {page : VirtualAddress} {frame : PhysicalAddress} {writable},
    Lawful.Sane directory → page.IsPage → frame.value % pageSize = 0 → mapping directory page = none →
    (install directory page frame writable).1 = .ok ()

theorem Ample.obliging [Architecture] [Lawful] [Ample] : Obliging where
  refuses sane is_page aligned unmapped refused := by
    have installed := congrArg Prod.fst refused
    rw [Ample.installs sane is_page aligned unmapped] at installed
    cases installed

theorem Alike.refl [Architecture] (directory : Directory) : Alike directory directory :=
  ⟨fun _ => rfl, fun _ dirty => dirty⟩

/-- Marking a page dirty takes no mark away. -/
theorem Lawful.alike_setDirty [Architecture] [Lawful] {directory : Directory} {page : VirtualAddress}
    (sane : Lawful.Sane directory) (is_page : page.IsPage) :
    Alike directory (setDirty directory page true) where
  mapping other := Lawful.mapping_setDirty sane is_page.canonical other
  dirty {other} other_page dirty := by
    rw [Lawful.dirty_setDirty sane is_page other_page]
    split
    · rename_i same
      rw [← same] at dirty
      rw [Lawful.dirty_mapped sane is_page dirty]
      rfl
    · exact dirty

end Architecture

end DemandPaging
