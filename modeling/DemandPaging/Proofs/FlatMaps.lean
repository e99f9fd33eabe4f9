import DemandPaging.Proofs.EntryWords
import DemandPaging.Proofs.Running
import DemandPaging.Proofs.ThreeLevelLaws
import DemandPaging.Session.Parts

/-! The three tables of the small machine against a flat map: whatever is asked of a directory, one
thing after another, it answers like a finite map from the addresses of pages to frames with a
permission and two bits. -/
namespace DemandPaging

theorem rank_eq_iff {κ : Type} [Ranked κ] {a b : κ} : rank a = rank b ↔ a = b :=
  ⟨rank_injective, congrArg rank⟩

structure FlatMapping where
  frame : PhysicalAddress
  writable : Bool
  accessed : Bool := false
  dirty : Bool := false
deriving DecidableEq

/-- A page directory that is nothing but a finite map from the addresses of pages. -/
structure FlatDirectory where
  pages : SortedMap VirtualAddress FlatMapping := .empty

namespace FlatDirectory
variable [Geometry]

def look (directory : FlatDirectory) (addr : VirtualAddress) : Option FlatMapping :=
  directory.pages.get? addr.pageBase

def put (directory : FlatDirectory) (addr : VirtualAddress) (mapping : FlatMapping) : FlatDirectory :=
  ⟨directory.pages.insert addr.pageBase mapping⟩

def revise (directory : FlatDirectory) (addr : VirtualAddress) (change : FlatMapping → FlatMapping) :
    FlatDirectory :=
  match directory.look addr with
  | none => directory
  | some mapping => directory.put addr (change mapping)

def install (directory : FlatDirectory) (page : VirtualAddress) (frame : PhysicalAddress)
    (writable : Bool) : Except MapError Unit × FlatDirectory :=
  if ¬page.isPageAligned ∨ frame.pageOffset ≠ 0 then (.error .unaligned, directory)
  else if (directory.look page).isSome then (.error (.alreadyMapped page), directory)
  else (.ok (), directory.put page { frame, writable })

def unmap (directory : FlatDirectory) (page : VirtualAddress) : Option PhysicalAddress × FlatDirectory :=
  ((directory.look page).map (·.frame), ⟨directory.pages.erase page.pageBase⟩)

def translate (directory : FlatDirectory) (addr : VirtualAddress) : Option PhysicalAddress :=
  (directory.look addr).map fun mapping => ⟨mapping.frame.value + addr.pageOffset⟩

/-- An access to an unmapped page, and a write to a page that is only to be read, are refused. Any
other sets the accessed bit, and the dirty bit if it is a write. -/
def access (directory : FlatDirectory) (addr : VirtualAddress) (kind : Access) :
    Except PageFault PhysicalAddress × FlatDirectory :=
  match directory.look addr with
  | none => (.error ⟨addr.value, kind, false⟩, directory)
  | some mapping =>
      if kind = .write ∧ !mapping.writable then (.error ⟨addr.value, kind, true⟩, directory)
      else (.ok ⟨mapping.frame.value + addr.pageOffset⟩, directory.put addr
        { mapping with accessed := true, dirty := mapping.dirty || kind == .write })

theorem look_put {directory : FlatDirectory} {addr other : VirtualAddress} {mapping : FlatMapping} :
    (directory.put addr mapping).look other =
      if addr.pageBase = other.pageBase then some mapping else directory.look other := by
  unfold look put
  rw [SortedMap.get?_insert]
  simp only [rank_eq_iff]

end FlatDirectory

/-- The small machine with flat directories. Their entries are not those of tables, so there is nothing
to show of them. -/
@[reducible] def Architecture.flat : Architecture where
  toGeometry := .small
  Directory := FlatDirectory
  ofSpec _ := {}
  install := @FlatDirectory.install .small
  unmap := @FlatDirectory.unmap .small
  isAccessed directory page := (@FlatDirectory.look .small directory page).any (·.accessed)
  isDirty directory page := (@FlatDirectory.look .small directory page).any (·.dirty)
  setAccessed directory page value :=
    @FlatDirectory.revise .small directory page ({ · with accessed := value })
  setDirty directory page value :=
    @FlatDirectory.revise .small directory page ({ · with dirty := value })
  translate := @FlatDirectory.translate .small
  entry? _ _ := none
  access := @FlatDirectory.access .small

namespace DirectoryOp

def asksEntry : DirectoryOp → Bool
  | .entry _ => true
  | _ => false

def addr : DirectoryOp → VirtualAddress
  | .install addr _ _ | .unmap addr | .isAccessed addr | .isDirty addr | .setAccessed addr _
  | .setDirty addr _ | .translate addr | .entry addr | .access addr _ => ⟨addr⟩

/-- What a directory answers to one request after another, and how it is left. A request that cannot
be put ends the run. -/
def answers {δ : Type} (run : DirectoryOp → δ → Except Fatal (Reply × δ)) :
    List DirectoryOp → δ → List Reply × Except Fatal δ
  | [], directory => ([], .ok directory)
  | op :: rest, directory =>
      match run op directory with
      | .error cause => ([], .error cause)
      | .ok (reply, directory) =>
          let (replies, last) := answers run rest directory
          (reply :: replies, last)

end DirectoryOp

attribute [local instance] Architecture.small

namespace PageEntry

def flat (entry : PageEntry) : FlatMapping where
  frame := entry.frame
  writable := entry.flags.has PageFlags.writable
  accessed := entry.flags.has PageFlags.accessed
  dirty := entry.flags.has PageFlags.dirty

theorem flat_accessed (entry : PageEntry) (value : Bool) :
    (entry.update PageFlags.accessed value).flat = { entry.flat with accessed := value } := by
  simp [flat]

theorem flat_dirty (entry : PageEntry) (value : Bool) :
    (entry.update PageFlags.dirty value).flat = { entry.flat with dirty := value } := by
  simp [flat]

theorem flat_user (frame : PhysicalAddress) (writable : Bool) :
    (PageEntry.mk frame (PageFlags.forUser writable)).flat = { frame, writable } := by
  obtain ⟨_, writes, clean⟩ := user_flags frame writable
  rw [flat, writes, clean, user_unaccessed]

end PageEntry

namespace ThreeLevel

def look (directory : ThreeLevel) (addr : VirtualAddress) : Option FlatMapping :=
  (directory.mapped? addr).map PageEntry.flat

/-- A directory stands for a flat one: the pages mapped are the same, at canonical addresses only, and
the entries of all pages fit in words. -/
structure Represents (directory : ThreeLevel) (flat : FlatDirectory) : Prop where
  shows : ∀ {addr : VirtualAddress}, Canonical addr.value → directory.look addr = flat.look addr
  pages : ∀ {page mapping}, flat.pages.get? page = some mapping → page.IsPage
  fits : ∀ {addr entry}, directory.mapped? addr = some entry → entry.Fits

variable {directory : ThreeLevel} {flat : FlatDirectory} {addr other : VirtualAddress}

theorem route_eq_iff_pageBase (left : Canonical addr.value) (right : Canonical other.value) :
    route addr = route other ↔ addr.pageBase = other.pageBase := by
  rw [← route_pageBase addr, ← route_pageBase other]
  exact route_eq_iff (VirtualAddress.isPage_pageBase left) (VirtualAddress.isPage_pageBase right)

theorem look_setEntry {entry : PageEntry} (present : entry.isPresent = true)
    (left : Canonical addr.value) (right : Canonical other.value) :
    (directory.setEntry addr entry).look other =
      if addr.pageBase = other.pageBase then some entry.flat else directory.look other := by
  unfold look
  rw [mapped?_setEntry]
  simp only [route_eq_iff_pageBase left right]
  split
  · simp [Option.filter, present]
  · rfl

theorem look_unmap (left : Canonical addr.value) (right : Canonical other.value) :
    (directory.unmap addr).2.look other =
      if addr.pageBase = other.pageBase then none else directory.look other := by
  unfold look
  rw [unmap_eq]
  simp only [route_eq_iff_pageBase left right]
  split <;> rfl

/-- Writing an entry is mapping its page. -/
theorem Represents.put (represents : directory.Represents flat) {entry : PageEntry}
    (present : entry.isPresent = true) (fits : entry.Fits) (canonical : Canonical addr.value) :
    (directory.setEntry addr entry).Represents (flat.put addr entry.flat) where
  shows here := by
    rw [look_setEntry present canonical here, FlatDirectory.look_put, represents.shows here]
  pages {page mapping} found := by
    unfold FlatDirectory.put at found
    rw [SortedMap.get?_insert] at found
    split at found
    · rename_i same
      rw [← rank_injective same]
      exact VirtualAddress.isPage_pageBase canonical
    · exact represents.pages found
  fits {other placed} found := by
    rw [mapped?_setEntry] at found
    split at found
    · cases (Option.filter_eq_some_iff.1 found).1
      exact fits
    · exact represents.fits found

theorem Represents.install (represents : directory.Represents flat) {frame : PhysicalAddress}
    (canonical : Canonical addr.value) (inside : frame.value < physicalLimit) (writable : Bool) :
    (directory.install addr frame writable).1 = (flat.install addr frame writable).1 ∧
    (directory.install addr frame writable).2.Represents (flat.install addr frame writable).2 := by
  have shown := represents.shows canonical
  have aligned : (¬addr.isPageAligned = true ∨ frame.pageOffset ≠ 0) ↔
      (addr.value % 16 ≠ 0 ∨ frame.value % 16 ≠ 0) := by
    refine or_congr (not_congr ?_) Iff.rfl
    exact beq_iff_eq
  have mapped : (directory.mapped? addr).isSome = (flat.look addr).isSome := by
    rw [← shown, look, Option.isSome_map]
  unfold ThreeLevel.install FlatDirectory.install
  simp only [aligned, mapped]
  split
  · exact ⟨rfl, represents⟩
  · rename_i even
    split
    · exact ⟨rfl, represents⟩
    · have fits : (PageEntry.mk frame (PageFlags.forUser writable)).Fits := by
        refine ⟨?_, inside⟩
        change frame.value % 16 = 0
        omega
      have put := represents.put (PageEntry.user_flags frame writable).1 fits canonical
      rw [PageEntry.flat_user] at put
      exact ⟨rfl, put⟩

theorem Represents.unmap (represents : directory.Represents flat) (canonical : Canonical addr.value) :
    (directory.unmap addr).1 = (flat.unmap addr).1 ∧
    (directory.unmap addr).2.Represents (flat.unmap addr).2 := by
  constructor
  · change _ = (flat.look addr).map (·.frame)
    rw [← represents.shows canonical]
    unfold ThreeLevel.unmap look
    cases directory.mapped? addr <;> rfl
  · constructor
    · intro other here
      rw [look_unmap canonical here, represents.shows here, FlatDirectory.unmap]
      unfold FlatDirectory.look
      rw [SortedMap.get?_erase]
      simp only [rank_eq_iff]
    · intro page mapping found
      unfold FlatDirectory.unmap at found
      rw [SortedMap.get?_erase] at found
      split at found
      · cases found
      · exact represents.pages found
    · intro other entry found
      rw [unmap_eq] at found
      split at found
      · cases found
      · exact represents.fits found

theorem Represents.setFlag (represents : directory.Represents flat) (canonical : Canonical addr.value)
    {flag : PageFlags} {change : FlatMapping → FlatMapping} {value : Bool}
    (changes : ∀ entry : PageEntry, (entry.update flag value).flat = change entry.flat)
    (present : ∀ entry : PageEntry, (entry.update flag value).isPresent = entry.isPresent) :
    (directory.setFlag addr flag value).Represents (flat.revise addr change) := by
  have shown := represents.shows canonical
  unfold ThreeLevel.setFlag FlatDirectory.revise
  rw [← shown]
  unfold look
  cases found : directory.mapped? addr with
  | none => exact represents
  | some entry =>
    have still := (present entry).trans (Option.filter_eq_some_iff.1 found).2
    have put := represents.put still ((represents.fits found).update flag value) canonical
    rw [changes] at put
    exact put

theorem Represents.flag (represents : directory.Represents flat) (canonical : Canonical addr.value)
    {flag : PageFlags} {bit : FlatMapping → Bool}
    (bits : ∀ entry : PageEntry, entry.flags.has flag = bit entry.flat) :
    directory.flag addr flag = (flat.look addr).any bit := by
  rw [← represents.shows canonical]
  unfold ThreeLevel.flag look
  cases directory.mapped? addr with
  | none => rfl
  | some entry => exact bits entry

theorem Represents.translate (represents : directory.Represents flat) (canonical : Canonical addr.value) :
    directory.translate addr = flat.translate addr := by
  unfold ThreeLevel.translate FlatDirectory.translate
  rw [← represents.shows canonical]
  unfold look
  cases directory.mapped? addr <;> rfl

theorem Represents.access (represents : directory.Represents flat) (canonical : Canonical addr.value)
    (kind : Access) :
    (directory.access addr kind).1 = (flat.access addr kind).1 ∧
    (directory.access addr kind).2.Represents (flat.access addr kind).2 := by
  have shown := represents.shows canonical
  unfold ThreeLevel.access FlatDirectory.access
  rw [← shown]
  unfold look
  cases found : directory.mapped? addr with
  | none => exact ⟨rfl, represents⟩
  | some entry =>
    dsimp only [Option.map_some, PageEntry.flat]
    split
    · exact ⟨rfl, represents⟩
    · refine ⟨rfl, ?_⟩
      have held : entry.isPresent = true := (Option.filter_eq_some_iff.1 found).2
      have fits := represents.fits found
      cases kind with
      | read =>
        have put := represents.put (by simpa using held) (fits.update PageFlags.accessed true) canonical
        rw [PageEntry.flat_accessed] at put
        have clean : (entry.flags.has PageFlags.dirty || Access.read == .write) =
            entry.flags.has PageFlags.dirty := Bool.or_false _
        rw [clean]
        exact put
      | write =>
        have marked := (fits.update PageFlags.accessed true).update PageFlags.dirty true
        have put := represents.put (by simpa using held) marked canonical
        rw [PageEntry.flat_dirty, PageEntry.flat_accessed] at put
        have written : (entry.flags.has PageFlags.dirty || Access.write == .write) = true :=
          Bool.or_true _
        rw [written]
        exact put

/-- Both stop for the same cause, or both answer the same and one still stands for the other. -/
def Agree : Except Fatal (Reply × ThreeLevel) → Except Fatal (Reply × FlatDirectory) → Prop
  | .error cause, .error other => cause = other
  | .ok (reply, directory), .ok (other, flat) => reply = other ∧ directory.Represents flat
  | _, _ => False

theorem Agree.checked {α : Type} {check : Except Fatal α} {k : α → Except Fatal (Reply × ThreeLevel)}
    {l : α → Except Fatal (Reply × FlatDirectory)} (rest : ∀ a, check = .ok a → Agree (k a) (l a)) :
    Agree (check >>= k) (check >>= l) := by
  cases check with
  | error cause => exact rfl
  | ok a => exact rest a rfl

theorem Agree.at {addr : Nat} {k : VirtualAddress → Except Fatal (Reply × ThreeLevel)}
    {l : VirtualAddress → Except Fatal (Reply × FlatDirectory)}
    (rest : Canonical addr → Agree (k ⟨addr⟩) (l ⟨addr⟩)) :
    Agree (VirtualAddress.ofWord addr >>= k) (VirtualAddress.ofWord addr >>= l) :=
  .checked fun address expressed => by
    obtain ⟨canonical, rfl⟩ := VirtualAddress.ofWord_ok expressed
    exact rest canonical

/-- A directory answers any request like the flat one it stands for, and goes on to stand for it. -/
theorem Represents.run (represents : directory.Represents flat) (op : DirectoryOp)
    (shown : op.asksEntry = false) :
    Agree (op.run directory) (@DirectoryOp.run .flat op flat) := by
  cases op with
  | install addr phys writable =>
    refine .at fun canonical => .checked fun phys fits => ?_
    have inside : phys.value < physicalLimit := by
      unfold PhysicalAddress.ofWord at fits
      split at fits
      · rename_i inside
        cases fits
        exact inside
      · cases fits
    have installed : (Architecture.install directory ⟨addr⟩ phys writable).1 =
          (@Architecture.install .flat flat ⟨addr⟩ phys writable).1 ∧
        Represents (Architecture.install directory ⟨addr⟩ phys writable).2
          (@Architecture.install .flat flat ⟨addr⟩ phys writable).2 :=
      represents.install canonical inside writable
    generalize Architecture.install directory _ phys writable = left at installed ⊢
    generalize @Architecture.install .flat flat _ phys writable = right at installed ⊢
    obtain ⟨result, left⟩ := left
    obtain ⟨_, right⟩ := right
    obtain ⟨rfl, still⟩ := installed
    cases result <;> exact ⟨rfl, still⟩
  | unmap addr =>
    refine .at fun canonical => ?_
    obtain ⟨same, still⟩ := represents.unmap canonical
    exact ⟨congrArg (fun frame : Option PhysicalAddress =>
      frame.elim Reply.nothing fun frame => .address frame.value) same, still⟩
  | isAccessed addr =>
    refine .at fun canonical => ?_
    exact ⟨congrArg Reply.truth (represents.flag canonical fun _ => rfl), represents⟩
  | isDirty addr =>
    refine .at fun canonical => ?_
    exact ⟨congrArg Reply.truth (represents.flag canonical fun _ => rfl), represents⟩
  | setAccessed addr value =>
    refine .at fun canonical => ?_
    exact ⟨rfl, represents.setFlag canonical (fun entry => entry.flat_accessed value)
      fun entry => entry.isPresent_accessed value⟩
  | setDirty addr value =>
    refine .at fun canonical => ?_
    exact ⟨rfl, represents.setFlag canonical (fun entry => entry.flat_dirty value)
      fun entry => entry.isPresent_dirty value⟩
  | translate addr =>
    refine .at fun canonical => ?_
    exact ⟨congrArg (fun phys : Option PhysicalAddress =>
      phys.elim Reply.nothing fun phys => .address phys.value) (represents.translate canonical), represents⟩
  | entry addr => cases shown
  | access addr kind =>
    refine .at fun canonical => ?_
    have reached : (Architecture.access directory ⟨addr⟩ kind).1 =
          (@Architecture.access .flat flat ⟨addr⟩ kind).1 ∧
        Represents (Architecture.access directory ⟨addr⟩ kind).2
          (@Architecture.access .flat flat ⟨addr⟩ kind).2 := represents.access canonical kind
    generalize Architecture.access directory _ kind = left at reached ⊢
    generalize @Architecture.access .flat flat _ kind = right at reached ⊢
    obtain ⟨result, left⟩ := left
    obtain ⟨_, right⟩ := right
    obtain ⟨rfl, still⟩ := reached
    cases result <;> exact ⟨rfl, still⟩

/-! No request about one page is felt at another. -/

theorem mapped?_setEntry_of_ne {entry : PageEntry} (apart : route addr ≠ route other) :
    (directory.setEntry addr entry).mapped? other = directory.mapped? other := by
  rw [mapped?_setEntry, if_neg apart]

theorem mapped?_setFlag_of_ne {flag : PageFlags} {value : Bool} (apart : route addr ≠ route other) :
    (directory.setFlag addr flag value).mapped? other = directory.mapped? other := by
  unfold setFlag
  split
  · rfl
  · exact mapped?_setEntry_of_ne apart

theorem mapped?_access_of_ne (kind : Access) (apart : route addr ≠ route other) :
    (directory.access addr kind).2.mapped? other = directory.mapped? other := by
  cases ended : directory.access addr kind with
  | mk result after =>
    cases result with
    | error fault => rw [access_refused ended]
    | ok phys =>
      obtain ⟨entry, _, _, rfl⟩ := access_ok ended
      exact mapped?_setEntry_of_ne apart

theorem mapped?_install_of_ne {frame : PhysicalAddress} {writable : Bool}
    (apart : route addr ≠ route other) :
    (directory.install addr frame writable).2.mapped? other = directory.mapped? other := by
  cases ended : directory.install addr frame writable with
  | mk result after =>
    cases result with
    | error error => rw [install_refused ended]
    | ok =>
      obtain ⟨_, rfl⟩ := install_ok ended
      exact mapped?_setEntry_of_ne apart

/-- A request about another page changes nothing of what a directory shows. -/
theorem look_run_of_ne {op : DirectoryOp} {reply : Reply} {next : ThreeLevel}
    (ran : op.run directory = .ok (reply, next)) (canonical : Canonical other.value)
    (apart : op.addr.pageBase ≠ other.pageBase) : next.look other = directory.look other := by
  have routes : ∀ {addr : VirtualAddress}, Canonical addr.value → op.addr = addr →
      route addr ≠ route other := by
    intro addr here same route
    refine apart ?_
    rw [same]
    exact (route_eq_iff_pageBase here canonical).1 route
  cases op with
  | isAccessed addr | isDirty addr | translate addr | entry addr =>
    obtain ⟨addr, expressed, ran⟩ := Fatal.bind_ok.1 ran
    cases ran
    rfl
  | install addr phys writable =>
    obtain ⟨addr, expressed, ran⟩ := Fatal.bind_ok.1 ran
    obtain ⟨phys, _, ran⟩ := Fatal.bind_ok.1 ran
    obtain ⟨here, rfl⟩ := VirtualAddress.ofWord_ok expressed
    have kept := @mapped?_install_of_ne directory _ other phys writable (routes here rfl)
    have same : next = (directory.install ⟨addr⟩ phys writable).2 := by
      split at ran <;> · rename_i installed
                         cases ran
                         exact (congrArg Prod.snd installed).symm
    rw [same]
    exact congrArg (Option.map PageEntry.flat) kept
  | unmap addr =>
    obtain ⟨addr, expressed, ran⟩ := Fatal.bind_ok.1 ran
    obtain ⟨here, rfl⟩ := VirtualAddress.ofWord_ok expressed
    cases ran
    exact (look_unmap here canonical).trans (if_neg apart)
  | setAccessed addr value | setDirty addr value =>
    obtain ⟨addr, expressed, ran⟩ := Fatal.bind_ok.1 ran
    obtain ⟨here, rfl⟩ := VirtualAddress.ofWord_ok expressed
    cases ran
    exact congrArg (Option.map PageEntry.flat) (mapped?_setFlag_of_ne (routes here rfl))
  | access addr kind =>
    obtain ⟨addr, expressed, ran⟩ := Fatal.bind_ok.1 ran
    obtain ⟨here, rfl⟩ := VirtualAddress.ofWord_ok expressed
    have kept := @mapped?_access_of_ne directory _ other kind (routes here rfl)
    have same : next = (directory.access ⟨addr⟩ kind).2 := by
      split at ran <;> · rename_i reached
                         cases ran
                         exact (congrArg Prod.snd reached).symm
    rw [same]
    exact congrArg (Option.map PageEntry.flat) kept

theorem Represents.translate_lt (represents : directory.Represents flat) {phys : PhysicalAddress}
    (found : directory.translate addr = some phys) : phys.value < physicalLimit := by
  obtain ⟨entry, mapped, rfl⟩ := Option.map_eq_some_iff.1 found
  obtain ⟨aligned, inside⟩ := represents.fits mapped
  have aligned : entry.frame.value % 16 = 0 := aligned
  have inside : entry.frame.value < 65536 := inside
  change entry.frame.value + addr.value % 16 < 65536
  omega

/-- A run of requests to a directory against the same run on a flat one: the answers are the same, and
both stop for the same cause or one stands for the other at the end. -/
structure Implements (left : List Reply × Except Fatal ThreeLevel)
    (right : List Reply × Except Fatal FlatDirectory) : Prop where
  replies : left.1 = right.1
  stops : ∀ cause, left.2 = .error cause → right.2 = .error cause
  represents : ∀ directory, left.2 = .ok directory → ∃ flat, right.2 = .ok flat ∧
    directory.Represents flat

theorem Represents.answers (represents : directory.Represents flat) (ops : List DirectoryOp)
    (shown : ∀ op ∈ ops, op.asksEntry = false) :
    Implements (DirectoryOp.answers DirectoryOp.run ops directory)
      (DirectoryOp.answers (@DirectoryOp.run .flat) ops flat) := by
  induction ops generalizing directory flat with
  | nil =>
    refine ⟨rfl, fun cause stopped => ?_, fun last ended => ?_⟩
    · cases stopped
    · cases ended
      exact ⟨flat, rfl, represents⟩
  | cons op rest ih =>
    have agree := represents.run op (shown op List.mem_cons_self)
    unfold DirectoryOp.answers
    generalize op.run directory = left at agree ⊢
    generalize @DirectoryOp.run .flat op flat = right at agree ⊢
    cases left with
    | error cause =>
      cases right with
      | ok => exact agree.elim
      | error other =>
        cases (show cause = other from agree)
        refine ⟨rfl, fun _ stopped => ?_, fun last ended => ?_⟩
        · cases stopped
          rfl
        · cases ended
    | ok left =>
      cases right with
      | error => exact agree.elim
      | ok right =>
        obtain ⟨reply, next⟩ := left
        obtain ⟨_, other⟩ := right
        obtain ⟨rfl, still⟩ : reply = _ ∧ next.Represents other := agree
        have further := ih still fun op member => shown op (List.mem_cons_of_mem _ member)
        exact ⟨congrArg (reply :: ·) further.replies, further.stops, further.represents⟩

theorem represents_empty : ({} : ThreeLevel).Represents {} where
  shows _ := rfl
  pages found := by
    rw [SortedMap.get?_empty] at found
    cases found
  fits found := by
    unfold mapped? entry? at found
    rw [SortedMap.get?_empty] at found
    cases found

/-- A directory implements a flat map over every run of requests from the empty directory on. What it
holds at any time is packed without loss, translates to addresses that exist, and shows nothing of a
request about one page at another. -/
theorem implements_flat (ops : List DirectoryOp) (shown : ∀ op ∈ ops, op.asksEntry = false) :
    Implements (DirectoryOp.answers DirectoryOp.run ops ({} : ThreeLevel))
      (DirectoryOp.answers (@DirectoryOp.run .flat) ops {}) ∧
    ∀ directory, (DirectoryOp.answers DirectoryOp.run ops ({} : ThreeLevel)).2 = .ok directory →
      (∀ addr entry, directory.mapped? addr = some entry → PageEntry.ofWord entry.word = entry) ∧
      (∀ addr phys, directory.translate addr = some phys → phys.value < physicalLimit) ∧
      (∀ (op : DirectoryOp) reply (next : ThreeLevel) (other : VirtualAddress),
        op.run directory = .ok (reply, next) → Canonical other.value →
        op.addr.pageBase ≠ other.pageBase →
        next.look other = directory.look other) := by
  have implements := represents_empty.answers ops shown
  refine ⟨implements, fun directory ended => ?_⟩
  obtain ⟨flat, _, represents⟩ := implements.represents directory ended
  refine ⟨fun addr entry mapped => (represents.fits mapped).ofWord_word,
    fun addr phys found => represents.translate_lt found,
    fun op reply next other ran canonical apart => look_run_of_ne ran canonical apart⟩

/-- Two pages that differ in the upper bits of their addresses only, in both halves of the address
space. -/
def twoHalves : List DirectoryOp :=
  [.install 0xffffffffffff8120 0xfff0 true, .install 0x120 0x200 false, .access 0xffffffffffff812f .write,
    .access 0x121 .write, .access 0x121 .read, .install 0x125 0x200 true, .install 0x120 0x300 true,
    .isDirty 0xffffffffffff8123, .isDirty 0x120, .isAccessed 0x120, .setAccessed 0x12a false,
    .isAccessed 0x120, .unmap 0xffffffffffff8121, .translate 0xffffffffffff8120, .translate 0x12c]

theorem implements_flat_twoHalves :
    (∀ op ∈ twoHalves, op.asksEntry = false) ∧
    (DirectoryOp.answers DirectoryOp.run twoHalves ({} : ThreeLevel)).1 =
      [.done, .done, .address 0xffff, .fault ⟨0x121, .write, true⟩, .address 0x201,
        .failed (.map .unaligned), .failed (.map (.alreadyMapped ⟨0x120⟩)), .truth true, .truth false,
        .truth true, .done, .truth false, .address 0xfff0, .nothing, .address 0x20c] ∧
    Implements (DirectoryOp.answers DirectoryOp.run twoHalves ({} : ThreeLevel))
      (DirectoryOp.answers (@DirectoryOp.run .flat) twoHalves {}) :=
  ⟨by decide, rfl, (implements_flat twoHalves (by decide)).1⟩

end ThreeLevel

end DemandPaging
