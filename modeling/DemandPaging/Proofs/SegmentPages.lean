import DemandPaging.Proofs.Bijection

/-! The pages of a segment. Registering a segment looks at its pages in ascending order. The first that
cannot be registered, or that has no address or no place in a file, decides how it ends; until then
nothing shows. Main statements: a segment whose pages can all be expressed is registered if it is
aligned and its pages are free, and its pages then hold its bytes end to end; otherwise the registry
stays as it was. Which segments stop the kernel is said exactly. -/
namespace DemandPaging

/-- A run of `readBytes` bytes of a file and `zeroBytes` zeros behind them, to be found in memory from
`addr` on. -/
structure Segment where
  file : FileId
  offset : Nat
  addr : VirtualAddress
  readBytes : Nat
  zeroBytes : Nat
  writable : Bool

section
variable [Geometry]

/-- What a page shows that is loaded from its part of a file with these contents. -/
def FileSegment.image (segment : FileSegment) (contents : Nat → UInt8) : Bytes :=
  (List.range' segment.offset segment.readBytes).map contents ++ List.replicate segment.zeroBytes 0

namespace Segment

def pages (segment : Segment) : Nat :=
  (segment.readBytes + segment.zeroBytes) / pageSize

def share (segment : Segment) (i : Nat) : FileSegment where
  file := segment.file
  offset := segment.offset + i * pageSize
  readBytes := min (segment.readBytes - i * pageSize) pageSize

def page (segment : Segment) (i : Nat) : Page where
  addr := segment.addr.page i
  backing := .file (segment.share i)
  writable := segment.writable

/-- The segment starts and ends with a page, and so does its part of the file. -/
structure Aligned (segment : Segment) : Prop where
  start : segment.addr.isPageAligned = true
  offset : segment.offset % pageSize = 0
  total : (segment.readBytes + segment.zeroBytes) % pageSize = 0

/-- Page `i` has an address, and its part of the file an offset. -/
structure Expressible (segment : Segment) (i : Nat) : Prop where
  offset : segment.offset + i * pageSize < Word.limit
  canonical : Canonical (segment.addr.page i).value

instance (segment : Segment) (i : Nat) : Decidable (segment.Expressible i) :=
  decidable_of_iff (segment.offset + i * pageSize < Word.limit ∧ Canonical (segment.addr.page i).value)
    ⟨fun ⟨offset, canonical⟩ => ⟨offset, canonical⟩, fun ⟨offset, canonical⟩ => ⟨offset, canonical⟩⟩

/-! The shares of the pages make up the segment. -/

theorem share_whole (segment : Segment) (i : Nat) :
    (segment.share i).readBytes + (segment.share i).zeroBytes = pageSize :=
  Nat.add_sub_cancel' (Nat.min_le_right _ _)

/-- The parts of a run of bytes, page after page, are the run. -/
theorem flatMap_image {file : FileId} {contents : Nat → UInt8} {count offset readBytes zeroBytes : Nat}
    (total : readBytes + zeroBytes = count * pageSize) :
    (List.range count).flatMap (fun i => FileSegment.image
        ⟨file, offset + i * pageSize, min (readBytes - i * pageSize) pageSize⟩ contents) =
      (List.range' offset readBytes).map contents ++ List.replicate zeroBytes 0 := by
  induction count generalizing offset readBytes zeroBytes with
  | zero =>
    obtain ⟨rfl, rfl⟩ : readBytes = 0 ∧ zeroBytes = 0 := by omega
    rfl
  | succ count ih =>
    rw [Nat.succ_mul] at total
    have later : ∀ i, FileSegment.image
        ⟨file, offset + (i + 1) * pageSize, min (readBytes - (i + 1) * pageSize) pageSize⟩ contents =
          FileSegment.image ⟨file, offset + pageSize + i * pageSize,
            min (readBytes - pageSize - i * pageSize) pageSize⟩ contents := by
      intro i
      have place : offset + (i + 1) * pageSize = offset + pageSize + i * pageSize := by
        rw [Nat.succ_mul]
        omega
      have rest : readBytes - (i + 1) * pageSize = readBytes - pageSize - i * pageSize := by
        rw [Nat.succ_mul]
        omega
      rw [place, rest]
    rw [List.range_succ_eq_map, List.flatMap_cons, List.flatMap_map]
    simp only [Nat.succ_eq_add_one, later, Nat.zero_mul, Nat.add_zero, Nat.sub_zero]
    -- The file ends behind the first page, or within it; then zeros are all that comes later.
    by_cases long : pageSize ≤ readBytes
    · have tail : readBytes - pageSize + zeroBytes = count * pageSize := by omega
      have split : readBytes = pageSize + (readBytes - pageSize) := by omega
      rw [ih tail, FileSegment.image]
      simp only [FileSegment.zeroBytes, Nat.min_eq_right long, Nat.sub_self, List.replicate_zero,
        List.append_nil]
      rw [← List.append_assoc, ← List.map_append, List.range'_append_1, ← split]
    · have tail : 0 + (zeroBytes - (pageSize - readBytes)) = count * pageSize := by omega
      have none_left : readBytes - pageSize = 0 := by omega
      have split : zeroBytes = (pageSize - readBytes) + (zeroBytes - (pageSize - readBytes)) := by omega
      rw [none_left, ih tail, FileSegment.image]
      simp only [FileSegment.zeroBytes, Nat.min_eq_left (Nat.le_of_not_le long), List.range'_zero,
        List.map_nil, List.nil_append, List.append_assoc, List.replicate_append_replicate]
      rw [← split]

end Segment

theorem Canonical.lt_limit {a : Nat} (canonical : Canonical a) : a < Word.limit := by
  rcases canonical with lower | ⟨_, word⟩
  · have half : userTop < Word.limit :=
      Nat.pow_lt_pow_right (by decide) (Nat.lt_of_lt_of_le
        (Nat.sub_lt (Nat.lt_of_le_of_lt (Nat.zero_le _) Geometry.page_lt_virtual) Nat.one_pos)
        Geometry.virtual_le_word)
    exact Nat.lt_trans lower half
  · exact word

theorem VirtualAddress.add_eq (addr : VirtualAddress) (i : Nat) :
    addr.add (i * pageSize) =
      if Canonical (addr.page i).value then .ok (addr.page i)
      else if (addr.page i).value < Word.limit then .error .notCanonical else .error .addOverflow := by
  change (Word.add addr.value (i * pageSize) >>= ofWord) = _
  unfold Word.add
  change _ = if Canonical (addr.value + i * pageSize) then _
    else if addr.value + i * pageSize < Word.limit then _ else _
  by_cases canonical : Canonical (addr.value + i * pageSize)
  · rw [if_pos canonical.lt_limit, if_pos canonical]
    change ofWord (addr.value + i * pageSize) = _
    rw [ofWord, if_pos canonical]
    rfl
  · rw [if_neg canonical]
    split
    · change ofWord (addr.value + i * pageSize) = _
      rw [ofWord, if_neg canonical]
    · rfl

end

section
variable [Architecture] {registry : Registry} {segment : Segment} {i n done remaining : Nat}

namespace Registry

def addPages (registry : Registry) (segment : Segment) (n : Nat) : Registry :=
  (List.range n).foldl (fun registry i => registry.add (segment.page i)) registry

theorem addPages_succ (registry : Registry) (segment : Segment) (n : Nat) :
    registry.addPages segment (n + 1) = (registry.addPages segment n).add (segment.page n) := by
  rw [addPages, List.range_succ, List.foldl_append, List.foldl_cons, List.foldl_nil, ← addPages]

@[simp] theorem holders_addPages (registry : Registry) (segment : Segment) (n : Nat) :
    (registry.addPages segment n).holders = registry.holders := by
  induction n with
  | zero => rfl
  | succ n ih =>
    rw [addPages_succ]
    exact ih

theorem get?_addPages_of_ne {other : VirtualAddress}
    (apart : ∀ i < n, other ≠ segment.addr.page i) :
    (registry.addPages segment n).pages.get? other = registry.pages.get? other := by
  induction n with
  | zero => rfl
  | succ n ih =>
    rw [addPages_succ, Registry.add, SortedMap.get?_insert_of_ne]
    · exact ih fun i less => apart i (Nat.lt_succ_of_lt less)
    · exact (apart n (Nat.lt_succ_self n)).symm

theorem get?_addPages (inside : i < n) :
    (registry.addPages segment n).pages.get? (segment.addr.page i) = some (segment.page i) := by
  induction n with
  | zero => cases inside
  | succ n ih =>
    rw [addPages_succ, Registry.add]
    rcases Nat.lt_succ_iff_lt_or_eq.1 inside with less | rfl
    · rw [SortedMap.get?_insert_of_ne]
      · exact ih less
      · intro same
        exact Nat.ne_of_gt less (VirtualAddress.page_injective same)
    · exact SortedMap.get?_insert_self ..

theorem size_addPages (fresh : ∀ i < n, registry.pages.get? (segment.addr.page i) = none) :
    (registry.addPages segment n).size = registry.size + n := by
  induction n with
  | zero => rfl
  | succ n ih =>
    have absent : (registry.addPages segment n).pages.get? (segment.page n).addr = none := by
      change (registry.addPages segment n).pages.get? (segment.addr.page n) = none
      rw [get?_addPages_of_ne]
      · exact fresh n (Nat.lt_succ_self n)
      · intro i less same
        exact Nat.ne_of_gt less (VirtualAddress.page_injective same)
    rw [addPages_succ, Registry.size, Registry.add, SortedMap.size_insert absent]
    exact congrArg (· + 1) (ih fun i less => fresh i (Nat.lt_succ_of_lt less))

/-- Pages that are not registered can be put in and taken out again. -/
theorem grown_addPages (fresh : ∀ i < n, registry.pages.get? (segment.addr.page i) = none) :
    Grown registry segment.addr n (registry.addPages segment n) where
  holders := holders_addPages ..
  absent := fresh
  unloaded i less := ⟨segment.page i, get?_addPages less, rfl⟩
  others _ apart := get?_addPages_of_ne apart

/-- The pages of a segment do not get in each other's way. -/
theorem refusal?_addPages :
    (registry.addPages segment n).refusal? (segment.addr.page n) =
      registry.refusal? (segment.addr.page n) := by
  have same : (registry.addPages segment n).pages.get? (segment.addr.page n) =
      registry.pages.get? (segment.addr.page n) := by
    apply get?_addPages_of_ne
    intro i less same
    exact Nat.ne_of_gt less (VirtualAddress.page_injective same)
  unfold refusal? SortedMap.contains
  rw [same]

end Registry

namespace Segment

structure Clear (segment : Segment) (registry : Registry) (i : Nat) : Prop where
  expressible : segment.Expressible i
  accepted : registry.refusal? (segment.addr.page i) = none

def create (segment : Segment) (registry : Registry) (done remaining : Nat) :
    Except Fatal (Except RegistryError Unit × Registry) :=
  Registry.createPages segment.addr segment.file segment.offset segment.readBytes segment.writable
    done remaining (registry.addPages segment done)

theorem create_stops (inexpressible : ¬segment.Expressible done) :
    ∃ cause, segment.create registry done (remaining + 1) = .error cause := by
  unfold create Registry.createPages Word.add
  dsimp only
  by_cases placed : segment.offset + done * pageSize < Word.limit
  · have homeless : ¬Canonical (segment.addr.page done).value := fun canonical =>
      inexpressible ⟨placed, canonical⟩
    have shared : FileSegment.ofParts segment.file (segment.offset + done * pageSize)
        (min (segment.readBytes - done * pageSize) pageSize) = .ok (segment.share done) :=
      if_pos (Nat.min_le_right _ _)
    rw [if_pos placed, VirtualAddress.add_eq, if_neg homeless]
    simp only [bind, Except.bind, shared]
    by_cases word : (segment.addr.page done).value < Word.limit
    · rw [if_pos word]
      exact ⟨_, rfl⟩
    · rw [if_neg word]
      exact ⟨_, rfl⟩
  · rw [if_neg placed]
    exact ⟨_, rfl⟩

theorem create_succ (expressible : segment.Expressible done)
    (fresh : ∀ i < done, registry.pages.get? (segment.addr.page i) = none) :
    segment.create registry done (remaining + 1) =
      match registry.refusal? (segment.addr.page done) with
      | some error => .ok (.error error, registry)
      | none => segment.create registry (done + 1) remaining := by
  have shared : FileSegment.ofParts segment.file (segment.offset + done * pageSize)
      (min (segment.readBytes - done * pageSize) pageSize) = .ok (segment.share done) :=
    if_pos (Nat.min_le_right _ _)
  rw [create, Registry.createPages, Word.add, if_pos expressible.offset, VirtualAddress.add_eq,
    if_pos expressible.canonical]
  simp only [bind, Except.bind, shared, Registry.refusal?_addPages]
  cases registry.refusal? (segment.addr.page done) with
  | some error =>
    simp only [(Registry.grown_addPages fresh).removePages]
    rfl
  | none =>
    simp only [create, Registry.addPages_succ]
    rfl

/-- All pages are registered, or the first that cannot be decides what comes of it. -/
theorem create_cases (fresh : ∀ i < done, registry.pages.get? (segment.addr.page i) = none) :
    ((∀ i, done ≤ i → i < done + remaining → segment.Clear registry i) ∧
      segment.create registry done remaining =
        .ok (.ok (), registry.addPages segment (done + remaining))) ∨
    ∃ i, done ≤ i ∧ i < done + remaining ∧ (∀ j, done ≤ j → j < i → segment.Clear registry j) ∧
      ((¬segment.Expressible i ∧ ∃ cause, segment.create registry done remaining = .error cause) ∨
        (segment.Expressible i ∧ ∃ error, registry.refusal? (segment.addr.page i) = some error ∧
          segment.create registry done remaining = .ok (.error error, registry))) := by
  induction remaining generalizing done with
  | zero =>
    refine .inl ⟨fun i above below => ?_, rfl⟩
    omega
  | succ remaining ih =>
    by_cases expressible : segment.Expressible done
    · rw [create_succ expressible fresh]
      cases refused : registry.refusal? (segment.addr.page done) with
      | some error =>
        refine .inr ⟨done, Nat.le_refl _, by omega, fun j above below => ?_,
          .inr ⟨expressible, error, refused, rfl⟩⟩
        omega
      | none =>
        have clear : segment.Clear registry done := ⟨expressible, refused⟩
        have fresh : ∀ i < done + 1, registry.pages.get? (segment.addr.page i) = none := by
          intro i less
          rcases Nat.lt_succ_iff_lt_or_eq.1 less with less | rfl
          · exact fresh i less
          · exact (Registry.refusal?_eq_none refused).1
        have shift : done + (remaining + 1) = done + 1 + remaining := by omega
        rw [shift]
        rcases ih fresh with ⟨all, ended⟩ | ⟨i, above, below, before, ended⟩
        · refine .inl ⟨fun i above below => ?_, ended⟩
          rcases Nat.eq_or_lt_of_le above with rfl | later
          · exact clear
          · exact all i later below
        · refine .inr ⟨i, by omega, below, fun j above less => ?_, ended⟩
          rcases Nat.eq_or_lt_of_le above with rfl | later
          · exact clear
          · exact before j later less
    · refine .inr ⟨done, Nat.le_refl _, by omega, fun j above below => ?_,
        .inl ⟨expressible, create_stops expressible⟩⟩
      omega

def enter (segment : Segment) (registry : Registry) :
    Except Fatal (Except RegistryError Nat × Registry) :=
  registry.createSegment segment.file segment.offset segment.addr segment.readBytes segment.zeroBytes
    segment.writable

def register (segment : Segment) (space : SpaceId) : Kernel (Except RegistryError Unit) :=
  Kernel.registerSegment space segment.file segment.offset segment.addr segment.readBytes
    segment.zeroBytes segment.writable

theorem enter_misplaced
    (misplaced : ¬(segment.addr.isPageAligned = true ∧ segment.offset % pageSize = 0)) :
    segment.enter registry = .ok (.error (.unaligned segment.addr), registry) := by
  have refused : (!segment.addr.isPageAligned || segment.offset % pageSize != 0) = true := by
    rw [Bool.or_eq_true, Bool.not_eq_true', bne_iff_ne, ← Bool.not_eq_true, ← not_and_or]
    exact misplaced
  rw [enter, Registry.createSegment, if_pos refused]
  rfl

theorem enter_placed (start : segment.addr.isPageAligned = true)
    (offset : segment.offset % pageSize = 0) :
    segment.enter registry =
      if Word.limit ≤ segment.readBytes + segment.zeroBytes then .error .addOverflow
      else if (segment.readBytes + segment.zeroBytes) % pageSize ≠ 0 then
        .ok (.error (.unaligned segment.addr), registry)
      else (segment.create registry 0 segment.pages).map fun (result, registry) =>
        (result.map fun _ => segment.pages, registry) := by
  have placed : ¬(!segment.addr.isPageAligned || segment.offset % pageSize != 0) = true := by
    simp [start, offset]
  rw [enter, Registry.createSegment, if_neg placed, Word.add]
  by_cases long : Word.limit ≤ segment.readBytes + segment.zeroBytes
  · rw [if_pos long, if_neg (Nat.not_lt_of_le long)]
    rfl
  · rw [if_neg long, if_pos (Nat.lt_of_not_le long)]
    simp only [bind, Except.bind]
    split
    · rfl
    · change (segment.create registry 0 segment.pages).bind _ = _
      rcases segment.create registry 0 segment.pages with cause | ⟨result, registry⟩
      · rfl
      · cases result <;> rfl

theorem register_eq (machine : Machine) (space : SpaceId) :
    segment.register space machine =
      match segment.enter (machine.registry space) with
      | .error cause => .error cause machine
      | .ok (.error error, registry) => .ok (.error error) (machine.setRegistry space registry)
      | .ok (.ok pages, registry) => .ok (.ok ()) { machine.setRegistry space registry with
          log := .segmentRegistered space pages segment.addr segment.readBytes :: machine.log } := by
  change EStateM.bind (Kernel.orStop (segment.enter (machine.registry space))) _ machine = _
  rcases segment.enter (machine.registry space) with cause | ⟨error | pages, registry⟩ <;> rfl

/-- The segment was registered: each of its pages is to be loaded from one of `shares`, and those make
up the segment end to end. -/
structure Registered (segment : Segment) (before after : Registry) (shares : List FileSegment) :
    Prop where
  count : shares.length = segment.pages
  size : after.size = before.size + segment.pages
  pages : ∀ {i share}, shares[i]? = some share →
    before.pages.get? (segment.addr.page i) = none ∧
      after.pages.get? (segment.addr.page i) = some
        { addr := segment.addr.page i, backing := .file share, writable := segment.writable
          pinned := false, state := .unloaded, generation := 0 }
  others : ∀ other, (∀ i < segment.pages, other ≠ segment.addr.page i) →
    after.pages.get? other = before.pages.get? other
  holders : after.holders = before.holders
  whole : ∀ share ∈ shares,
    share.file = segment.file ∧ share.readBytes + share.zeroBytes = pageSize
  tiles : ∀ contents : Nat → UInt8, shares.flatMap (·.image contents) =
    (List.range' segment.offset segment.readBytes).map contents ++
      List.replicate segment.zeroBytes 0

/-- Pages that were free are registered as they should be. -/
theorem registered_addPages (total : (segment.readBytes + segment.zeroBytes) % pageSize = 0)
    (fresh : ∀ i < segment.pages, registry.pages.get? (segment.addr.page i) = none) :
    segment.Registered registry (registry.addPages segment segment.pages)
      ((List.range segment.pages).map segment.share) where
  count := by simp
  size := Registry.size_addPages fresh
  pages {i share} listed := by
    rw [List.getElem?_map, Option.map_eq_some_iff] at listed
    obtain ⟨place, listed, rfl⟩ := listed
    obtain ⟨inside, here⟩ := List.getElem?_eq_some_iff.1 listed
    rw [List.getElem_range] at here
    rw [List.length_range] at inside
    subst here
    exact ⟨fresh i inside, Registry.get?_addPages inside⟩
  others other apart := Registry.get?_addPages_of_ne apart
  holders := Registry.holders_addPages ..
  whole share member := by
    obtain ⟨i, _, rfl⟩ := List.mem_map.1 member
    exact ⟨rfl, segment.share_whole i⟩
  tiles contents := by
    rw [List.flatMap_map]
    apply flatMap_image
    exact (Nat.div_mul_cancel (Nat.dvd_of_mod_eq_zero total)).symm

/-- What each page of the segment needs apart from being free holds of all of them. -/
structure Fits (segment : Segment) : Prop where
  total : segment.readBytes + segment.zeroBytes < Word.limit
  expressible : ∀ i < segment.pages, segment.Expressible i

/-- Registering the segment comes to a sum, an offset or an address that there is not. -/
def Overruns (segment : Segment) (registry : Registry) : Prop :=
  segment.addr.isPageAligned = true ∧ segment.offset % pageSize = 0 ∧
    (Word.limit ≤ segment.readBytes + segment.zeroBytes ∨
      (segment.readBytes + segment.zeroBytes) % pageSize = 0 ∧
        ∃ i < segment.pages, ¬segment.Expressible i ∧
          ∀ j < i, registry.refusal? (segment.addr.page j) = none)

/-- Of a segment that starts and ends with a page, the first page that cannot be registered decides what
comes of it. -/
theorem enter_cases (registry : Registry) (aligned : segment.Aligned)
    (short : segment.readBytes + segment.zeroBytes < Word.limit) :
    ((∀ i < segment.pages, segment.Clear registry i) ∧
      segment.enter registry = .ok (.ok segment.pages, registry.addPages segment segment.pages)) ∨
    ∃ i < segment.pages, (∀ j < i, segment.Clear registry j) ∧
      ((¬segment.Expressible i ∧ ∃ cause, segment.enter registry = .error cause) ∨
        (segment.Expressible i ∧ ∃ error, registry.refusal? (segment.addr.page i) = some error ∧
          segment.enter registry = .ok (.error error, registry))) := by
  have entered : segment.enter registry =
      (segment.create registry 0 segment.pages).map fun (result, registry) =>
        (result.map fun _ => segment.pages, registry) := by
    rw [enter_placed aligned.start aligned.offset, if_neg (Nat.not_le_of_lt short),
      if_neg fun uneven => uneven aligned.total]
  have fresh : ∀ i < 0, registry.pages.get? (segment.addr.page i) = none := nofun
  rw [entered]
  rcases @create_cases _ registry segment 0 segment.pages fresh with
    ⟨all, created⟩ | ⟨i, _, inside, before, created⟩
  · rw [Nat.zero_add] at all created
    refine .inl ⟨fun i inside => all i (Nat.zero_le i) inside, ?_⟩
    rw [created]
    rfl
  · rw [Nat.zero_add] at inside
    refine .inr ⟨i, inside, fun j less => before j (Nat.zero_le j) less, ?_⟩
    rcases created with ⟨inexpressible, cause, created⟩ | ⟨expressible, error, refused, created⟩
    · refine .inl ⟨inexpressible, cause, ?_⟩
      rw [created]
      rfl
    · refine .inr ⟨expressible, error, refused, ?_⟩
      rw [created]
      rfl

theorem enter_unaligned (unaligned : ¬segment.Aligned)
    (short : segment.readBytes + segment.zeroBytes < Word.limit) :
    segment.enter registry = .ok (.error (.unaligned segment.addr), registry) := by
  by_cases placed : segment.addr.isPageAligned = true ∧ segment.offset % pageSize = 0
  · obtain ⟨start, offset⟩ := placed
    have uneven : (segment.readBytes + segment.zeroBytes) % pageSize ≠ 0 := fun total =>
      unaligned ⟨start, offset, total⟩
    rw [enter_placed start offset, if_neg (Nat.not_le_of_lt short), if_pos uneven]
  · exact enter_misplaced placed

theorem enter_refused {error : RegistryError} {after : Registry}
    (refused : segment.enter registry = .ok (.error error, after)) : after = registry := by
  by_cases placed : segment.addr.isPageAligned = true ∧ segment.offset % pageSize = 0
  · by_cases long : Word.limit ≤ segment.readBytes + segment.zeroBytes
    · rw [enter_placed placed.1 placed.2, if_pos long] at refused
      cases refused
    · have short := Nat.lt_of_not_le long
      by_cases aligned : segment.Aligned
      · rcases enter_cases registry aligned short with ⟨_, entered⟩ |
          ⟨_, _, _, ⟨_, _, entered⟩ | ⟨_, _, _, entered⟩⟩
        all_goals
          rw [entered] at refused
          cases refused
        rfl
      · rw [enter_unaligned aligned short] at refused
        cases refused
        rfl
  · rw [enter_misplaced placed] at refused
    cases refused
    rfl

theorem enter_stops : (∃ cause, segment.enter registry = .error cause) ↔ segment.Overruns registry := by
  constructor
  · rintro ⟨cause, stopped⟩
    by_cases placed : segment.addr.isPageAligned = true ∧ segment.offset % pageSize = 0
    · refine ⟨placed.1, placed.2, ?_⟩
      by_cases long : Word.limit ≤ segment.readBytes + segment.zeroBytes
      · exact .inl long
      · have short := Nat.lt_of_not_le long
        by_cases aligned : segment.Aligned
        · refine .inr ⟨aligned.total, ?_⟩
          rcases enter_cases registry aligned short with ⟨_, entered⟩ |
            ⟨i, inside, before, ⟨inexpressible, _⟩ | ⟨_, _, _, entered⟩⟩
          · rw [entered] at stopped
            cases stopped
          · exact ⟨i, inside, inexpressible, fun j less => (before j less).accepted⟩
          · rw [entered] at stopped
            cases stopped
        · rw [enter_unaligned aligned short] at stopped
          cases stopped
    · rw [enter_misplaced placed] at stopped
      cases stopped
  · rintro ⟨start, offset, overrun⟩
    by_cases long : Word.limit ≤ segment.readBytes + segment.zeroBytes
    · refine ⟨.addOverflow, ?_⟩
      rw [enter_placed start offset, if_pos long]
    · obtain ⟨total, i, inside, inexpressible, accepted⟩ := overrun.resolve_left long
      rcases enter_cases registry ⟨start, offset, total⟩ (Nat.lt_of_not_le long) with ⟨all, _⟩ |
        ⟨first, _, before, ⟨_, stopped⟩ | ⟨expressible, _, refused, _⟩⟩
      · exact absurd (all i inside).expressible inexpressible
      · exact stopped
      · -- The page that is refused comes neither before the one that is not expressible nor after it.
        exfalso
        rcases Nat.lt_trichotomy first i with less | rfl | later
        · rw [accepted first less] at refused
          cases refused
        · exact inexpressible expressible
        · exact inexpressible (before i later).expressible

/-- A page is refused unless it is a user page that is not registered yet. -/
theorem accepted_iff (start : segment.addr.isPageAligned = true) :
    registry.refusal? (segment.addr.page i) = none ↔
      (segment.addr.page i).isUser = true ∧ registry.pages.get? (segment.addr.page i) = none := by
  constructor
  · intro accepted
    obtain ⟨fresh, _, user⟩ := Registry.refusal?_eq_none accepted
    exact ⟨user, fresh⟩
  · rintro ⟨user, fresh⟩
    have aligned : (segment.addr.page i).isPageAligned = true := by
      have base : segment.addr.value % pageSize = 0 := beq_iff_eq.1 start
      apply beq_iff_eq.2
      change (segment.addr.value + i * pageSize) % pageSize = 0
      rw [Nat.add_mul_mod_self_right, base]
    simp [Registry.refusal?, SortedMap.contains, aligned, user, fresh]

variable {machine : Machine} {space : SpaceId}

/-- Whatever is asked for, the kernel stops just for segments that run over: a sum, an offset or an
address is not defined, and no page before it is refused. All others are answered, and those refused
leave no trace. -/
theorem register_stops_iff (machine : Machine) (space : SpaceId) (segment : Segment) :
    ((∃ cause stopped, segment.register space machine = .error cause stopped) ↔
      segment.Overruns (machine.registry space)) ∧
    ∀ error after, segment.register space machine = .ok (.error error) after → after = machine := by
  rw [register_eq, ← enter_stops]
  constructor
  · rcases segment.enter (machine.registry space) with cause | ⟨error | pages, registry⟩ <;> simp
  · intro error after refused
    cases entered : segment.enter (machine.registry space) with
    | error cause =>
      rw [entered] at refused
      cases refused
    | ok outcome =>
      obtain ⟨error | pages, registry⟩ := outcome
      · rw [entered] at refused
        cases refused
        rw [enter_refused entered, Machine.setRegistry_registry]
      · rw [entered] at refused
        cases refused

/-- A segment whose pages all have addresses and places in the file is registered if it is aligned and
each of its pages is a user page not yet registered, and is refused otherwise. Either all of it is
registered, or nothing. -/
theorem register_exact (present : space < machine.spaces.length) (fits : segment.Fits) :
    ∃ result after, segment.register space machine = .ok result after ∧
      (result = .ok () ↔ segment.Aligned ∧ ∀ i < segment.pages, (segment.addr.page i).isUser = true ∧
        (machine.registry space).pages.get? (segment.addr.page i) = none) ∧
      (result = .ok () →
        (∃ shares, segment.Registered (machine.registry space) (after.registry space) shares) ∧
        after = { machine.setRegistry space (after.registry space) with
          log := .segmentRegistered space segment.pages segment.addr segment.readBytes :: machine.log }) ∧
      ∀ error : RegistryError, result = .error error → after = machine := by
  rw [register_eq]
  by_cases aligned : segment.Aligned
  · rcases enter_cases (machine.registry space) aligned fits.total with ⟨all, entered⟩ |
      ⟨i, inside, _, ⟨inexpressible, _⟩ | ⟨_, error, refused, entered⟩⟩
    · have free : ∀ i < segment.pages, (segment.addr.page i).isUser = true ∧
          (machine.registry space).pages.get? (segment.addr.page i) = none := fun i inside =>
        (accepted_iff aligned.start).1 (all i inside).accepted
      have here := machine.registry_setRegistry_self
        ((machine.registry space).addPages segment segment.pages) present
      rw [entered]
      refine ⟨.ok (), _, rfl, ⟨fun _ => ⟨aligned, free⟩, fun _ => rfl⟩,
        fun _ => ⟨⟨(List.range segment.pages).map segment.share, ?_⟩, ?_⟩, nofun⟩
      · change segment.Registered _ ((machine.setRegistry space _).registry space) _
        rw [here]
        exact registered_addPages aligned.total fun i inside => (free i inside).2
      · exact congrArg (fun registry => ({ machine.setRegistry space registry with
          log := .segmentRegistered space segment.pages segment.addr segment.readBytes ::
            machine.log } : Machine)) here.symm
    · exact absurd (fits.expressible i inside) inexpressible
    · rw [entered]
      refine ⟨.error error, _, rfl, ⟨nofun, fun ⟨_, free⟩ => ?_⟩, nofun, fun _ _ => ?_⟩
      · rw [(accepted_iff aligned.start).2 (free i inside)] at refused
        cases refused
      · exact machine.setRegistry_registry
  · rw [enter_unaligned aligned fits.total]
    refine ⟨.error (.unaligned segment.addr), _, rfl, ⟨nofun, fun ⟨fine, _⟩ => absurd fine aligned⟩,
      nofun, fun _ _ => ?_⟩
    exact machine.setRegistry_registry

end Segment

end

section
attribute [local instance] Architecture.small

def pastTop : Segment where
  file := 0
  offset := 0
  addr := ⟨0x7ff0⟩
  readBytes := 16
  zeroBytes := 16
  writable := true

/-- Registering a segment that goes past the top of user space stops the kernel. -/
theorem pastTop_stops : ∃ stopped, pastTop.register 0 fileMapped = .error .notCanonical stopped :=
  ⟨_, rfl⟩

/-- Twenty bytes of a file behind the page that is mapped, in three pages. -/
def behindFile : Segment where
  file := 0
  offset := 16
  addr := ⟨0x1010⟩
  readBytes := 20
  zeroBytes := 28
  writable := false

theorem behindFile_exact : 0 < fileMapped.spaces.length ∧ behindFile.Fits ∧
    ∃ result after, behindFile.register 0 fileMapped = .ok result after ∧
      (result = .ok () ↔ behindFile.Aligned ∧ ∀ i < behindFile.pages,
        (behindFile.addr.page i).isUser = true ∧
          (fileMapped.registry 0).pages.get? (behindFile.addr.page i) = none) ∧
      (result = .ok () →
        (∃ shares, behindFile.Registered (fileMapped.registry 0) (after.registry 0) shares) ∧
        after = { fileMapped.setRegistry 0 (after.registry 0) with
          log := .segmentRegistered 0 behindFile.pages behindFile.addr behindFile.readBytes ::
            fileMapped.log }) ∧
      ∀ error : RegistryError, result = .error error → after = fileMapped := by
  have present : 0 < fileMapped.spaces.length := by decide +kernel
  have fits : behindFile.Fits := ⟨by decide, by decide⟩
  exact ⟨present, fits, Segment.register_exact present fits⟩

/-- Its second page holds the last four bytes. -/
example : (behindFile.share 1).image (fun place => place.toUInt8) =
    [32, 33, 34, 35, 0, 0, 0, 0, 0, 0, 0, 0, 0, 0, 0, 0] := by decide

end

end DemandPaging
