import DemandPaging.Proofs.Directories
import DemandPaging.Registry

/-! Registries whose two indexes agree. The placement of an address is the frame that its page is
resident in, with the permission to write: what the page directory has to show. Every operation on a
registry keeps it sound and changes the placement of at most one address. -/
namespace DemandPaging

def Backing.Fits [Geometry] : Backing → Prop
  | .file segment => segment.readBytes ≤ pageSize
  | _ => True

namespace Registry

/-- The frame of the resident page at an address, and whether the page may be written. -/
def placement (registry : Registry) (addr : VirtualAddress) : Option (FrameNumber × Bool) :=
  (registry.pages.get? addr).bind fun page => page.frame?.map fun frame => (frame, page.writable)

/-- Every page is registered at its own address, the start of a page of user space; frames lead back
to the pages resident in them and to no others; the generation of a page is odd just while the page
is resident; only resident pages are marked pinned; and no page takes more from its file than it has
room for. -/
structure Sound [Geometry] (registry : Registry) : Prop where
  keyed : ∀ {addr page}, registry.pages.get? addr = some page → page.addr = addr
  aligned : ∀ {addr page}, registry.pages.get? addr = some page → addr.isPageAligned = true
  user : ∀ {addr page}, registry.pages.get? addr = some page → addr.isUser = true
  holders : ∀ {frame addr}, registry.holders.get? frame = some addr ↔
    ∃ writable, registry.placement addr = some (frame, writable)
  parity : ∀ {addr page}, registry.pages.get? addr = some page →
    (page.generation % 2 = 1 ↔ page.isResident = true)
  unpinned : ∀ {addr page}, registry.pages.get? addr = some page →
    page.isResident = false → page.pinned = false
  fits : ∀ {addr page}, registry.pages.get? addr = some page → page.backing.Fits

theorem placement_eq_some {registry : Registry} {addr : VirtualAddress} {frame : FrameNumber}
    {writable : Bool} :
    registry.placement addr = some (frame, writable) ↔
      ∃ page, registry.pages.get? addr = some page ∧ page.state = .resident frame ∧
        page.writable = writable := by
  unfold placement Page.frame?
  cases found : registry.pages.get? addr with
  | none => simp
  | some page => cases state : page.state <;> simp [state]

theorem placement_of_page {registry : Registry} {addr : VirtualAddress} {page : Page}
    (found : registry.pages.get? addr = some page) :
    registry.placement addr = page.frame?.map fun frame => (frame, page.writable) := by
  simp [placement, found]

@[simp] theorem placement_empty (addr : VirtualAddress) :
    (default : Registry).placement addr = none := by
  simp [placement, default]

theorem placement_insert (registry : Registry) (page : Page) (holders) (addr : VirtualAddress) :
    (Registry.mk (registry.pages.insert page.addr page) holders).placement addr =
      if page.addr = addr then page.frame?.map fun frame => (frame, page.writable)
      else registry.placement addr := by
  unfold placement
  by_cases same : page.addr = addr
  · subst same
    simp
  · rw [SortedMap.get?_insert_of_ne _ _ same, if_neg same]

theorem get?_insert_cases {pages : SortedMap VirtualAddress Page} {key addr : VirtualAddress}
    {page found : Page} (lookup : (pages.insert key page).get? addr = some found) :
    (key = addr ∧ found = page) ∨ (key ≠ addr ∧ pages.get? addr = some found) := by
  by_cases same : key = addr
  · subst same
    rw [SortedMap.get?_insert_self] at lookup
    exact .inl ⟨rfl, (Option.some.inj lookup).symm⟩
  · rw [SortedMap.get?_insert_of_ne _ _ same] at lookup
    exact .inr ⟨same, lookup⟩

theorem placement_revise {registry : Registry} (page : Page)
    (same : page.frame?.map (fun frame => (frame, page.writable)) = registry.placement page.addr)
    (other : VirtualAddress) :
    ({ registry with pages := registry.pages.insert page.addr page } : Registry).placement other =
      registry.placement other := by
  rw [placement_insert]
  split
  · rename_i here
    rw [← here]
    exact same
  · rfl

variable [Geometry] {registry : Registry}

theorem refusal?_eq_none {addr : VirtualAddress} (accepted : registry.refusal? addr = none) :
    registry.pages.get? addr = none ∧ addr.isPageAligned = true ∧ addr.isUser = true := by
  unfold refusal? at accepted
  split at accepted
  · cases accepted
  · split at accepted
    · cases accepted
    · split at accepted
      · cases accepted
      · rename_i aligned user fresh
        simpa [SortedMap.contains] using And.intro fresh (And.intro aligned user)

theorem sound_empty : (default : Registry).Sound where
  keyed found := by simp [default] at found
  aligned found := by simp [default] at found
  user found := by simp [default] at found
  holders := by simp [default, placement]
  parity found := by simp [default] at found
  unpinned found := by simp [default] at found
  fits found := by simp [default] at found

namespace Sound
variable (sound : registry.Sound)
include sound

theorem placement_injective {a b : VirtualAddress} {frame : FrameNumber} {v w : Bool}
    (left : registry.placement a = some (frame, v))
    (right : registry.placement b = some (frame, w)) : a = b := by
  have first := sound.holders.2 ⟨v, left⟩
  have second := sound.holders.2 ⟨w, right⟩
  rw [first] at second
  exact Option.some.inj second

theorem isPage {addr : VirtualAddress} {page : Page} (found : registry.pages.get? addr = some page) :
    addr.IsPage :=
  VirtualAddress.isPage_of_user (sound.aligned found) (sound.user found)

theorem lookupFrame_eq_some {frame : FrameNumber} {page : Page}
    (found : registry.lookupFrame frame = some page) :
    registry.pages.get? page.addr = some page ∧ page.state = .resident frame := by
  cases holder : registry.holders.get? frame with
  | none => simp [lookupFrame, holder] at found
  | some addr =>
    have found : registry.pages.get? addr = some page := by
      simpa [lookupFrame, holder] using found
    obtain ⟨writable, placed⟩ := sound.holders.1 holder
    obtain ⟨same, registered, resident, _⟩ := placement_eq_some.1 placed
    rw [found] at registered
    cases registered
    rw [sound.keyed found]
    exact ⟨found, resident⟩

end Sound

/-! What the operations do. -/

section operations
variable {page : Page} {addr : VirtualAddress} {frame : FrameNumber}

/-- A registry stays sound with a descriptor put in, if the index of frames fits it. -/
theorem Sound.insert (sound : registry.Sound) (page : Page) (aligned : page.addr.isPageAligned = true)
    (user : page.addr.isUser = true) (parity : page.generation % 2 = 1 ↔ page.isResident = true)
    (unpinned : page.isResident = false → page.pinned = false) (fits : page.backing.Fits)
    {holders : SortedMap FrameNumber VirtualAddress} (index : ∀ frame addr, holders.get? frame = some addr ↔
      ∃ writable, (Registry.mk (registry.pages.insert page.addr page) holders).placement addr =
        some (frame, writable)) :
    (Registry.mk (registry.pages.insert page.addr page) holders).Sound where
  keyed found := by
    rcases get?_insert_cases found with ⟨same, rfl⟩ | ⟨_, found⟩
    · exact same
    · exact sound.keyed found
  aligned found := by
    rcases get?_insert_cases found with ⟨same, rfl⟩ | ⟨_, found⟩
    · exact same ▸ aligned
    · exact sound.aligned found
  user found := by
    rcases get?_insert_cases found with ⟨same, rfl⟩ | ⟨_, found⟩
    · exact same ▸ user
    · exact sound.user found
  holders := index _ _
  parity found := by
    rcases get?_insert_cases found with ⟨_, rfl⟩ | ⟨_, found⟩
    · exact parity
    · exact sound.parity found
  unpinned found := by
    rcases get?_insert_cases found with ⟨_, rfl⟩ | ⟨_, found⟩
    · exact unpinned
    · exact sound.unpinned found
  fits found := by
    rcases get?_insert_cases found with ⟨_, rfl⟩ | ⟨_, found⟩
    · exact fits
    · exact sound.fits found

theorem Sound.erase (sound : registry.Sound) {holders : SortedMap FrameNumber VirtualAddress}
    (index : ∀ frame other, holders.get? frame = some other ↔
      ∃ writable, (Registry.mk (registry.pages.erase addr) holders).placement other =
        some (frame, writable)) :
    (Registry.mk (registry.pages.erase addr) holders).Sound := by
  have kept : ∀ {other found}, (registry.pages.erase addr).get? other = some found →
      registry.pages.get? other = some found := by
    intro other found lookup
    rw [SortedMap.get?_erase] at lookup
    split at lookup
    · cases lookup
    · exact lookup
  exact {
    keyed := fun found => sound.keyed (kept found)
    aligned := fun found => sound.aligned (kept found)
    user := fun found => sound.user (kept found)
    holders := index _ _
    parity := fun found => sound.parity (kept found)
    unpinned := fun found => sound.unpinned (kept found)
    fits := fun found => sound.fits (kept found) }

theorem Sound.revise (sound : registry.Sound) (page : Page) (aligned : page.addr.isPageAligned = true)
    (user : page.addr.isUser = true) (parity : page.generation % 2 = 1 ↔ page.isResident = true)
    (unpinned : page.isResident = false → page.pinned = false) (fits : page.backing.Fits)
    (same : page.frame?.map (fun frame => (frame, page.writable)) = registry.placement page.addr) :
    ({ registry with pages := registry.pages.insert page.addr page } : Registry).Sound := by
  refine sound.insert page aligned user parity unpinned fits fun frame addr => ?_
  rw [sound.holders]
  exact exists_congr fun writable => by rw [← placement_revise page same]

theorem Sound.add (sound : registry.Sound) (accepted : registry.refusal? page.addr = none)
    (unloaded : page.state = .unloaded) (first : page.generation = 0)
    (free : page.pinned = false) (fits : page.backing.Fits) :
    (registry.add page).Sound ∧ ∀ other, (registry.add page).placement other =
      registry.placement other := by
  obtain ⟨absent, aligned, user⟩ := refusal?_eq_none accepted
  have nowhere : page.frame? = none := by rw [Page.frame?, unloaded]
  have same : page.frame?.map (fun frame => (frame, page.writable)) =
      registry.placement page.addr := by
    rw [nowhere, placement, absent]
    rfl
  refine ⟨sound.revise page aligned user ?_ (fun _ => free) fits same, placement_revise page same⟩
  simp [Page.isResident, nowhere, first]

/-- Giving a page its backing moves nothing. -/
theorem Sound.classify (sound : registry.Sound) {backing : Backing} {after : Registry}
    (done : registry.classify addr backing = .ok after) (fits : backing.Fits) :
    after.Sound ∧ ∀ other, after.placement other = registry.placement other := by
  unfold Registry.classify at done
  split at done
  · cases done
  · rename_i page found
    split at done
    · cases done
      have here := sound.keyed found
      subst here
      have same : page.frame?.map (fun frame => (frame, page.writable)) =
          registry.placement page.addr := (placement_of_page found).symm
      have parity := sound.parity found
      have unpinned := sound.unpinned found
      exact ⟨sound.revise { page with backing } (sound.aligned found) (sound.user found) parity
        unpinned fits same, placement_revise { page with backing } same⟩
    · cases done

/-- A page that was nowhere is placed in a frame that held nothing. -/
theorem Sound.settle (sound : registry.Sound) (found : registry.pages.get? page.addr = some page)
    (away : page.isResident = false) (empty : registry.holders.get? frame = none)
    (pinned : Bool) :
    (registry.settle page frame pinned).Sound ∧
      ∀ other, (registry.settle page frame pinned).placement other =
        if page.addr = other then some (frame, page.writable) else registry.placement other := by
  have placement : ∀ other, (registry.settle page frame pinned).placement other =
      if page.addr = other then some (frame, page.writable) else registry.placement other :=
    placement_insert registry { page with
      state := .resident frame, pinned, generation := page.generation + 1 } _
  have fits := sound.fits found
  refine ⟨sound.insert { page with
    state := .resident frame, pinned, generation := page.generation + 1 }
    (sound.aligned found) (sound.user found) ?_ ?_ fits ?_, placement⟩
  · have even := sound.parity found
    rw [away] at even
    simp only [Page.isResident, Page.frame?, Option.isSome_some, iff_true]
    have : page.generation % 2 ≠ 1 := fun odd => Bool.false_ne_true (even.1 odd)
    omega
  · intro gone
    simp [Page.isResident, Page.frame?] at gone
  · intro other_frame other
    change (registry.holders.insert frame page.addr).get? other_frame = some other ↔
      ∃ writable, (registry.settle page frame pinned).placement other = some (other_frame, writable)
    rw [placement]
    by_cases here : frame = other_frame
    · subst here
      rw [SortedMap.get?_insert_self]
      constructor
      · intro same
        rw [if_pos (Option.some.inj same)]
        exact ⟨_, rfl⟩
      · rintro ⟨writable, placed⟩
        split at placed
        · rename_i same
          rw [same]
        · have held := sound.holders.2 ⟨writable, placed⟩
          rw [empty] at held
          cases held
    · rw [SortedMap.get?_insert_of_ne _ _ here, sound.holders]
      have nowhere : registry.placement page.addr = none := by
        rw [placement_of_page found]
        simpa [Page.isResident] using away
      split
      · rename_i same
        subst same
        simp [nowhere, here]
      · rfl

/-- A page that left its frame is placed nowhere. -/
theorem Sound.detach (sound : registry.Sound) (found : registry.lookupFrame frame = some page)
    {state : PageState} (away : ∀ frame, state ≠ .resident frame) :
    (registry.detach frame state).Sound ∧
      ∀ other, (registry.detach frame state).placement other =
        if page.addr = other then none else registry.placement other := by
  obtain ⟨registered, resident⟩ := sound.lookupFrame_eq_some found
  have placed : registry.placement page.addr = some (frame, page.writable) :=
    placement_eq_some.2 ⟨page, registered, resident, rfl⟩
  have holder := sound.holders.2 ⟨_, placed⟩
  let left : Page := { page with state, pinned := false, generation := page.generation + 1 }
  have nowhere : left.frame? = none := by
    cases gone : state with
    | resident other => exact absurd gone (away other)
    | unloaded => simp [left, Page.frame?, gone]
    | swapped slot => simp [left, Page.frame?, gone]
  have after : registry.detach frame state =
      ⟨registry.pages.insert left.addr left, registry.holders.erase frame⟩ := by
    simp only [Registry.detach, holder, registered, left]
  have placement : ∀ other, (registry.detach frame state).placement other =
      if page.addr = other then none else registry.placement other := by
    intro other
    rw [after, placement_insert, nowhere]
    rfl
  refine ⟨?_, placement⟩
  rw [after]
  have fits := sound.fits registered
  refine sound.insert left (sound.aligned registered) (sound.user registered) ?_ (fun _ => rfl)
    fits ?_
  · have odd := (sound.parity registered).2 (by simp [Page.isResident, Page.frame?, resident])
    have even : (page.generation + 1) % 2 = 0 := by omega
    simp [left, Page.isResident, nowhere, even]
  · intro other_frame other
    rw [← after, placement]
    by_cases here : frame = other_frame
    · subst here
      rw [SortedMap.get?_erase_self]
      constructor
      · intro same
        cases same
      · rintro ⟨writable, held⟩
        split at held
        · cases held
        · rename_i differ
          exact absurd (sound.placement_injective placed held) differ
    · rw [SortedMap.get?_erase_of_ne _ here, sound.holders]
      split
      · rename_i same
        subst same
        simp [placed, here]
      · rfl

theorem Sound.pin? (sound : registry.Sound) {after : Registry}
    (pinned : registry.pin? addr = some (frame, after)) :
    (∃ writable, registry.placement addr = some (frame, writable)) ∧ after.Sound ∧
      ∀ other, after.placement other = registry.placement other := by
  cases found : registry.pages.get? addr with
  | none => simp [Registry.pin?, found] at pinned
  | some page =>
    cases resident : page.frame? with
    | none => simp [Registry.pin?, found, resident] at pinned
    | some held =>
      simp only [Registry.pin?, found, resident, Option.bind_eq_bind, Option.bind_some,
        Option.pure_def, Option.some.injEq, Prod.mk.injEq] at pinned
      obtain ⟨rfl, rfl⟩ := pinned
      have here := sound.keyed found
      subst here
      have placed : registry.placement page.addr = some (held, page.writable) := by
        rw [placement_of_page found, resident]
        rfl
      have same : page.frame?.map (fun frame => (frame, page.writable)) =
          registry.placement page.addr := (placement_of_page found).symm
      have parity := sound.parity found
      have fits := sound.fits found
      refine ⟨⟨_, placed⟩, ?_, placement_revise { page with pinned := true } same⟩
      refine sound.revise { page with pinned := true } (sound.aligned found) (sound.user found)
        parity ?_ fits same
      intro gone
      have still : page.isResident = false := gone
      rw [Page.isResident, resident] at still
      cases still

theorem Sound.unpinFrame (sound : registry.Sound) (frame : FrameNumber) :
    (registry.unpinFrame frame).Sound ∧
      ∀ other, (registry.unpinFrame frame).placement other = registry.placement other := by
  unfold Registry.unpinFrame
  split
  · exact ⟨sound, fun _ => rfl⟩
  · rename_i addr holder
    split
    · exact ⟨sound, fun _ => rfl⟩
    · rename_i page found
      have here := sound.keyed found
      subst here
      have same : page.frame?.map (fun frame => (frame, page.writable)) =
          registry.placement page.addr := (placement_of_page found).symm
      have parity := sound.parity found
      have fits := sound.fits found
      exact ⟨sound.revise { page with pinned := false } (sound.aligned found) (sound.user found)
        parity (fun _ => rfl) fits same, placement_revise { page with pinned := false } same⟩

theorem Sound.take? (sound : registry.Sound) {after : Registry}
    (taken : registry.take? addr = some (page, after)) :
    registry.pages.get? addr = some page ∧ after.Sound ∧
      (∀ other, after.pages.get? other = if addr = other then none else registry.pages.get? other) ∧
      ∀ other, after.placement other = if addr = other then none else registry.placement other := by
  cases found : registry.pages.get? addr with
  | none => simp [Registry.take?, found] at taken
  | some taken_page =>
    simp only [Registry.take?, found, Option.bind_eq_bind, Option.bind_some, Option.pure_def,
      Option.some.injEq, Prod.mk.injEq] at taken
    obtain ⟨rfl, rfl⟩ := taken
    have pages : ∀ other, (registry.pages.erase addr).get? other =
        if addr = other then none else registry.pages.get? other := by
      intro other
      rw [SortedMap.get?_erase]
      by_cases same : addr = other
      · rw [if_pos same, if_pos (congrArg rank same)]
      · rw [if_neg same, if_neg fun eq => same (rank_injective eq)]
    have placement : ∀ holders other,
        (Registry.mk (registry.pages.erase addr) holders).placement other =
          if addr = other then none else registry.placement other := by
      intro holders other
      simp only [Registry.placement, pages]
      split <;> rfl
    refine ⟨rfl, sound.erase fun frame other => ?_, pages, placement _⟩
    rw [placement]
    -- A frame other than that of the page taken leads elsewhere already.
    have elsewhere : registry.holders.get? frame = some other → taken_page.state ≠ .resident frame →
        addr ≠ other := by
      rintro holder away rfl
      obtain ⟨writable, placed⟩ := sound.holders.1 holder
      obtain ⟨page, again, resident, _⟩ := placement_eq_some.1 placed
      rw [found] at again
      cases again
      exact away resident
    have stays : taken_page.state ≠ .resident frame → (registry.holders.get? frame = some other ↔
        ∃ writable, (if addr = other then none else registry.placement other) =
          some (frame, writable)) := by
      intro away
      constructor
      · intro holder
        rw [if_neg (elsewhere holder away)]
        exact sound.holders.1 holder
      · rintro ⟨writable, held⟩
        split at held
        · cases held
        · exact sound.holders.2 ⟨writable, held⟩
    cases state : taken_page.state with
    | unloaded => exact stays (by rw [state]; nofun)
    | swapped => exact stays (by rw [state]; nofun)
    | resident held =>
      by_cases same : held = frame
      · subst same
        have placed : registry.placement addr = some (held, taken_page.writable) :=
          placement_eq_some.2 ⟨_, found, state, rfl⟩
        rw [SortedMap.get?_erase_self]
        constructor
        · intro none
          cases none
        · rintro ⟨writable, there⟩
          split at there
          · cases there
          · rename_i differ
            exact absurd (sound.placement_injective placed there) differ
      · rw [SortedMap.get?_erase_of_ne _ same]
        exact stays (by rw [state]; exact fun equal => same (PageState.resident.inj equal))

end operations

end Registry

end DemandPaging
