import DemandPaging.Proofs.Lives
import DemandPaging.Proofs.Supplies

/-! What the bytes of pages are. A byte of a registered page is the one that was last written to its
address, or else the one that the page was loaded with the first time. Wherever the page is, in a frame,
in a slot or nowhere, that byte can be had again: no move loses it. -/
namespace DemandPaging
open Architecture (Lawful)

namespace VirtualAddress

def offset (addr : VirtualAddress) (place : Nat) : VirtualAddress := ⟨addr.value + place⟩

theorem offset_offset (addr : VirtualAddress) (first second : Nat) :
    (addr.offset first).offset second = addr.offset (first + second) :=
  congrArg mk (Nat.add_assoc _ _ _)

variable [Geometry]

theorem offset_pageOffset (addr : VirtualAddress) : addr.pageBase.offset addr.pageOffset = addr :=
  congrArg mk (Nat.sub_add_cancel (Nat.mod_le _ _))

theorem pageOffset_offset {page : VirtualAddress} (aligned : page.isPageAligned = true) {place : Nat}
    (within : place < pageSize) : (page.offset place).pageOffset = place := by
  have base : page.value % pageSize = 0 := beq_iff_eq.1 aligned
  change (page.value + place) % pageSize = place
  rw [Nat.add_mod, base, Nat.zero_add, Nat.mod_mod, Nat.mod_eq_of_lt within]

theorem pageBase_offset {page : VirtualAddress} (aligned : page.isPageAligned = true) {place : Nat}
    (within : place < pageSize) : (page.offset place).pageBase = page := by
  have offset := pageOffset_offset aligned within
  unfold pageOffset at offset
  unfold pageBase
  rw [offset]
  exact congrArg mk (Nat.add_sub_cancel _ _)

end VirtualAddress

/-- The byte that was last written to each address of each space since the page there was registered, if
there was one. -/
abbrev Written := SpaceId → VirtualAddress → Option UInt8

namespace Written
variable {written : Written} {space : SpaceId} {first : VirtualAddress}

def put (written : Written) (space : SpaceId) (first : VirtualAddress) (bytes : Bytes) : Written :=
  fun other addr =>
    if other = space ∧ first.value ≤ addr.value ∧ addr.value < first.value + bytes.length then
      bytes[addr.value - first.value]?
    else written other addr

theorem put_nil : written.put space first [] = written := by
  funext other addr
  refine if_neg fun ⟨_, above, below⟩ => ?_
  exact Nat.not_lt_of_le above below

/-- Bytes that are written where others end continue those. -/
theorem put_append (bytes more : Bytes) :
    (written.put space first bytes).put space (first.offset bytes.length) more =
      written.put space first (bytes ++ more) := by
  funext other addr
  unfold put VirtualAddress.offset
  dsimp only
  rw [List.length_append]
  by_cases same : other = space
  · simp only [same, true_and]
    by_cases early : addr.value < first.value + bytes.length
    · rw [if_neg fun later => by omega]
      by_cases above : first.value ≤ addr.value
      · rw [if_pos ⟨above, early⟩, if_pos ⟨above, by omega⟩, List.getElem?_append_left (by omega)]
      · rw [if_neg fun inside => above inside.1, if_neg fun inside => above inside.1]
    · by_cases inside : addr.value < first.value + (bytes.length + more.length)
      · rw [if_pos ⟨by omega, by omega⟩, if_pos ⟨by omega, inside⟩,
          List.getElem?_append_right (by omega), Nat.sub_sub]
      · rw [if_neg fun later => by omega, if_neg fun early => by omega, if_neg fun late => by omega]
  · simp only [same, false_and, if_false]

theorem put_offset {page : VirtualAddress} {start : Nat} {bytes : Bytes} (place : Nat) :
    written.put space (page.offset start) bytes space (page.offset place) =
      if start ≤ place ∧ place < start + bytes.length then bytes[place - start]?
      else written space (page.offset place) := by
  unfold put VirtualAddress.offset
  simp only [true_and, Nat.add_assoc, Nat.add_le_add_iff_left, Nat.add_lt_add_iff_left,
    Nat.add_sub_add_left]

/-- What is written to addresses of one page is not written to another. -/
theorem put_apart [Geometry] {page other : VirtualAddress} {owner : SpaceId} {place start : Nat}
    {bytes : Bytes} (aligned : page.isPageAligned = true) (also : other.isPageAligned = true)
    (fits : start + bytes.length ≤ pageSize) (within : place < pageSize)
    (differ : ¬(owner = space ∧ other = page)) :
    written.put space (page.offset start) bytes owner (other.offset place) =
      written owner (other.offset place) := by
  refine if_neg fun ⟨same, above, below⟩ => differ ⟨same, ?_⟩
  have here : other.offset place = page.offset (other.value + place - page.value) := by
    unfold VirtualAddress.offset at above below ⊢
    dsimp only at above below
    exact congrArg VirtualAddress.mk (by omega)
  have near : other.value + place - page.value < pageSize := by
    unfold VirtualAddress.offset at above below
    dsimp only at above below
    omega
  rw [← VirtualAddress.pageBase_offset also within, here, VirtualAddress.pageBase_offset aligned near]

def Misses [Geometry] (written : Written) (space : SpaceId) (page : VirtualAddress) : Prop :=
  ∀ place < pageSize, written space (page.offset place) = none

end Written

/-- Pages into whose frames bytes were written that nothing tells to save, with the generations in which
they were then. -/
abbrev Exposed := SpaceId → VirtualAddress → Nat → Prop

/-- A page is not one of those, or is still in the frame in which it was then. -/
def Exposed.Spares (exposed : Exposed) (space : SpaceId) (page : Page) : Prop :=
  ∀ {generation}, exposed space page.addr generation → page.generation ≤ generation

def Exposed.none : Exposed := fun _ _ _ => False

section
variable [Architecture]

namespace Machine

/-- No page has left a frame in which bytes were written that nothing told to save. -/
def Spares (machine : Machine) (exposed : Exposed) : Prop :=
  ∀ {space addr page}, (machine.registry space).pages.get? addr = some page → exposed.Spares space page

theorem spares_none (machine : Machine) : machine.Spares .none :=
  fun _ _ => False.elim

/-- What is written to pages is forgotten once they are not registered any more. -/
def retained (machine : Machine) (written : Written) : Written := fun space addr =>
  if ((machine.registry space).lookup addr).isSome then written space addr else none

/-- The byte at a place of a page before anything is written there. Of a page that is loaded from a
file, it is the byte of the file, and zero behind what is read of that. -/
def originalByte (machine : Machine) (backing : Backing) (place : Nat) : Option UInt8 :=
  match backing with
  | .unclassified => none
  | .zero => some 0
  | .file segment =>
      if place < segment.readBytes then
        (machine.file segment.file).contents[segment.offset + place]?
      else some 0

def byte? (machine : Machine) (written : Written) (space : SpaceId) (addr : VirtualAddress) :
    Option UInt8 :=
  ((machine.registry space).lookup addr).bind fun page =>
    (written space addr).or (machine.originalByte page.backing addr.pageOffset)

/-- All bytes of a page are as they have to be. -/
def Shows (machine : Machine) (written : Written) (space : SpaceId) (page : Page) (bytes : Bytes) :
    Prop :=
  ∀ place < pageSize, ∃ byte, bytes[place]? = some byte ∧
    (written space (page.addr.offset place)).or (machine.originalByte page.backing place) = some byte

/-- The bytes of a page can be had from where the page is. -/
structure Recalls (machine : Machine) (exposed : Exposed) (written : Written) (space : SpaceId)
    (page : Page) : Prop where
  unloaded : page.state = .unloaded → written.Misses space page.addr
  resident : ∀ {frame}, page.state = .resident frame →
    ∃ bytes, machine.memory.read frame = .ok bytes ∧ machine.Shows written space page bytes
  clean : ∀ {frame}, page.state = .resident frame → machine.isDirty space page.addr = false →
    page.backing.alwaysSwaps = false →
      written.Misses space page.addr ∨ exposed space page.addr page.generation
  swapped : ∀ {slot}, page.state = .swapped slot →
    machine.Shows written space page (machine.swap.contents slot)

end Machine

/-- An act by which nobody writes bytes, and nobody reaches behind the back of the memory manager. -/
def Act.Plain : Act → Prop
  | .store | .stray | .meddle | .scribble | .tamper => False
  | _ => True

omit [Architecture] in
theorem Act.Plain.honest {act : Act} (plain : act.Plain) : act.Honest := by
  cases act <;> first | exact plain.elim | trivial

variable [Lawful] {act : Act} {start stop : Moment}

/-- The original bytes of a page stay what they are. -/
theorem Move.original (move : Move act start stop) {backing : Backing}
    (backs : start.machine.Backs backing) (place : Nat) :
    stop.machine.originalByte backing place = start.machine.originalByte backing place := by
  cases backing with
  | unclassified | zero => rfl
  | file segment =>
    unfold Machine.originalByte
    dsimp only
    rw [move.file backs.2]

/-- Memory changes in the frame of the latest load at most. -/
theorem Move.memory (move : Move act start stop) (plain : act.Plain) {frame : FrameNumber}
    (elsewhere : ∀ flight flights, start.ledger.flights = flight :: flights → flight.load.frame ≠ frame) :
    stop.machine.memory.read frame = start.machine.memory.read frame := by
  cases move with
  | idle idle =>
    dsimp only
    rw [idle.memory]
  | scribble | stray | tamper | store | meddle | share => exact plain.elim
  | fill written => exact Memory.read_write_of_ne written (elsewhere _ _ rfl).symm
  | drop | expel =>
    change (Machine.vacate _ _ _).memory.read frame = _
    rw [Machine.memory_vacate]
  | unpin =>
    dsimp only
    rw [Machine.memory_unpin]
  | register | grow | classify | evict | take | attach | abandon | pin | handOut | takeBack | create
  | misfree | lend | recover | refuse => rfl

/-- The frame of a page is not that of a load. -/
theorem Move.memory_placed (move : Move act start stop) (plain : act.Plain) (consistent : Consistent start)
    {space : SpaceId} {addr : VirtualAddress} {page : Page} {frame : FrameNumber}
    (found : (start.machine.registry space).pages.get? addr = some page)
    (resident : page.state = .resident frame) :
    stop.machine.memory.read frame = start.machine.memory.read frame := by
  refine move.memory plain fun flight flights latest same => ?_
  have member : flight.load ∈ start.ledger.loads := by
    rw [Ledger.loads, latest]
    exact .head _
  have placed : start.machine.placement space addr = some (frame, page.writable) :=
    Registry.placement_eq_some.2 ⟨page, found, resident, rfl⟩
  exact consistent.held.apart (Ledger.mem_keepers member) placed same.symm

/-! What is loaded. -/

omit [Lawful] in
/-- A page that could be loaded from its backing is loaded with its original bytes. -/
theorem Machine.initial_original {machine : Machine} {page : Page} (backs : machine.Backs page.backing)
    (whole : pageSize ≤ (machine.initial page).length) {place : Nat} (within : place < pageSize) :
    ∃ byte, (machine.initial page)[place]? = some byte ∧
      machine.originalByte page.backing place = some byte := by
  unfold initial at whole ⊢
  cases backing : page.backing with
  | unclassified =>
    rw [backing] at whole
    exact absurd (Nat.lt_of_lt_of_le within whole) (Nat.not_lt_zero _)
  | zero => exact ⟨0, by simp [within], rfl⟩
  | file segment =>
    rw [backing] at whole backs
    obtain ⟨fits, _⟩ := backs
    dsimp only at whole ⊢
    rw [List.length_append, List.length_replicate, FileSegment.zeroBytes] at whole
    have short : ((machine.file segment.file).contents.slice segment.offset segment.readBytes).length ≤
        segment.readBytes := List.length_take_le _ _
    have full : ((machine.file segment.file).contents.slice segment.offset segment.readBytes).length =
        segment.readBytes := by omega
    unfold originalByte
    dsimp only
    by_cases early : place < segment.readBytes
    · rw [if_pos early, List.getElem?_append_left (by omega), Bytes.slice, List.getElem?_take_of_lt early,
        List.getElem?_drop]
      have inside : segment.offset + place < (machine.file segment.file).contents.length := by
        rw [Bytes.slice, List.length_take, List.length_drop] at full
        omega
      exact ⟨_, List.getElem?_eq_getElem inside, List.getElem?_eq_getElem inside⟩
    · rw [if_neg early, List.getElem?_append_right (by omega), full, List.getElem?_replicate,
        if_pos (by rw [FileSegment.zeroBytes]; omega)]
      exact ⟨0, rfl, rfl⟩

namespace Machine
variable {machine : Machine} {exposed : Exposed} {written : Written} {space : SpaceId} {page after : Page}

omit [Lawful] in
/-- The bytes behind a page do not matter. -/
theorem Shows.of_take {bytes other : Bytes} (shows : machine.Shows written space page other)
    (same : bytes.take pageSize = other.take pageSize) : machine.Shows written space page bytes := by
  intro place within
  obtain ⟨byte, here, told⟩ := shows place within
  refine ⟨byte, ?_, told⟩
  rw [← List.getElem?_take_of_lt within, same, List.getElem?_take_of_lt within, here]

omit [Lawful] in
theorem Recalls.of_unloaded (state : page.state = .unloaded) (misses : written.Misses space page.addr) :
    machine.Recalls exposed written space page := by
  refine ⟨fun _ => misses, fun other => ?_, fun other => ?_, fun other => ?_⟩
  all_goals cases state.symm.trans other

omit [Lawful] in
theorem Recalls.of_resident {frame : FrameNumber} (state : page.state = .resident frame)
    {bytes : Bytes} (read : machine.memory.read frame = .ok bytes)
    (shows : machine.Shows written space page bytes)
    (clean : machine.isDirty space page.addr = false → page.backing.alwaysSwaps = false →
      written.Misses space page.addr ∨ exposed space page.addr page.generation) :
    machine.Recalls exposed written space page := by
  refine ⟨fun other => ?_, fun other => ?_, fun _ => clean, fun other => ?_⟩
  all_goals cases state.symm.trans other
  exact ⟨bytes, read, shows⟩

omit [Lawful] in
theorem Recalls.of_swapped {slot : SwapSlot} (state : page.state = .swapped slot)
    (shows : machine.Shows written space page (machine.swap.contents slot)) :
    machine.Recalls exposed written space page := by
  refine ⟨fun other => ?_, fun other => ?_, fun other => ?_, fun other => ?_⟩
  all_goals cases state.symm.trans other
  exact shows

omit [Lawful] in
/-- What a page is loaded with is what it has to show. -/
theorem Recalls.supply (recalls : machine.Recalls exposed written space page)
    (backs : machine.Backs page.backing) (away : page.isResident = false)
    (whole : pageSize ≤ (machine.supply page).length) :
    machine.Shows written space page (machine.supply page) := by
  cases state : page.state with
  | resident frame =>
    rw [Page.isResident, Page.frame?, state] at away
    cases away
  | swapped slot =>
    rw [Machine.supply, state]
    exact recalls.swapped state
  | unloaded =>
    have same : machine.supply page = machine.initial page := by rw [Machine.supply, state]
    rw [same] at whole ⊢
    intro place within
    rw [recalls.unloaded state place within]
    exact initial_original backs whole within

end Machine

/-! Moves. -/

/-- Of every registered page the bytes can be had, unless they were in a frame, nothing told to save them,
and the page has left that frame. -/
structure Faithful (exposed : Exposed) (written : Written) (now : Moment) : Prop extends Supplied now where
  mapped : Mapped now.machine
  recalls : ∀ {space addr page}, (now.machine.registry space).pages.get? addr = some page →
    exposed.Spares space page → now.machine.Recalls exposed written space page

def Written.Blank (written : Written) (machine : Machine) : Prop :=
  ∀ {space addr}, (machine.registry space).lookup addr = none → written space addr = none

def Act.Adds (act : Act) (loads : List Load) : Prop :=
  ∃ space addr, act = .register loads space addr ∨ act = .grow loads space addr

def Act.Drops (act : Act) : Prop :=
  ∃ space addr, act = .drop space addr ∨ act = .expel space addr

omit [Lawful] in
theorem Turns.spares {exposed : Exposed} {space : SpaceId} {page after : Page}
    (turns : Turns start stop space page after) (spares : exposed.Spares space after) :
    exposed.Spares space page := by
  intro generation known
  have keyed : after.addr = page.addr := by cases turns <;> rfl
  rw [← keyed] at known
  exact Nat.le_trans turns.generation.1 (spares known)

/-- A page that stays where it is keeps its bytes, if those of its frame or slot stay. -/
theorem Faithful.remains {exposed : Exposed} {written : Written} {space : SpaceId} {addr : VirtualAddress}
    {page after : Page} (faithful : Faithful exposed written start) (move : Move act start stop)
    (untouched : act ≠ .meddle ∧ act ≠ .stray)
    (found : (start.machine.registry space).pages.get? addr = some page)
    (now : (stop.machine.registry space).pages.get? addr = some after) (keyed : after.addr = page.addr)
    (state : after.state = page.state) (generation : after.generation = page.generation)
    (saves : after.backing.alwaysSwaps = false → page.backing.alwaysSwaps = false)
    (spares : exposed.Spares space after)
    (memory : ∀ {frame}, page.state = .resident frame →
      stop.machine.memory.read frame = start.machine.memory.read frame)
    (slots : ∀ {slot}, page.state = .swapped slot →
      stop.machine.swap.contents slot = start.machine.swap.contents slot)
    (shows : ∀ {bytes}, start.machine.Shows written space page bytes →
      stop.machine.Shows written space after bytes) :
    stop.machine.Recalls exposed written space after := by
  have recalls := faithful.recalls found fun {earlier} known => by
    rw [← generation]
    rw [← keyed] at known
    exact spares known
  have here : page.addr = addr := (faithful.sound space).keyed found
  constructor
  · rw [state, keyed]
    exact recalls.unloaded
  · intro frame resident
    rw [state] at resident
    obtain ⟨bytes, read, shown⟩ := recalls.resident resident
    exact ⟨bytes, (memory resident).trans read, shows shown⟩
  · intro frame resident clean needless
    rw [keyed, here] at clean
    rw [keyed, generation]
    refine recalls.clean (state ▸ resident) (Bool.eq_false_iff.2 fun dirty => ?_) (saves needless)
    rw [here] at dirty
    have placed : start.machine.placement space addr = some (frame, page.writable) :=
      Registry.placement_eq_some.2 ⟨page, found, state ▸ resident, rfl⟩
    have stays : stop.machine.placement space addr = some (frame, after.writable) :=
      Registry.placement_eq_some.2 ⟨after, now, resident, rfl⟩
    rw [faithful.mapped.keeps_dirty move faithful.toConsistent untouched placed stays dirty] at clean
    cases clean
  · intro slot swapped
    rw [state] at swapped
    rw [slots swapped]
    exact shows (recalls.swapped swapped)

namespace Faithful
variable {exposed : Exposed} {written : Written} {space : SpaceId} {addr : VirtualAddress}
  {page after : Page} (faithful : Faithful exposed written start) (move : Move act start stop)
  (plain : act.Plain)
include faithful move plain

/-- Whatever becomes of a page, its bytes can be had. -/
theorem turns (turns : Turns start stop space page after)
    (found : (start.machine.registry space).pages.get? addr = some page)
    (now : (stop.machine.registry space).pages.get? addr = some after)
    (spares : exposed.Spares space after) : stop.machine.Recalls exposed written space after := by
  have recalls := faithful.recalls found (turns.spares spares)
  have original := move.original (faithful.backs found)
  have untouched : act ≠ .meddle ∧ act ≠ .stray := by
    constructor <;> · rintro rfl
                      exact plain
  -- A page with the same address and backing has to show the same.
  have shows : ∀ {other : Page} {bytes}, other.addr = page.addr → other.backing = page.backing →
      start.machine.Shows written space page bytes → stop.machine.Shows written space other bytes := by
    intro other bytes keyed backing shows place within
    rw [keyed, backing, original]
    exact shows place within
  -- A page that stays where it is.
  have remains : ∀ {other : Page}, (stop.machine.registry space).pages.get? addr = some other →
      exposed.Spares space other → other.addr = page.addr → other.state = page.state →
      other.generation = page.generation →
      (other.backing.alwaysSwaps = false → page.backing.alwaysSwaps = false) →
      (∀ {bytes}, start.machine.Shows written space page bytes →
        stop.machine.Shows written space other bytes) →
      stop.machine.Recalls exposed written space other :=
    fun now spares keyed state generation saves shows =>
      faithful.remains move untouched found now keyed state generation saves spares
        (fun resident => move.memory_placed plain faithful.toConsistent found resident)
        (fun swapped => move.slot plain.honest faithful.sectors (faithful.used found swapped)) shows
  cases turns with
  | stays | marked => exact remains now spares rfl rfl rfl id (shows rfl rfl)
  | @classified backing bare =>
    refine remains now spares rfl rfl rfl (fun _ => by rw [bare]; rfl) fun told place within => ?_
    obtain ⟨byte, here, known⟩ := told place within
    rw [bare] at known
    refine ⟨byte, here, ?_⟩
    cases latest : written space (page.addr.offset place) with
    | none =>
      rw [latest] at known
      cases known
    | some last =>
      rw [latest] at known
      exact known
  | @leaves frame state swap resident unpinned saves stored =>
    cases saves with
    | discard clean kept =>
      refine .of_unloaded rfl ((recalls.clean resident clean kept).resolve_right fun known => ?_)
      exact Nat.not_succ_le_self _ (spares known)
    | @save bytes slot swap read wrote =>
      refine .of_swapped rfl ?_
      rw [stored, (SwapStore.write_wrote faithful.sectors wrote).holds]
      obtain ⟨_, held, shown⟩ := recalls.resident resident
      cases held.symm.trans read
      exact shows rfl rfl shown
  | @arrives load flights pinned latest owner current first directory installed left =>
    subst owner
    have listed : (⟨load, pageSize⟩ : Flight) ∈ start.ledger.flights := by
      rw [latest]
      exact .head _
    have member : load ∈ start.ledger.loads := List.mem_map_of_mem listed
    have fair := faithful.fair load member
    obtain ⟨there, same⟩ := faithful.traced.current member current
    subst same
    obtain ⟨_, held, whole, _, arrived⟩ := (faithful.carries _ listed).whole there
    have shown := shows rfl rfl ((recalls.supply (faithful.backs found) fair.away whole).of_take arrived)
    refine .of_resident rfl (by rw [left]; exact held) shown fun clean _ => .inl ?_
    · rw [left, faithful.mapped.dirty_arrive faithful.toConsistent fair installed] at clean
      cases state : load.page.state with
      | unloaded => exact recalls.unloaded state
      | swapped slot =>
        rw [state] at clean
        cases clean
      | resident frame =>
        have away := fair.away
        rw [Page.isResident, Page.frame?, state] at away
        cases away

/-- No move loses the bytes of a page. -/
theorem step (avoids : act.Avoids start.ledger.loads)
    (fresh : ∀ loads, act.Adds loads → written.Blank start.machine) :
    Faithful exposed written stop := by
  have supplied := faithful.toSupplied.step move plain.honest avoids
  have unmeddled : act ≠ .meddle := by
    rintro rfl
    exact plain
  refine ⟨supplied, faithful.mapped.move move faithful.toConsistent unmeddled,
    fun {space addr page} now spares => ?_⟩
  have becomes := move.becomes faithful.toConsistent space addr
  rw [now] at becomes
  generalize before : (start.machine.registry space).pages.get? addr = old at becomes
  cases becomes with
  | turns turns => exact faithful.turns move plain turns before now spares
  | enters way unloaded =>
    have keyed := (supplied.sound space).keyed now
    have aligned := (supplied.sound space).aligned now
    refine .of_unloaded unloaded fun place within =>
      fresh _ ⟨_, _, way.imp_right And.left⟩ ?_
    rw [Registry.lookup, keyed, VirtualAddress.pageBase_offset aligned within, before]

omit plain in
/-- What a page has to show stays the same while it is registered. -/
theorem shown (keeps : ¬act.Drops) {byte : UInt8}
    (shown : start.machine.byte? written space addr = some byte) :
    stop.machine.byte? written space addr = some byte := by
  obtain ⟨page, found, told⟩ := Option.bind_eq_some_iff.1 shown
  have becomes := move.becomes faithful.toConsistent space addr.pageBase
  have before : (start.machine.registry space).pages.get? addr.pageBase = some page := found
  rw [before] at becomes
  generalize now : (stop.machine.registry space).pages.get? addr.pageBase = next at becomes
  cases becomes with
  | @turns _ after turns =>
    refine Option.bind_eq_some_iff.2 ⟨after, now, ?_⟩
    rcases turns.backing with same | ⟨bare, _⟩
    · rw [same, move.original (faithful.backs before)]
      exact told
    · rw [bare] at told
      cases latest : written space addr with
      | none =>
        rw [latest] at told
        cases told
      | some last =>
        rw [latest] at told
        exact told
  | gone dropped => exact absurd ⟨_, _, dropped⟩ keeps

end Faithful

/-- Nothing is said to be written elsewhere as long as no page is unregistered. -/
theorem Written.Blank.move {written : Written} (blank : written.Blank start.machine)
    (move : Move act start stop) (consistent : Consistent start) (keeps : ¬act.Drops) :
    written.Blank stop.machine := by
  intro space addr absent
  have now : (stop.machine.registry space).pages.get? addr.pageBase = none := absent
  have becomes := move.becomes consistent space addr.pageBase
  rw [now] at becomes
  refine blank ?_
  change (start.machine.registry space).pages.get? addr.pageBase = none
  generalize (start.machine.registry space).pages.get? addr.pageBase = old at becomes
  cases becomes with
  | absent => rfl
  | gone dropped => exact absurd ⟨_, _, dropped⟩ keeps

end

end DemandPaging
