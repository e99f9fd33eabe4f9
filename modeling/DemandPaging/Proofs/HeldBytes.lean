import DemandPaging.Proofs.KernelStores

/-! What pages hold. A registered page holds bytes in its frame, in its slot, or else in what backs it, and
that can be told from the machine alone. Beside a machine one may put the record of all bytes that its pages
hold otherwise than at first: whatever runs led there, the machine is faithful to this record. -/
namespace DemandPaging
open Architecture (Lawful)

section
variable [Architecture]

namespace Machine

def heldAt (machine : Machine) (page : Page) (place : Nat) : Option UInt8 :=
  match page.state with
  | .unloaded => machine.originalByte page.backing place
  | .resident frame => (machine.memory.read frame).toOption.bind (·[place]?)
  | .swapped slot => (machine.swap.contents slot)[place]?

def heldByte? (machine : Machine) (space : SpaceId) (addr : VirtualAddress) : Option UInt8 :=
  ((machine.registry space).lookup addr).bind (machine.heldAt · addr.pageOffset)

/-- The bytes that pages hold otherwise than at first. -/
def altered (machine : Machine) : Written := fun space addr =>
  ((machine.registry space).lookup addr).bind fun page =>
    if machine.heldAt page addr.pageOffset = machine.originalByte page.backing addr.pageOffset then none
    else machine.heldAt page addr.pageOffset

/-- A page of a file held other bytes than the file and was not marked as dirty, and it has left its frame
since, so that these bytes are lost. -/
def Forgets (machine next : Machine) (space : SpaceId) (addr : VirtualAddress) : Prop :=
  ∃ page after, (machine.registry space).lookup addr = some page ∧
    (next.registry space).lookup addr = some after ∧
    machine.exposed machine.altered space page.addr page.generation ∧ page.generation < after.generation

variable {machine next : Machine} {space : SpaceId} {addr : VirtualAddress} {page : Page} {place : Nat}

theorem heldAt_congr (place : Nat) (files : ∀ file, (next.file file).contents = (machine.file file).contents)
    (frame : ∀ frame, page.state = .resident frame → next.memory.read frame = machine.memory.read frame)
    (slot : ∀ slot, page.state = .swapped slot → next.swap.contents slot = machine.swap.contents slot) :
    next.heldAt page place = machine.heldAt page place := by
  unfold heldAt
  cases state : page.state with
  | unloaded =>
    unfold originalByte
    cases page.backing with
    | file segment =>
      dsimp only
      rw [files]
    | unclassified | zero => rfl
  | resident kept =>
    dsimp only
    rw [frame kept state]
  | swapped kept =>
    dsimp only
    rw [slot kept state]

theorem blank_altered : machine.altered.Blank machine := by
  intro space addr absent
  rw [altered, absent]
  rfl

theorem altered_offset (found : (machine.registry space).pages.get? addr = some page)
    (aligned : addr.isPageAligned = true) (within : place < pageSize) :
    machine.altered space (addr.offset place) =
      if machine.heldAt page place = machine.originalByte page.backing place then none
      else machine.heldAt page place := by
  rw [altered, Registry.lookup, VirtualAddress.pageBase_offset aligned within, found,
    VirtualAddress.pageOffset_offset aligned within]
  rfl

/-- What a page holds is what is on record of it, or else the original byte. -/
theorem heldAt_eq (found : (machine.registry space).pages.get? addr = some page)
    (aligned : addr.isPageAligned = true) (within : place < pageSize) {byte : UInt8}
    (held : machine.heldAt page place = some byte) :
    (machine.altered space (addr.offset place)).or (machine.originalByte page.backing place) =
      some byte := by
  rw [altered_offset found aligned within]
  split
  · rename_i same
    exact same.symm.trans held
  · rw [held]
    rfl

/-- Bytes that come to a page show it, if it holds them. -/
theorem shows_altered (found : (machine.registry space).pages.get? page.addr = some page)
    (aligned : page.addr.isPageAligned = true) {bytes : Bytes} (long : pageSize ≤ bytes.length)
    (held : ∀ place, machine.heldAt page place = bytes[place]?) :
    machine.Shows machine.altered space page bytes := by
  intro place within
  have inside : place < bytes.length := Nat.lt_of_lt_of_le within long
  have here := List.getElem?_eq_getElem inside
  exact ⟨_, here, heldAt_eq found aligned within ((held place).trans here)⟩

end Machine

variable [Lawful] {exposed : Exposed} {written : Written} {now : Moment} {ledger : Ledger}
  {machine next : Machine} {space : SpaceId} {addr : VirtualAddress} {page : Page} {byte : UInt8}

/-- A page that can be had holds what it has to show. -/
theorem Faithful.holds (faithful : Faithful exposed written ⟨ledger, machine⟩)
    (found : (machine.registry space).lookup addr = some page) (spares : exposed.Spares space page) :
    machine.heldByte? space addr = machine.byte? written space addr := by
  have there : (machine.registry space).pages.get? addr.pageBase = some page := found
  have recalls : machine.Recalls exposed written space page := faithful.recalls there spares
  have sound : (machine.registry space).Sound := faithful.sound space
  have keyed := sound.keyed there
  have within : addr.pageOffset < pageSize := Nat.mod_lt _ pageSize_pos
  rw [Machine.heldByte?, Machine.byte?, found]
  have here : page.addr.offset addr.pageOffset = addr := by
    rw [keyed, VirtualAddress.offset_pageOffset]
  have shown : ∀ {bytes}, machine.Shows written space page bytes → bytes[addr.pageOffset]? =
      (written space addr).or (machine.originalByte page.backing addr.pageOffset) := by
    intro bytes shows
    obtain ⟨_, there, told⟩ := shows addr.pageOffset within
    rw [here] at told
    rw [there, told]
  change machine.heldAt page addr.pageOffset = (written space addr).or _
  unfold Machine.heldAt
  split
  · rename_i unloaded
    have misses := recalls.unloaded unloaded addr.pageOffset within
    rw [here] at misses
    rw [misses]
    rfl
  · rename_i frame resident
    obtain ⟨bytes, read, shows⟩ := recalls.resident resident
    rw [read]
    exact shown shows
  · rename_i slot swapped
    exact shown (recalls.swapped swapped)

/-- A machine at which loads read what they should is faithful to what its pages hold. -/
theorem Supplied.faithful (supplied : Supplied ⟨ledger, machine⟩) (mapped : Mapped machine) :
    Faithful (machine.exposed machine.altered) machine.altered ⟨ledger, machine⟩ := by
  refine ⟨supplied, mapped, fun {space addr page} found _ => ?_⟩
  have sound : (machine.registry space).Sound := supplied.sound space
  have keyed := sound.keyed found
  have aligned := sound.aligned found
  have there : (machine.registry space).pages.get? addr = some page := found
  rw [← keyed] at there aligned
  cases state : page.state with
  | unloaded =>
    refine .of_unloaded state fun place within => ?_
    rw [Machine.altered_offset there aligned within]
    exact if_pos (by rw [Machine.heldAt, state])
  | resident frame =>
    obtain ⟨bytes, read, long⟩ := supplied.filled found state
    have read : machine.memory.read frame = .ok bytes := read
    refine .of_resident state read (Machine.shows_altered there aligned long fun place => ?_)
      fun clean needless => ?_
    · rw [Machine.heldAt, state]
      change (machine.memory.read frame).toOption.bind _ = _
      rw [read]
      rfl
    · by_cases misses : machine.altered.Misses space page.addr
      · exact .inl misses
      · exact .inr ⟨page, frame, there, rfl, state, clean, needless, misses⟩
  | swapped slot =>
    have long : (machine.swap.contents slot).length = pageSize :=
      machine.swap.length_contents slot supplied.sectors
    refine .of_swapped state (Machine.shows_altered there aligned (Nat.le_of_eq long.symm) fun place => ?_)
    rw [Machine.heldAt, state]

/-- It makes no difference what was on record before. -/
theorem Faithful.renewed (faithful : Faithful exposed written ⟨ledger, machine⟩) :
    Faithful (machine.exposed machine.altered) machine.altered ⟨ledger, machine⟩ :=
  faithful.toSupplied.faithful faithful.mapped

/-- A machine has on record what its pages hold. -/
theorem Faithful.survey (faithful : Faithful exposed written ⟨ledger, machine⟩) :
    Recording (machine.exposed machine.altered) machine.altered (machine.byte? machine.altered)
      ⟨ledger, machine⟩ :=
  ⟨faithful.renewed, Machine.blank_altered, id⟩

/-- What a page held is held still, or it is one whose bytes are lost. -/
theorem Recording.retains {first : Ledger} (recording : Recording (machine.exposed machine.altered)
      machine.altered (machine.byte? machine.altered) ⟨ledger, next⟩)
    (faithful : Faithful exposed written ⟨first, machine⟩)
    (held : machine.heldByte? space addr = some byte) :
    next.heldByte? space addr = some byte ∨ machine.Forgets next space addr := by
  obtain ⟨page, found, _⟩ := Option.bind_eq_some_iff.1 held
  have sound : ∀ space, (machine.registry space).Sound := faithful.sound
  rw [faithful.renewed.holds found (machine.spares_exposed sound found)] at held
  have shown := recording.shown held
  obtain ⟨after, there, _⟩ := Option.bind_eq_some_iff.1 shown
  by_cases spares : (machine.exposed machine.altered).Spares space after
  · exact .inl ((recording.toFaithful.holds there spares).trans shown)
  · refine .inr ⟨page, after, found, there, ?_⟩
    unfold Exposed.Spares at spares
    push Not at spares
    obtain ⟨generation, known, older⟩ := spares
    have keyed : after.addr = page.addr := by
      rw [(sound space).keyed found]
      exact (recording.sound space).keyed there
    rw [keyed] at known
    obtain ⟨other, frame, also, rfl, rest⟩ := known
    rw [(sound space).keyed found, show (machine.registry space).pages.get? addr.pageBase = _ from found]
      at also
    cases also
    have here : (machine.registry space).pages.get? page.addr = some page := by
      rw [(sound space).keyed found]
      exact found
    exact ⟨⟨page, frame, here, rfl, rest⟩, older⟩

/-- A machine of which no page holds bytes that nothing tells to save. -/
def Machine.Pristine (machine : Machine) : Prop :=
  ∀ {space addr generation}, ¬machine.exposed machine.altered space addr generation

/-- Such is a machine that loses nothing of what was written. -/
theorem Faithful.pristine (faithful : Faithful .none written ⟨ledger, machine⟩) : machine.Pristine := by
  rintro space addr _ ⟨page, frame, found, rfl, resident, clean, needless, altered⟩
  have sound : (machine.registry space).Sound := faithful.sound space
  have keyed := sound.keyed found
  have spares : Exposed.none.Spares space page := nofun
  have recalls : machine.Recalls .none written space page := faithful.recalls found spares
  rw [← keyed] at clean
  refine altered fun place within => ?_
  rw [Machine.altered_offset found (sound.aligned found) within]
  refine if_pos ?_
  have misses := (recalls.clean resident clean needless).resolve_right id place within
  obtain ⟨bytes, read, shows⟩ := recalls.resident resident
  obtain ⟨byte, here, told⟩ := shows place within
  rw [misses] at told
  rw [Machine.heldAt, resident]
  change (machine.memory.read frame).toOption.bind _ = _
  rw [read]
  exact here.trans told.symm

/-- Nothing that its pages hold can be lost. -/
theorem Supplied.unexposed (supplied : Supplied ⟨ledger, machine⟩) (mapped : Mapped machine)
    (pristine : machine.Pristine) : Faithful .none machine.altered ⟨ledger, machine⟩ := by
  have faithful := supplied.faithful mapped
  have sound : ∀ space, (machine.registry space).Sound := supplied.sound
  refine ⟨supplied, mapped, fun {space addr page} found _ => ?_⟩
  have recalls : machine.Recalls _ machine.altered space page :=
    faithful.recalls found (machine.spares_exposed sound found)
  refine ⟨recalls.unloaded, recalls.resident, fun resident clean needless => .inl ?_, recalls.swapped⟩
  exact (recalls.clean resident clean needless).resolve_right pristine

/-- Where nobody but processes and copies has written to pages, no page holds bytes that nothing tells to
save. -/
theorem Recorded.unexposed (recorded : Recorded written machine) {generation : Nat} :
    ¬machine.exposed machine.altered space addr generation :=
  recorded.recording.toFaithful.pristine

/-! Runs. -/

/-- A machine that a run can be at: operations leave frames of others, slots and page directories to the
memory manager and are not interrupted but by failures of files and of the swap device, and the kernel also
writes into the frames of the guards it holds. -/
inductive Managed : Machine → Prop
  | boot {threshold config memory base disk machine}
      (booted : Machine.boot threshold config memory base disk = .ok machine) : Managed machine
  | run {machine op others reply next} (managed : Managed machine) (serves : machine.Serves op)
      (failing : others.Failing) (ran : Kernel.perform others op machine = .ok reply next) : Managed next
  | store {machine pin offset bytes next} (managed : Managed machine) (held : pin ∈ machine.callers.pins)
      (fits : offset + bytes.length ≤ pageSize)
      (ran : Kernel.writeFrame pin.frame offset bytes machine = .ok () next) : Managed next

theorem Machine.Serves.moves {op : Op} {others : Interference} {reply : Reply} (serves : machine.Serves op)
    (consistent : Consistent ⟨{}, machine⟩) (sectors : 0 < machine.swap.disk.sectorSize)
    (failing : others.Failing) (ran : Kernel.perform others op machine = .ok reply next) :
    Path (fun _ => True) ⟨{}, machine⟩ ⟨{}, next⟩ := by
  let scope : Scope := {
    may := fun _ => True
    spaces := machine.spaces.length
    files := machine.files.length
    trusting := False
    quiet := trivial
    trusts := False.elim
    kept := fun _ => True
    keeps := fun _ _ => id
    after := fun _ => False
    onward := fun _ _ => id }
  have ready : scope.Ready ⟨{}, machine⟩ :=
    ⟨consistent, Nat.le_refl _, Nat.le_refl _, sectors, False.elim, trivial⟩
  have tame : Tame scope [] others others := failing.tame (fun _ _ => trivial) trivial
  have asked : op.Regular machine.spaces.length machine.files.length ∧ op.rightful machine = true := by
    rcases serves with entrusted | borrows
    · exact ⟨entrusted.1.1, @Rule.Sensible.rightful _ _ Rule.sensible_offered [] machine op machine
        entrusted.1⟩
    · cases op with
      | allocate => exact ⟨borrows, rfl⟩
      | free => exact ⟨trivial, borrows⟩
      | writeFrame => exact ⟨trivial, rfl⟩
      | _ => exact borrows.elim
  have follows : Follows scope ⟨{}, machine⟩ (Kernel.perform others op) (Kernel.perform others op)
      fun _ now => now.ledger = {} :=
    Kernel.perform_follows asked.1 asked.2 (fun _ _ => trivial) (fun _ => trivial) (fun _ => trivial) tame rfl
  obtain ⟨ledger, path, same⟩ := (follows ready).2 _ _ ran
  obtain rfl : ledger = {} := same
  exact path

/-- Pins stay marked, and slots on the disk, whatever is done. -/
theorem Machine.Serves.keeps {op : Op} {others : Interference} {reply : Reply} (serves : machine.Serves op)
    (consistent : Consistent ⟨{}, machine⟩) (sectors : 0 < machine.swap.disk.sectorSize)
    (failing : others.Failing) (ran : Kernel.perform others op machine = .ok reply next)
    (kept : machine.Marked ∧ machine.swap.OnDisk) : next.Marked ∧ next.swap.OnDisk :=
  have each : ∀ {act : Act} {before after : Moment}, Move act before after → Consistent before →
      before.machine.Marked ∧ before.machine.swap.OnDisk → after.machine.Marked ∧ after.machine.swap.OnDisk :=
    fun move consistent kept => ⟨kept.1.move move consistent, kept.2.of_shape move.sizes.2.2⟩
  consistent.along (serves.moves consistent sectors failing ran) sectors
    (fun _ move consistent _ => each move consistent) kept

/-- In every machine that such a run can be at, the bytes of pages can be had, pins are marked, and slots are on
the disk. -/
theorem Managed.keeps (managed : Managed machine) :
    Faithful (machine.exposed machine.altered) machine.altered ⟨{}, machine⟩ ∧ machine.Marked ∧
      machine.swap.OnDisk := by
  induction managed with
  | @boot threshold config memory base disk machine booted =>
    have recording := (Recorded.boot booted).recording
    obtain ⟨swap, log, opened, _, rfl⟩ := Machine.boot_ok booted
    exact ⟨recording.toFaithful.renewed, ⟨fun found => absurd found nofun⟩, SwapStore.onDisk_ofDisk opened⟩
  | @run machine op others reply next _ serves failing ran ih =>
    obtain ⟨faithful, kept⟩ := ih
    exact ⟨(faithful.survey.serves serves failing ran).renewed,
      serves.keeps faithful.toConsistent faithful.sectors failing ran kept⟩
  | @store machine pin offset bytes next _ held fits ran ih =>
    obtain ⟨faithful, marked, placed⟩ := ih
    obtain ⟨_, stored, _⟩ := faithful.notes held fits ran
    obtain ⟨memory, _, rfl⟩ := Kernel.writeFrame_ok.1 ran
    exact ⟨stored.renewed, ⟨marked.agrees⟩, placed⟩

theorem Managed.faithful (managed : Managed machine) :
    Faithful (machine.exposed machine.altered) machine.altered ⟨{}, machine⟩ ∧ machine.Marked :=
  ⟨managed.keeps.1, managed.keeps.2.1⟩

end

end DemandPaging
