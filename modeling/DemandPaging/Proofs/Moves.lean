import DemandPaging.Kernel.Interference
import DemandPaging.Proofs.Directories
import DemandPaging.Proofs.Fields
import DemandPaging.Proofs.Pool
import DemandPaging.Proofs.Registries
import DemandPaging.Proofs.Slots
import Mathlib.Data.Multiset.AddSub

/-! What happens to the machine while operations run, as a sequence of moves. A move is all that is
done between two points where other parties could look: it takes a machine whose tables agree to
another such machine. A ledger says what the operations under way hold themselves, which no table
shows: the loads that wait for their contents, and the pins that are not yet in a guard. -/
namespace DemandPaging

/-- A page of a space that somebody has pinned in its frame. -/
structure Pin where
  space : SpaceId
  addr : VirtualAddress
  frame : FrameNumber
deriving DecidableEq

def PinGuard.pins (guard : PinGuard) : Multiset Pin :=
  (guard.pages.map fun (addr, frame) => ⟨guard.owner, addr, frame⟩ : List Pin)

def Callers.pins (callers : Callers) : Multiset Pin :=
  (callers.guards.map fun guard => guard.elim 0 PinGuard.pins).sum

/-- The pins of the call that a load belongs to, besides that of the load. -/
def Load.pins (load : Load) : Multiset Pin := (PinGuard.mk load.space load.pinned).pins

def Load.keeper (load : Load) : SpaceId × FrameNumber := (load.space, load.frame)

/-- A load under way, and how many bytes of the page have arrived in its frame. -/
structure Flight where
  load : Load
  arrived : Nat

/-- What the operations under way hold: loads, the latest first, and pins that are not yet in a
guard. -/
structure Ledger where
  flights : List Flight := []
  pins : Multiset Pin := 0

namespace Ledger

def loads (ledger : Ledger) : List Load := ledger.flights.map (·.load)

/-- The spaces with frames that have no page in them: those that loads wait for, and those that
callers obtained. -/
def keepers (ledger : Ledger) (callers : Callers) : Multiset (SpaceId × FrameNumber) :=
  (ledger.loads.map Load.keeper ++ callers.frames : List (SpaceId × FrameNumber))

/-- The pins that are not in a guard are those that the calls under way made before they came to their
loads. -/
def Balanced (ledger : Ledger) : Prop := ledger.pins = (ledger.loads.map Load.pins).sum

/-- A call under way has made the pins of a guard, and has no load to show for them. -/
def Owes (ledger : Ledger) (guard : PinGuard) : Prop :=
  ledger.pins = guard.pins + (ledger.loads.map Load.pins).sum

/-- A call that has not pinned anything yet owes nothing. -/
theorem Balanced.owes {ledger : Ledger} (balanced : ledger.Balanced) (space : SpaceId) :
    ledger.Owes ⟨space, []⟩ :=
  balanced.trans (Multiset.zero_add _).symm

/-- Where no call is under way, nothing is held. -/
theorem Balanced.empty {ledger : Ledger} (balanced : ledger.Balanced) (idle : ledger.loads = []) :
    ledger = {} := by
  obtain ⟨flights, pins⟩ := ledger
  have balanced : pins = ((flights.map (·.load)).map Load.pins).sum := balanced
  obtain rfl : flights = [] := List.map_eq_nil_iff.1 idle
  obtain rfl : pins = 0 := balanced
  rfl

theorem keepers_cons (load : Load) (arrived : Nat) (flights : List Flight) (pins : Multiset Pin)
    (callers : Callers) : (Ledger.mk (⟨load, arrived⟩ :: flights) pins).keepers callers =
      (load.space, load.frame) ::ₘ (Ledger.mk flights pins).keepers callers := rfl

theorem mem_keepers {ledger : Ledger} {callers : Callers} {load : Load}
    (member : load ∈ ledger.loads) : (load.space, load.frame) ∈ ledger.keepers callers :=
  Multiset.mem_coe.2 (List.mem_append_left _ (List.mem_map.2 ⟨load, member, rfl⟩))

end Ledger

/-- The log was continued, and nowhere by a slot that was freed without being in use. -/
def Log.Grows (before after : List Event) : Prop :=
  ∃ new, after = new ++ before ∧ ∀ slot, .slotNotInUse slot ∉ new

namespace Log.Grows
variable {a b c : List Event}

theorem refl (log : List Event) : Grows log log :=
  ⟨[], rfl, fun _ => List.not_mem_nil⟩

theorem cons {event : Event} (known : ∀ slot, event ≠ .slotNotInUse slot) (grows : Grows a b) :
    Grows a (event :: b) := by
  obtain ⟨new, rfl, clean⟩ := grows
  refine ⟨event :: new, rfl, fun slot member => ?_⟩
  rcases List.mem_cons.1 member with same | member
  · exact known slot same.symm
  · exact clean slot member

theorem trans (first : Grows a b) (second : Grows b c) : Grows a c := by
  obtain ⟨new, rfl, clean⟩ := first
  obtain ⟨newer, rfl, cleaner⟩ := second
  refine ⟨newer ++ new, (List.append_assoc _ _ _).symm, fun slot member => ?_⟩
  rcases List.mem_append.1 member with member | member
  · exact cleaner slot member
  · exact clean slot member

theorem suffix (grows : Grows a b) : a <:+ b := by
  obtain ⟨new, rfl, _⟩ := grows
  exact List.suffix_append _ _

/-- A log that is continued so stays free of slots that were freed for nothing. -/
theorem silent (grows : Grows a b) (silent : ∀ slot, .slotNotInUse slot ∉ a) (slot : SwapSlot) :
    .slotNotInUse slot ∉ b := by
  obtain ⟨new, rfl, clean⟩ := grows
  exact fun member => (List.mem_append.1 member).elim (clean slot) (silent slot)

end Log.Grows

/-- Evictions are ahead of the pages that were written to swap or dropped by as many as before. -/
def Stats.InStep (before after : Stats) : Prop :=
  after.evictions + (before.swapWrites + before.discards) =
    before.evictions + (after.swapWrites + after.discards)

theorem Stats.InStep.refl (stats : Stats) : stats.InStep stats := rfl

theorem Stats.InStep.trans {a b c : Stats} (first : a.InStep b) (second : b.InStep c) : a.InStep c := by
  unfold InStep at *
  omega

section
variable [Architecture]

namespace Machine

def initial (machine : Machine) (page : Page) : Bytes :=
  match page.backing with
  | .unclassified => []
  | .zero => List.replicate pageSize 0
  | .file segment =>
      (machine.file segment.file).contents.slice segment.offset segment.readBytes ++
        List.replicate segment.zeroBytes 0

/-- A page can be loaded from a backing: its file is open, and the part of it fits the page. -/
def Backs (machine : Machine) : Backing → Prop
  | .file segment => segment.readBytes ≤ pageSize ∧ segment.file < machine.files.length
  | _ => True

theorem Backs.fits {machine : Machine} {backing : Backing} (backs : machine.Backs backing) :
    backing.Fits := by
  cases backing with
  | file segment => exact backs.1
  | _ => trivial

/-- The bytes that a page which is not resident is loaded with. -/
def supply (machine : Machine) (page : Page) : Bytes :=
  match page.state with
  | .swapped slot => machine.swap.contents slot
  | _ => machine.initial page

/-- What is left when the page has given up its frame or slot. -/
def vacate (machine : Machine) (space : SpaceId) (page : Page) : Machine :=
  match page.state with
  | .unloaded => machine
  | .swapped slot => { machine with swap := (machine.swap.free slot).2 }
  | .resident frame =>
      let index := frame.value - machine.pool.base.value
      { machine.setDirectory space (Architecture.unmap (machine.directory space) page.addr).2 with
        pool := if 0 < (machine.pool.entry index).pins then machine.pool.retire index
          else machine.pool.withdraw index }

section
variable (machine : Machine) (space : SpaceId) (page : Page)

@[simp] theorem spaces_vacate : (machine.vacate space page).spaces = machine.spaces := by
  unfold vacate
  split <;> rfl

@[simp] theorem memory_vacate : (machine.vacate space page).memory = machine.memory := by
  unfold vacate
  split <;> rfl

@[simp] theorem files_vacate : (machine.vacate space page).files = machine.files := by
  unfold vacate
  split <;> rfl

@[simp] theorem log_vacate : (machine.vacate space page).log = machine.log := by
  unfold vacate
  split <;> rfl

@[simp] theorem stats_vacate : (machine.vacate space page).stats = machine.stats := by
  unfold vacate
  split <;> rfl

end

/-- Where the page in `frame` goes when the frame is reclaimed, and the swap store after that. -/
inductive Saves (machine : Machine) (space : SpaceId) (page : Page) (frame : FrameNumber) :
    PageState → SwapStore → Prop
  | discard (clean : machine.isDirty space page.addr = false)
      (kept : page.backing.alwaysSwaps = false) :
      Saves machine space page frame .unloaded machine.swap
  | save {bytes : Bytes} {slot : SwapSlot} {swap : SwapStore}
      (read : machine.memory.read frame = .ok bytes)
      (written : machine.swap.write bytes = (.ok slot, swap))
      (needed : machine.isDirty space page.addr = true ∨ page.backing.alwaysSwaps = true) :
      Saves machine space page frame (.swapped slot) swap

/-- The machine after the page left `frame`, which is free then. The clock has turned to `hand` in
search of it. -/
def reclaim (machine : Machine) (space : SpaceId) (page : Page) (frame : FrameNumber) (hand : Nat)
    (state : PageState) (swap : SwapStore) : Machine :=
  { (machine.setDirectory space
      (Architecture.unmap (machine.directory space) page.addr).2).setRegistry space
        ((machine.registry space).detach frame state) with
    pool := { machine.pool with hand }.withdraw (frame.value - machine.pool.base.value), swap }

/-- A directory that maps the page of a load, once the page is marked as it came: what was in swap
counts as changed. -/
def marked (load : Load) (directory : Architecture.Directory) : Architecture.Directory :=
  match load.page.state with
  | .swapped _ => Architecture.setDirty directory load.page.addr true
  | _ => directory

/-- The machine after a load has ended well: `page` is mapped to the frame of the load by
`directory`, and the slot it was loaded from is free. -/
def arrive (machine : Machine) (load : Load) (page : Page) (directory : Architecture.Directory)
    (pinned : Bool) : Machine :=
  { (machine.setDirectory load.space (marked load directory)).setRegistry load.space
      ((machine.registry load.space).settle page load.frame pinned) with
    pool := if pinned then machine.pool
      else machine.pool.setPins (load.frame.value - machine.pool.base.value) 0
    swap := match load.page.state with
      | .swapped slot => (machine.swap.free slot).2
      | _ => machine.swap }

def unpin (machine : Machine) (space : SpaceId) (frame : FrameNumber) : Machine :=
  let index := frame.value - machine.pool.base.value
  let entry := machine.pool.entry index
  if entry.pins = 1 then
    if entry.released then { machine with pool := machine.pool.giveBack index }
    else { machine.setRegistry space ((machine.registry space).unpinFrame frame) with
      pool := machine.pool.setPins index 0 }
  else { machine with pool := machine.pool.setPins index (entry.pins - 1) }

section
variable (machine : Machine) (space : SpaceId) (frame : FrameNumber)

@[simp] theorem memory_unpin : (machine.unpin space frame).memory = machine.memory := by
  unfold unpin
  dsimp only
  split
  · split <;> rfl
  · rfl

@[simp] theorem swap_unpin : (machine.unpin space frame).swap = machine.swap := by
  unfold unpin
  dsimp only
  split
  · split <;> rfl
  · rfl

@[simp] theorem files_unpin : (machine.unpin space frame).files = machine.files := by
  unfold unpin
  dsimp only
  split
  · split <;> rfl
  · rfl

@[simp] theorem log_unpin : (machine.unpin space frame).log = machine.log := by
  unfold unpin
  dsimp only
  split
  · split <;> rfl
  · rfl

@[simp] theorem stats_unpin : (machine.unpin space frame).stats = machine.stats := by
  unfold unpin
  dsimp only
  split
  · split <;> rfl
  · rfl

end

end Machine

open Architecture (Lawful)

variable [Lawful]

/-- A page that was dirty is dirty still. -/
def Machine.KeepsDirty (before after : Machine) : Prop :=
  ∀ space {page : VirtualAddress}, Lawful.Sane (before.directory space) → page.IsPage →
    before.isDirty space page = true → after.isDirty space page = true

/-- Nothing that the tables say has changed, but memory and swap may have. -/
structure Machine.Aside (before after : Machine) : Prop where
  config : after.config = before.config
  pool : after.pool = before.pool
  spaces : after.spaces.length = before.spaces.length
  registries : ∀ space, after.registry space = before.registry space
  directories : after.directories.length = before.directories.length
  assigned : ∀ space, (after.space space).directory = (before.space space).directory
  sane : ∀ space, Lawful.Sane (before.directory space) → Lawful.Sane (after.directory space)
  mapping : ∀ space {page : VirtualAddress}, Lawful.Sane (before.directory space) → page.IsPage →
    Architecture.mapping (after.directory space) page =
      Architecture.mapping (before.directory space) page
  fileCount : before.files.length ≤ after.files.length
  contents : ∀ {file}, file < before.files.length →
    (after.file file).contents = (before.file file).contents
  shape : after.swap.shape = before.swap.shape
  log : before.log <:+ after.log
  guards : after.callers.guards = before.callers.guards
  frames : after.callers.frames = before.callers.frames
  inStep : before.stats.InStep after.stats

/-- The same slots are in use, but what memory and swap hold may have changed. -/
structure Machine.Scribbled (before after : Machine) : Prop extends Machine.Aside before after where
  bitmap : after.swap.bitmap = before.swap.bitmap
  grows : Log.Grows before.log after.log

/-- Nothing that the tables or the bytes of pages depend on has changed. -/
structure Machine.Idle (before after : Machine) : Prop extends Machine.Aside before after where
  memory : after.memory = before.memory
  swap : ∃ reads readsLeft writesLeft, after.swap =
    { before.swap with disk := { before.swap.disk with reads, readsLeft, writesLeft } }
  dirty : before.KeepsDirty after
  grows : Log.Grows before.log after.log

def Registry.expected (registry : Registry) (page : VirtualAddress) :
    Option (PhysicalAddress × Bool) :=
  (registry.placement page).map fun (frame, writable) => (⟨frame.value * pageSize⟩, writable)

/-- Every space has a directory of its own, which shows its resident pages and nothing else. -/
structure Mapped (machine : Machine) : Prop where
  own : ∀ {a b}, a < machine.spaces.length → b < machine.spaces.length →
    (machine.space a).directory = (machine.space b).directory → a = b
  sane : ∀ {space}, space < machine.spaces.length → Lawful.Sane (machine.directory space)
  shows : ∀ {space} {page : VirtualAddress}, space < machine.spaces.length → page.IsPage →
    Architecture.mapping (machine.directory space) page = (machine.registry space).expected page

/-- A machine and what the operations under way hold of it. -/
structure Moment where
  ledger : Ledger
  machine : Machine

/-- What a move is to those who restrict a run. -/
inductive Act where
  | quiet
  /-- A caller registers a page while `loads` are under way. -/
  | register (loads : List Load) (space : SpaceId) (addr : VirtualAddress)
  /-- A fault registers a page of the stack while `loads` are under way. -/
  | grow (loads : List Load) (space : SpaceId) (addr : VirtualAddress)
  /-- A page is unregistered that is not pinned. -/
  | drop (space : SpaceId) (addr : VirtualAddress)
  /-- A page is unregistered, pinned or not, since its space is destroyed. -/
  | expel (space : SpaceId) (addr : VirtualAddress)
  /-- A pin is dropped. -/
  | unpin
  /-- The latest load under way ends, and `loads` are left. -/
  | settle (loads : List Load)
  /-- Bytes are written into a page on behalf of its process. -/
  | store
  /-- Bytes are written on behalf of a process where its directory leads, whatever is there, or a caller
  takes the dirty bit of a page away. -/
  | stray
  /-- Page directories are changed by others than processes and the memory manager, or shared. -/
  | meddle
  /-- Bytes of memory or of the swap device are changed behind the back of the memory manager. -/
  | scribble
  /-- Slots of the swap store are taken or freed by a caller. -/
  | tamper
  /-- A caller obtains a frame. -/
  | lend
  /-- A caller gives a frame back. -/
  | recover

/-- What is done between two points where other parties could look. -/
inductive Move : Act → Moment → Moment → Prop
  | idle {ledger machine after} (idle : machine.Idle after) :
      Move .quiet ⟨ledger, machine⟩ ⟨ledger, after⟩
  | scribble {ledger machine after} (scribbled : machine.Scribbled after)
      (dirty : machine.KeepsDirty after) :
      Move .scribble ⟨ledger, machine⟩ ⟨ledger, after⟩
  | tamper {ledger machine after} (aside : machine.Aside after) (dirty : machine.KeepsDirty after) :
      Move .tamper ⟨ledger, machine⟩ ⟨ledger, after⟩
  /-- A slot that is not in use is about to be freed, and the log says so. -/
  | misfree {ledger machine slot} (unused : machine.swap.isOccupied slot = false)
      (named : (∃ space addr page, (machine.registry space).pages.get? addr = some page ∧
          page.state = .swapped slot) ∨
        ∃ load ∈ ledger.loads, ∃ page, (machine.registry load.space).current? load.page = some page ∧
          load.page.state = .swapped slot) :
      Move .quiet ⟨ledger, machine⟩
        ⟨ledger, { machine with log := .slotNotInUse slot :: machine.log }⟩
  | register {ledger machine space} {page : Page}
      (accepted : (machine.registry space).refusal? page.addr = none)
      (unloaded : page.state = .unloaded) (first : page.generation = 0)
      (free : page.pinned = false) (backs : machine.Backs page.backing) :
      Move (.register ledger.loads space page.addr) ⟨ledger, machine⟩
        ⟨ledger, machine.setRegistry space ((machine.registry space).add page)⟩
  | grow {ledger machine space} {page : Page}
      (accepted : (machine.registry space).refusal? page.addr = none)
      (unloaded : page.state = .unloaded) (first : page.generation = 0)
      (free : page.pinned = false) (backs : machine.Backs page.backing) :
      Move (.grow ledger.loads space page.addr) ⟨ledger, machine⟩
        ⟨ledger, { machine.setRegistry space ((machine.registry space).add page) with
          log := .stackGrown space page.addr :: machine.log }⟩
  | classify {ledger machine space addr backing after}
      (done : (machine.registry space).classify addr backing = .ok after)
      (backs : machine.Backs backing) :
      Move .quiet ⟨ledger, machine⟩ ⟨ledger, machine.setRegistry space after⟩
  | drop {ledger machine space addr page after}
      (taken : (machine.registry space).take? addr = some (page, after))
      (unpinned : ∀ frame, page.state = .resident frame →
        (machine.pool.entry (frame.value - machine.pool.base.value)).pins = 0) :
      Move (.drop space addr) ⟨ledger, machine⟩
        ⟨ledger, (machine.vacate space page).setRegistry space after⟩
  | expel {ledger machine space addr page after}
      (taken : (machine.registry space).take? addr = some (page, after)) :
      Move (.expel space addr) ⟨ledger, machine⟩
        ⟨ledger, (machine.vacate space page).setRegistry space after⟩
  /-- The frame of a page is reclaimed. -/
  | evict {ledger machine space} {page : Page} {frame hand state swap}
      (found : (machine.registry space).lookupFrame frame = some page)
      (unpinned : (machine.pool.entry (frame.value - machine.pool.base.value)).pins = 0)
      (saves : machine.Saves space page frame state swap) :
      Move .quiet ⟨ledger, machine⟩ ⟨ledger, machine.reclaim space page frame hand state swap⟩
  /-- A load obtains its frame. -/
  | take {flights pins machine} {load : Load} {index rest}
      (present : load.space < machine.spaces.length)
      (current : (machine.registry load.space).pages.get? load.page.addr = some load.page)
      (away : load.page.isResident = false) (classified : load.page.backing ≠ .unclassified)
      (taken : machine.pool.takeFree? = some (index, rest))
      (named : load.frame = machine.pool.number index) :
      Move .quiet ⟨⟨flights, pins⟩, machine⟩
        ⟨⟨⟨load, 0⟩ :: flights, pins⟩,
          { machine with pool := rest.assign index load.space }⟩
  /-- Bytes arrive in the frame of a load, in order or else worthless. -/
  | fill {flights pins machine} {load : Load} {arrived offset : Nat} {bytes : Bytes} {memory now}
      (written : machine.memory.write load.frame offset bytes = .ok memory)
      (progress : now = 0 ∨ (offset = arrived ∧ now = offset + bytes.length ∧
        bytes = (machine.supply load.page).slice offset bytes.length)) :
      Move .quiet ⟨⟨⟨load, arrived⟩ :: flights, pins⟩, machine⟩
        ⟨⟨⟨load, now⟩ :: flights, pins⟩, { machine with memory }⟩
  /-- A load ends well. -/
  | attach {flights pins machine} {load : Load} {page start directory pinned}
      (current : (machine.registry load.space).current? load.page = some page)
      (begins : load.frame.start = .ok start)
      (mapped : Architecture.install (machine.directory load.space) page.addr start page.writable =
        (.ok (), directory)) :
      Move (.settle (flights.map (·.load))) ⟨⟨⟨load, pageSize⟩ :: flights, pins⟩, machine⟩
        ⟨⟨flights, if pinned then ⟨load.space, load.page.addr, load.frame⟩ ::ₘ pins else pins⟩,
          machine.arrive load page directory pinned⟩
  /-- A load is given up. -/
  | abandon {flights pins machine} {load : Load} {arrived} :
      Move (.settle (flights.map (·.load))) ⟨⟨⟨load, arrived⟩ :: flights, pins⟩, machine⟩
        ⟨⟨flights, pins⟩, { machine with
          pool := machine.pool.withdraw (load.frame.value - machine.pool.base.value) }⟩
  | pin {flights pins machine space addr frame after}
      (pinned : (machine.registry space).pin? addr = some (frame, after)) :
      Move .quiet ⟨⟨flights, pins⟩, machine⟩
        ⟨⟨flights, ⟨space, addr, frame⟩ ::ₘ pins⟩, { machine.setRegistry space after with
          pool := machine.pool.setPins (frame.value - machine.pool.base.value)
            ((machine.pool.entry (frame.value - machine.pool.base.value)).pins + 1) }⟩
  | unpin {flights pins machine} {pin : Pin} :
      Move .unpin ⟨⟨flights, pin ::ₘ pins⟩, machine⟩
        ⟨⟨flights, pins⟩, machine.unpin pin.space pin.frame⟩
  /-- A caller gets a guard. -/
  | handOut {flights pins machine} {guard : PinGuard} :
      Move .quiet ⟨⟨flights, guard.pins + pins⟩, machine⟩
        ⟨⟨flights, pins⟩, { machine with callers := { machine.callers with
          guards := machine.callers.guards ++ [some guard] } }⟩
  /-- A caller gives a guard back. -/
  | takeBack {flights pins machine} {guard : PinGuard} {number : Nat}
      (held : machine.callers.guards[number]? = some (some guard)) :
      Move .quiet ⟨⟨flights, pins⟩, machine⟩
        ⟨⟨flights, guard.pins + pins⟩, { machine with callers := { machine.callers with
          guards := machine.callers.guards.set number none } }⟩
  /-- Bytes are written into a page, which counts as changed from then on. -/
  | store {ledger machine after space addr frame} {offset : Nat} {bytes : Bytes} {memory}
      (owned : ⟨space, addr, frame⟩ ∈ ledger.pins ∨
        ∃ writable, (machine.registry space).placement addr = some (frame, writable))
      (written : machine.memory.write frame offset bytes = .ok memory)
      (idle : Machine.Idle { machine with memory } after)
      (dirty : ∀ {writable}, (machine.registry space).placement addr = some (frame, writable) →
        after.isDirty space addr = true) :
      Move .store ⟨ledger, machine⟩ ⟨ledger, after⟩
  | stray {ledger machine after} (scribbled : machine.Scribbled after) :
      Move .stray ⟨ledger, machine⟩ ⟨ledger, after⟩
  | meddle {ledger machine directories}
      (fewer : machine.directories.length ≤ directories.length) :
      Move .meddle ⟨ledger, machine⟩ ⟨ledger, { machine with directories }⟩
  /-- A space is created on a directory that there is. -/
  | share {ledger machine directory stackPointer} (known : directory < machine.directories.length) :
      Move .meddle ⟨ledger, machine⟩ ⟨ledger, { machine with
        spaces := machine.spaces ++ [⟨{}, directory, stackPointer⟩] }⟩
  | create {ledger machine tables stackPointer} :
      Move .quiet ⟨ledger, machine⟩ ⟨ledger, { machine with
        spaces := machine.spaces ++ [⟨{}, machine.directories.length, stackPointer⟩]
        directories := machine.directories ++ [Architecture.ofSpec ⟨tables, []⟩] }⟩
  /-- A caller obtains a frame. -/
  | lend {ledger machine space index rest} (taken : machine.pool.takeFree? = some (index, rest)) :
      Move .lend ⟨ledger, machine⟩ ⟨ledger, { machine with
        pool := rest.assign index space
        callers := { machine.callers with
          frames := (space, machine.pool.number index) :: machine.callers.frames } }⟩
  /-- A caller gives a frame back. -/
  | recover {ledger machine space} {frame : FrameNumber} {newer older}
      (held : machine.callers.frames = newer ++ (space, frame) :: older) :
      Move .recover ⟨ledger, machine⟩ ⟨ledger, { machine with
        pool := machine.pool.withdraw (frame.value - machine.pool.base.value)
        callers := { machine.callers with frames := newer ++ older } }⟩
  /-- A caller gives a frame back that is not in use. -/
  | refuse {ledger machine index}
      (unowned : (machine.pool.entry index).owner = none) :
      Move .recover ⟨ledger, machine⟩ ⟨ledger, { machine with pool := machine.pool.setEntry index {} }⟩

inductive Path (may : Act → Prop) : Moment → Moment → Prop
  | refl (now) : Path may now now
  | next {act start mid stop} (allowed : may act) (move : Move act start mid)
      (rest : Path may mid stop) : Path may start stop

namespace Path
variable {may : Act → Prop} {start mid stop : Moment}

theorem of_move {act : Act} (allowed : may act) (move : Move act start stop) :
    Path may start stop :=
  .next allowed move (.refl stop)

theorem trans (first : Path may start mid) (second : Path may mid stop) : Path may start stop := by
  induction first with
  | refl => exact second
  | next allowed move _ ih => exact .next allowed move (ih second)

theorem keeps (path : Path may start stop) (claim : Moment → Prop) (holds : claim start)
    (each : ∀ {act before after}, may act → Move act before after → claim before → claim after) :
    claim stop := by
  induction path with
  | refl => exact holds
  | next allowed taken _ ih => exact ih (each allowed taken holds)

theorem widen {wider : Act → Prop} (path : Path may start stop)
    (more : ∀ act, may act → wider act) : Path wider start stop := by
  induction path with
  | refl => exact .refl _
  | next allowed move _ ih => exact .next (more _ allowed) move ih

end Path

end

end DemandPaging
