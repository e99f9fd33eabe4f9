import DemandPaging.Proofs.Memories
import DemandPaging.Proofs.SlotOwners

/-! What loads read. Files and slots in use keep what they hold, so what has arrived in the frame of a
load is what its page is to be loaded with, for as long as the page is as it was when the load began. When
all has arrived, the frame holds a whole page. -/
namespace DemandPaging
open Architecture (Lawful)

variable [Architecture]

/-- The bytes that have arrived in the frame of a load are those of the page, as long as that is as it
was when the load began. -/
structure Flight.Carries (machine : Machine) (flight : Flight) : Prop where
  holds : 0 < flight.arrived → ∃ bytes, machine.memory.read flight.load.frame = .ok bytes
  known : (machine.registry flight.load.space).pages.get? flight.load.page.addr = some flight.load.page →
    ∀ {bytes}, machine.memory.read flight.load.frame = .ok bytes → flight.arrived ≤ bytes.length ∧
      bytes.take flight.arrived = (machine.supply flight.load.page).take flight.arrived

/-- When all has arrived, the frame holds what the page is to be loaded with. -/
theorem Flight.Carries.whole {machine : Machine} {load : Load}
    (carries : Flight.Carries machine ⟨load, pageSize⟩)
    (there : (machine.registry load.space).pages.get? load.page.addr = some load.page) :
    ∃ bytes, machine.memory.read load.frame = .ok bytes ∧
      pageSize ≤ (machine.supply load.page).length ∧ pageSize ≤ bytes.length ∧
        bytes.take pageSize = (machine.supply load.page).take pageSize := by
  obtain ⟨bytes, read⟩ := carries.holds pageSize_pos
  obtain ⟨long, same⟩ := carries.known there read
  dsimp only at long same
  have lengths := congrArg List.length same
  rw [List.length_take_of_le long, List.length_take] at lengths
  exact ⟨bytes, read, by omega, long, same⟩

/-- A frame can be read, and what is in it comes to a page. -/
def Machine.Fills (machine : Machine) (frame : FrameNumber) : Prop :=
  ∃ bytes, machine.memory.read frame = .ok bytes ∧ pageSize ≤ bytes.length

/-- An act by which no bytes change behind the back of the memory manager. -/
def Act.Honest : Act → Prop
  | .stray | .scribble | .tamper => False
  | _ => True

/-- The operations by which callers write past the memory manager. -/
def Op.scribbles : Op → Bool
  | .disk (.write _ _) | .writeFrame _ _ => true
  | _ => false

/-- Operations by callers that leave frames, slots and page directories to the memory manager. -/
def Machine.Entrusts (machine : Machine) (op : Op) : Prop :=
  machine.Offers op ∧ op.soils = false ∧ op.tampers = false ∧ op.scribbles = false

instance (machine : Machine) (op : Op) : Decidable (machine.Entrusts op) :=
  inferInstanceAs (Decidable (machine.Offers op ∧ _ ∧ _ ∧ _))

/-- No page is registered by an act at the address of a load under way. -/
def Act.Avoids (act : Act) (loads : List Load) : Prop :=
  ∀ load ∈ loads, act ≠ .register loads load.space load.page.addr ∧
    act ≠ .grow loads load.space load.page.addr

namespace Op.Acts
variable {op : Op} {loads : List Load} {machine : Machine} {act : Act}

theorem scribbles (acts : op.Acts loads machine .scribble) :
    op.scribbles = true ∨ op.soils = true ∨ op.lends = true := by
  unfold Op.Acts at acts
  split at acts
  all_goals first
    | exact .inl rfl
    | exact .inr (.inl rfl)
    | exact .inr (.inr rfl)
    | simp [Act.Registers] at acts

theorem honest [Lawful] (acts : op.Acts loads machine act) (entrusted : machine.Entrusts op) :
    act.Honest := by
  obtain ⟨⟨_, unlent, _⟩, clean, untampered, unscribbled⟩ := entrusted
  cases act with
  | stray => exact acts.not_stray
  | tamper => exact Bool.false_ne_true (untampered.symm.trans acts.tampers)
  | scribble =>
    rcases acts.scribbles with scribbles | soils | lends
    · exact Bool.false_ne_true (unscribbled.symm.trans scribbles)
    · exact Bool.false_ne_true (clean.symm.trans soils)
    · exact Bool.false_ne_true (unlent.symm.trans lends)
  | _ => trivial

end Op.Acts

variable [Lawful] {act : Act} {start stop : Moment}

theorem Move.file (move : Move act start stop) {file : FileId}
    (known : file < start.machine.files.length) :
    (stop.machine.file file).contents = (start.machine.file file).contents := by
  have same : ∀ {after : Machine}, after.files = start.machine.files →
      (after.file file).contents = (start.machine.file file).contents := by
    intro after files
    rw [Machine.file, Machine.file, files]
  cases move with
  | idle idle => exact idle.contents known
  | scribble scribbled | stray scribbled => exact scribbled.contents known
  | tamper aside => exact aside.contents known
  | store owned written idle => exact idle.contents known
  | drop | expel => exact same (Machine.files_vacate ..)
  | unpin => exact same (Machine.files_unpin ..)
  | register | grow | classify | evict | take | fill | attach | abandon | pin | handOut | takeBack | create
  | meddle | share | misfree | lend | recover | refuse => exact same rfl

theorem Move.backs (move : Move act start stop) {backing : Backing}
    (backs : start.machine.Backs backing) : stop.machine.Backs backing := by
  cases backing with
  | unclassified | zero => trivial
  | file segment => exact ⟨backs.1, Nat.lt_of_lt_of_le backs.2 move.sizes.2.1⟩

theorem Move.kept_backs (move : Move act start stop) (consistent : Consistent start)
    (backs : ∀ {space addr page}, (start.machine.registry space).pages.get? addr = some page →
      start.machine.Backs page.backing)
    {space : SpaceId} {addr : VirtualAddress} {page : Page}
    (now : (stop.machine.registry space).pages.get? addr = some page) : stop.machine.Backs page.backing := by
  have becomes := move.becomes consistent space addr
  rw [now] at becomes
  generalize before : (start.machine.registry space).pages.get? addr = old at becomes
  cases becomes with
  | turns turns =>
    rcases turns.backing with same | ⟨_, known⟩
    · rw [same]
      exact move.backs (backs before)
    · exact move.backs known
  | enters way unloaded first known => exact move.backs known

/-- Slots in use keep what they hold. -/
theorem Move.slot (move : Move act start stop) (honest : act.Honest)
    (sectors : 0 < start.machine.swap.disk.sectorSize) {slot : SwapSlot}
    (used : start.machine.swap.isOccupied slot = true) :
    stop.machine.swap.contents slot = start.machine.swap.contents slot := by
  have counted : ∀ {after : SwapStore}, (∃ reads readsLeft writesLeft, after =
      { start.machine.swap with disk := { start.machine.swap.disk with reads, readsLeft, writesLeft } }) →
      after.contents slot = start.machine.swap.contents slot := by
    rintro _ ⟨_, _, _, rfl⟩
    exact SwapStore.contents_congr rfl fun _ _ => rfl
  cases move with
  | idle idle => exact counted idle.swap
  | store owned written idle => exact counted idle.swap
  | scribble | stray | tamper => exact honest.elim
  | drop | expel =>
    change (Machine.vacate _ _ _).swap.contents slot = _
    unfold Machine.vacate
    split
    · rfl
    · exact SwapStore.contents_free _ _ _
    · rfl
  | evict found unpinned saves =>
    cases saves with
    | discard => rfl
    | save read written =>
      have wrote := SwapStore.write_wrote sectors written
      refine wrote.others slot fun same => ?_
      rw [same, wrote.vacant] at used
      cases used
  | @attach flights pins machine load =>
    unfold Machine.arrive
    dsimp only
    split
    · exact SwapStore.contents_free _ _ _
    · rfl
  | unpin =>
    dsimp only
    rw [Machine.swap_unpin]
  | register | grow | classify | take | fill | abandon | pin | handOut | takeBack | create | meddle | share
  | misfree | lend | recover | refuse => rfl

omit [Lawful] in
/-- Writing into a frame leaves pages in all frames. -/
theorem Machine.Fills.write {machine : Machine} {frame target : FrameNumber} {offset : Nat}
    {bytes : Bytes} {memory : Memory} (fills : machine.Fills frame)
    (wrote : machine.memory.write target offset bytes = .ok memory) :
    Machine.Fills { machine with memory } frame := by
  obtain ⟨held, read, long⟩ := fills
  by_cases same : frame = target
  · subst same
    obtain ⟨_, before, after⟩ := Memory.read_write_self wrote
    cases before.symm.trans read
    exact ⟨_, after, Nat.le_trans long (Bytes.length_le_patch _ _ _)⟩
  · exact ⟨held, (Memory.read_write_of_ne wrote same).trans read, long⟩

theorem Move.fills (move : Move act start stop) (honest : act.Honest) {frame : FrameNumber}
    (fills : start.machine.Fills frame) : stop.machine.Fills frame := by
  have kept : ∀ {after : Machine}, after.memory = start.machine.memory → after.Fills frame := by
    intro after memory
    rw [Machine.Fills, memory]
    exact fills
  cases move with
  | idle idle => exact kept idle.memory
  | scribble | stray | tamper => exact honest.elim
  | fill written => exact fills.write written
  | @store ledger machine after space addr target offset bytes memory owned written idle =>
    rw [Machine.Fills, idle.memory]
    exact fills.write written
  | drop | expel => exact kept (Machine.memory_vacate ..)
  | unpin => exact kept (Machine.memory_unpin ..)
  | register | grow | classify | evict | take | attach | abandon | pin | handOut | takeBack | create
  | meddle | share | misfree | lend | recover | refuse => exact kept rfl

/-- Loads read what their pages are to be loaded with, and what was loaded can be read. -/
structure Supplied (now : Moment) : Prop extends Consistent now where
  sectors : 0 < now.machine.swap.disk.sectorSize
  traced : Traced now
  owned : Owned now.machine
  backs : ∀ {space addr page}, (now.machine.registry space).pages.get? addr = some page →
    now.machine.Backs page.backing
  carries : ∀ flight ∈ now.ledger.flights, flight.Carries now.machine
  filled : ∀ {space addr page frame}, (now.machine.registry space).pages.get? addr = some page →
    page.state = .resident frame → now.machine.Fills frame

namespace Supplied
variable (supplied : Supplied start)
include supplied

omit [Lawful] in
theorem used {space : SpaceId} {addr : VirtualAddress} {page : Page} {slot : SwapSlot}
    (found : (start.machine.registry space).pages.get? addr = some page)
    (swapped : page.state = .swapped slot) : start.machine.swap.isOccupied slot = true :=
  (supplied.owned.in_use found swapped).1

variable (move : Move act start stop) (honest : act.Honest) (avoids : act.Avoids start.ledger.loads)
include move

theorem kept_backs {space : SpaceId} {addr : VirtualAddress} {page : Page}
    (now : (stop.machine.registry space).pages.get? addr = some page) :
    stop.machine.Backs page.backing :=
  move.kept_backs supplied.toConsistent supplied.backs now

include avoids in
/-- A page that a load knows as it is was so before. -/
theorem known_before {load : Load} (member : load ∈ start.ledger.loads)
    (now : (stop.machine.registry load.space).pages.get? load.page.addr = some load.page) :
    (start.machine.registry load.space).pages.get? load.page.addr = some load.page := by
  have becomes := move.becomes supplied.toConsistent load.space load.page.addr
  rw [now] at becomes
  generalize earlier : (start.machine.registry load.space).pages.get? load.page.addr = old at becomes
  cases becomes with
  | @turns old _ turns =>
    obtain ⟨later, fresh⟩ := supplied.traced load member old earlier
    rw [fresh (Nat.le_antisymm turns.generation.1 later)]
  | enters way =>
    obtain ⟨unregistered, ungrown⟩ := avoids load member
    rcases way with registers | ⟨grows, _⟩
    · exact absurd registers unregistered
    · exact absurd grows ungrown

include honest

theorem kept_supply {space : SpaceId} {page : Page}
    (found : (start.machine.registry space).pages.get? page.addr = some page) :
    stop.machine.supply page = start.machine.supply page := by
  unfold Machine.supply
  split
  · rename_i slot swapped
    exact move.slot honest supplied.sectors (supplied.used found swapped)
  · unfold Machine.initial
    split
    · rfl
    · rfl
    · rename_i segment backing
      have backs := supplied.backs found
      rw [backing] at backs
      rw [move.file backs.2]

include avoids

/-- A load under way goes on to carry what has arrived, if nothing else is written to its frame. -/
theorem carries_on {flight : Flight} (member : flight ∈ start.ledger.flights)
    (kept : stop.machine.memory.read flight.load.frame = start.machine.memory.read flight.load.frame) :
    flight.Carries stop.machine := by
  have carries := supplied.carries flight member
  refine ⟨fun some => by rw [kept]; exact carries.holds some, fun registered bytes read => ?_⟩
  have listed : flight.load ∈ start.ledger.loads := List.mem_map_of_mem member
  have before := supplied.known_before move avoids listed registered
  rw [kept] at read
  rw [supplied.kept_supply move honest before]
  exact carries.known before read

/-- Bytes that arrive in order are carried. -/
theorem carried : ∀ flight ∈ stop.ledger.flights, flight.Carries stop.machine := by
  have on {flight : Flight} (member : flight ∈ start.ledger.flights)
      (kept : stop.machine.memory.read flight.load.frame =
        start.machine.memory.read flight.load.frame) : flight.Carries stop.machine :=
    supplied.carries_on move honest avoids member kept
  cases move with
  | idle idle => exact fun flight member => on member (by dsimp only; rw [idle.memory])
  | scribble | stray | tamper => exact honest.elim
  | @store ledger machine after space addr frame offset bytes memory owned written idle =>
    -- Bytes are stored where a page is or was pinned, and no load waits for such a frame.
    refine fun flight member => on member ?_
    have keeps : (flight.load.space, flight.load.frame) ∈ ledger.keepers machine.callers :=
      Ledger.mem_keepers (List.mem_map_of_mem member)
    have apart : flight.load.frame ≠ frame := by
      rintro rfl
      rcases owned with pinned | ⟨writable, placed⟩
      · exact supplied.held.alone keeps (Multiset.mem_map_of_mem Pin.frame (Multiset.mem_add.2 (.inl pinned)))
      · exact supplied.held.apart keeps placed rfl
    dsimp only
    rw [idle.memory]
    exact Memory.read_write_of_ne written apart
  | take =>
    intro flight member
    rcases List.mem_cons.1 member with rfl | member
    · exact ⟨fun some => absurd some (Nat.lt_irrefl 0), fun _ _ _ => ⟨Nat.zero_le _, rfl⟩⟩
    · exact on member rfl
  | @fill flights pins machine load arrived offset bytes memory now wrote progress =>
    intro flight member
    rcases List.mem_cons.1 member with rfl | member
    · obtain ⟨held, before, after⟩ := Memory.read_write_self wrote
      refine ⟨fun _ => ⟨_, after⟩, fun registered read_bytes read => ?_⟩
      cases read.symm.trans after
      obtain ⟨long, same⟩ := (supplied.carries _ (.head _)).known registered before
      rcases progress with rfl | ⟨rfl, rfl, bytes_eq⟩
      · exact ⟨Nat.zero_le _, rfl⟩
      · dsimp only at long same ⊢
        constructor
        · rw [Bytes.patch, List.length_append, List.length_append, List.length_take_of_le long]
          omega
        · change _ = (machine.supply load.page).take _
          rw [Bytes.take_patch long, same]
          generalize bytes.length = length at bytes_eq
          rw [bytes_eq]
          exact Bytes.take_append_slice ..
    · have apart : flight.load.frame ≠ load.frame := by
        intro shared
        have distinct := supplied.held.distinct
        rw [Ledger.keepers_cons, Multiset.map_cons, Multiset.nodup_cons] at distinct
        refine distinct.1 ?_
        rw [← shared]
        have keeps : (flight.load.space, flight.load.frame) ∈
            (Ledger.mk flights pins).keepers machine.callers :=
          Ledger.mem_keepers (List.mem_map_of_mem member)
        exact Multiset.mem_map.2 ⟨_, keeps, rfl⟩
      exact on (List.mem_cons_of_mem _ member) (Memory.read_write_of_ne wrote apart)
  | attach | abandon => exact fun flight member => on (List.mem_cons_of_mem _ member) rfl
  | drop | expel =>
    refine fun flight member => on member ?_
    change (Machine.vacate _ _ _).memory.read _ = _
    rw [Machine.memory_vacate]
  | unpin =>
    refine fun flight member => on member ?_
    dsimp only
    rw [Machine.memory_unpin]
  | register | grow | classify | evict | pin | handOut | takeBack | create | meddle | share | misfree
  | lend | recover | refuse => exact fun flight member => on member rfl

omit avoids in
/-- A page that comes into a frame fills it, and the others go on to do so. -/
theorem kept_filled {space : SpaceId} {addr : VirtualAddress} {page : Page} {frame : FrameNumber}
    (now : (stop.machine.registry space).pages.get? addr = some page)
    (resident : page.state = .resident frame) : stop.machine.Fills frame := by
  have becomes := move.becomes supplied.toConsistent space addr
  rw [now] at becomes
  generalize before : (start.machine.registry space).pages.get? addr = old at becomes
  cases becomes with
  | turns turns =>
    cases turns with
    | stays | classified | marked => exact move.fills honest (supplied.filled before resident)
    | leaves _ _ saves =>
      cases saves with
      | discard | save => cases resident
    | @arrives load flights pinned latest owner current =>
      cases resident
      subst owner
      have member : load ∈ start.ledger.loads := by
        rw [Ledger.loads, latest]
        exact .head _
      have carries := supplied.carries ⟨load, pageSize⟩ (by rw [latest]; exact .head _)
      obtain ⟨bytes, read, _, long, _⟩ := carries.whole (supplied.traced.current member current).1
      exact move.fills honest ⟨bytes, read, long⟩
  | enters _ unloaded => cases unloaded.symm.trans resident

/-- No move leads a load astray. -/
theorem step : Supplied stop := by
  have untampered : act ≠ .tamper := by
    rintro rfl
    exact honest
  have stows := move.stows untampered supplied.toConsistent supplied.traced supplied.sectors
  exact ⟨supplied.toConsistent.move move, Nat.lt_of_lt_of_eq supplied.sectors move.sectorSize.symm,
    supplied.traced.step move supplied.toConsistent avoids, supplied.owned.stows stows,
    supplied.kept_backs move, supplied.carried move honest avoids, supplied.kept_filled move honest⟩

end Supplied

/-- Nothing is loaded on a machine that was just started. -/
theorem Supplied.boot {threshold : Option Level} {config : Config} {memory : Memory}
    {base : FrameNumber} {disk : Disk} {machine : Machine}
    (booted : Machine.boot threshold config memory base disk = .ok machine) :
    Supplied ⟨{}, machine⟩ := by
  have between : BetweenOperations .offered ⟨{}, machine⟩ := Machine.boot_betweenOperations booted
  obtain ⟨swap, log, opened, _, rfl⟩ := Machine.boot_ok booted
  exact ⟨between.toConsistent, between.sectors, fun _ member => absurd member List.not_mem_nil,
    .opened opened rfl, fun found => absurd found nofun, fun _ member => absurd member List.not_mem_nil,
    fun found => absurd found nofun⟩

end DemandPaging
