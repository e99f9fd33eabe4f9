import DemandPaging.Proofs.Bijection
import DemandPaging.Proofs.Copies

/-! No data is lost and none leaks. Beside a run stands a record of what processes and the kernel have
written to which page since it was registered. Whatever the memory manager does with the pages meanwhile,
a byte that is read is the last one on record for its address, or else the original one of its page. -/
namespace DemandPaging
open Architecture (Lawful)

section
variable [Architecture]

/-- The machine with files and a swap device that answer reads as they are told to. -/
def Machine.failing (machine : Machine) (modes : FileId → FileMode) (readsLeft : Option Nat) : Machine :=
  { machine with
    files := machine.files.mapIdx fun file opened => { opened with mode := modes file }
    swap := { machine.swap with disk := { machine.swap.disk with readsLeft } } }

/-- Other parties that have reads of files and of the swap device fail, and do nothing else. -/
def Interference.Failing (others : Interference) : Prop :=
  ∀ {hook machine after}, others.turn hook machine = .ok () after →
    ∃ modes readsLeft, after = machine.failing modes readsLeft

def Op.stores : Op → Bool
  | .poke _ _ _ | .copyTo _ _ _ => true
  | _ => false

/-- What is written after an operation, judging from its answer. -/
def Op.records (written : Written) : Op → Reply → Written
  | .poke space addr byte, .done => written.put space ⟨addr⟩ [byte]
  | .copyTo space addr bytes, .done => written.put space ⟨addr⟩ bytes
  | _, _ => written

/-- What an operation answers to those who read are the bytes that are to be shown. -/
def Op.Answers (shown : SpaceId → VirtualAddress → Option UInt8) : Op → Reply → Prop
  | .peek space addr, .number value => ∃ byte, shown space ⟨addr⟩ = some byte ∧ value = byte.toNat
  | .copyFrom space addr length, .bytes bytes => bytes.length = length ∧ ∀ place < length,
      ∃ byte, bytes[place]? = some byte ∧ shown space (VirtualAddress.offset ⟨addr⟩ place) = some byte
  | _, _ => True

/-- A run from the start of the memory manager, where operations are not interrupted but by failures of
files and of the swap device, and what is written to the pages that are registered. -/
inductive Recorded : Written → Machine → Prop
  | boot {threshold config memory base disk machine}
      (booted : Machine.boot threshold config memory base disk = .ok machine) :
      Recorded (fun _ _ => none) machine
  | run {written machine op others reply next} (recorded : Recorded written machine)
      (entrusted : machine.Entrusts op) (failing : others.Failing)
      (ran : Kernel.perform others op machine = .ok reply next) :
      Recorded (next.retained (op.records written reply)) next

/-! Acts of such operations. -/

namespace Op.Acts
variable {op : Op} {loads others : List Load} {machine : Machine} {act : Act}

theorem stores (acts : op.Acts loads machine .store) : op.stores = true := by
  unfold Op.Acts at acts
  split at acts
  all_goals first | rfl | simp [Act.Registers] at acts

theorem unregisters (acts : op.Acts loads machine act) (drops : act.Drops) : op.unregisters = true := by
  obtain ⟨space, addr, rfl | rfl⟩ := drops
  all_goals
    unfold Op.Acts at acts
    split at acts
  all_goals first | rfl | simp [Act.Registers] at acts

theorem adds [Lawful] (acts : op.Acts loads machine act) (adds : act.Adds others) : others = loads := by
  obtain ⟨space, addr, rfl | rfl⟩ := adds
  · exact acts.registers
  · exact acts.not_grow.elim

theorem plain [Lawful] (acts : op.Acts loads machine act) (entrusted : machine.Entrusts op)
    (passive : op.stores = false) : act.Plain := by
  have honest := acts.honest entrusted
  cases act with
  | store => exact Bool.false_ne_true (passive.symm.trans acts.stores)
  | meddle => exact Bool.false_ne_true (entrusted.1.2.2.symm.trans acts.meddles)
  | stray | tamper | scribble => exact honest.elim
  | _ => trivial

end Op.Acts

variable [Lawful]

theorem Machine.idle_failing (machine : Machine) (modes : FileId → FileMode) (readsLeft : Option Nat) :
    machine.Idle (machine.failing modes readsLeft) where
  toAside := by
    refine .of_tables rfl rfl rfl rfl (Nat.le_of_eq List.length_mapIdx.symm) (fun {file} known => ?_)
      rfl (List.suffix_refl _) rfl rfl rfl
    simp [Machine.file, Machine.failing, List.getD_eq_getElem?_getD, known]
  memory := rfl
  swap := ⟨machine.swap.disk.reads, readsLeft, machine.swap.disk.writesLeft, rfl⟩
  dirty _ _ _ _ dirty := dirty
  grows := .refl _

theorem Interference.Failing.tame {others : Interference} (failing : others.Failing) {scope : Scope}
    {loads : List Load} (grow : ∀ space addr, scope.may (.grow loads space addr))
    (settle : scope.may (.settle loads)) : Tame scope loads others others := by
  have idles : ∀ (hook : Hook) {now : Moment}, Follows scope now (others.turn hook) (others.turn hook)
      fun _ next => next.ledger = now.ledger := fun hook now => .of_ok fun _ _ _ ended => by
    obtain ⟨modes, readsLeft, rfl⟩ := failing ended
    exact ⟨_, scope.idles _ (now.machine.idle_failing modes readsLeft), rfl⟩
  exact ⟨⟨fun file _ _ => idles (.file _ file), fun _ _ => idles (.sector _)⟩, rfl, grow, settle⟩

/-! While an operation runs. -/

/-- The bytes of pages can be had, nothing is on record elsewhere, and what was to be shown is so still. -/
structure Recording (exposed : Exposed) (written : Written)
    (seen : SpaceId → VirtualAddress → Option UInt8) (now : Moment) :
    Prop extends Faithful exposed written now where
  blank : written.Blank now.machine
  shown : ∀ {space addr byte}, seen space addr = some byte →
    now.machine.byte? written space addr = some byte

def Scope.recording (machine : Machine) (exposed : Exposed) (written : Written)
    (seen : SpaceId → VirtualAddress → Option UInt8) : Scope where
  may act := act.Plain ∧ ¬act.Drops ∧ ∀ loads, act.Adds loads → loads = []
  spaces := machine.spaces.length
  files := machine.files.length
  trusting := True
  quiet := ⟨trivial, fun ⟨_, _, drops⟩ => drops.elim nofun nofun,
    fun _ ⟨_, _, adds⟩ => adds.elim nofun nofun⟩
  trusts _ meddles := meddles.1
  kept := Recording exposed written seen
  keeps := by
    rintro act start stop ⟨plain, keeps, adds⟩ move recording
    have avoids : act.Avoids start.ledger.loads := by
      intro load member
      have none : act.Adds start.ledger.loads → False := fun added => by
        rw [adds _ added] at member
        cases member
      exact ⟨fun same => none ⟨_, _, .inl same⟩, fun same => none ⟨_, _, .inr same⟩⟩
    exact ⟨recording.toFaithful.step move plain avoids fun _ _ => recording.blank,
      Written.Blank.move recording.blank move recording.toConsistent keeps,
      fun shown => recording.toFaithful.shown move keeps (recording.shown shown)⟩
  after _ := False
  onward _ _ := id

def Scope.closing (exposed : Exposed) (written : Written) : Scope where
  may act := act.Plain ∧ ∀ loads, ¬act.Adds loads
  spaces := 0
  files := 0
  trusting := True
  quiet := ⟨trivial, fun _ ⟨_, _, adds⟩ => adds.elim nofun nofun⟩
  trusts _ meddles := meddles.1
  kept := Faithful exposed written
  keeps := by
    rintro act start stop ⟨plain, adds⟩ move faithful
    exact faithful.step move plain
      (fun _ _ => ⟨fun same => adds _ ⟨_, _, .inl same⟩, fun same => adds _ ⟨_, _, .inr same⟩⟩)
      fun _ added => absurd added (adds _)
  after _ := False
  onward _ _ := id

variable {exposed : Exposed} {written : Written} {seen : SpaceId → VirtualAddress → Option UInt8}
  {start machine next : Machine} {ledger : Ledger} {others : Interference} {space : SpaceId}

theorem Recording.ready (recording : Recording exposed written seen ⟨ledger, machine⟩) :
    (Scope.recording machine exposed written seen).Ready ⟨ledger, machine⟩ :=
  ⟨recording.toConsistent, Nat.le_refl _, Nat.le_refl _, recording.sectors, fun _ => recording.mapped,
    recording⟩

theorem Faithful.closes (faithful : Faithful exposed written ⟨ledger, machine⟩) :
    (Scope.closing exposed written).Ready ⟨ledger, machine⟩ :=
  ⟨faithful.toConsistent, Nat.zero_le _, Nat.zero_le _, faithful.sectors, fun _ => faithful.mapped,
    faithful⟩

/-- Where a computation ends by which nothing is written and nothing unregistered. -/
theorem Recording.ends {x : Kernel α} {post : α → Moment → Prop} {a : α}
    (recording : Recording exposed written seen ⟨ledger, machine⟩)
    (follows : Follows (Scope.recording machine exposed written seen) ⟨ledger, machine⟩ x x post)
    (ran : x machine = .ok a next) :
    ∃ kept, post a ⟨kept, next⟩ ∧ Recording exposed written seen ⟨kept, next⟩ := by
  obtain ⟨kept, path, done⟩ := (follows recording.ready).2 _ _ ran
  exact ⟨kept, done, (recording.ready.path path).kept⟩

/-- Where no page has left a frame in which it was exposed, none had before, if none is unregistered. -/
theorem Recording.spares {x : Kernel α} {post : α → Moment → Prop} {a : α}
    (recording : Recording exposed written seen ⟨ledger, machine⟩)
    (follows : Follows (Scope.recording machine exposed written seen) ⟨ledger, machine⟩ x x post)
    (ran : x machine = .ok a next) (spares : next.Spares exposed) : machine.Spares exposed := by
  obtain ⟨kept, path, _⟩ := (follows recording.ready).2 _ _ ran
  intro owner addr page found
  let Later (now : Moment) : Prop := ∃ after, (now.machine.registry owner).pages.get? addr = some after ∧
    after.addr = page.addr ∧ page.generation ≤ after.generation
  have step : ∀ {act : Act} {start stop : Moment},
      (Scope.recording machine exposed written seen).may act → Move act start stop →
      Consistent start → 0 < start.machine.swap.disk.sectorSize → Later start → Later stop := by
    intro act start stop may move consistent _ known
    obtain ⟨before, there, keyed, grown⟩ := known
    have becomes := move.becomes consistent owner addr
    rw [there] at becomes
    generalize now : (stop.machine.registry owner).pages.get? addr = result at becomes
    cases becomes with
    | @turns _ after turns =>
      have same : after.addr = before.addr := by cases turns <;> rfl
      exact ⟨after, now, same.trans keyed, Nat.le_trans grown turns.generation.1⟩
    | gone dropped => exact absurd ⟨_, _, dropped⟩ may.2.1
  have later : Later ⟨kept, next⟩ :=
    recording.toConsistent.along path recording.sectors step ⟨page, found, rfl, Nat.le_refl _⟩
  obtain ⟨after, there, keyed, grown⟩ := later
  intro generation known
  rw [← keyed] at known
  exact Nat.le_trans grown (spares there known)

/-- Where a computation ends by which nothing is written and nothing registered. -/
theorem Faithful.ends {x : Kernel α} {post : α → Moment → Prop} {a : α}
    (faithful : Faithful exposed written ⟨ledger, machine⟩)
    (follows : Follows (Scope.closing exposed written) ⟨ledger, machine⟩ x x post)
    (ran : x machine = .ok a next) : ∃ kept, post a ⟨kept, next⟩ ∧ Faithful exposed written ⟨kept, next⟩ := by
  obtain ⟨kept, path, done⟩ := (follows faithful.closes).2 _ _ ran
  exact ⟨kept, done, (faithful.closes.path path).kept⟩

/-- What is on record is to be shown from now on. -/
theorem Recording.look (recording : Recording exposed written seen ⟨ledger, machine⟩) :
    Recording exposed written (machine.byte? written) ⟨ledger, machine⟩ :=
  ⟨recording.toFaithful, recording.blank, id⟩

theorem Interference.Failing.tames (failing : others.Failing) :
    Tame (Scope.recording machine exposed written seen) [] others others :=
  failing.tame (fun _ _ => ⟨trivial, fun ⟨_, _, drops⟩ => drops.elim nofun nofun,
    fun _ ⟨_, _, adds⟩ => adds.elim nofun fun same => by cases same; rfl⟩)
    ⟨trivial, fun ⟨_, _, drops⟩ => drops.elim nofun nofun, fun _ ⟨_, _, adds⟩ => adds.elim nofun nofun⟩

theorem Scope.recording_unpins : (Scope.recording machine exposed written seen).may .unpin :=
  ⟨trivial, fun ⟨_, _, drops⟩ => drops.elim nofun nofun, fun _ ⟨_, _, adds⟩ => adds.elim nofun nofun⟩

/-- A page that was pinned in its frame is in it as long as its space is not destroyed. -/
theorem Kernel.Met.seated {scope : Scope} {now : Moment} {page : VirtualAddress × FrameNumber}
    (met : Met scope now space page) (spares : ∀ {space addr}, ¬scope.may (.expel space addr))
    (consistent : Consistent now) (claim : ⟨space, page.1, page.2⟩ ∈ now.ledger.pins) :
    ∃ found, (now.machine.registry space).pages.get? page.1 = some found ∧
      found.state = .resident page.2 := by
  obtain ⟨earlier, writable, ready, path, placed⟩ := met
  let keeps : Moment → Prop := fun now => now.machine.pool.base = earlier.machine.pool.base ∧
    ∀ index, (now.machine.pool.entry index).owner = some space →
      (now.machine.pool.entry index).released = true →
        (earlier.machine.pool.entry index).released = true
  have start : keeps earlier := ⟨rfl, fun _ _ released => released⟩
  obtain ⟨base, old⟩ : keeps now := ready.toConsistent.along path ready.sectors
    (fun may move consistent _ known => ⟨move.base.trans known.1, fun index owned released => by
      have before := move.released_before consistent (fun _ same => spares (same ▸ may)) owned released
      exact known.2 index before.1 before.2⟩) start
  obtain ⟨index, named, owned, here⟩ := consistent.held.claimed (Multiset.mem_add.2 (.inl claim))
  have named : page.2 = now.machine.pool.number index := named
  cases released : (now.machine.pool.entry index).released with
  | false =>
    obtain ⟨_, placed⟩ := here released
    obtain ⟨found, registered, state, _⟩ := Registry.placement_eq_some.1 placed
    exact ⟨found, registered, state⟩
  | true =>
    -- The frame was in the ring when the page was in it.
    obtain ⟨first, inside, same, _⟩ := ready.held.placed placed
    have same : first = index := by
      have number := same.symm.trans named
      rw [FramePool.number, FramePool.number, base] at number
      exact Nat.add_left_cancel (FrameNumber.mk.inj number)
    subst same
    have kept := (ready.held.sound.ring.1 inside).2
    rw [old first owned released] at kept
    cases kept

/-! What operations do to what is on record. -/

namespace Op
variable {op : Op} {reply : Reply}

omit [Architecture] [Lawful] in
/-- Nothing is written by an operation that stores nothing. -/
theorem records_passive (passive : op.stores = false) : op.records written reply = written := by
  unfold records
  split
  · cases passive
  · cases passive
  · rfl

end Op

namespace Recording
variable {op : Op} {reply : Reply}

/-- A page is touched, and what follows is up to the byte that was reached. -/
theorem touches {addr : Nat} {kind : Access} {proceed : PhysicalAddress → Nat → Kernel Reply}
    {reply : Reply} (recording : Recording exposed written seen ⟨{}, machine⟩) (failing : others.Failing)
    (present : space < machine.spaces.length)
    (ran : Kernel.afterTouch others space addr kind proceed machine = .ok reply next) :
    (∃ mid phys faults frame writable, Recording exposed written seen ⟨{}, mid⟩ ∧
      mid.Reached space ⟨addr⟩ kind phys frame writable ∧ proceed phys faults mid = .ok reply next) ∨
    Recording exposed written seen ⟨{}, next⟩ ∧ (reply = .stuck ∨ ∃ failure, reply = .failed failure) := by
  obtain ⟨address, _, checked, ran⟩ := Kernel.bind_ok.1 ran
  obtain ⟨ofWord, rfl⟩ := Kernel.orStop_ok.1 checked
  obtain ⟨canonical, rfl⟩ := VirtualAddress.ofWord_ok ofWord
  obtain ⟨result, mid, touched, ran⟩ := Kernel.bind_ok.1 ran
  obtain ⟨_, ⟨same, reached⟩, recording⟩ :=
    recording.ends (Kernel.touch_follows canonical failing.tames present rfl) touched
  cases same
  cases result with
  | reached phys faults =>
    obtain ⟨frame, writable, reached⟩ := reached trivial phys faults rfl
    exact .inl ⟨mid, phys, faults, frame, writable, recording, reached, ran⟩
  | killed error =>
    obtain ⟨rfl, rfl⟩ := Kernel.pure_ok.1 ran
    exact .inr ⟨recording, .inr ⟨_, rfl⟩⟩
  | stuck =>
    obtain ⟨rfl, rfl⟩ := Kernel.pure_ok.1 ran
    exact .inr ⟨recording, .inl rfl⟩

section
variable {addr : VirtualAddress} {length : Nat} {access : Access}

theorem pins {guard : PinGuard} (recording : Recording exposed written seen ⟨{}, machine⟩)
    (failing : others.Failing) (present : space < machine.spaces.length)
    (ran : (Kernel.pinRange others space addr length access).run machine = .ok (.ok guard) next) :
    Recording exposed written seen ⟨{ pins := guard.pins + 0 }, next⟩ ∧
      Tiles addr length (guard.pieces addr length) ∧
        ∀ piece ∈ guard.pieces addr length, next.Seats space piece := by
  obtain ⟨_, ⟨owner, row, met, same⟩, recording⟩ := recording.ends
    (Kernel.pinRange_follows Scope.recording_unpins failing.tames present rfl) ran
  cases same
  refine ⟨recording, .of_guard row, fun piece member => ?_⟩
  have listed := Kernel.mem_pieces member
  refine (met _ listed).seated (fun may => may.2.1 ⟨_, _, .inr rfl⟩) recording.toConsistent ?_
  rw [← owner]
  exact Multiset.mem_add.2 (.inl (PinGuard.mem_pins listed))

/-- A range that cannot be pinned leaves no pins. -/
theorem unpinned {error : FaultError} (recording : Recording exposed written seen ⟨{}, machine⟩)
    (failing : others.Failing) (present : space < machine.spaces.length)
    (ran : (Kernel.pinRange others space addr length access).run machine = .ok (.error error) next) :
    Recording exposed written seen ⟨{}, next⟩ := by
  obtain ⟨_, same, recording⟩ := recording.ends
    (Kernel.pinRange_follows Scope.recording_unpins failing.tames present rfl) ran
  cases same
  exact recording

end

/-- Where nothing is stored and nothing is unregistered, all stays on record. -/
theorem passes (recording : Recording exposed written seen ⟨{}, machine⟩) (entrusted : machine.Entrusts op)
    (failing : others.Failing) (passive : op.stores = false) (keeps : op.unregisters = false)
    (ran : Kernel.perform others op machine = .ok reply next) :
    Recording exposed written seen ⟨{}, next⟩ := by
  have rightful : op.rightful machine = true :=
    @Rule.Sensible.rightful _ _ Rule.sensible_offered [] machine op machine entrusted.1
  have does : ∀ act, op.Does [] machine act → (Scope.recording machine exposed written seen).may act :=
    fun act does => ⟨does.1.plain entrusted passive,
      fun drops => Bool.false_ne_true (keeps.symm.trans (does.1.unregisters drops)),
      fun _ adds => does.1.adds adds⟩
  have unsoiled : op.soils = true → (Scope.recording machine exposed written seen).may .stray :=
    fun soils => absurd (entrusted.2.1.symm.trans soils) Bool.false_ne_true
  obtain ⟨_, same, recording⟩ := recording.ends
    (Kernel.perform_follows entrusted.1.1 rightful does (absurd trivial) unsoiled failing.tames rfl) ran
  cases same
  exact recording

/-- Where pages are unregistered, those that stay keep their bytes. -/
theorem closes (recording : Recording exposed written seen ⟨{}, machine⟩) (entrusted : machine.Entrusts op)
    (unregisters : op.unregisters = true) (ran : Kernel.perform others op machine = .ok reply next) :
    Faithful exposed written ⟨{}, next⟩ := by
  have passive : op.stores = false := by
    unfold Op.unregisters at unregisters
    split at unregisters
    all_goals first | rfl | cases unregisters
  have unadding : ∀ {act loads}, op.Acts [] machine act → ¬act.Adds loads := by
    rintro _ _ acts ⟨space, addr, rfl | rfl⟩ <;>
    · unfold Op.unregisters at unregisters
      split at unregisters
      all_goals first
        | cases unregisters
          done
        | simp [Op.Acts] at acts
  have does : ∀ act, op.Does [] machine act → (Scope.closing exposed written).may act := fun act does =>
    ⟨does.1.plain entrusted passive, fun _ => unadding does.1⟩
  have follows : Follows (Scope.closing exposed written) ⟨{}, machine⟩ (Kernel.perform others op)
      (Kernel.perform others op) fun _ now => now.ledger = {} := by
    unfold Op.unregisters at unregisters
    split at unregisters
    · exact Kernel.registry_follows trivial does
    · exact Kernel.release_follows does
    · exact Kernel.destroy_follows does
    · cases unregisters
  obtain ⟨_, same, faithful⟩ := recording.toFaithful.ends follows ran
  cases same
  exact faithful

theorem pokes {addr : Nat} {byte : UInt8} (recording : Recording exposed written seen ⟨{}, machine⟩)
    (failing : others.Failing) (present : space < machine.spaces.length)
    (ran : Kernel.perform others (.poke space addr byte) machine = .ok reply next) :
    Faithful exposed ((Op.poke space addr byte).records written reply) ⟨{}, next⟩ := by
  rcases recording.touches failing present ran with
    ⟨mid, phys, _, frame, writable, recording, reached, stored⟩ |
    ⟨recording, rfl | ⟨failure, rfl⟩⟩
  · obtain ⟨_, _, storing, ended⟩ := Kernel.bind_ok.1 stored
    obtain ⟨rfl, rfl⟩ := Kernel.pure_ok.1 ended
    obtain ⟨memory, wrote, rfl⟩ := Kernel.writeFrame_ok.1 storing
    obtain ⟨page, found, resident, _⟩ := Registry.placement_eq_some.1 reached.placed
    have sound : (mid.registry space).Sound := recording.sound space
    have keyed := sound.keyed found
    rw [reached.frame.1, reached.frame.2] at wrote
    have near : (VirtualAddress.mk addr).pageOffset + [byte].length ≤ pageSize :=
      Nat.mod_lt _ pageSize_pos
    have faithful := recording.toFaithful.stored (by rw [keyed]; exact found) resident near wrote
      (Machine.idle_logs _ (.refl _)) (by rw [keyed]; exact reached.dirty rfl)
    rw [keyed, VirtualAddress.offset_pageOffset] at faithful
    exact faithful
  · exact recording.toFaithful
  · exact recording.toFaithful

theorem copies {addr : Nat} {bytes : Bytes} (recording : Recording exposed written seen ⟨{}, machine⟩)
    (failing : others.Failing) (present : space < machine.spaces.length)
    (ran : Kernel.perform others (.copyTo space addr bytes) machine = .ok reply next) :
    Faithful exposed ((Op.copyTo space addr bytes).records written reply) ⟨{}, next⟩ := by
  obtain ⟨address, _, checked, ran⟩ := Kernel.bind_ok.1 ran
  obtain ⟨ofWord, rfl⟩ := Kernel.orStop_ok.1 checked
  obtain ⟨_, rfl⟩ := VirtualAddress.ofWord_ok ofWord
  obtain ⟨result, last, copied, ran⟩ := Kernel.bind_ok.1 ran
  rcases Kernel.run_bind_ends.1 copied with ⟨guard, mid, pinning, copied⟩ | ⟨error, pinning, rfl⟩
  · obtain ⟨recording, tiles, seated⟩ := recording.pins failing present pinning
    obtain ⟨_, after, wrote, copied⟩ := Kernel.run_lift_ok.1 copied
    have faithful := recording.toFaithful.writes tiles seated wrote
    have unpins : (Scope.closing exposed (written.put space ⟨addr⟩ bytes)).may .unpin :=
      ⟨trivial, fun _ ⟨_, _, adds⟩ => adds.elim nofun nofun⟩
    have follows : Follows (Scope.closing exposed (written.put space ⟨addr⟩ bytes))
        ⟨{ pins := guard.pins + 0 }, after⟩
        (ExceptT.lift (Kernel.dropGuard guard) : Faulting Unit).run
        (ExceptT.lift (Kernel.dropGuard guard) : Faulting Unit).run
        fun result now => result = .ok () ∧ now.ledger = {} :=
      .run_last (Kernel.dropGuard_follows unpins rfl) fun _ _ left => ⟨rfl, left⟩
    obtain ⟨_, ⟨rfl, same⟩, faithful⟩ := faithful.ends follows copied
    cases same
    obtain ⟨rfl, rfl⟩ := Kernel.pure_ok.1 ran
    exact faithful
  · obtain ⟨rfl, rfl⟩ := Kernel.pure_ok.1 ran
    exact (recording.unpinned failing present pinning).toFaithful

/-- A byte that is looked at is what its page has to show. -/
theorem peeks {addr : Nat} (recording : Recording exposed written seen ⟨{}, machine⟩) (failing : others.Failing)
    (present : space < machine.spaces.length)
    (ran : Kernel.perform others (.peek space addr) machine = .ok reply next)
    (spares : next.Spares exposed) : (Op.peek space addr).Answers (next.byte? written) reply := by
  rcases recording.touches failing present ran with
    ⟨mid, phys, _, frame, writable, recording, reached, looked⟩ | ⟨_, rfl | ⟨failure, rfl⟩⟩
  · obtain ⟨bytes, _, reading, ended⟩ := Kernel.bind_ok.1 looked
    obtain ⟨rfl, rfl⟩ := Kernel.pure_ok.1 ended
    obtain ⟨read, rfl⟩ := Kernel.readFrame_ok.1 reading
    obtain ⟨page, found, resident, _⟩ := Registry.placement_eq_some.1 reached.placed
    have sound : (mid.registry space).Sound := recording.sound space
    have keyed := sound.keyed found
    rw [reached.frame.1] at read
    obtain ⟨byte, here, shown⟩ := recording.toFaithful.reads (by rw [keyed]; exact found)
      (spares found) resident read (Nat.mod_lt addr pageSize_pos)
    rw [keyed] at shown
    refine ⟨byte, (congrArg (mid.byte? written space) (VirtualAddress.offset_pageOffset ⟨addr⟩).symm).trans
      shown, ?_⟩
    rw [reached.frame.2, List.getD_eq_getElem?_getD]
    exact congrArg (fun byte => (Option.getD byte 0).toNat) here
  · trivial
  · trivial

/-- Bytes that are copied from a process are what its pages have to show. -/
theorem copied {addr length : Nat} (recording : Recording exposed written seen ⟨{}, machine⟩)
    (failing : others.Failing) (present : space < machine.spaces.length)
    (ran : Kernel.perform others (.copyFrom space addr length) machine = .ok reply next)
    (spares : next.Spares exposed) : (Op.copyFrom space addr length).Answers (next.byte? written) reply := by
  obtain ⟨address, _, checked, ran⟩ := Kernel.bind_ok.1 ran
  obtain ⟨ofWord, rfl⟩ := Kernel.orStop_ok.1 checked
  obtain ⟨_, rfl⟩ := VirtualAddress.ofWord_ok ofWord
  obtain ⟨_, _, checked, ran⟩ := Kernel.bind_ok.1 ran
  obtain ⟨_, rfl⟩ := Kernel.orStop_ok.1 checked
  obtain ⟨result, last, copied, ran⟩ := Kernel.bind_ok.1 ran
  rcases Kernel.run_bind_ends.1 copied with ⟨guard, mid, pinning, copied⟩ | ⟨error, pinning, rfl⟩
  · obtain ⟨recording, tiles, seated⟩ := recording.pins failing present pinning
    rw [ExceptT.run_bind] at copied
    obtain ⟨parts, after, reading, copied⟩ := Kernel.bind_ok.1 copied
    obtain ⟨parts, rfl, each⟩ := Kernel.readPieces_ok reading
    have pages : ∀ piece ∈ guard.pieces ⟨addr⟩ length, piece.page.IsPage := fun piece member => by
      obtain ⟨page, found, _⟩ := seated piece member
      have sound : (mid.registry space).Sound := recording.sound space
      exact sound.isPage found
    have recording := recording.look
    -- What the range has to show stays the same while the pins are dropped.
    obtain ⟨_, ⟨kept, _⟩, later⟩ := recording.ends (Kernel.readPieces_follows pages) reading
    cases kept
    obtain ⟨_, final, dropped, copied⟩ := Kernel.run_lift_ok.1 copied
    obtain ⟨rfl, rfl⟩ := Kernel.run_pure_ok.1 copied
    obtain ⟨rfl, rfl⟩ := Kernel.pure_ok.1 ran
    obtain ⟨_, _, last⟩ := later.ends (Kernel.dropGuard_follows Scope.recording_unpins rfl) dropped
    have spared : after.Spares exposed :=
      later.spares (Kernel.dropGuard_follows Scope.recording_unpins rfl) dropped spares
    have spared : mid.Spares exposed := recording.spares (Kernel.readPieces_follows pages) reading spared
    obtain ⟨long, told⟩ := tiles.reads (recording.toFaithful.shows_pieces tiles seated spared each)
    refine ⟨long, fun place within => ?_⟩
    obtain ⟨byte, here, shown⟩ := told place within
    exact ⟨byte, here, last.shown shown⟩
  · obtain ⟨rfl, rfl⟩ := Kernel.pure_ok.1 ran
    trivial

/-- What an operation writes is on record from then on, and all else stays so. -/
theorem records (recording : Recording exposed written seen ⟨{}, machine⟩) (entrusted : machine.Entrusts op)
    (failing : others.Failing) (ran : Kernel.perform others op machine = .ok reply next) :
    Faithful exposed (op.records written reply) ⟨{}, next⟩ := by
  cases stores : op.stores with
  | true =>
    cases op with
    | poke space addr byte => exact recording.pokes failing entrusted.1.1 ran
    | copyTo space addr bytes => exact recording.copies failing entrusted.1.1 ran
    | _ => cases stores
  | false =>
    rw [Op.records_passive stores]
    cases unregisters : op.unregisters with
    | true => exact recording.closes entrusted unregisters ran
    | false => exact (recording.passes entrusted failing stores unregisters ran).toFaithful

theorem answers (recording : Recording exposed written seen ⟨{}, machine⟩) (entrusted : machine.Entrusts op)
    (failing : others.Failing) (ran : Kernel.perform others op machine = .ok reply next)
    (spares : next.Spares exposed) : op.Answers (next.byte? written) reply := by
  cases op with
  | peek space addr => exact recording.peeks failing entrusted.1.1 ran spares
  | copyFrom space addr length => exact recording.copied failing entrusted.1.1 ran spares
  | _ => trivial

end Recording

/-! Runs. -/

theorem Recorded.recording (recorded : Recorded written machine) :
    Recording .none written (machine.byte? written) ⟨{}, machine⟩ := by
  induction recorded with
  | @boot threshold config memory base disk machine booted =>
    have between : BetweenOperations .offered ⟨{}, machine⟩ := Machine.boot_betweenOperations booted
    have supplied := Supplied.boot booted
    obtain ⟨swap, log, _, _, rfl⟩ := Machine.boot_ok booted
    exact ⟨⟨supplied, between.mapped Rule.trusting_offered, fun found => absurd found nofun⟩,
      fun _ => rfl, id⟩
  | @run written machine op others reply next _ entrusted failing ran recording =>
    have faithful := (recording.records entrusted failing ran).retained
    exact ⟨faithful, Machine.blank_retained, id⟩

/-- What is read is what was written last since the page was registered, or else what the page began
with. -/
theorem Recorded.reads_back {op : Op} {reply : Reply} (recorded : Recorded written machine)
    (entrusted : machine.Entrusts op) (failing : others.Failing)
    (ran : Kernel.perform others op machine = .ok reply next) : op.Answers (next.byte? written) reply :=
  recorded.recording.answers entrusted failing ran (Machine.spares_none next)

omit [Lawful] in
/-- Nobody interferes, and so has nothing fail. -/
theorem Interference.failing_none : Interference.none.Failing := by
  intro hook machine after ended
  have same : after = machine := by
    cases hook <;> exact (Kernel.pure_ok.1 ended).2.symm
  have files : machine.files.mapIdx (fun file opened => { opened with mode := (machine.file file).mode }) =
      machine.files := by
    refine List.ext_getElem List.length_mapIdx fun file _ known => ?_
    rw [List.getElem_mapIdx, Machine.file, List.getD_eq_getElem?_getD, List.getElem?_eq_getElem known]
    rfl
  refine ⟨fun file => (machine.file file).mode, machine.swap.disk.readsLeft, ?_⟩
  rw [same, Machine.failing, files]

def Written.after (written : Written) (machine : Machine) : List Op → Written
  | [] => written
  | op :: rest =>
      match Kernel.perform .none op machine with
      | .ok reply next => after (next.retained (op.records written reply)) next rest
      | .error _ _ => written

omit [Lawful] in
theorem Recorded.carried {ops : List Op} (recorded : Recorded written machine)
    (carries : machine.Carries Machine.Entrusts ops) :
    Recorded (written.after machine ops) (ops.foldl Machine.undisturbed machine) := by
  induction ops generalizing written machine with
  | nil => exact recorded
  | cons op rest ih =>
    obtain ⟨entrusted, well, rest⟩ := carries
    obtain ⟨reply, ran⟩ := Kernel.ok_of_endsWell well
    have further := ih (recorded.run entrusted Interference.failing_none ran) rest
    rw [Written.after, ran]
    exact further

def Kernel.bytes? (action : Kernel Reply) (start : Machine) : Option Bytes :=
  match action start with
  | .ok (.bytes bytes) _ => some bytes
  | _ => none

omit [Lawful] in
theorem Kernel.ok_of_bytes? {action : Kernel Reply} {start : Machine} {bytes : Bytes}
    (told : action.bytes? start = some bytes) : action start = .ok (.bytes bytes) (action.leaves start) := by
  unfold bytes? at told
  unfold leaves
  split at told
  · rename_i ran
    cases told
    rw [ran]
  · cases told

end

section
attribute [local instance] Architecture.small

/-- A page of a file was written to and swapped out, and a try to read it failed. -/
def savedOps : List Op :=
  [.createSpace none ⟨0, []⟩, .openFile [10, 11, 12, 13, 14, 15] .working,
    .registerSegment 0 0 0 0x1000 4 12 true, .registerZero 0 0x1010 2 true, .poke 0 0x1002 7,
    .copyTo 0 0x1018 [1, 2, 3, 4, 5, 6, 7, 8, 9, 10, 11, 12], .disk (.limit (some 0) none),
    .peek 0 0x1000, .disk (.limit none none)]

def saved : Machine := savedOps.foldl Machine.undisturbed twoFrames

def savedBytes : Written := Written.after (fun _ _ => none) twoFrames savedOps

theorem saved_reads_back : Recorded savedBytes saved ∧ saved.Entrusts (.copyFrom 0 0x1000 5) ∧
    Interference.none.Failing ∧ ∃ next,
      Kernel.perform .none (.copyFrom 0 0x1000 5) saved = .ok (.bytes [10, 11, 7, 13, 0]) next ∧
        (Op.copyFrom 0 0x1000 5).Answers (next.byte? savedBytes) (.bytes [10, 11, 7, 13, 0]) := by
  have booted : Machine.boot none (.ofFrames 2) (.mapped 4 2) ⟨4⟩ { sectorSize := 4, count := 8 } =
      .ok twoFrames := rfl
  have recorded : Recorded savedBytes saved := (Recorded.boot booted).carried (by decide +kernel)
  have entrusted : saved.Entrusts (.copyFrom 0 0x1000 5) := by decide +kernel
  have told : (Kernel.perform .none (.copyFrom 0 0x1000 5)).bytes? saved = some [10, 11, 7, 13, 0] := by
    decide +kernel
  have ran := Kernel.ok_of_bytes? told
  exact ⟨recorded, entrusted, Interference.failing_none, _, ran,
    recorded.reads_back entrusted Interference.failing_none ran⟩

end

end DemandPaging
