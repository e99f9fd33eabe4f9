import DemandPaging.Proofs.Requests

/-! Every operation of a caller as moves. -/
namespace DemandPaging
open Architecture (Lawful)

variable [Architecture] [Lawful] {scope : Scope} {start : Moment} {others variant : Interference}

namespace Kernel

theorem virtual_follows {addr : Nat} :
    Follows scope start (virtual addr) (virtual addr) fun address now =>
      (Canonical addr ∧ address = ⟨addr⟩) ∧ start = now :=
  Follows.orStop.imp fun _ _ ⟨found, same⟩ => ⟨VirtualAddress.ofWord_ok found, same⟩

/-- What is done at an address begins where the operation began. -/
theorem at_follows {addr : Nat} {k l : VirtualAddress → Kernel β} {post : β → Moment → Prop}
    (rest : Follows scope start (k ⟨addr⟩) (l ⟨addr⟩) post) :
    Follows scope start (virtual addr >>= k) (virtual addr >>= l) post := by
  refine virtual_follows.bind fun address now ⟨⟨_, here⟩, same⟩ => ?_
  subst here same
  exact rest

/-- A part of the machine is asked, and put back as it is then. -/
theorem ask_follows {asked : Except Fatal (Reply × σ)} (put : σ → Machine → Machine)
    (moves : ∀ reply part, asked = .ok (reply, part) → scope.Ready start →
      Path scope.may start ⟨start.ledger, put part start.machine⟩) :
    Follows scope start (orStop asked >>= fun answer => modify (put answer.2) >>= fun _ => pure answer.1)
      (orStop asked >>= fun answer => modify (put answer.2) >>= fun _ => pure answer.1)
      fun _ now => now.ledger = start.ledger := by
  refine Follows.orStop.bind fun ⟨reply, part⟩ now ⟨ran, same⟩ => ?_
  subst same
  refine .of_ok fun ready _ _ ended => ?_
  simp only [bind_ok, modify_ok, pure_ok] at ended
  obtain ⟨_, _, rfl, _, rfl⟩ := ended
  exact ⟨_, moves reply part ran ready, rfl⟩

/-- What is answered to an action on behalf of a process. -/
theorem answer_follows {x y : Faulting α} {reply : α → Kernel Reply} {flights : List Flight}
    {pins : Multiset Pin} {done : Except FaultError α → Moment → Prop}
    (action : Follows scope start x.run y.run done)
    (failed : ∀ error now, done (.error error) now → now.ledger = ⟨flights, pins⟩)
    (rest : ∀ a now, done (.ok a) now →
      Follows scope now (reply a) (reply a) fun _ next => next.ledger = ⟨flights, pins⟩) :
    Follows scope start (answer x reply) (answer y reply)
      fun _ now => now.ledger = ⟨flights, pins⟩ := by
  refine action.bind fun outcome now ends => ?_
  cases outcome with
  | ok a => exact rest a now ends
  | error error => exact .ret (failed error now ends)

/-! Reading a slot as a caller. -/

def lendChunk (others : Interference) (chunk : Chunk) : StateT Bytes Kernel (Except BlockError Unit) := do
  match ← (readSector others none chunk.sector chunk.length : Kernel _) with
  | .error error => return .error error
  | .ok bytes =>
      modify (Bytes.patch · chunk.offset bytes)
      return .ok ()

omit [Lawful] in
/-- Reading a slot as a caller, without the state of the buffer. -/
theorem run_readSlot (others : Interference) (slot : SwapSlot) (length : Nat) (buffer : Bytes) :
    (readSlot others none slot length (fun offset bytes => modify (Bytes.patch · offset bytes)) :
      StateT Bytes Kernel _).run buffer = (do
        let machine ← get
        match machine.swap.readable slot length with
        | .error error => return (.error error, buffer)
        | .ok () =>
            let (result, buffer) ←
              (transferChunks (lendChunk others) (machine.swap.layout slot)).run buffer
            return (result.mapError .io, buffer)) := by
  unfold readSlot
  rw [StateT.run_bind]
  refine congrArg ((get : Kernel Machine) >>= ·) (funext fun machine => ?_)
  dsimp only
  cases machine.swap.readable slot length with
  | error error => rfl
  | ok =>
    dsimp only
    rw [StateT.run_bind]
    refine congrArg (_ >>= ·) (funext fun (result, buffer) => ?_)
    cases result <;> rfl

theorem lendChunk_follows {chunk : Chunk} {buffer : Bytes}
    (tame : Tame scope start.ledger.loads others variant) (balanced : start.ledger.Balanced) :
    Follows scope start ((lendChunk others chunk).run buffer) ((lendChunk variant chunk).run buffer)
      fun _ now => now.ledger = start.ledger := by
  have under : start.ledger.loads = (none : Option Load).toList ++ start.ledger.loads := rfl
  have read : Follows scope start
      (readSector others none chunk.sector chunk.length >>= fun result => pure (result, buffer))
      (readSector variant none chunk.sector chunk.length >>= fun result => pure (result, buffer))
      fun _ now => now.ledger = start.ledger :=
    (readSector_follows tame.toMannered under balanced).bind fun _ _ ⟨ledger, _⟩ => .ret ledger
  refine read.bind fun ⟨result, _⟩ now ledger => ?_
  cases result with
  | error error => exact .ret ledger
  | ok bytes => exact .ret ledger

theorem lendChunks_follows {chunks : List Chunk} {buffer : Bytes}
    (tame : Tame scope start.ledger.loads others variant) (balanced : start.ledger.Balanced) :
    Follows scope start ((transferChunks (lendChunk others) chunks).run buffer)
      ((transferChunks (lendChunk variant) chunks).run buffer)
      fun _ now => now.ledger = start.ledger := by
  induction chunks generalizing start buffer with
  | nil => exact .ret rfl
  | cons chunk rest ih =>
    refine (lendChunk_follows tame balanced).bind fun ⟨result, buffer⟩ now ledger => ?_
    rw [← ledger] at tame balanced ⊢
    cases result with
    | error error => exact .ret rfl
    | ok => exact ih tame balanced

omit [Lawful] in
theorem emits_ok {events : List Event} {start next : Machine} {u : Unit}
    (ended : (events.forM emit : Kernel Unit) start = .ok u next) :
    next = { start with log := events.reverse ++ start.log } := by
  induction events generalizing start with
  | nil =>
    obtain ⟨_, rfl⟩ := pure_ok.1 ended
    rfl
  | cons event rest ih =>
    obtain ⟨_, _, told, ended⟩ := bind_ok.1 ended
    cases emit_ok.1 told
    rw [ih ended, List.reverse_cons, List.append_assoc]
    rfl

def storeSwap (op : SwapOp) : Kernel Reply := do
  let machine ← get
  let outcome ← orStop (op.run machine.callers.slots machine.swap)
  modify fun machine => { machine with
    swap := outcome.swap
    callers := { machine.callers with slots := outcome.slots } }
  outcome.events.forM emit
  return outcome.reply

theorem storeSwap_follows {op : SwapOp} (unread : ∀ name length, op ≠ .read name length)
    (acts : ∀ act, (Op.swap op).Acts start.ledger.loads start.machine act → scope.may act) :
    Follows scope start (storeSwap op) (storeSwap op) fun _ now => now.ledger = start.ledger := by
  refine .of_ok fun _ _ _ ended => ?_
  simp only [storeSwap, bind_ok, get_ok, orStop_ok, modify_ok, pure_ok] at ended
  obtain ⟨_, _, ⟨rfl, rfl⟩, outcome, _, ⟨ran, rfl⟩, _, _, rfl, _, _, told, _, rfl⟩ := ended
  rw [emits_ok told]
  exact ⟨_, SwapOp.run_moves unread acts ran rfl, rfl⟩

theorem performSwap_follows {op : SwapOp}
    (acts : ∀ act, (Op.swap op).Acts start.ledger.loads start.machine act → scope.may act)
    (tame : Tame scope start.ledger.loads others variant) (balanced : start.ledger.Balanced) :
    Follows scope start (performSwap others op) (performSwap variant op)
      fun _ now => now.ledger = start.ledger := by
  cases op with
  | read name length =>
    refine .look ?_
    dsimp only
    split
    · exact .ret rfl
    · rename_i slot _
      refine Follows.orStop.bind fun _ now ⟨_, same⟩ => ?_
      subst same
      refine Follows.bind (?_ : Follows scope start _ _ fun _ now => now.ledger = start.ledger)
        fun ⟨result, buffer⟩ now ledger => by cases result <;> exact .ret ledger
      rw [run_readSlot, run_readSlot]
      refine .look ?_
      dsimp only
      cases start.machine.swap.readable slot length with
      | error error => exact .ret rfl
      | ok => exact (lendChunks_follows tame balanced).bind fun _ _ ledger => .ret ledger
  | write bytes => exact storeSwap_follows nofun acts
  | free name => exact storeSwap_follows nofun acts
  | isOccupied name => exact storeSwap_follows nofun acts

/-- Creating a space is a move, on a directory of its own or on another. -/
theorem createSpace_follows {share : Option SpaceId} {spec : DirectorySpec}
    (known : share.all (· < scope.spaces) = true)
    (acts : ∀ act, (Op.createSpace share spec).Acts start.ledger.loads start.machine act →
      scope.may act) :
    Follows scope start (perform others (.createSpace share spec))
      (perform variant (.createSpace share spec)) fun _ now => now.ledger = start.ledger := by
  refine .of_ok fun ready reply next ended => ?_
  have told : ∀ machine : Machine, Path scope.may ⟨start.ledger, machine⟩ ⟨start.ledger,
      { machine with log := .spaceCreated start.machine.spaces.length :: machine.log }⟩ :=
    fun machine => scope.idles _ (machine.idle_log fun _ same => by cases same)
  cases share with
  | some space =>
    simp only [perform, createSpace, bind_ok, get_ok, emit_ok, modify_ok, pure_ok] at ended
    obtain ⟨_, _, ⟨rfl, rfl⟩, _, _, ⟨rfl, rfl⟩, _, _, ⟨_, _, ⟨rfl, rfl⟩, _, _, rfl, _, _, rfl, _, rfl⟩, _,
      rfl⟩ := ended
    have present := ready.present (Nat.lt_of_lt_of_le (of_decide_eq_true known) ready.known)
    have move : Move .meddle start ⟨start.ledger, _⟩ :=
      @Move.share _ _ start.ledger start.machine _ start.machine.config.userTop present
    exact ⟨_, (Path.of_move (acts .meddle ⟨rfl, rfl⟩) move).trans (told _), rfl⟩
  | none =>
    simp only [perform, addDirectory, createSpace, bind_ok, modifyGet_ok, get_ok, emit_ok, modify_ok,
      pure_ok] at ended
    obtain ⟨_, _, ⟨rfl, rfl⟩, _, _, ⟨_, _, ⟨rfl, rfl⟩, _, _, rfl, _, _, rfl, _, rfl⟩, _, rfl⟩ := ended
    obtain ⟨tables, huge⟩ := spec
    cases huge with
    | nil =>
      have move : Move .quiet start ⟨start.ledger, _⟩ :=
        @Move.create _ _ start.ledger start.machine tables start.machine.config.userTop
      exact ⟨_, (Path.of_move scope.quiet move).trans (told _), rfl⟩
    | cons place rest =>
      have may : scope.may .meddle := acts .meddle ⟨rfl, rfl⟩
      have furnish : Move .meddle start ⟨start.ledger, { start.machine with
          directories := start.machine.directories ++ [Architecture.ofSpec ⟨tables, place :: rest⟩] }⟩ :=
        .meddle (by simp)
      have share : Move .meddle ⟨start.ledger, _⟩ ⟨start.ledger, _⟩ :=
        @Move.share _ _ start.ledger { start.machine with
          directories := start.machine.directories ++ [Architecture.ofSpec ⟨tables, place :: rest⟩] }
            start.machine.directories.length start.machine.config.userTop (by simp)
      exact ⟨_, (Path.next may furnish (.of_move may share)).trans (told _), rfl⟩

theorem unpinGuard_follows {number : Nat} (letting : scope.may .unpin) :
    Follows scope start (unpinGuard number) (unpinGuard number)
      fun _ now => now.ledger = start.ledger := by
  refine .look ?_
  split
  · exact .ret rfl
  · rename_i guard found
    have held : start.machine.callers.guards[number]? = some (some guard) := by
      cases here : start.machine.callers.guards[number]? with
      | none =>
        rw [here] at found
        cases found
      | some entry =>
        rw [here] at found
        exact congrArg some found
    obtain ⟨⟨flights, pins⟩, machine⟩ := start
    refine (Follows.move ⟨flights, guard.pins + pins⟩ scope.quiet
      fun _ => .takeBack held).bind fun _ now taken => ?_
    exact (dropGuard_follows letting (by rw [taken])).bind fun _ _ left => .ret left

def handOut (guard : PinGuard) : Kernel Reply := do
  let number := (← get).callers.guards.length
  modifyCallers fun callers => { callers with guards := callers.guards ++ [some guard] }
  return .pinned number guard.pages

/-- A guard whose pins have been counted is handed out. -/
theorem handOut_follows {guard : PinGuard} {ledger : Ledger}
    (counted : start.ledger = { ledger with pins := guard.pins + ledger.pins }) :
    Follows scope start (handOut guard) (handOut guard) fun _ now => now.ledger = ledger := by
  obtain ⟨_, machine⟩ := start
  cases counted
  refine .look ((Follows.move ledger scope.quiet fun _ => .handOut).bind fun _ _ handed => .ret ?_)
  rw [handed]

/-- What callers keep to themselves is of no weight. -/
theorem modifyCallers_follows {change : Callers → Callers}
    (guards : (change start.machine.callers).guards = start.machine.callers.guards)
    (frames : (change start.machine.callers).frames = start.machine.callers.frames) :
    Follows scope start (modifyCallers change) (modifyCallers change)
      fun _ now => now.ledger = start.ledger :=
  (Follows.idle (start.machine.idle_callers guards frames)).imp fun _ _ same => by rw [same]

/-- The bytes behind an address that an access has reached are only looked at. -/
theorem readFrame_follows {frame : FrameNumber} :
    Follows scope start (readFrame frame) (readFrame frame) fun _ now => start = now :=
  .of_ok fun _ _ _ ended => by
    obtain ⟨_, rfl⟩ := readFrame_ok.1 ended
    exact ⟨_, .refl start, rfl⟩

theorem poolIndex_follows {frame : FrameNumber} :
    Follows scope start (poolIndex frame) (poolIndex frame) fun _ now => start = now :=
  .of_ok fun _ _ _ ended => by
    obtain ⟨_, rfl⟩ := poolIndex_ok.1 ended
    exact ⟨_, .refl start, rfl⟩

theorem lend_moves {index : Nat} {mid : Machine} {space : SpaceId} {frame : FrameNumber}
    (frees : Frees scope start index mid)
    (located : (mid.pool.assign index space).frameAt index = .ok frame) (may : scope.may .lend) :
    Path scope.may start ⟨start.ledger, { mid with
      pool := mid.pool.assign index space
      callers := { mid.callers with frames := (space, frame) :: mid.callers.frames } }⟩ := by
  obtain ⟨pool, path, taken⟩ := frees.moves
  have named : frame = pool.number index := by
    obtain ⟨_, _, same⟩ := FramePool.takeFree?_eq taken
    rw [FramePool.frameAt_ok located, same]
    rfl
  have lend : Move .lend ⟨start.ledger, { mid with pool }⟩ ⟨start.ledger, { mid with
      pool := mid.pool.assign index space
      callers := { mid.callers with
        frames := (space, pool.number index) :: mid.callers.frames } }⟩ := .lend taken
  rw [← named] at lend
  exact path.trans (.of_move may lend)

theorem allocate_lends {space : SpaceId} {zeroed : Bool}
    (acts : ∀ act, (Op.allocate space zeroed).Acts start.ledger.loads start.machine act →
      scope.may act) :
    Follows scope start (perform others (.allocate space zeroed))
      (perform variant (.allocate space zeroed)) fun _ now => now.ledger = start.ledger := by
  refine .of_ok fun ready _ _ ended => ?_
  simp only [perform, bind_ok, modifyCallers_ok, pure_ok] at ended
  obtain ⟨frame, _, allocated, _, _, rfl, _, rfl⟩ := ended
  obtain ⟨index, mid, memory, frees, located, rfl, _⟩ := allocate_frees ready allocated
  have lend := lend_moves frees located (acts .lend (.inl rfl))
  have clear : Move .scribble ⟨start.ledger, { mid with
      pool := mid.pool.assign index space
      callers := { mid.callers with frames := (space, frame) :: mid.callers.frames } }⟩
      ⟨start.ledger, _⟩ :=
    .scribble (Machine.scribbled_memory _ memory) (.of_same fun _ => rfl)
  exact ⟨_, lend.trans (.of_move (acts .scribble (.inr rfl)) clear), rfl⟩

theorem free_recovers {frame : Nat} (rightful : (Op.free frame).rightful start.machine = true)
    (acts : ∀ act, (Op.free frame).Acts start.ledger.loads start.machine act → scope.may act) :
    Follows scope start (perform others (.free frame)) (perform variant (.free frame))
      fun _ now => now.ledger = start.ledger := by
  refine .of_ok fun ready _ _ ended => ?_
  simp only [perform, bind_ok, modifyCallers_ok, pure_ok] at ended
  obtain ⟨_, mid, freed, _, _, rfl, _, rfl⟩ := ended
  have kept : ∀ {held}, held ∈ start.machine.callers.frames →
      start.machine.pool.Holds held.2 held.1 := fun member =>
    ready.held.kept (Multiset.mem_coe.2 (List.mem_append_right _ member))
  rcases Bool.or_eq_true_iff.1 rightful with obtained | unowned
  · obtain ⟨_, member, same⟩ := List.any_eq_true.1 obtained
    obtain ⟨⟨owner, given⟩, newer, older, _, same, whole, rest⟩ :=
      List.exists_of_eraseP (p := (·.2 = ⟨frame⟩)) member same
    cases of_decide_eq_true same
    rw [free_ok freed (kept (whole ▸ List.mem_append_right _ List.mem_cons_self))]
    dsimp only
    rw [rest]
    exact ⟨_, .of_move (acts .recover rfl) (.recover whole), rfl⟩
  · have unowned := Option.isNone_iff_eq_none.1 unowned
    have apart : ∀ held ∈ start.machine.callers.frames, ¬decide (held.2 = ⟨frame⟩) = true := by
      intro held member same
      obtain ⟨_, _, owned⟩ := (kept member).index
      rw [of_decide_eq_true same, unowned] at owned
      cases owned
    simp only [free, bind_ok, poolIndex_ok, get_ok] at freed
    obtain ⟨index, _, ⟨found, rfl⟩, _, _, ⟨rfl, rfl⟩, freed⟩ := freed
    have place : frame - start.machine.pool.base.value = index := by
      have value := congrArg FrameNumber.value (FramePool.index_ok.1 found).1
      exact (congrArg (· - _) value).trans (FramePool.number_sub _ _)
    rw [place] at unowned
    simp only [unowned, bind_ok, modifyPool_ok, emit_ok] at freed
    obtain ⟨_, _, rfl, rfl⟩ := freed
    dsimp only
    rw [List.eraseP_of_forall_not apart]
    exact ⟨_, .next (acts .recover rfl) (.refuse unowned)
      (scope.idles _ (Machine.idle_log _ fun _ same => by cases same)), rfl⟩

theorem registry_follows {space : SpaceId} {op : RegistryOp} (opened : op.Opened scope.files)
    (does : ∀ act, (Op.registry space op).Does start.ledger.loads start.machine act → scope.may act) :
    Follows scope start (perform others (.registry space op)) (perform variant (.registry space op))
      fun _ now => now.ledger = start.ledger := by
  refine .look (ask_follows (fun registry machine => machine.setRegistry space registry) ?_)
  exact fun _ _ ran ready => RegistryOp.run_moves ready (opened.mono ready.opened) does ran

theorem release_follows {space : SpaceId} {addr : Nat}
    (does : ∀ act, (Op.release space addr).Does start.ledger.loads start.machine act → scope.may act) :
    Follows scope start (perform others (.release space addr)) (perform variant (.release space addr))
      fun _ now => now.ledger = start.ledger := by
  refine at_follows ?_
  refine (releasePage_follows fun found => does _ (.release found)).bind fun result _ ledger => ?_
  cases result <;> exact .ret ledger

theorem destroy_follows {space : SpaceId}
    (does : ∀ act, (Op.destroy space).Does start.ledger.loads start.machine act → scope.may act) :
    Follows scope start (perform others (.destroy space)) (perform variant (.destroy space))
      fun _ now => now.ledger = start.ledger :=
  (destroySpace_follows fun addr => does _ (.destroy addr)).bind fun _ _ ledger => .ret ledger

theorem poke_follows {space : SpaceId} {addr : Nat} {byte : UInt8} (present : space < scope.spaces)
    (may : scope.may .store) (straying : ¬scope.trusting → scope.may .stray)
    (tame : Tame scope start.ledger.loads others variant) (balanced : start.ledger.Balanced) :
    Follows scope start (perform others (.poke space addr byte)) (perform variant (.poke space addr byte))
      fun _ now => now.ledger = start.ledger := by
  refine afterTouch_follows tame present balanced fun now phys _ ledger reached => ?_
  refine Follows.bind (?_ : Follows scope now _ _ fun _ next => next.ledger = start.ledger)
    fun _ _ stored => .ret stored
  refine .of_ok fun _ _ _ ended => ?_
  obtain ⟨memory, written, rfl⟩ := writeFrame_ok.1 ended
  by_cases trusting : scope.trusting
  · obtain ⟨frame, writable, here⟩ := reached trusting
    rw [here.frame.1, here.frame.2] at written
    have store : Move .store now ⟨now.ledger, { now.machine with memory }⟩ :=
      .store (.inr ⟨writable, here.placed⟩) written (Machine.idle_logs _ (.refl _))
        fun _ => here.dirty rfl
    exact ⟨now.ledger, .of_move may store, ledger⟩
  · have stray : Move .stray now ⟨now.ledger, { now.machine with memory }⟩ :=
      .stray (now.machine.scribbled_memory memory)
    exact ⟨now.ledger, .of_move (straying trusting) stray, ledger⟩

/-- An operation makes moves and leaves nothing under way. -/
theorem perform_follows {op : Op} (regular : op.Regular scope.spaces scope.files)
    (rightful : op.rightful start.machine = true)
    (does : ∀ act, op.Does start.ledger.loads start.machine act → scope.may act)
    (straying : ¬scope.trusting → scope.may .stray) (soiling : op.soils = true → scope.may .stray)
    (tame : Tame scope start.ledger.loads others variant) (balanced : start.ledger.Balanced) :
    Follows scope start (perform others op) (perform variant op)
      fun _ now => now.ledger = start.ledger := by
  have acts : op.unregisters = false → ∀ act, op.Acts start.ledger.loads start.machine act →
      scope.may act := fun keeps act acts => does act (acts.does keeps)
  cases op with
  | registry space op => exact registry_follows regular.2 does
  | directory space op =>
    refine .look (ask_follows (fun directory machine => machine.setDirectory space directory) ?_)
    exact fun _ _ ran _ => DirectoryOp.run_moves (acts rfl) soiling ran
  | disk op =>
    refine .look (ask_follows
      (fun disk machine => { machine with swap := { machine.swap with disk } }) ?_)
    exact fun _ _ ran _ => DiskOp.run_moves (acts rfl) ran
  | swap op => exact performSwap_follows (acts rfl) tame balanced
  | createSpace share spec => exact createSpace_follows regular (acts rfl)
  | openFile contents mode =>
    refine .look ((Follows.idle (start.machine.idle_newFile _)).bind fun _ now opened => .ret ?_)
    rw [opened]
  | setFileMode file mode =>
    have idle : start.machine.Idle (start.machine.setFile file { start.machine.file file with mode }) :=
      start.machine.idle_file rfl
    refine (Follows.idle idle).bind fun _ now changed => .ret ?_
    rw [changed]
  | fileReads file => exact .look (.ret rfl)
  | registerZero space addr count writable =>
    refine at_follows ?_
    have allowed : ∀ i, 0 ≤ i → i < 0 + count →
        (start.machine.registry space).pages.get? ((⟨addr⟩ : VirtualAddress).page i) = none →
        scope.may (.register start.ledger.loads space ((⟨addr⟩ : VirtualAddress).page i)) :=
      fun i _ within absent => acts rfl _ ⟨i, by omega, absent, rfl⟩
    exact (registerZero_follows regular allowed).bind fun _ _ ledger => .ret ledger
  | registerSegment space file offset addr readBytes zeroBytes writable =>
    refine at_follows ?_
    refine (registerSegment_follows regular.1 regular.2 fun pages registry accepted i within absent =>
      ?_).bind fun result _ ledger => ?_
    · exact acts rfl _ ⟨⟨pages, registry, accepted⟩, i, within, absent, rfl⟩
    · cases result <;> exact .ret ledger
  | reserve space addr writable =>
    have opened : (RegistryOp.create addr .unclassified writable).Opened
        start.machine.files.length := trivial
    have create : ∀ act, (Op.registry space (.create addr .unclassified writable)).Does
        start.ledger.loads start.machine act → scope.may act := fun act done => acts rfl act done.1
    refine .look (ask_follows (fun registry machine => machine.setRegistry space registry) ?_)
    exact fun _ _ ran ready => RegistryOp.run_moves ready opened create ran
  | fault space fault stackPointer =>
    refine .look ((handleFault_follows tame regular balanced).bind fun result _ ledger => ?_)
    cases result <;> exact .ret ledger
  | touch space addr kind =>
    exact afterTouch_follows tame regular balanced fun _ _ _ ledger _ => .ret ledger
  | peek space addr =>
    refine afterTouch_follows tame regular balanced fun now _ _ ledger _ => ?_
    exact readFrame_follows.bind fun _ _ same => .ret (by rw [← same]; exact ledger)
  | poke space addr byte => exact poke_follows regular (acts rfl .store rfl) straying tame balanced
  | copyTo space addr bytes =>
    refine at_follows ?_
    exact answer_follows (copyToUser_follows (acts rfl .unpin (.inr rfl)) (acts rfl .store (.inl rfl)) straying
      tame regular balanced) (fun _ _ done => done) fun _ _ done => .ret done
  | copyFrom space addr length =>
    refine at_follows ?_
    refine Follows.orStop.bind fun _ now ⟨_, same⟩ => ?_
    subst same
    exact answer_follows (copyFromUser_follows (acts rfl .unpin rfl) tame regular balanced)
      (fun _ _ done => done)
      fun _ _ done => .ret done
  | pin space addr length kind =>
    refine at_follows ?_
    exact answer_follows (pinRange_follows (acts rfl .unpin rfl) tame regular balanced)
      (fun _ _ done => done) fun guard now ⟨_, _, _, ledger⟩ => handOut_follows ledger
  | unpin guard =>
    refine (unpinGuard_follows (acts rfl .unpin rfl)).bind fun found _ ledger => ?_
    exact .ret ledger
  | guardFrame guard addr =>
    refine at_follows ?_
    refine .look ?_
    split <;> exact .ret rfl
  | release space addr => exact release_follows does
  | destroy space => exact destroy_follows does
  | setupStack space =>
    have allowed : ∀ addr, firstStackPage start.machine.config.userTop = .ok addr →
        (start.machine.registry space).pages.get? addr = none →
        scope.may (.register start.ledger.loads space addr) :=
      fun addr found absent => acts rfl _ ⟨addr, found, absent, rfl⟩
    exact answer_follows (setupStack_follows allowed tame regular balanced) (fun _ _ done => done)
      fun _ _ done => .ret done
  | setStackPointer space stackPointer =>
    exact (Follows.idle (start.machine.idle_stackPointer space stackPointer)).bind
      fun _ _ moved => .ret (by rw [moved])
  | allocate space zeroed => exact allocate_lends (acts rfl)
  | free frame => exact free_recovers rightful (acts rfl)
  | isPinned frame =>
    refine poolIndex_follows.bind fun _ _ same => ?_
    subst same
    exact .look (.ret rfl)
  | owner frame =>
    refine poolIndex_follows.bind fun _ _ same => ?_
    subst same
    exact .look (.ret rfl)
  | writeFrame frame bytes =>
    refine Follows.bind (?_ : Follows scope start _ _ fun _ now => now.ledger = start.ledger)
      fun _ _ ledger => .ret ledger
    refine .of_ok fun _ _ _ ended => ?_
    obtain ⟨memory, written, rfl⟩ := writeFrame_ok.1 ended
    exact ⟨_, .of_move (acts rfl .scribble rfl)
      (.scribble (Machine.scribbled_memory _ memory) (.of_same fun _ => rfl)), rfl⟩
  | readFrame frame length =>
    refine .look (Follows.orStop.bind fun _ _ ⟨_, same⟩ => ?_)
    subst same
    exact .ret rfl
  | noteSlot space addr =>
    refine at_follows ?_
    refine .look ?_
    split
    · exact .look ((modifyCallers_follows rfl rfl).bind fun _ _ ledger => .ret ledger)
    · exact .ret rfl
  | config => exact .look (.ret rfl)
  | beforeFileRead file script =>
    exact (modifyCallers_follows rfl rfl).bind fun _ _ ledger => .ret ledger
  | beforeSectorRead script =>
    exact (modifyCallers_follows rfl rfl).bind fun _ _ ledger => .ret ledger

end Kernel

end DemandPaging
