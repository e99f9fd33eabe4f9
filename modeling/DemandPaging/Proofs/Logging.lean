import DemandPaging.Proofs.Habits
import DemandPaging.Session.Run

/-! The log is written and never looked at: lines that stand in it already change nothing of what an
operation does. What a threshold of the log can change is the start of the memory manager, where the
range of the pool is worked out for a line of the log. -/
namespace DemandPaging

section
variable [Architecture]

def Machine.atop (machine : Machine) (older : List Event) : Machine :=
  { machine with log := machine.log ++ older }

namespace Kernel

def atop {α : Type} (outcome : EStateM.Result Fatal Machine α) (older : List Event) :
    EStateM.Result Fatal Machine α :=
  match outcome with
  | .ok value machine => .ok value (machine.atop older)
  | .error cause machine => .error cause (machine.atop older)

end Kernel

/-- Not to look at the lines of the log that were there before. -/
abbrev Habit.lines (older : List Event) : Habit :=
  .blind { older }

namespace Kernel
variable {older : List Event} {others : Interference}

/-! Callers look at all of the machine but the log. -/

theorem look_lines {k : Machine → Kernel α} (rest : ∀ machine, Has (.lines older) (k machine))
    (same : ∀ machine, k (Machine.atop machine older) = k machine) : Has (.lines older) (get >>= k) := by
  intro machine
  change k (machine.atop older) (machine.atop older) = atop (k machine machine) older
  rw [same]
  exact rest machine machine

theorem modifyGet_lines {change : Machine → α × Machine}
    (same : ∀ machine, change (Machine.atop machine older) =
      ((change machine).1, (change machine).2.atop older)) :
    Has (.lines older) (modifyGet change : Kernel α) := by
  intro machine
  change EStateM.Result.ok (change (machine.atop older)).1 (change (machine.atop older)).2 =
    .ok (change machine).1 ((change machine).2.atop older)
  rw [same]

theorem modify_lines {change : Machine → Machine}
    (same : ∀ machine, change (Machine.atop machine older) = (change machine).atop older) :
    Has (.lines older) (modify change : Kernel Unit) :=
  modifyGet_lines fun machine => congrArg (Prod.mk ()) (same machine)

theorem modifyCallers_has (change : Callers → Callers) : Has (.lines older) (modifyCallers change) :=
  modify_lines fun _ => rfl

theorem touch_has (adopts : Adopts (.lines older) others) (space : SpaceId) (addr : VirtualAddress)
    (kind : Access) (faults tries : Nat) : Has (.lines older) (touch others space addr kind faults tries) := by
  induction tries generalizing faults with
  | zero => exact .ret _
  | succ tries ih =>
    refine Has.bind (modifyGet_lines fun _ => rfl) fun result => ?_
    cases result with
    | ok phys => exact .ret _
    | error fault =>
      refine look_lines (fun machine => ?_) fun _ => rfl
      refine (handleFault_has adopts _ _ _).bind fun outcome => ?_
      cases outcome with
      | ok => exact ih _
      | error error => exact .ret _

/-! The operations of callers. -/

theorem virtual_has (addr : Nat) : Has (.lines older) (virtual addr) :=
  .orStop _

theorem answer_has {action : Faulting α} {reply : α → Kernel Reply} (acts : Has (.lines older) action.run)
    (replies : ∀ a, Has (.lines older) (reply a)) : Has (.lines older) (answer action reply) := by
  refine acts.bind fun outcome => ?_
  cases outcome with
  | ok a => exact replies a
  | error error => exact .ret _

theorem afterTouch_has (adopts : Adopts (.lines older) others) (space : SpaceId) (addr : Nat) (kind : Access)
    {proceed : PhysicalAddress → Nat → Kernel Reply}
    (goes : ∀ phys faults, Has (.lines older) (proceed phys faults)) :
    Has (.lines older) (afterTouch others space addr kind proceed) := by
  refine (virtual_has _).bind fun _ => (touch_has adopts _ _ _ _ _).bind fun outcome => ?_
  cases outcome with
  | reached phys faults => exact goes phys faults
  | killed error => exact .ret _
  | stuck => exact .ret _

theorem lendChunks_has (adopts : Adopts (.lines older) others) (chunks : List Chunk) (buffer : Bytes) :
    Has (.lines older) ((transferChunks (lendChunk others) chunks).run buffer) := by
  induction chunks generalizing buffer with
  | nil => exact .ret _
  | cons chunk rest ih =>
    have step : Has (.lines older) ((lendChunk others chunk).run buffer) := by
      have read : Has (.lines older) (readSector others none chunk.sector chunk.length >>= fun result =>
          pure (result, buffer)) := (readSector_has adopts _ _ _).bind fun _ => .ret _
      refine Has.bind read fun (result, buffer) => ?_
      cases result <;> exact .ret _
    refine Has.bind step fun (outcome, buffer) => ?_
    cases outcome with
    | ok => exact ih buffer
    | error error => exact .ret _

theorem storeSwap_has (op : SwapOp) : Has (.lines older) (storeSwap op) := by
  refine look_lines (fun machine => ?_) fun _ => rfl
  refine (Has.orStop _).bind fun outcome => .bind (modify_lines fun _ => rfl) fun _ => ?_
  exact (Has.each emit_has).bind fun _ => .ret _

theorem performSwap_has (adopts : Adopts (.lines older) others) (op : SwapOp) :
    Has (.lines older) (performSwap others op) := by
  cases op with
  | read name length =>
    refine look_lines (fun machine => ?_) fun _ => rfl
    dsimp only
    split
    · exact .ret _
    · refine (Has.orStop _).bind fun _ => ?_
      rw [run_readSlot]
      refine Has.bind (look_lines (fun machine => ?_) fun _ => rfl) fun (result, buffer) => ?_
      · split
        · exact .ret _
        · exact (lendChunks_has adopts _ _).bind fun _ => .ret _
      · cases result <;> exact .ret _
  | write bytes => exact storeSwap_has _
  | free name => exact storeSwap_has _
  | isOccupied name => exact storeSwap_has _

theorem registerZero_has (space : SpaceId) (addr : VirtualAddress) (writable : Bool) (done : Nat)
    (outcomes : List (Except RegistryError VirtualAddress)) (remaining : Nat) :
    Has (.lines older) (registerZero space addr writable done outcomes remaining) := by
  induction remaining generalizing done outcomes with
  | zero => exact .ret _
  | succ remaining ih =>
    refine (Has.orStop _).bind fun page => Has.bind (look_lines (fun machine => ?_) fun _ => rfl) fun _ => ih _ _
    split
    · exact .bind (modify_lines fun _ => rfl) fun _ => .ret _
    · exact .ret _

theorem registerSegment_has (space : SpaceId) (file : FileId) (offset : Nat) (addr : VirtualAddress)
    (readBytes zeroBytes : Nat) (writable : Bool) :
    Has (.lines older) (registerSegment space file offset addr readBytes zeroBytes writable) := by
  refine look_lines (fun machine => ?_) fun _ => rfl
  refine (Has.orStop _).bind fun (result, registry) => .bind (modify_lines fun _ => rfl) fun _ => ?_
  cases result with
  | ok pages => exact (emit_has _).bind fun _ => .ret _
  | error error => exact .ret _

theorem createSpace_has (directory : DirectoryId) : Has (.lines older) (createSpace directory) := by
  refine look_lines (fun machine => ?_) fun _ => rfl
  exact (emit_has _).bind fun _ => .bind (modify_lines fun _ => rfl) fun _ => .ret _

theorem part_has {work : Machine → Except Fatal (Reply × π)} {put : π → Machine → Machine}
    (works : ∀ machine, work (Machine.atop machine older) = work machine)
    (puts : ∀ part machine, put part (Machine.atop machine older) =
      (put part machine).atop older) :
    Has (.lines older) (do
      let machine ← get
      let outcome ← orStop (work machine)
      modify (put outcome.2)
      return outcome.1) := by
  refine look_lines (fun machine => ?_) fun machine => by rw [works]
  exact (Has.orStop _).bind fun outcome => .bind (modify_lines (puts outcome.2)) fun _ => .ret _

/-- No operation looks at the log, if those that interrupt it do not. -/
theorem perform_has (adopts : Adopts (.lines older) others) (op : Op) :
    Has (.lines older) (perform others op) := by
  cases op with
  | registry space op =>
    exact @part_has _ older _ (fun machine => op.run (machine.registry space))
      (fun part machine => machine.setRegistry space part) (fun _ => rfl) fun _ _ => rfl
  | directory space op =>
    exact @part_has _ older _ (fun machine => op.run (machine.directory space))
      (fun part machine => machine.setDirectory space part) (fun _ => rfl) fun _ _ => rfl
  | disk op =>
    exact @part_has _ older _ (fun machine => op.run machine.swap.disk)
      (fun part machine => { machine with swap := { machine.swap with disk := part } })
        (fun _ => rfl) fun _ _ => rfl
  | swap op => exact performSwap_has adopts op
  | createSpace share spec =>
    have last : ∀ directory, Has (.lines older) (do
        return .number (← createSpace directory).number : Kernel Reply) :=
      fun directory => (createSpace_has directory).bind fun _ => .ret _
    cases share with
    | some space => exact look_lines (fun _ => last _) fun _ => rfl
    | none => exact .bind (modifyGet_lines fun _ => rfl) last
  | openFile contents mode =>
    exact look_lines (fun _ => .bind (modify_lines fun _ => rfl) fun _ => .ret _) fun _ => rfl
  | setFileMode file mode => exact .bind (modify_lines fun _ => rfl) fun _ => .ret _
  | fileReads file => exact look_lines (fun _ => .ret _) fun _ => rfl
  | registerZero space addr count writable =>
    exact (virtual_has _).bind fun _ => (registerZero_has _ _ _ _ _ _).bind fun _ => .ret _
  | registerSegment space file offset addr readBytes zeroBytes writable =>
    refine (virtual_has _).bind fun _ => (registerSegment_has _ _ _ _ _ _ _).bind fun outcome => ?_
    cases outcome <;> exact .ret _
  | reserve space addr writable =>
    exact @part_has _ older _
      (fun machine => (RegistryOp.create addr .unclassified writable).run (machine.registry space))
      (fun part machine => machine.setRegistry space part) (fun _ => rfl) fun _ _ => rfl
  | fault space fault stackPointer =>
    refine look_lines (fun machine => ?_) fun _ => rfl
    exact answer_has (handleFault_has adopts _ _ _) fun _ => .ret _
  | touch space addr kind => exact afterTouch_has adopts _ _ _ fun _ _ => .ret _
  | peek space addr =>
    exact afterTouch_has adopts _ _ _ fun _ _ => (readFrame_has _).bind fun _ => .ret _
  | poke space addr byte =>
    exact afterTouch_has adopts _ _ _ fun _ _ => (writeFrame_has _ _ _).bind fun _ => .ret _
  | copyTo space addr bytes =>
    exact (virtual_has _).bind fun _ => answer_has (copyToUser_has adopts _ _ _) fun _ => .ret _
  | copyFrom space addr length =>
    refine (virtual_has _).bind fun _ => (Has.orStop _).bind fun _ => ?_
    exact answer_has (copyFromUser_has adopts _ _ _) fun _ => .ret _
  | pin space addr length kind =>
    refine (virtual_has _).bind fun _ => answer_has (pinRange_has adopts _ _ _ _) fun guard => ?_
    exact look_lines (fun _ => (modifyCallers_has _).bind fun _ => .ret _) fun _ => rfl
  | unpin guard =>
    refine Has.bind (look_lines (fun machine => ?_) fun _ => rfl) fun _ => .ret _
    split
    · exact .ret _
    · exact (modifyCallers_has _).bind fun _ => (dropGuard_has _).bind fun _ => .ret _
  | guardFrame guard addr =>
    refine (virtual_has _).bind fun _ => look_lines (fun machine => ?_) fun _ => rfl
    split <;> exact .ret _
  | release space addr =>
    refine (virtual_has _).bind fun _ => (releasePage_has _ _).bind fun outcome => ?_
    cases outcome <;> exact .ret _
  | destroy space => exact (destroySpace_has _).bind fun _ => .ret _
  | setupStack space => exact answer_has (setupStack_has adopts _) fun _ => .ret _
  | setStackPointer space stackPointer => exact .bind (modify_lines fun _ => rfl) fun _ => .ret _
  | allocate space zeroed =>
    exact (allocate_has _ _).bind fun _ => (modifyCallers_has _).bind fun _ => .ret _
  | free frame => exact (free_has _).bind fun _ => (modifyCallers_has _).bind fun _ => .ret _
  | isPinned frame => exact (poolIndex_has _).bind fun _ => look_lines (fun _ => .ret _) fun _ => rfl
  | owner frame => exact (poolIndex_has _).bind fun _ => look_lines (fun _ => .ret _) fun _ => rfl
  | writeFrame frame bytes => exact (writeFrame_has _ _ _).bind fun _ => .ret _
  | readFrame frame length =>
    exact look_lines (fun _ => (Has.orStop _).bind fun _ => .ret _) fun _ => rfl
  | noteSlot space addr =>
    refine (virtual_has _).bind fun _ => look_lines (fun machine => ?_) fun _ => rfl
    split
    · exact look_lines (fun _ => (modifyCallers_has _).bind fun _ => .ret _) fun _ => rfl
    · exact .ret _
  | config => exact look_lines (fun _ => .ret _) fun _ => rfl
  | beforeFileRead file script => exact (modifyCallers_has _).bind fun _ => .ret _
  | beforeSectorRead script => exact (modifyCallers_has _).bind fun _ => .ret _

/-- Scripts are operations as well, so they do not look at the log either. -/
theorem scripted_adopts (depth : Nat) : Adopts (.lines older) (scripted depth) := by
  induction depth with
  | zero => exact ⟨fun _ _ => .ret _, fun _ => .ret _⟩
  | succ depth ih =>
    have scripts : ∀ script, Has (.lines older) (runScript (scripted depth) script) := fun script =>
      .each fun op => (perform_has ih op).bind fun _ => modifyCallers_has _
    constructor
    · intro load file
      exact .bind (modifyGet_lines fun _ => rfl) scripts
    · intro load
      exact .bind (modifyGet_lines fun _ => rfl) scripts

theorem performs_has (depth : Nat) (ops : List Op) :
    Has (.lines older) (ops.mapM (perform (scripted depth))) := by
  induction ops with
  | nil =>
    rw [List.mapM_nil]
    exact .ret _
  | cons op rest ih =>
    rw [List.mapM_cons]
    exact (perform_has (scripted_adopts depth) op).bind fun _ => ih.bind fun _ => .ret _

end Kernel

/-- Two machines that a session cannot tell apart. They differ in the log at most. Whatever operations
and scripts are performed, the answers are the same, or the same cause stops both; the same lines are
added to either log; and all else is left the same. -/
structure Machine.Twin (machine other : Machine) : Prop where
  tables : ∃ log, other = { machine with log }
  session : ∀ ops, runSession ops other = runSession ops machine
  outcome : ∀ depth (ops : List Op), ∃ outcome,
    ops.mapM (Kernel.perform (scripted depth)) machine = Kernel.atop outcome machine.log ∧
    ops.mapM (Kernel.perform (scripted depth)) other = Kernel.atop outcome other.log

/-- A session starts each operation with an empty log. -/
theorem runOps_log (depth : Nat) (ops : List Op) (machine : Machine) (log : List Event) :
    runOps depth ops { machine with log } = runOps depth ops machine := by
  cases ops with
  | nil => rfl
  | cons op rest => rfl

theorem Machine.twin_log (machine : Machine) (log : List Event) : machine.Twin { machine with log } where
  tables := ⟨log, rfl⟩
  session _ := runOps_log _ _ machine log
  outcome depth ops := by
    let bare : Machine := { machine with log := [] }
    have blind : ∀ older, ops.mapM (Kernel.perform (scripted depth)) (bare.atop older) =
        Kernel.atop (ops.mapM (Kernel.perform (scripted depth)) bare) older :=
      fun older => Kernel.performs_has depth ops bare
    exact ⟨ops.mapM (Kernel.perform (scripted depth)) bare, blind machine.log, blind log⟩

def Machine.Starts (start other : Except Fatal Machine) : Prop :=
  match start, other with
  | .ok machine, .ok other => machine.Twin other
  | .error cause, .error other => cause = other
  | _, _ => False

/-- The addresses from the pool up to and including the first one behind it can be expressed. -/
def PoolFits (base : FrameNumber) (count : Nat) : Prop :=
  base.value + count < Word.limit ∧ (base.value + count) * pageSize < min Word.limit physicalLimit

theorem FrameNumber.start_eq_ok {frame : FrameNumber} {addr : PhysicalAddress} :
    frame.start = .ok addr ↔
      frame.value * pageSize < min Word.limit physicalLimit ∧ addr = ⟨frame.value * pageSize⟩ := by
  simp only [FrameNumber.start, Word.mul, PhysicalAddress.ofWord, Fatal.bind_ok, Nat.lt_min]
  constructor
  · rintro ⟨start, expressed, found⟩
    split at expressed
    · rename_i word
      cases expressed
      split at found
      · rename_i fits
        cases found
        exact ⟨⟨word, fits⟩, rfl⟩
      · cases found
    · cases expressed
  · rintro ⟨⟨word, fits⟩, rfl⟩
    exact ⟨_, if_pos word, if_pos fits⟩

/-- The range of a pool can be told just if the address behind it can be expressed. -/
theorem poolRange_isOk {base : FrameNumber} {count : Nat} :
    (∃ range, poolRange base count = .ok range) ↔ PoolFits base count := by
  constructor
  · rintro ⟨range, told⟩
    obtain ⟨first, _, told⟩ := Fatal.bind_ok.1 told
    obtain ⟨behind, added, told⟩ := Fatal.bind_ok.1 told
    obtain ⟨last, ends, _⟩ := Fatal.bind_ok.1 told
    obtain ⟨sum, summed, same⟩ := Fatal.bind_ok.1 added
    cases same
    unfold Word.add at summed
    split at summed
    · rename_i word
      cases summed
      exact ⟨word, (FrameNumber.start_eq_ok.1 ends).1⟩
    · cases summed
  · rintro ⟨word, ends⟩
    have begins : base.value * pageSize < min Word.limit physicalLimit :=
      Nat.lt_of_le_of_lt (Nat.mul_le_mul_right _ (Nat.le_add_right _ _)) ends
    have behind : base.add count = .ok ⟨base.value + count⟩ := by
      unfold FrameNumber.add Word.add
      rw [if_pos word]
      rfl
    refine ⟨(⟨base.value * pageSize⟩, ⟨(base.value + count) * pageSize⟩), ?_⟩
    refine Fatal.bind_ok.2 ⟨⟨base.value * pageSize⟩, FrameNumber.start_eq_ok.2 ⟨begins, rfl⟩, ?_⟩
    refine Fatal.bind_ok.2 ⟨_, behind, Fatal.bind_ok.2 ⟨⟨(base.value + count) * pageSize⟩, ?_, rfl⟩⟩
    exact FrameNumber.start_eq_ok.2 ⟨ends, rfl⟩

variable {config : Config} {memory : Memory} {base : FrameNumber} {disk : Disk}
  {quiet shown : Option Level}

/-- A log that shows the start of the memory manager has it stop where the range of the pool cannot
be told. -/
theorem Machine.boot_of_poolRange {cause : Fatal} (shows : Level.enabled shown .info = true)
    (told : poolRange base config.frameCount = .error cause) :
    boot shown config memory base disk = .error cause := by
  unfold boot
  rw [if_pos shows, told]
  rfl

/-- The start of the memory manager depends on the range of the pool only, and only under a log that
shows it. -/
theorem Machine.boot_starts (hides : Level.enabled quiet .info = false)
    (shows : Level.enabled shown .info = true) (fits : PoolFits base config.frameCount) :
    Starts (boot quiet config memory base disk) (boot shown config memory base disk) := by
  obtain ⟨range, told⟩ := poolRange_isOk.2 fits
  unfold boot
  rw [if_pos shows, told, if_neg (by rw [hides]; exact Bool.false_ne_true)]
  change Starts (Word.room config.frameCount frameEntrySize >>= _)
    (Word.room config.frameCount frameEntrySize >>= _)
  cases Word.room config.frameCount frameEntrySize with
  | error cause => exact rfl
  | ok =>
    change Starts (SwapStore.ofDisk disk >>= _) (SwapStore.ofDisk disk >>= _)
    cases SwapStore.ofDisk disk with
    | error cause => exact rfl
    | ok swap => exact twin_log _ _

theorem Machine.Starts.refl (start : Except Fatal Machine) : Starts start start := by
  cases start with
  | error cause => exact rfl
  | ok machine => exact twin_log machine machine.log

theorem Machine.Starts.symm {start other : Except Fatal Machine} (starts : Starts start other) :
    Starts other start := by
  cases start with
  | error cause =>
    cases other with
    | error other => exact Eq.symm starts
    | ok other => exact starts
  | ok machine =>
    cases other with
    | error cause => exact starts
    | ok other =>
      obtain ⟨log, rfl⟩ := Twin.tables starts
      exact twin_log { machine with log } machine.log

/-- Logs that agree on whether they show the start of the memory manager do not tell it apart. -/
theorem Machine.boot_of_enabled {one other : Option Level}
    (same : Level.enabled one .info = Level.enabled other .info) :
    boot one config memory base disk = boot other config memory base disk := by
  unfold boot
  rw [same]

/-- The threshold of the log makes no difference to how the memory manager starts and to anything it
does afterwards, unless it decides whether the range of the pool is told and the address behind the
pool cannot be expressed: then the memory manager does not start if the range is told. -/
theorem Machine.boot_threshold (one other : Option Level) (config : Config) (memory : Memory)
    (base : FrameNumber) (disk : Disk) :
    (Level.enabled one .info = Level.enabled other .info ∨ PoolFits base config.frameCount →
      Starts (boot one config memory base disk) (boot other config memory base disk)) ∧
    (Level.enabled one .info = true → ¬PoolFits base config.frameCount →
      ∃ cause, boot one config memory base disk = .error cause ∧
        poolRange base config.frameCount = .error cause) := by
  constructor
  · rintro (same | fits)
    · rw [boot_of_enabled same]
      exact .refl _
    · by_cases same : Level.enabled one .info = Level.enabled other .info
      · rw [boot_of_enabled same]
        exact .refl _
      · cases shown : Level.enabled one .info with
        | false =>
          cases also : Level.enabled other .info with
          | false => exact absurd (shown.trans also.symm) same
          | true => exact boot_starts shown also fits
        | true =>
          cases also : Level.enabled other .info with
          | false => exact (boot_starts also shown fits).symm
          | true => exact absurd (shown.trans also.symm) same
  · intro shows unfit
    cases told : poolRange base config.frameCount with
    | ok range => exact absurd (poolRange_isOk.1 ⟨range, told⟩) unfit
    | error cause => exact ⟨cause, boot_of_poolRange shows told, rfl⟩

end

section
attribute [local instance] Architecture.small

/-- Two frames right before the last frame of physical memory. -/
theorem boot_threshold_before_last_frame :
    PoolFits ⟨4093⟩ 2 ∧
    Machine.Starts
      (Machine.boot none (.ofFrames 2) { first := 0, size := 65536 } ⟨4093⟩ { sectorSize := 4, count := 4 })
      (Machine.boot (some .info) (.ofFrames 2) { first := 0, size := 65536 } ⟨4093⟩
        { sectorSize := 4, count := 4 }) :=
  ⟨⟨by decide, by decide⟩, (Machine.boot_threshold none (some .info) (.ofFrames 2)
    { first := 0, size := 65536 } ⟨4093⟩ { sectorSize := 4, count := 4 }).1 (.inr ⟨by decide, by decide⟩)⟩

/-- Two frames that end with physical memory. The memory manager starts with a log that shows no more
than warnings, and stops with one that shows how it starts. -/
theorem boot_at_end_of_memory :
    ((⟨4094⟩ : FrameNumber).value + 2) * pageSize = physicalLimit ∧
    (∃ machine, Machine.boot (some .warn) (.ofFrames 2) { first := 0, size := 65536 } ⟨4094⟩
      { sectorSize := 4, count := 4 } = .ok machine) ∧
    Machine.boot (some .info) (.ofFrames 2) { first := 0, size := 65536 } ⟨4094⟩
      { sectorSize := 4, count := 4 } = .error .physicalTooWide :=
  ⟨rfl, ⟨_, rfl⟩, rfl⟩

end

end DemandPaging
