import DemandPaging.Proofs.Operations

/-! Habits of the memory manager: what holds of computations however they are put together holds of
everything that the memory manager does, if other parties have the habit as well. One habit is never to look
at the lines of the log or at what callers hold; another is to leave alone what callers hold. -/
namespace DemandPaging

/-- What may be laid over a machine: older lines under those of its log, and other things for its callers to
hold. -/
structure Veil where
  older : List Event := []
  callers : Callers → Callers := id

variable [Architecture]

def Machine.veiled (machine : Machine) (veil : Veil) : Machine :=
  { machine with log := machine.log ++ veil.older, callers := veil.callers machine.callers }

/-- A property of computations that is kept when they are put together. Where a computation works on the
machine itself, no veil makes a difference to what it does. -/
structure Habit where
  holds : ∀ {α : Type}, Kernel α → Prop
  ret : ∀ {α : Type} (a : α), holds (pure a)
  stop : ∀ {α : Type} (cause : Fatal), holds (throw cause : Kernel α)
  bind : ∀ {α β : Type} {f : Kernel α} {k : α → Kernel β}, holds f → (∀ a, holds (k a)) → holds (f >>= k)
  look : ∀ {α : Type} {k : Machine → Kernel α}, (∀ machine, holds (k machine)) →
    (∀ machine veil, k (Machine.veiled machine veil) = k machine) → holds (get >>= k)
  change : ∀ {α : Type} {change : Machine → α × Machine},
    (∀ machine veil, change (Machine.veiled machine veil) =
      ((change machine).1, (change machine).2.veiled veil)) → holds (modifyGet change : Kernel α)
  rescue : ∀ {α : Type} {f : Kernel α} {undo : Kernel Unit}, holds f → holds undo →
    holds (tryCatch f fun cause => do undo; throw cause)

namespace Kernel
variable {habit : Habit}

def Has {α : Type} (habit : Habit) (f : Kernel α) : Prop := habit.holds f

namespace Has
variable {f : Kernel α} {k : α → Kernel β} {x : Faulting α} {h : α → Faulting β}

theorem ret (a : α) : Has habit (pure a : Kernel α) :=
  habit.ret a

theorem stop (cause : Fatal) : Has habit (throw cause : Kernel α) :=
  habit.stop cause

theorem orStop (outcome : Except Fatal α) : Has habit (Kernel.orStop outcome) := by
  cases outcome with
  | ok value => exact ret value
  | error cause => exact stop cause

theorem bind (first : Has habit f) (rest : ∀ a, Has habit (k a)) : Has habit (f >>= k) :=
  habit.bind first rest

theorem look {k : Machine → Kernel β} (rest : ∀ machine, Has habit (k machine))
    (same : ∀ machine veil, k (Machine.veiled machine veil) = k machine) : Has habit (get >>= k) :=
  habit.look rest same

theorem modifyGet {change : Machine → α × Machine}
    (same : ∀ machine veil, change (Machine.veiled machine veil) =
      ((change machine).1, (change machine).2.veiled veil)) :
    Has habit (modifyGet change : Kernel α) :=
  habit.change same

theorem modify {change : Machine → Machine}
    (same : ∀ machine veil, change (Machine.veiled machine veil) = (change machine).veiled veil) :
    Has habit (modify change : Kernel Unit) :=
  habit.change fun machine veil => congrArg (Prod.mk ()) (same machine veil)

theorem rescue {undo : Kernel Unit} (first : Has habit f) (last : Has habit undo) :
    Has habit (tryCatch f fun cause => do undo; throw cause) :=
  habit.rescue first last

theorem each {items : List ι} {action : ι → Kernel Unit} (step : ∀ item, Has habit (action item)) :
    Has habit (items.forM action) := by
  induction items with
  | nil => exact ret ()
  | cons item rest ih => exact (step item).bind fun _ => ih

theorem run_bind (first : Has habit x.run) (rest : ∀ a, Has habit (h a).run) : Has habit (x >>= h).run := by
  rw [ExceptT.run_bind]
  refine first.bind fun outcome => ?_
  cases outcome with
  | ok a => exact rest a
  | error error => exact ret _

theorem run_lift (first : Has habit f) (rest : ∀ a, Has habit (h a).run) :
    Has habit (ExceptT.lift f >>= h).run := by
  rw [ExceptT.run_bind_lift]
  exact first.bind rest

theorem run_last (first : Has habit f) : Has habit (ExceptT.lift f : Faulting α).run := by
  rw [ExceptT.run_lift, ← bind_pure_comp]
  exact first.bind fun _ => ret _

theorem run_gather {items : List ι} {action : ι → Kernel β} (step : ∀ item, Has habit (action item))
    {h : List β → Faulting α} (rest : ∀ values, Has habit (h values).run) :
    Has habit (items.mapM (fun item => (ExceptT.lift (action item) : Faulting β)) >>= h).run := by
  refine run_bind ?_ rest
  induction items with
  | nil =>
    rw [List.mapM_nil]
    exact ret _
  | cons item items ih =>
    rw [List.mapM_cons]
    exact run_lift (step item) fun _ => run_bind ih fun _ => ret _

theorem run_look {h : Machine → Faulting β} (rest : ∀ machine, Has habit (h machine).run)
    (same : ∀ machine veil, h (Machine.veiled machine veil) = h machine) :
    Has habit ((get : Faulting Machine) >>= h).run := by
  change Has habit (ExceptT.lift (get : Kernel Machine) >>= h).run
  rw [ExceptT.run_bind_lift]
  exact look rest fun machine veil => congrArg ExceptT.run (same machine veil)

theorem run_fail (error : FaultError) : Has habit (throw error : Faulting α).run :=
  ret _

theorem run_ret (a : α) : Has habit (pure a : Faulting α).run :=
  ret _

end Has

/-! The parts of the kernel. -/

theorem emit_has (event : Event) : Has habit (emit event) :=
  .modify fun _ _ => rfl

theorem modifyPool_has (change : FramePool → FramePool) : Has habit (modifyPool change) :=
  .modify fun _ _ => rfl

theorem modifyStats_has (change : Stats → Stats) : Has habit (modifyStats change) :=
  .modify fun _ _ => rfl

theorem modifyRegistry_has (space : SpaceId) (change : Registry → Registry) :
    Has habit (modifyRegistry space change) :=
  .modify fun _ _ => rfl

theorem readFrame_has (frame : FrameNumber) : Has habit (readFrame frame) :=
  .look (fun _ => .orStop _) fun _ _ => rfl

theorem writeFrame_has (frame : FrameNumber) (offset : Nat) (bytes : Bytes) :
    Has habit (writeFrame frame offset bytes) :=
  .look (fun _ => .bind (.orStop _) fun _ => .modify fun _ _ => rfl) fun _ _ => rfl

theorem poolIndex_has (frame : FrameNumber) : Has habit (poolIndex frame) :=
  .look (fun _ => .orStop _) fun _ _ => rfl

theorem setAccessed_has (space : SpaceId) (page : VirtualAddress) (value : Bool) :
    Has habit (setAccessed space page value) :=
  .modify fun _ _ => rfl

theorem setDirty_has (space : SpaceId) (page : VirtualAddress) (value : Bool) :
    Has habit (setDirty space page value) :=
  .modify fun _ _ => rfl

theorem install_has (space : SpaceId) (page : VirtualAddress) (frame : PhysicalAddress)
    (writable : Bool) : Has habit (install space page frame writable) :=
  .modifyGet fun _ _ => rfl

theorem unmap_has (space : SpaceId) (page : VirtualAddress) : Has habit (unmap space page) :=
  .modifyGet fun _ _ => rfl

theorem freeSlot_has (slot : SwapSlot) : Has habit (freeSlot slot) := by
  refine .look (fun machine => ?_) fun _ _ => rfl
  refine .bind (.modify fun _ _ => rfl) fun _ => ?_
  split
  · exact emit_has _
  · exact .ret _

theorem writeBack_has (owner : SpaceId) (frame : FrameNumber) : Has habit (writeBack owner frame) := by
  refine .look (fun machine => ?_) fun _ _ => rfl
  split
  · exact emit_has _
  · rename_i page _
    refine .look (fun machine => ?_) fun _ _ => rfl
    refine (unmap_has owner page.addr).bind fun _ => ?_
    split
    · refine (emit_has _).bind fun _ => (modifyStats_has _).bind fun _ => ?_
      exact modifyRegistry_has _ _
    · refine (readFrame_has frame).bind fun bytes => ?_
      refine .look (fun machine => ?_) fun _ _ => rfl
      refine .bind (.modify fun _ _ => rfl) fun _ => ?_
      split
      · refine (emit_has _).bind fun _ => (modifyStats_has _).bind fun _ => ?_
        exact modifyRegistry_has _ _
      · exact (emit_has _).bind fun _ => .stop _
      · exact (emit_has _).bind fun _ => .stop _

theorem sweep_has (visits : Nat) : Has habit (sweep visits) := by
  induction visits with
  | zero => exact .stop _
  | succ visits ih =>
    refine (modifyPool_has _).bind fun _ => .look (fun machine => ?_) fun _ _ => rfl
    split
    · exact .stop _
    · refine (Has.orStop _).bind fun frame => ?_
      split
      · exact (modifyPool_has _).bind fun _ => ih
      · refine (emit_has _).bind fun _ => (setAccessed_has _ _ _).bind fun _ => ?_
        exact (modifyPool_has _).bind fun _ => ih
      · refine (writeBack_has _ _).bind fun _ => (modifyStats_has _).bind fun _ => ?_
        exact (modifyPool_has _).bind fun _ => .ret _

theorem evict_has : Has habit evict := by
  refine .look (fun machine => ?_) fun _ _ => rfl
  dsimp only
  split
  · exact (emit_has _).bind fun _ => .bind (.stop _) fun _ => sweep_has _
  · exact sweep_has _

theorem allocate_has (owner : SpaceId) (zeroed : Bool) : Has habit (allocate owner zeroed) := by
  have last : ∀ index, Has habit (do
      modifyPool (·.assign index owner)
      let frame ← orStop ((← get).pool.frameAt index)
      if zeroed then writeFrame frame 0 (List.replicate pageSize 0)
      return frame) := by
    intro index
    refine (modifyPool_has _).bind fun _ => .look (fun machine => ?_) fun _ _ => rfl
    refine (Has.orStop _).bind fun frame => ?_
    dsimp only
    split
    · exact (writeFrame_has _ _ _).bind fun _ => .ret _
    · exact .ret _
  refine .look (fun machine => ?_) fun _ _ => rfl
  dsimp only
  split
  · exact (modifyPool_has _).bind fun _ => last _
  · exact evict_has.bind last

theorem free_has (frame : FrameNumber) : Has habit (free frame) := by
  refine (poolIndex_has frame).bind fun index => .look (fun machine => ?_) fun _ _ => rfl
  split
  · exact (modifyPool_has _).bind fun _ => emit_has _
  · exact modifyPool_has _

theorem pinResident_has (space : SpaceId) (page : VirtualAddress) :
    Has habit (pinResident space page) := by
  refine .look (fun machine => ?_) fun _ _ => rfl
  split
  · exact .ret _
  · refine .bind (.modify fun _ _ => rfl) fun _ => (poolIndex_has _).bind fun _ => ?_
    exact (modifyPool_has _).bind fun _ => .ret _

theorem unpin_has (frame : FrameNumber) (owner : SpaceId) : Has habit (unpin frame owner) := by
  refine (poolIndex_has frame).bind fun index => .look (fun machine => ?_) fun _ _ => rfl
  dsimp only
  split
  · exact emit_has _
  · split
    · exact modifyPool_has _
    · refine (modifyPool_has _).bind fun _ => ?_
      split
      · exact modifyRegistry_has _ _
      · exact .ret _

theorem releaseHolding_has (space : SpaceId) (page : Page) : Has habit (releaseHolding space page) := by
  unfold releaseHolding
  split
  · exact .ret _
  · exact freeSlot_has _
  · refine (unmap_has _ _).bind fun _ => (poolIndex_has _).bind fun _ =>
      .look (fun machine => ?_) fun _ _ => rfl
    dsimp only
    split
    · exact (emit_has _).bind fun _ => modifyPool_has _
    · exact free_has _

theorem releasePage_has (space : SpaceId) (addr : VirtualAddress) : Has habit (releasePage space addr) := by
  refine .look (fun machine => ?_) fun _ _ => rfl
  split
  · exact .ret _
  · rename_i page registry _
    have last : ∀ pinned : Bool, Has habit (do
        if pinned then return .error (.inUse addr.pageBase)
        modify (·.setRegistry space registry)
        releaseHolding space page
        return .ok page : Kernel (Except RegistryError Page)) := by
      intro pinned
      split
      · exact .ret _
      · refine .bind (.modify fun _ _ => rfl) fun _ => ?_
        exact (releaseHolding_has _ _).bind fun _ => .ret _
    dsimp only
    split
    · exact last false
    · exact (poolIndex_has _).bind fun _ => .look (fun machine => last _) fun _ _ => rfl

theorem destroySpace_has (space : SpaceId) : Has habit (destroySpace space) := by
  refine .look (fun machine => ?_) fun _ _ => rfl
  refine (modifyRegistry_has _ _).bind fun _ => ?_
  exact (Has.each (releaseHolding_has space)).bind fun _ => emit_has _

/-- Other parties that have a habit as well. -/
structure Adopts (habit : Habit) (others : Interference) : Prop where
  file : ∀ load file, Has habit (others.beforeFileRead load file)
  sector : ∀ load, Has habit (others.beforeSectorRead load)

variable {others : Interference}

theorem readSector_has (adopts : Adopts habit others) (load : Option Load) (sector length : Nat) :
    Has habit (readSector others load sector length) :=
  (adopts.sector load).bind fun _ => .modifyGet fun _ _ => rfl

theorem transferChunks_has {transfer : Chunk → Kernel (Except BlockError Unit)}
    (each : ∀ chunk, Has habit (transfer chunk)) (chunks : List Chunk) :
    Has habit (transferChunks transfer chunks) := by
  induction chunks with
  | nil => exact .ret _
  | cons chunk rest ih =>
    refine (each chunk).bind fun outcome => ?_
    cases outcome with
    | ok => exact ih
    | error error => exact .ret _

theorem readSlot_has (adopts : Adopts habit others) (load : Option Load) (slot : SwapSlot)
    (length : Nat) {deliver : Nat → Bytes → Kernel Unit}
    (delivered : ∀ offset bytes, Has habit (deliver offset bytes)) :
    Has habit (readSlot others load slot length deliver) := by
  refine .look (fun machine => ?_) fun _ _ => rfl
  dsimp only
  split
  · exact .ret _
  · refine Has.bind (transferChunks_has (fun chunk => ?_) _) fun outcome => ?_
    · refine (readSector_has adopts _ _ _).bind fun result => ?_
      cases result with
      | ok bytes => exact (delivered _ _).bind fun _ => .ret _
      | error error => exact .ret _
    · cases outcome <;> exact .ret _

theorem fillFromFile_has (adopts : Adopts habit others) (load : Load) (segment : FileSegment) :
    Has habit (fillFromFile others load segment).run := by
  have zeros : Has habit (ExceptT.lift (writeFrame load.frame segment.readBytes
      (List.replicate segment.zeroBytes 0)) : Faulting Unit).run := .run_last (writeFrame_has _ _ _)
  unfold fillFromFile
  dsimp only
  split
  · refine .run_lift (adopts.file _ _) fun _ => .run_look (fun machine => ?_) fun _ _ => rfl
    refine .run_lift (.modify fun _ _ => rfl) fun _ => ?_
    split
    · exact .run_fail _
    · refine .run_lift (writeFrame_has _ _ _) fun _ => ?_
      split
      · exact .run_fail _
      · exact .run_lift (modifyStats_has _) fun _ => zeros
  · exact zeros

theorem populate_has (adopts : Adopts habit others) (load : Load) : Has habit (populate others load).run := by
  refine .run_lift (readFrame_has _) fun _ => ?_
  split
  · refine .run_lift (readSlot_has adopts _ _ _ fun _ _ => writeFrame_has _ _ _) fun outcome => ?_
    cases outcome with
    | ok => exact .run_last (modifyStats_has _)
    | error error => exact .run_fail _
  · exact .run_last (writeFrame_has _ _ _)
  · exact fillFromFile_has adopts _ _
  · exact .run_fail _

theorem attach_has (space : SpaceId) (snapshot : Page) (frame : FrameNumber) (pinned : Bool) :
    Has habit (attach space snapshot frame pinned) := by
  refine .look (fun machine => ?_) fun _ _ => rfl
  split
  · exact .ret _
  · refine (Has.orStop _).bind fun _ => (install_has _ _ _ _).bind fun outcome => ?_
    cases outcome with
    | ok => exact (modifyRegistry_has _ _).bind fun _ => .ret _
    | error error => exact .ret _

theorem welcome_has (space : SpaceId) (page : Page) (frame : FrameNumber) (pin : Bool) :
    Has habit (welcome space page frame pin).run := by
  have told : Has habit (do
      emit (.loaded space page.addr frame page.state)
      return some frame : Faulting (Option FrameNumber)).run :=
    .run_lift (emit_has _) fun _ => .run_ret _
  have kept : Has habit (do
      if !pin then unpin frame space
      emit (.loaded space page.addr frame page.state)
      return some frame : Faulting (Option FrameNumber)).run := by
    dsimp only
    split
    · exact .run_lift (unpin_has _ _) fun _ => told
    · exact told
  unfold welcome
  dsimp only
  split
  · refine .run_lift (freeSlot_has _) fun _ => ?_
    exact .run_lift (setDirty_has _ _ _) fun _ => kept
  · exact kept

theorem load_has (adopts : Adopts habit others) (space : SpaceId) (page : Page) (pin : Bool)
    (pinned : List (VirtualAddress × FrameNumber)) :
    Has habit (load others space page pin pinned).run := by
  rw [load_eq]
  dsimp only
  split
  · exact .run_fail _
  · refine .run_lift (allocate_has _ _) fun frame => .run_lift (populate_has adopts _) fun outcome => ?_
    cases outcome with
    | error error =>
      refine .run_lift (free_has _) fun _ => .run_look (fun machine => ?_) fun _ _ => rfl
      split
      · exact .run_ret _
      · exact .run_fail _
    | ok =>
      refine .run_lift (attach_has _ _ _ _) fun attached => ?_
      split
      · exact .run_lift (free_has _) fun _ => .run_ret _
      · exact .run_lift (free_has _) fun _ => .run_fail _
      · exact welcome_has _ _ _ _

theorem userAddress_has (address : Nat) : Has habit (userAddress address).run := by
  refine .run_look (fun machine => ?_) fun _ _ => rfl
  split
  · exact .run_ret _
  · exact .run_fail _

theorem growStack_has (space : SpaceId) (addr : VirtualAddress) : Has habit (growStack space addr).run := by
  refine .run_look (fun machine => ?_) fun _ _ => rfl
  dsimp only
  split
  · exact .run_fail _
  · split
    · exact .run_fail _
    · split
      · exact .run_fail _
      · refine .run_lift (.modify fun _ _ => rfl) fun _ => ?_
        exact .run_lift (emit_has _) fun _ => .run_ret _

theorem bring_has (adopts : Adopts habit others) (space : SpaceId) (access : Access) (pin : Bool)
    (pinned : List (VirtualAddress × FrameNumber)) (page : Page) :
    Has habit (bring others space access pin pinned page).run := by
  unfold bring
  dsimp only
  split
  · exact .run_fail _
  · split
    · split
      · exact .run_last (pinResident_has _ _)
      · exact .run_ret _
    · exact load_has adopts _ _ _ _

theorem resolve_has (adopts : Adopts habit others) (space : SpaceId) (address : Nat) (access : Access)
    (pin : Bool) (pinned : List (VirtualAddress × FrameNumber)) :
    Has habit (resolve others space address access pin pinned).run := by
  refine .run_bind (userAddress_has address) fun addr => .run_look (fun machine => ?_) fun _ _ => rfl
  dsimp only
  split
  · exact bring_has adopts _ _ _ _ _
  · exact .run_bind (growStack_has _ _) (bring_has adopts _ _ _ _)

theorem handleFault_has (adopts : Adopts habit others) (space : SpaceId) (fault : PageFault)
    (stackPointer : Nat) : Has habit (handleFault others space fault stackPointer) := by
  refine (modifyStats_has _).bind fun _ => .bind (.modify fun _ _ => rfl) fun _ => ?_
  dsimp only
  refine Has.bind ?_ fun outcome => ?_
  · split
    · exact .run_bind (userAddress_has _) fun _ => .run_fail _
    · exact .run_bind (resolve_has adopts _ _ _ _ _) fun _ => .run_ret _
  · split
    · exact (emit_has _).bind fun _ => .ret _
    · exact .ret _

theorem setupStack_has (adopts : Adopts habit others) (space : SpaceId) :
    Has habit (setupStack others space).run := by
  refine .run_look (fun machine => ?_) fun _ _ => rfl
  refine .run_lift (.orStop _) fun page => .run_look (fun machine => ?_) fun _ _ => rfl
  split
  · exact .run_fail _
  · refine .run_lift (.modify fun _ _ => rfl) fun _ => .run_lift (.modify fun _ _ => rfl) fun _ => ?_
    exact .run_bind (resolve_has adopts _ _ _ _ _) fun _ => .run_ret _

theorem pinPage_has (adopts : Adopts habit others) (space : SpaceId) (page : Nat) (access : Access)
    (pinned : List (VirtualAddress × FrameNumber)) (tries : Nat) :
    Has habit (pinPage others space page access pinned tries).run := by
  induction tries with
  | zero => exact .stop _
  | succ tries ih =>
    refine .run_bind (resolve_has adopts _ _ _ _ _) fun outcome => ?_
    cases outcome with
    | some frame => exact .run_ret _
    | none => exact ih

theorem dropGuard_has (guard : PinGuard) : Has habit (dropGuard guard) :=
  .each fun _ => unpin_has _ _

theorem pinPages_has (adopts : Adopts habit others) (space : SpaceId) (access : Access) (page : Nat)
    (pinned : List (VirtualAddress × FrameNumber)) (count : Nat) :
    Has habit (pinPages others space access page pinned count).run := by
  induction count generalizing page pinned with
  | zero => exact .run_ret _
  | succ count ih =>
    refine .run_lift (.rescue (pinPage_has adopts _ _ _ _ _) (dropGuard_has _)) fun outcome => ?_
    cases outcome with
    | ok frame => exact ih _ _
    | error error => exact .run_lift (dropGuard_has _) fun _ => .run_fail _

theorem pinRange_has (adopts : Adopts habit others) (space : SpaceId) (addr : VirtualAddress)
    (length : Nat) (access : Access) : Has habit (pinRange others space addr length access).run := by
  unfold pinRange
  dsimp only
  split
  · exact .run_ret _
  · refine .run_look (fun machine => ?_) fun _ _ => rfl
    split
    · exact .run_fail _
    · exact pinPages_has adopts _ _ _ _ _

theorem writePieces_has (space : SpaceId) (pieces : List Piece) (bytes : Bytes) :
    Has habit (writePieces space pieces bytes) := by
  induction pieces generalizing bytes with
  | nil => exact .ret _
  | cons piece rest ih =>
    refine (writeFrame_has _ _ _).bind fun _ => (setAccessed_has _ _ _).bind fun _ => ?_
    exact (setDirty_has _ _ _).bind fun _ => ih _

theorem copyToUser_has (adopts : Adopts habit others) (space : SpaceId) (target : VirtualAddress)
    (bytes : Bytes) : Has habit (copyToUser others space target bytes).run := by
  refine .run_bind (pinRange_has adopts _ _ _ _) fun guard => ?_
  exact .run_lift (writePieces_has _ _ _) fun _ => .run_last (dropGuard_has _)

theorem copyFromUser_has (adopts : Adopts habit others) (space : SpaceId) (source : VirtualAddress)
    (length : Nat) : Has habit (copyFromUser others space source length).run := by
  refine .run_bind (pinRange_has adopts _ _ _ _) fun guard => ?_
  refine .run_gather (fun piece => ?_) fun parts => .run_lift (dropGuard_has _) fun _ => .run_ret _
  exact (readFrame_has _).bind fun _ => (setAccessed_has _ _ _).bind fun _ => .ret _

/-! Habits. -/

def veiled {α : Type} (outcome : EStateM.Result Fatal Machine α) (veil : Veil) :
    EStateM.Result Fatal Machine α :=
  match outcome with
  | .ok value machine => .ok value (machine.veiled veil)
  | .error cause machine => .error cause (machine.veiled veil)

end Kernel

/-- To end the same whether a veil is laid over the machine or not. -/
def Habit.blind (veil : Veil) : Habit where
  holds f := ∀ machine, f (machine.veiled veil) = Kernel.veiled (f machine) veil
  ret _ _ := rfl
  stop _ _ := rfl
  bind {_ _ f k} first rest machine := by
    change EStateM.bind f k _ = Kernel.veiled (EStateM.bind f k machine) veil
    unfold EStateM.bind
    rw [first machine]
    cases f machine with
    | ok a next => exact rest a next
    | error cause next => rfl
  look {_ k} rest same machine := by
    change k (machine.veiled veil) (machine.veiled veil) = Kernel.veiled (k machine machine) veil
    rw [same]
    exact rest machine machine
  change {_ change} same machine := by
    change EStateM.Result.ok (change (machine.veiled veil)).1 (change (machine.veiled veil)).2 =
      .ok (change machine).1 ((change machine).2.veiled veil)
    rw [same]
  rescue {_ f undo} first last machine := by
    change EStateM.tryCatch f _ _ = Kernel.veiled (EStateM.tryCatch f _ machine) veil
    unfold EStateM.tryCatch
    rw [first machine]
    cases f machine with
    | ok a next => rfl
    | error cause next =>
      change EStateM.bind undo _ (next.veiled veil) = Kernel.veiled (EStateM.bind undo _ next) veil
      unfold EStateM.bind
      rw [last next]
      cases undo next with
      | ok => rfl
      | error => rfl

/-- To leave alone what callers hold. -/
def Habit.discreet : Habit where
  holds f := ∀ {machine a next}, f machine = .ok a next → next.callers = machine.callers
  ret _ _ _ _ ended := by
    obtain ⟨_, rfl⟩ := Kernel.pure_ok.1 ended
    rfl
  stop _ _ _ _ ended := by cases ended
  bind {_ _ _ _} first rest {_ _ _} ended := by
    obtain ⟨_, _, begun, ended⟩ := Kernel.bind_ok.1 ended
    exact (rest _ ended).trans (first begun)
  look {_ _} rest _ {_ _ _} ended := rest _ ended
  change {_ change} same {machine _ _} ended := by
    obtain ⟨_, rfl⟩ := Kernel.modifyGet_ok.1 ended
    -- A change that does not look at what callers hold cannot make them hold anything else.
    have sealed := same machine ⟨[], fun _ => machine.callers⟩
    have whole : machine.veiled ⟨[], fun _ => machine.callers⟩ = machine := by
      unfold Machine.veiled
      rw [List.append_nil]
    rw [whole] at sealed
    exact congrArg (fun result => result.2.callers) sealed
  rescue {_ f undo} first _ {machine a next} ended := by
    change EStateM.tryCatch f _ machine = _ at ended
    unfold EStateM.tryCatch at ended
    split at ended
    · rename_i failed
      change EStateM.bind undo _ _ = _ at ended
      unfold EStateM.bind at ended
      split at ended <;> cases ended
    · exact first ended

end DemandPaging
