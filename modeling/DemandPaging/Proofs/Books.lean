import DemandPaging.Proofs.Operations
import DemandPaging.Proofs.Outcomes

/-! The books of the memory manager: the swap store, and the counters of what goes there and comes back.
Where a call neither obtains a frame nor gives up a slot, it leaves the books alone, and want of a slot does
not stop it. -/
namespace DemandPaging

/-! Checks that fail for other reasons than want of a slot. -/

namespace Fatal

def NotExhausted {α : Type} (outcome : Except Fatal α) : Prop := outcome ≠ .error .swapExhausted

namespace NotExhausted

theorem ok {a : α} : NotExhausted (.ok a) := nofun

theorem bind {outcome : Except Fatal α} {rest : α → Except Fatal β} (first : NotExhausted outcome)
    (then_ : ∀ a, NotExhausted (rest a)) : NotExhausted (outcome >>= rest) := by
  cases outcome with
  | ok a => exact then_ a
  | error cause => exact fun same => first (congrArg Except.error (Except.error.inj same))

end NotExhausted

end Fatal

open Fatal (NotExhausted)

namespace Word

theorem notExhausted_add (a b : Nat) : NotExhausted (add a b) := by
  unfold add
  split <;> exact nofun

theorem notExhausted_sub (a b : Nat) : NotExhausted (sub a b) := by
  unfold sub
  split <;> exact nofun

theorem notExhausted_mul (a b : Nat) : NotExhausted (mul a b) := by
  unfold mul
  split <;> exact nofun

theorem notExhausted_room (count size : Nat) : NotExhausted (room count size) := by
  unfold room
  split <;> exact nofun

end Word

theorem FramePool.notExhausted_index (pool : FramePool) (frame : FrameNumber) :
    NotExhausted (pool.index frame) := by
  unfold index
  split <;> exact nofun

theorem FramePool.notExhausted_frameAt (pool : FramePool) (index : Nat) : NotExhausted (pool.frameAt index) :=
  (Word.notExhausted_add _ _).bind fun _ => .ok

section
variable [Geometry]

theorem VirtualAddress.notExhausted_ofWord (a : Nat) : NotExhausted (ofWord a) := by
  unfold ofWord
  split <;> exact nofun

theorem VirtualAddress.notExhausted_add (a : VirtualAddress) (n : Nat) : NotExhausted (a.add n) :=
  (Word.notExhausted_add _ _).bind notExhausted_ofWord

theorem PhysicalAddress.notExhausted_ofWord (a : Nat) : NotExhausted (ofWord a) := by
  unfold ofWord
  split <;> exact nofun

theorem FrameNumber.notExhausted_start (frame : FrameNumber) : NotExhausted frame.start :=
  (Word.notExhausted_mul _ _).bind PhysicalAddress.notExhausted_ofWord

namespace Memory

theorem notExhausted_place (memory : Memory) (frame : FrameNumber) : NotExhausted (memory.place frame) := by
  refine frame.notExhausted_start.bind fun start => NotExhausted.bind ?_ fun _ => .ok
  unfold locate
  dsimp only
  split <;> exact nofun

theorem notExhausted_read (memory : Memory) (frame : FrameNumber) : NotExhausted (memory.read frame) :=
  (memory.notExhausted_place frame).bind fun _ => .ok

theorem notExhausted_write (memory : Memory) (frame : FrameNumber) (offset : Nat) (bytes : Bytes) :
    NotExhausted (memory.write frame offset bytes) :=
  (memory.notExhausted_place frame).bind fun _ => .ok

theorem notExhausted_readRun (memory : Memory) (frame : FrameNumber) (length : Nat) :
    NotExhausted (memory.readRun frame length) :=
  (memory.notExhausted_place frame).bind fun _ => .ok

end Memory

theorem FileSegment.notExhausted_ofParts (file : FileId) (offset readBytes : Nat) :
    NotExhausted (ofParts file offset readBytes) := by
  unfold ofParts
  split <;> exact nofun

theorem BackingSpec.notExhausted_resolve (spec : BackingSpec) : NotExhausted spec.resolve := by
  cases spec with
  | file => exact (FileSegment.notExhausted_ofParts _ _ _).bind fun _ => .ok
  | _ => exact .ok

theorem RegistryOp.notExhausted_run (op : RegistryOp) (registry : Registry) :
    NotExhausted (op.run registry) := by
  cases op with
  | create | classify =>
    refine (VirtualAddress.notExhausted_ofWord _).bind fun _ =>
      (BackingSpec.notExhausted_resolve _).bind fun _ => ?_
    split <;> exact .ok
  | remove =>
    refine (VirtualAddress.notExhausted_ofWord _).bind fun _ => ?_
    split <;> exact .ok
  | lookup => exact (VirtualAddress.notExhausted_ofWord _).bind fun _ => .ok
  | lookupFrame | length | resident => exact .ok

theorem SwapOp.notExhausted_run (op : SwapOp) (slots : List SwapSlot) (swap : SwapStore) :
    NotExhausted (op.run slots swap) := by
  unfold run
  cases op with
  | write =>
    dsimp only
    split <;> exact .ok
  | read =>
    dsimp only
    split
    · exact .ok
    · refine (Word.notExhausted_room _ _).bind fun _ => ?_
      split <;> exact .ok
  | free =>
    dsimp only
    split <;> exact .ok
  | isOccupied => exact .ok

end

theorem DiskOp.notExhausted_run (op : DiskOp) (disk : Disk) : NotExhausted (op.run disk) := by
  have counted : NotExhausted disk.sectorCount := by
    unfold Disk.sectorCount
    split <;> exact nofun
  have measured : ∀ length, NotExhausted (disk.measure length) := fun length => by
    unfold Disk.measure
    split
    · exact counted.bind fun _ => .ok
    · exact .ok
  cases op with
  | read =>
    refine (Word.notExhausted_room _ _).bind fun _ => (measured _).bind fun _ => ?_
    split <;> exact .ok
  | write =>
    refine (measured _).bind fun _ => ?_
    split <;> exact .ok
  | info => exact counted.bind fun _ => .ok
  | limit => exact .ok

section
variable [Architecture]

theorem Registry.notExhausted_createPages {addr : VirtualAddress} {file : FileId} {offset readBytes : Nat}
    {writable : Bool} {done remaining : Nat} {registry : Registry} :
    NotExhausted (createPages addr file offset readBytes writable done remaining registry) := by
  induction remaining generalizing done registry with
  | zero => exact .ok
  | succ remaining ih =>
    refine (Word.notExhausted_add _ _).bind fun _ => (FileSegment.notExhausted_ofParts _ _ _).bind fun _ =>
      (addr.notExhausted_add _).bind fun _ => ?_
    split
    · exact .ok
    · exact ih

theorem Registry.notExhausted_createSegment (registry : Registry) (file : FileId) (offset : Nat)
    (addr : VirtualAddress) (readBytes zeroBytes : Nat) (writable : Bool) :
    NotExhausted (registry.createSegment file offset addr readBytes zeroBytes writable) := by
  unfold createSegment
  dsimp only
  split
  · exact .ok
  · refine (Word.notExhausted_add _ _).bind fun _ => ?_
    split
    · exact .ok
    · refine notExhausted_createPages.bind fun result => ?_
      split <;> exact .ok

theorem DirectoryOp.notExhausted_run (op : DirectoryOp) (directory : Architecture.Directory) :
    NotExhausted (op.run directory) := by
  cases op with
  | install =>
    refine (VirtualAddress.notExhausted_ofWord _).bind fun _ =>
      (PhysicalAddress.notExhausted_ofWord _).bind fun _ => ?_
    split <;> exact .ok
  | access =>
    refine (VirtualAddress.notExhausted_ofWord _).bind fun _ => ?_
    split <;> exact .ok
  | _ => exact (VirtualAddress.notExhausted_ofWord _).bind fun _ => .ok

/-- The swap store, and the counters but for those of faults and of reads from files. -/
def Machine.books (machine : Machine) : SwapStore × Stats :=
  (machine.swap, { machine.stats with faults := 0, fileReads := 0 })

namespace Kernel

/-- A computation leaves what `view` shows of the machine as it is, and does not stop for want of a slot. -/
def Preserves (view : Machine → ν) (f : Kernel α) : Prop :=
  ∀ start, Outcome start f (fun _ next => view next = view start) fun cause _ => cause ≠ .swapExhausted

namespace Preserves
variable {view : Machine → ν} {f : Kernel α} {k : α → Kernel β} {x : Faulting α} {h : α → Faulting β}

theorem ret (a : α) : Preserves view (pure a : Kernel α) := fun _ => .ret rfl

theorem orStop {outcome : Except Fatal α} (notExhausted : NotExhausted outcome) :
    Preserves view (Kernel.orStop outcome) := fun _ => by
  cases outcome with
  | ok a => exact Outcome.ret rfl
  | error cause => exact fun same => notExhausted (congrArg Except.error same)

theorem bind (first : Preserves view f) (rest : ∀ a, Preserves view (k a)) :
    Preserves view (f >>= k) := fun _ =>
  (first _).bind fun a next same => (rest a next).weaken fun _ _ later => later.trans same

theorem look {k : Machine → Kernel β} (rest : ∀ machine, Preserves view (k machine)) :
    Preserves view (get >>= k) := fun start => rest start start

theorem modify {change : Machine → Machine}
    (same : ∀ machine, view (change machine) = view machine) :
    Preserves view (modify change : Kernel Unit) := fun start => .change (same start)

theorem modifyGet {change : Machine → α × Machine}
    (same : ∀ machine, view (change machine).2 = view machine) :
    Preserves view (modifyGet change : Kernel α) := fun start => .changeGet (same start)

theorem each {items : List ι} {action : ι → Kernel PUnit} (step : ∀ item, Preserves view (action item)) :
    Preserves view (items.forM action) := fun _ =>
  Outcome.forM rfl fun item _ now same => (step item now).weaken fun _ _ later => later.trans same

theorem run_bind (first : Preserves view x.run) (rest : ∀ a, Preserves view (h a).run) :
    Preserves view (x >>= h).run := by
  rw [ExceptT.run_bind]
  refine first.bind fun outcome => ?_
  cases outcome with
  | ok a => exact rest a
  | error error => exact ret _

theorem run_lift (first : Preserves view f) (rest : ∀ a, Preserves view (h a).run) :
    Preserves view (ExceptT.lift f >>= h).run := by
  rw [ExceptT.run_bind_lift]
  exact first.bind rest

theorem run_last (first : Preserves view f) : Preserves view (ExceptT.lift f : Faulting α).run := by
  rw [ExceptT.run_lift, ← bind_pure_comp]
  exact first.bind fun _ => ret _

theorem run_look {h : Machine → Faulting β} (rest : ∀ machine, Preserves view (h machine).run) :
    Preserves view ((get : Faulting Machine) >>= h).run := fun start => rest start start

theorem run_ret (a : α) : Preserves view (pure a : Faulting α).run := ret _

theorem run_fail (error : FaultError) : Preserves view (throw error : Faulting α).run := ret _

end Preserves

/-! What leaves the books alone. -/

theorem emit_books (event : Event) : Preserves Machine.books (emit event) :=
  .modify fun _ => rfl

theorem modifyPool_books (change : FramePool → FramePool) : Preserves Machine.books (modifyPool change) :=
  .modify fun _ => rfl

theorem modifyCallers_books (change : Callers → Callers) :
    Preserves Machine.books (modifyCallers change) :=
  .modify fun _ => rfl

theorem modifyRegistry_books (space : SpaceId) (change : Registry → Registry) :
    Preserves Machine.books (modifyRegistry space change) :=
  .modify fun _ => rfl

theorem readFrame_books (frame : FrameNumber) : Preserves Machine.books (readFrame frame) :=
  .look fun machine => .orStop (machine.memory.notExhausted_read frame)

theorem writeFrame_books (frame : FrameNumber) (offset : Nat) (bytes : Bytes) :
    Preserves Machine.books (writeFrame frame offset bytes) :=
  .look fun machine => .bind (.orStop (machine.memory.notExhausted_write frame offset bytes)) fun _ =>
    (.modify fun _ => rfl)

theorem poolIndex_books (frame : FrameNumber) : Preserves Machine.books (poolIndex frame) :=
  .look fun machine => .orStop (machine.pool.notExhausted_index frame)

theorem setAccessed_books (space : SpaceId) (page : VirtualAddress) (value : Bool) :
    Preserves Machine.books (setAccessed space page value) :=
  .modify fun _ => rfl

theorem setDirty_books (space : SpaceId) (page : VirtualAddress) (value : Bool) :
    Preserves Machine.books (setDirty space page value) :=
  .modify fun _ => rfl

theorem free_books (frame : FrameNumber) : Preserves Machine.books (free frame) := by
  refine (poolIndex_books frame).bind fun index => .look fun machine => ?_
  split
  · exact (modifyPool_books _).bind fun _ => emit_books _
  · exact modifyPool_books _

theorem pinResident_books (space : SpaceId) (page : VirtualAddress) :
    Preserves Machine.books (pinResident space page) := by
  refine .look fun machine => ?_
  split
  · exact .ret _
  · refine .bind (.modify fun _ => rfl) fun _ => (poolIndex_books _).bind fun _ => ?_
    exact (modifyPool_books _).bind fun _ => .ret _

theorem unpin_books (frame : FrameNumber) (owner : SpaceId) : Preserves Machine.books (unpin frame owner) := by
  refine (poolIndex_books frame).bind fun index => .look fun machine => ?_
  dsimp only
  split
  · exact emit_books _
  · split
    · exact modifyPool_books _
    · refine (modifyPool_books _).bind fun _ => ?_
      split
      · exact modifyRegistry_books _ _
      · exact .ret _

theorem dropGuard_books (guard : PinGuard) : Preserves Machine.books (dropGuard guard) :=
  .each fun _ => unpin_books _ _

theorem userAddress_books (address : Nat) : Preserves Machine.books (userAddress address).run := by
  refine .run_look fun machine => ?_
  split
  · exact .run_ret _
  · exact .run_fail _

theorem growStack_books (space : SpaceId) (addr : VirtualAddress) :
    Preserves Machine.books (growStack space addr).run := by
  refine .run_look fun machine => ?_
  dsimp only
  split
  · exact .run_fail _
  · split
    · exact .run_fail _
    · split
      · exact .run_fail _
      · refine .run_lift (.modify (by exact fun _ => rfl)) fun _ => ?_
        exact .run_lift (emit_books _) fun _ => .run_ret _

theorem writePieces_books (space : SpaceId) (pieces : List Piece) (bytes : Bytes) :
    Preserves Machine.books (writePieces space pieces bytes) := by
  induction pieces generalizing bytes with
  | nil => exact .ret _
  | cons piece rest ih =>
    refine (writeFrame_books _ _ _).bind fun _ => (setAccessed_books _ _ _).bind fun _ => ?_
    exact (setDirty_books _ _ _).bind fun _ => ih _

theorem readPieces_books (space : SpaceId) (pieces : List Piece) :
    Preserves Machine.books (pieces.mapM fun piece => (readPiece space piece : Faulting Bytes)).run := by
  induction pieces with
  | nil => exact .ret _
  | cons piece rest ih =>
    rw [List.mapM_cons]
    refine .run_lift ?_ fun _ => ih.run_bind fun _ => .run_ret _
    exact (readFrame_books _).bind fun _ => (setAccessed_books _ _ _).bind fun _ => .ret _

theorem virtual_books (addr : Nat) : Preserves Machine.books (virtual addr) :=
  .orStop (VirtualAddress.notExhausted_ofWord addr)

theorem tryAccess_books (space : SpaceId) (addr : VirtualAddress) (kind : Access) :
    Preserves Machine.books (tryAccess space addr kind) :=
  .modifyGet fun _ => rfl

theorem registerZero_books (space : SpaceId) (addr : VirtualAddress) (writable : Bool) (done : Nat)
    (outcomes : List (Except RegistryError VirtualAddress)) (remaining : Nat) :
    Preserves Machine.books (registerZero space addr writable done outcomes remaining) := by
  induction remaining generalizing done outcomes with
  | zero => exact .ret _
  | succ remaining ih =>
    refine .bind (.orStop (addr.notExhausted_add _)) fun page => .bind (.look fun machine => ?_) fun _ => ih _ _
    split
    · exact .bind (.modify fun _ => rfl) fun _ => .ret _
    · exact .ret _

theorem registerSegment_books (space : SpaceId) (file : FileId) (offset : Nat) (addr : VirtualAddress)
    (readBytes zeroBytes : Nat) (writable : Bool) : Preserves Machine.books
      (registerSegment space file offset addr readBytes zeroBytes writable) := by
  refine .look fun machine => .bind
    (.orStop ((machine.registry space).notExhausted_createSegment _ _ _ _ _ _)) fun (result, registry) =>
      .bind (.modify fun _ => rfl) fun _ => ?_
  cases result with
  | ok pages => exact (emit_books _).bind fun _ => .ret _
  | error error => exact .ret _

theorem unpinGuard_books (number : Nat) : Preserves Machine.books (unpinGuard number) := by
  refine .look fun machine => ?_
  split
  · exact .ret _
  · exact (modifyCallers_books _).bind fun _ => (dropGuard_books _).bind fun _ => .ret _

end Kernel

end

end DemandPaging
