import DemandPaging.Kernel.Pinning
import DemandPaging.Proofs.Arrivals
import DemandPaging.Proofs.Outcomes

/-! Steps that nothing stops while the pool is in memory: its frames can be read and written, and those
that loads and pages have can be found in it. -/
namespace DemandPaging

def FramePool.Has (pool : FramePool) (frame : FrameNumber) : Prop :=
  ∃ index < pool.capacity, frame = pool.number index

theorem FramePool.removeFromClock_range (pool : FramePool) (index : Nat) :
    (pool.removeFromClock index).base = pool.base ∧
      (pool.removeFromClock index).capacity = pool.capacity := by
  obtain ⟨_, same, _⟩ := pool.removeFromClock_eq index
  rw [same]
  exact ⟨rfl, rfl⟩

variable [Architecture]

/-- The machine has the frames of `pool`, and all of them are in memory, with the bytes of a page in
each. -/
structure Machine.Houses (machine : Machine) (pool : FramePool) : Prop where
  base : machine.pool.base = pool.base
  capacity : machine.pool.capacity = pool.capacity
  backed : ∀ {frame}, pool.Has frame →
    ∃ bytes, machine.memory.read frame = .ok bytes ∧ bytes.length = pageSize

namespace Machine.Houses
variable {machine after : Machine} {pool : FramePool} {frame : FrameNumber}

theorem of_same (houses : machine.Houses pool) (base : after.pool.base = machine.pool.base)
    (capacity : after.pool.capacity = machine.pool.capacity)
    (memory : after.memory = machine.memory) : after.Houses pool where
  base := base.trans houses.base
  capacity := capacity.trans houses.capacity
  backed has := by
    rw [memory]
    exact houses.backed has

theorem number (houses : machine.Houses pool) (index : Nat) :
    machine.pool.number index = pool.number index := by
  rw [FramePool.number, FramePool.number, houses.base]

theorem index (houses : machine.Houses pool) (has : pool.Has frame) :
    ∃ index, machine.pool.index frame = .ok index := by
  obtain ⟨index, inside, rfl⟩ := has
  refine ⟨index, FramePool.index_ok.2 ⟨(houses.number index).symm, ?_⟩⟩
  rw [houses.capacity]
  exact inside

theorem start (houses : machine.Houses pool) (has : pool.Has frame) :
    ∃ first, frame.start = .ok first := by
  obtain ⟨_, read, _⟩ := houses.backed has
  obtain ⟨_, place, _⟩ := Memory.read_ok.1 read
  obtain ⟨first, begins, _⟩ := Fatal.bind_ok.1 place
  exact ⟨first, begins⟩

theorem frameAt (houses : machine.Houses pool) {index : Nat} (inside : index < pool.capacity) :
    machine.pool.frameAt index = .ok (pool.number index) := by
  obtain ⟨_, begins⟩ := houses.start ⟨index, inside, rfl⟩
  obtain ⟨_, multiplied, _⟩ := Fatal.bind_ok.1 begins
  unfold Word.mul at multiplied
  split at multiplied
  · rename_i short
    have less : pool.base.value + index < Word.limit :=
      Nat.lt_of_le_of_lt (Nat.le_mul_of_pos_right _ pageSize_pos) short
    rw [FramePool.frameAt, FrameNumber.add, Word.add, houses.base, if_pos less]
    rfl
  · cases multiplied

theorem write (houses : machine.Houses pool) (has : pool.Has frame) {offset : Nat} {bytes : Bytes}
    (inside : offset + bytes.length ≤ pageSize) :
    ∃ memory, machine.memory.write frame offset bytes = .ok memory ∧
      Machine.Houses { machine with memory } pool := by
  obtain ⟨held, read, length⟩ := houses.backed has
  obtain ⟨place, found, rfl⟩ := Memory.read_ok.1 read
  have written : machine.memory.write frame offset bytes = .ok _ :=
    Memory.write_ok.2 ⟨place, found, rfl⟩
  refine ⟨_, written, houses.base, houses.capacity, fun {other} listed => ?_⟩
  by_cases same : other = frame
  · subst same
    obtain ⟨before, same, now⟩ := Memory.read_write_self written
    rw [read] at same
    cases same
    refine ⟨_, now, ?_⟩
    rw [Bytes.length_patch (by rw [length]; exact inside), length]
  · dsimp only
    rw [Memory.read_write_of_ne written same]
    exact houses.backed listed

end Machine.Houses

namespace Kernel
variable {pool : FramePool} {frame : FrameNumber} {load : Load} {start : Machine}
  {stops : Fatal → Machine → Prop}

theorem readFrame_outcome (houses : start.Houses pool) (has : pool.Has frame) :
    Outcome start (readFrame frame) (fun _ next => next = start) stops := by
  obtain ⟨bytes, read, _⟩ := houses.backed has
  exact .orStop read rfl

theorem writeFrame_outcome (houses : start.Houses pool) (has : pool.Has frame) {offset : Nat}
    {bytes : Bytes} (inside : offset + bytes.length ≤ pageSize) :
    Outcome start (writeFrame frame offset bytes)
      (fun _ next => next.Houses pool ∧ next.spaces = start.spaces) stops := by
  obtain ⟨memory, written, kept⟩ := houses.write has inside
  exact .look (.pass written (.change ⟨kept, rfl⟩))

theorem poolIndex_outcome (houses : start.Houses pool) (has : pool.Has frame) :
    Outcome start (poolIndex frame) (fun _ next => next = start) stops := by
  obtain ⟨index, found⟩ := houses.index has
  exact .orStop found rfl

/-! The contents of a page arrive in the frame of its load. -/

theorem readSector_outcome (houses : start.Houses pool) {source : Option Load} {sector length : Nat} :
    Outcome start (readSector .none source sector length) (fun result next =>
      (next.Houses pool ∧ next.spaces = start.spaces) ∧
        ∀ bytes, result = .ok bytes → bytes.length ≤ length) stops := by
  refine .changeGet ⟨⟨houses.of_same rfl rfl rfl, rfl⟩, fun bytes read => ?_⟩
  obtain ⟨_, _, _, _, brought⟩ := start.swap.disk.readPart_eq sector length
  rw [brought bytes read, Disk.part, List.length_take]
  exact Nat.min_le_left _ _

theorem loadChunk_outcome (houses : start.Houses pool) (has : pool.Has load.frame) {chunk : Chunk}
    (inside : chunk.offset + chunk.length ≤ pageSize) :
    Outcome start (loadChunk .none load chunk)
      (fun _ next => next.Houses pool ∧ next.spaces = start.spaces) stops := by
  refine (readSector_outcome houses).bind fun result next ⟨⟨houses, same⟩, length⟩ => ?_
  cases result with
  | error error => exact .ret ⟨houses, same⟩
  | ok bytes =>
    have short := length bytes rfl
    have inside : chunk.offset + bytes.length ≤ pageSize := by omega
    exact (writeFrame_outcome houses has inside).bind fun _ _ ⟨houses, kept⟩ =>
      .ret ⟨houses, kept.trans same⟩

theorem readSlot_outcome (houses : start.Houses pool) (has : pool.Has load.frame) {slot : SwapSlot}
    (positive : 0 < start.swap.disk.sectorSize) :
    Outcome start (readSlot .none (some load) slot pageSize (writeFrame load.frame) : Kernel _)
      (fun _ next => next.Houses pool ∧ next.spaces = start.spaces) stops := by
  refine .look ?_
  dsimp only
  cases start.swap.readable slot pageSize with
  | error error => exact .ret ⟨houses, rfl⟩
  | ok =>
    change Outcome start (transferChunks (loadChunk .none load) _ >>= _) _ _
    have chunks : Outcome start (transferChunks (loadChunk .none load) (start.swap.layout slot))
        (fun _ next => next.Houses pool ∧ next.spaces = start.spaces) stops := by
      refine .transferChunks ⟨houses, rfl⟩ fun chunk member now ⟨houses, same⟩ => ?_
      obtain ⟨i, within, rfl⟩ := SwapStore.mem_layout.1 member
      have short := (SwapStore.sector_bounds positive).2 i within
      refine (loadChunk_outcome houses has ?_).weaken fun _ _ ⟨houses, kept⟩ =>
        ⟨houses, kept.trans same⟩
      dsimp only
      omega
    refine chunks.bind fun result _ kept => ?_
    cases result <;> exact .ret kept

theorem fillFromFile_outcome (houses : start.Houses pool) (has : pool.Has load.frame)
    {segment : FileSegment} (fits : segment.readBytes ≤ pageSize) :
    Outcome start (fillFromFile .none load segment).run
      (fun _ next => next.Houses pool ∧ next.spaces = start.spaces) stops := by
  have zeros : segment.readBytes + (List.replicate segment.zeroBytes (0 : UInt8)).length ≤ pageSize := by
    rw [List.length_replicate, FileSegment.zeroBytes]
    omega
  unfold fillFromFile
  dsimp only
  split
  · have idle : Outcome start (Interference.none.beforeFileRead load segment.file)
        (fun _ next => start = next) stops := .ret rfl
    refine .run_lift idle fun _ _ same => .run_look (.run_step ?_)
    subst same
    obtain ⟨_, brought⟩ := (start.file segment.file).readAt_eq segment.offset segment.readBytes
    have houses : Machine.Houses (start.setFile segment.file
        ((start.file segment.file).readAt segment.offset segment.readBytes).2) pool :=
      houses.of_same rfl rfl rfl
    split
    · exact .run_fail ⟨houses, rfl⟩
    · rename_i bytes read
      have short : 0 + bytes.length ≤ pageSize := by
        rw [brought bytes read, Bytes.slice, List.length_take]
        omega
      refine .run_lift (writeFrame_outcome houses has short) fun _ _ written => ?_
      obtain ⟨houses, same⟩ := written
      split
      · exact .run_fail ⟨houses, same⟩
      · refine .run_step (.run_last (writeFrame_outcome ?_ has zeros) fun _ _ filled =>
          ⟨filled.1, filled.2.trans same⟩)
        exact houses.of_same rfl rfl rfl
  · exact .run_last (writeFrame_outcome houses has zeros) fun _ _ kept => kept

/-- Nothing stops the contents of a page from arriving, or the load from failing. -/
theorem populate_outcome (houses : start.Houses pool) (has : pool.Has load.frame)
    (fits : load.page.backing.Fits) (positive : 0 < start.swap.disk.sectorSize) :
    Outcome start (populate .none load).run
      (fun _ next => next.Houses pool ∧ next.spaces = start.spaces) stops := by
  refine .run_lift (readFrame_outcome houses has) fun _ _ same => ?_
  subst same
  split
  · refine .run_lift (readSlot_outcome houses has positive) fun result _ ⟨houses, same⟩ => ?_
    cases result with
    | error error => exact .ret ⟨houses, same⟩
    | ok => exact .run_change ⟨houses.of_same rfl rfl rfl, same⟩
  · refine .run_last (writeFrame_outcome houses has ?_) fun _ _ kept => kept
    rw [List.length_replicate, Nat.zero_add]
  · rename_i segment backing _
    rw [backing] at fits
    exact fillFromFile_outcome houses has fits
  · exact .ret ⟨houses, rfl⟩

/-! Frames and slots are given up. -/

theorem free_outcome (houses : start.Houses pool) (has : pool.Has frame) :
    Outcome start (free frame) (fun _ next => next.Houses pool ∧ next.spaces = start.spaces) stops := by
  refine (poolIndex_outcome houses has).bind fun index _ same => .look ?_
  subst same
  split
  · exact .step (.change ⟨houses.of_same rfl rfl rfl, rfl⟩)
  · obtain ⟨base, capacity⟩ := FramePool.removeFromClock_range _ index
    exact .change ⟨houses.of_same base capacity rfl, rfl⟩

theorem freeSlot_outcome (houses : start.Houses pool) (slot : SwapSlot) :
    Outcome start (freeSlot slot) (fun _ next => next.Houses pool) stops := by
  refine .look (.step ?_)
  have houses : Machine.Houses { start with swap := (start.swap.free slot).2 } pool :=
    houses.of_same rfl rfl rfl
  split
  · exact .change (houses.of_same rfl rfl rfl)
  · exact .ret houses

theorem unpin_outcome (houses : start.Houses pool) (has : pool.Has frame) (owner : SpaceId) :
    Outcome start (unpin frame owner) (fun _ next => next.Houses pool) stops := by
  refine (poolIndex_outcome houses has).bind fun index _ same => .look ?_
  subst same
  dsimp only
  split
  · exact .change (houses.of_same rfl rfl rfl)
  · split
    · exact .change (houses.of_same rfl rfl rfl)
    · refine .step ?_
      split
      · exact .change (houses.of_same rfl rfl rfl)
      · exact .ret (houses.of_same rfl rfl rfl)

theorem dropGuard_outcome {guard : PinGuard} (houses : start.Houses pool)
    (has : ∀ page ∈ guard.pages, pool.Has page.2) :
    Outcome start (dropGuard guard) (fun _ next => next.Houses pool) stops :=
  .forM houses fun page member _ houses => unpin_outcome houses (has page member) guard.owner

/-- The kernel stops only when the pins of a guard are dropped, if it does. -/
theorem guarded_outcome {α : Type} {guard : PinGuard} {f : Kernel α} {post : α → Machine → Prop}
    (outcome : Outcome start f post stops)
    (drops : ∀ cause next, stops cause next → ∃ last, dropGuard guard next = .ok () last) :
    Outcome start (guarded guard f) post fun cause last =>
      ∃ next, stops cause next ∧ dropGuard guard next = .ok () last := by
  cases ran : f start with
  | ok a next =>
    have ends : guarded guard f start = .ok a next := by
      change EStateM.tryCatch f _ start = _
      unfold EStateM.tryCatch
      rw [ran]
    exact .ended ends (outcome.of_ok ran)
  | error cause next =>
    have known := outcome.of_error ran
    obtain ⟨last, dropped⟩ := drops cause next known
    have stops : guarded guard f start = .error cause last := by
      change EStateM.tryCatch f _ start = _
      unfold EStateM.tryCatch
      rw [ran]
      change EStateM.bind (dropGuard guard) (fun _ => throw cause) next = _
      unfold EStateM.bind
      rw [dropped]
      rfl
    exact .stopped stops ⟨next, known, dropped⟩

theorem welcome_outcome (houses : start.Houses pool) {space : SpaceId} {page : Page}
    (has : pool.Has frame) (pin : Bool) :
    Outcome start (welcome space page frame pin).run
      (fun result next => next.Houses pool ∧ result ≠ .ok none) stops := by
  -- The pins come last but for the log.
  have last : ∀ {now : Machine}, now.Houses pool → Outcome now
      (do if !pin then unpin frame space
          emit (.loaded space page.addr frame page.state)
          return some frame : Faulting (Option FrameNumber)).run
      (fun result next => next.Houses pool ∧ result ≠ .ok none) stops := by
    intro now houses
    split
    · exact .run_lift (unpin_outcome houses has space) fun _ _ houses =>
        .run_step (.ret ⟨houses.of_same rfl rfl rfl, fun same => by cases same⟩)
    · exact .run_step (.ret ⟨houses.of_same rfl rfl rfl, fun same => by cases same⟩)
  unfold welcome
  dsimp only at last ⊢
  split
  · refine .run_lift (freeSlot_outcome houses _) fun _ _ houses => .run_step (last ?_)
    exact houses.of_same rfl rfl rfl
  · exact last houses

/-- Nothing stops a load from ending, once its frame is filled or could not be. It finds its page as it
was, since nobody has interfered. -/
theorem conclude_outcome (houses : start.Houses pool) (has : pool.Has load.frame)
    (current : (start.registry load.space).pages.get? load.page.addr = some load.page) (pin : Bool)
    (outcome : Except FaultError Unit) : Outcome start (conclude load pin outcome).run
      (fun result next => next.Houses pool ∧ result ≠ .ok none) stops := by
  have found : (start.registry load.space).current? load.page = some load.page := by
    rw [Registry.current?, current]
    simp
  cases outcome with
  | error error =>
    refine .run_lift (free_outcome houses has) fun _ next kept => .run_look ?_
    obtain ⟨houses, same⟩ := kept
    have fresh : (next.registry load.space).isStale load.page = false := by
      rw [Machine.registry, Machine.space, same]
      change (start.registry load.space).isStale load.page = false
      rw [Registry.isStale, found]
      rfl
    rw [fresh]
    exact .ret ⟨houses, fun same => by cases same⟩
  | ok =>
    obtain ⟨first, begins⟩ := houses.start has
    have attached : Outcome start (attach load.space load.page load.frame pin)
        (fun result next => next.Houses pool ∧ result ≠ .ok false) stops := by
      refine .look ?_
      rw [found]
      refine .pass begins ?_
      have installed : Outcome start (install load.space load.page.addr first load.page.writable)
          (fun _ next => next.Houses pool) stops := .changeGet (houses.of_same rfl rfl rfl)
      refine installed.bind fun result next houses => ?_
      cases result with
      | error error => exact .ret ⟨houses, fun same => by cases same⟩
      | ok => exact .step (.ret ⟨houses.of_same rfl rfl rfl, fun same => by cases same⟩)
    refine .run_lift attached fun result next done => ?_
    obtain ⟨houses, found⟩ := done
    cases result with
    | error error =>
      exact .run_lift (free_outcome houses has) fun _ _ kept => .ret ⟨kept.1, fun same => by cases same⟩
    | ok mapped =>
      cases mapped with
      | false => exact absurd rfl found
      | true => exact welcome_outcome houses has pin

/-! Pages are unregistered. -/

theorem releaseHolding_outcome (houses : start.Houses pool) {space : SpaceId} {page : Page}
    (has : ∀ frame, page.state = .resident frame → pool.Has frame) :
    Outcome start (releaseHolding space page) (fun _ next => next.Houses pool) stops := by
  unfold releaseHolding
  split
  · exact .ret houses
  · exact freeSlot_outcome houses _
  · rename_i frame state
    have unmapped : Outcome start (unmap space page.addr) (fun _ next => next.Houses pool) stops :=
      .changeGet (houses.of_same rfl rfl rfl)
    refine unmapped.bind fun _ next houses => ?_
    refine (poolIndex_outcome houses (has frame state)).bind fun index _ same => .look ?_
    subst same
    dsimp only
    split
    · obtain ⟨base, capacity⟩ := FramePool.removeFromClock_range _ index
      exact .step (.change (houses.of_same base capacity rfl))
    · exact (free_outcome houses (has frame state)).weaken fun _ _ ⟨houses, _⟩ => houses

end Kernel

end DemandPaging
