import DemandPaging.Proofs.Bijection
import DemandPaging.Proofs.Calls

/-! Processes cannot stop the kernel. Whatever address they fault on and whatever range they have the
kernel copy, the calls of the memory manager end, and every step on the way is defined: a step that
stops the kernel was to find a frame when none was free, and none could be reclaimed. -/
namespace DemandPaging
open Architecture (Lawful SecondChance)

section
variable [Architecture]

/-- The whole pool is in memory, with the bytes of a page in each of its frames. -/
def Machine.Backed (machine : Machine) : Prop :=
  ∀ index < machine.pool.capacity, ∃ bytes,
    machine.memory.read (machine.pool.number index) = .ok bytes ∧ bytes.length = pageSize

/-- The tables refer to what there is: the indexes of frames to the pool, frames to pages that are in
them, pages to what a file gives of a page at most, and slots to sectors of the disk. -/
structure Machine.Intact (machine : Machine) : Prop where
  ring : ∀ index ∈ machine.pool.clock, index < machine.pool.capacity
  free : ∀ index ∈ machine.pool.free, index < machine.pool.capacity
  frames : ∀ {space frame page}, (machine.registry space).lookupFrame frame = some page →
    page.state = .resident frame
  files : ∀ {space addr page segment}, (machine.registry space).pages.get? addr = some page →
    page.backing = .file segment → segment.readBytes ≤ pageSize
  sectors : ∀ {slot : SwapSlot}, slot.index < machine.swap.capacity →
    ∀ chunk ∈ machine.swap.layout slot, chunk.sector < machine.swap.disk.count

/-- The address of a page on the way of a call: it can be built, and there is room for the page. -/
structure PageFits (top page : Nat) : Prop where
  canonical : Canonical page
  below : page ≤ top
  room : page + pageSize < Word.limit

/-- No call of the memory manager on behalf of a process stops the kernel, unless it asks for a frame
that cannot be had. -/
structure Machine.Safe (machine : Machine) (space : SpaceId) : Prop where
  fault : ∀ (fault : PageFault) (stackPointer : Nat),
    Kernel.Outcome machine (Kernel.handleFault .none space fault stackPointer) (fun _ _ => True)
      fun cause stopped => fault.present = false ∧
        (machine.faulted space stackPointer).Exhausts space fault.address cause stopped
  pin : ∀ (addr : VirtualAddress) (length : Nat) (access : Access),
    Kernel.Outcome machine (Kernel.pinRange .none space addr length access).run
      (fun result _ => ∀ guard, result = .ok guard → Kernel.Overlaps addr length guard)
      fun cause stopped => addr.value + length ≤ machine.config.userTop ∧
        machine.ExhaustsIn space access addr.pageBase.value (Kernel.pagesOver addr length) cause stopped
  copyTo : ∀ (target : VirtualAddress) (bytes : Bytes),
    Kernel.Outcome machine (Kernel.copyToUser .none space target bytes).run (fun _ _ => True)
      fun cause stopped => target.value + bytes.length ≤ machine.config.userTop ∧
        machine.ExhaustsIn space .write target.pageBase.value (Kernel.pagesOver target bytes.length)
          cause stopped
  copyFrom : ∀ (source : VirtualAddress) (length : Nat),
    Kernel.Outcome machine (Kernel.copyFromUser .none space source length).run (fun _ _ => True)
      fun cause stopped => source.value + length ≤ machine.config.userTop ∧
        machine.ExhaustsIn space .read source.pageBase.value (Kernel.pagesOver source length)
          cause stopped
  release : ∀ addr, Kernel.Outcome machine (Kernel.releasePage space addr) (fun _ _ => True) Kernel.Never
  destroy : Kernel.Outcome machine (Kernel.destroySpace space) (fun _ _ => True) Kernel.Never
  drop : ∀ guard, some guard ∈ machine.callers.guards →
    Kernel.Outcome machine (Kernel.dropGuard guard) (fun _ _ => True) Kernel.Never
  /-- The tables can be relied on where a call starts, and wherever it asks for a frame. -/
  intact : machine.Intact
  faulted : ∀ {stackPointer addr point}, (machine.faulted space stackPointer).Asks space addr point →
    point.Intact
  pinning : ∀ {access page count guard mid addr point}, page % pageSize = 0 →
    (Kernel.pinPages .none space access page [] count).run machine = .ok (.ok guard) mid →
    mid.Asks space addr point → point.Intact
  /-- Addresses that are let through lead to pages that can be addressed. -/
  page : ∀ {addr : VirtualAddress}, addr.value < machine.config.userTop →
    PageFits machine.config.userTop addr.pageBase.value
  pages : ∀ {addr : VirtualAddress} {length}, addr.value + length ≤ machine.config.userTop →
    ∀ i < Kernel.pagesOver addr length,
      PageFits machine.config.userTop (addr.pageBase.value + i * pageSize)

theorem pageFits_of_lt {top page : Nat} (short : top ≤ userTop) (below : page < top) :
    PageFits top page := by
  refine ⟨.inl (Nat.lt_of_lt_of_le below short), Nat.le_of_lt below, ?_⟩
  have half : pageSize ≤ userTop :=
    Nat.pow_le_pow_right (by decide) (Nat.le_sub_one_of_lt Geometry.page_lt_virtual)
  have whole : userTop + userTop ≤ Word.limit := by
    have positive : 0 < Geometry.virtualBits := Nat.lt_of_le_of_lt (Nat.zero_le _) Geometry.page_lt_virtual
    have twice : userTop + userTop = Nat.pow 2 Geometry.virtualBits := by
      obtain ⟨bits, same⟩ := Nat.exists_eq_succ_of_ne_zero (Nat.ne_of_gt positive)
      simp only [userTop, same, Nat.succ_sub_one]
      change 2 ^ bits + 2 ^ bits = 2 ^ (bits + 1)
      omega
    rw [twice]
    exact Nat.pow_le_pow_right (by decide) Geometry.virtual_le_word
  omega

variable [Lawful]

theorem UninterruptedCall.intact {spaces : Nat} {trusting : Prop} {pool : FramePool} {now : Moment}
    (call : UninterruptedCall spaces trusting pool now) : now.machine.Intact where
  ring index member := call.held.sound.within (call.held.sound.ring.1 member).1
  free index member := (call.held.sound.free.1 member).1
  frames {space _ _} found := ((call.sound space).lookupFrame_eq_some found).2
  files {space _ page segment} found backing := by
    have fits := (call.sound space).fits found
    rw [backing] at fits
    exact fits
  sectors inside _ member := SwapStore.OnDisk.sector_lt call.kept inside member

theorem UninterruptedCall.asked {spaces : Nat} {trusting : Prop} {pool : FramePool} {start : Moment}
    (call : UninterruptedCall spaces trusting pool start) {space : SpaceId} (present : space < spaces)
    {addr : VirtualAddress} {point : Machine} (asks : start.machine.Asks space addr point) :
    ∃ ledger, UninterruptedCall spaces trusting pool ⟨ledger, point⟩ := by
  cases asks with
  | registered => exact ⟨start.ledger, call⟩
  | grown absent grew =>
    have follows : Follows (Scope.calls spaces trusting) start (Kernel.growStack space addr).run
      (Kernel.growStack space addr).run _ := Kernel.growStack_follows (fun _ same => by cases same) present
    obtain ⟨ledger, path, _⟩ := (follows call.toReady).2 _ _ grew
    have kept : Kernel.Outcome start.machine (Kernel.growStack space addr).run
      (fun _ next => next.Houses pool) Kernel.Never := Kernel.growStack_outcome call.houses
    exact ⟨ledger, call.path path (kept.of_ok grew)⟩

/-- A call that nobody interrupts can begin between any two operations. -/
theorem BetweenOperations.uninterruptedCall {rule : Rule} {now : Moment} (between : BetweenOperations rule now)
    (sanity : Sanity rule.Trusting) (placed : now.machine.swap.OnDisk) (backed : now.machine.Backed) :
    UninterruptedCall now.machine.spaces.length rule.Trusting now.machine.pool now where
  toConsistent := between.toConsistent
  known := Nat.le_refl _
  opened := Nat.zero_le _
  sectors := between.sectors
  mapped := between.mapped
  kept := placed
  sanity
  houses := ⟨rfl, rfl, fun ⟨index, inside, named⟩ => by
    rw [named]
    exact backed index inside⟩

theorem UninterruptedCall.calls_safe [SecondChance] {spaces : Nat} {trusting : Prop} {pool : FramePool}
    {now : Moment} (call : UninterruptedCall spaces trusting pool now) (balanced : now.ledger.Balanced)
    (below : now.machine.config.userTop ≤ userTop) {space : SpaceId} (present : space < spaces) :
    now.machine.Safe space where
  fault fault stackPointer := (Kernel.handleFault_outcome call present).weaken fun _ _ _ => trivial
  pin addr length access := (Kernel.pinRange_outcome call present balanced).weaken
    fun _ _ ⟨_, known⟩ guard same => (known guard same).1
  copyTo target bytes := (Kernel.copyToUser_outcome call present balanced).weaken fun _ _ _ => trivial
  copyFrom source length :=
    (Kernel.copyFromUser_outcome call present balanced).weaken fun _ _ _ => trivial
  release addr := (Kernel.releasePage_outcome call).weaken fun _ _ _ => trivial
  destroy := (Kernel.destroySpace_outcome call).weaken fun _ _ _ => trivial
  drop guard listed := by
    obtain ⟨number, held⟩ := List.mem_iff_getElem?.1 listed
    have has : ∀ page ∈ guard.pages, pool.Has page.2 := fun page member =>
      call.has_pinned (Multiset.mem_add.2 (.inr (Callers.mem_pins held (PinGuard.mem_pins member))))
    exact (Kernel.dropGuard_outcome call.houses has).weaken fun _ _ _ => trivial
  intact := call.intact
  faulted asks := by
    obtain ⟨_, call⟩ := (call.faulted space _).asked present asks
    exact call.intact
  pinning aligned ran asks := by
    obtain ⟨_, path, _⟩ := Kernel.pinPages_guards call present aligned balanced ran
    have houses := (Kernel.pinPages_outcome call present aligned balanced).of_ok ran
    obtain ⟨_, call⟩ := (call.path path houses).asked present asks
    exact call.intact
  page inside := pageFits_of_lt below (Nat.lt_of_le_of_lt (Nat.sub_le _ _) inside)
  pages ends i inside := pageFits_of_lt below (Nat.lt_of_lt_of_le (Kernel.page_overlaps inside).2 ends)

/-- Whatever operations have run, no process can stop the kernel but where no frame can be had for it:
all are pinned, or the page that is to leave one has to be saved and cannot be. -/
theorem Reached.safe [SecondChance] {rule : Rule} {loads : List Load} {machine : Machine}
    (sensible : rule.Sensible) (sanity : Sanity rule.Trusting) (reached : Reached rule loads machine)
    (backed : machine.Backed) (below : machine.config.userTop ≤ userTop) {space : SpaceId}
    (present : space < machine.spaces.length) : machine.Safe space := by
  obtain ⟨ledger, rfl, between, placed⟩ := Reached.keeps (fun now => now.machine.swap.OnDisk) sensible
    (fun booted => by
      obtain ⟨_, _, opened, _, rfl⟩ := Machine.boot_ok booted
      exact SwapStore.onDisk_ofDisk opened)
    (fun _ move _ _ placed => placed.of_shape move.sizes.2.2)
    (fun _ _ _ placed => placed) reached
  exact (between.uninterruptedCall sanity placed backed).calls_safe between.balanced below present

end

section
attribute [local instance] Architecture.small

/-- Two frames, both pinned: a process has three pages, and the kernel is using two of them. -/
def spentPool : Machine :=
  [.createSpace none ⟨0, []⟩, .registerZero 0 0x1000 3 true, .pin 0 0x1000 32 .write].foldl
    Machine.undisturbed twoFrames

theorem spentPool_safe : Reached .offered [] spentPool ∧ spentPool.Backed ∧
    spentPool.config.userTop ≤ userTop ∧ 0 < spentPool.spaces.length ∧ spentPool.Safe 0 := by
  have reached : Reached .offered [] spentPool := twoFrames_reached.carried id (by decide +kernel)
  have backed : spentPool.Backed := by
    intro index inside
    have capacity : spentPool.pool.capacity = 2 := rfl
    rw [capacity] at inside
    match index, inside with
    | 0, _ => exact ⟨_, rfl, rfl⟩
    | 1, _ => exact ⟨_, rfl, rfl⟩
  have present : 0 < spentPool.spaces.length := by decide +kernel
  have below : spentPool.config.userTop ≤ userTop := by decide +kernel
  exact ⟨reached, backed, below, present,
    reached.safe Rule.sensible_offered (.inr fun _ => trivial) backed below present⟩

/-- The third page is not brought in. -/
example : ∃ stopped, Kernel.handleFault .none 0 ⟨0x1020, .read, false⟩ 0x8000 spentPool =
    .error .noEvictableFrame stopped := ⟨_, rfl⟩

end

end DemandPaging
