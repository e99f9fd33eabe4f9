import DemandPaging.Proofs.Clock
import DemandPaging.Proofs.Releases

/-! The calls of the memory manager come to their ends, as long as nobody interferes. The kernel stops
only where a call asks for a frame, none is free and none can be reclaimed. -/
namespace DemandPaging
open Architecture (Lawful SecondChance)

variable [Architecture]

/-- A page at an address has to be brought into a frame: it is registered, or has just been added to the
stack. -/
inductive Machine.Asks (machine : Machine) (space : SpaceId) (addr : VirtualAddress) : Machine → Prop
  | registered {page} (found : (machine.registry space).lookup addr = some page)
      (away : page.isResident = false) : machine.Asks space addr machine
  | grown {page point} (absent : (machine.registry space).lookup addr = none)
      (grew : (Kernel.growStack space addr).run machine = .ok (.ok page) point) :
      machine.Asks space addr point

/-- A space is to get a frame, no frame is free, and the kernel stops since none can be reclaimed. -/
structure Machine.Wants (machine : Machine) (space : SpaceId) (cause : Fatal) (stopped : Machine) :
    Prop where
  asked : Kernel.allocate space false machine = .error cause stopped
  spent : machine.pool.free = []
  halts : machine.Halts cause stopped

theorem Machine.Wants.houses {machine stopped : Machine} {pool : FramePool} {space : SpaceId}
    {cause : Fatal} (wants : machine.Wants space cause stopped) (houses : machine.Houses pool) :
    stopped.Houses pool := by
  obtain ⟨hand, turned⟩ := wants.halts.turned
  exact houses.of_same (by rw [turned]) (by rw [turned]) wants.halts.memory

/-- The kernel stops while it looks for a frame for the page at an address. -/
def Machine.Exhausts (machine : Machine) (space : SpaceId) (address : Nat) (cause : Fatal)
    (stopped : Machine) : Prop :=
  address < machine.config.userTop ∧
    ∃ point, machine.Asks space ⟨address⟩ point ∧ point.Wants space cause stopped

def Machine.faulted (machine : Machine) (space : SpaceId) (stackPointer : Nat) : Machine :=
  Machine.setStackPointer { machine with
    stats := { machine.stats with faults := machine.stats.faults + 1 } } space stackPointer

/-- The kernel stops while it pins pages of a range: it looks for a frame for one of them when those
before it are pinned. Their pins are dropped on the way out. -/
def Machine.ExhaustsIn (machine : Machine) (space : SpaceId) (access : Access) (first count : Nat)
    (cause : Fatal) (stopped : Machine) : Prop :=
  ∃ done < count, ∃ guard mid failed,
    (Kernel.pinPages .none space access first [] done).run machine = .ok (.ok guard) mid ∧
      mid.Exhausts space (first + done * pageSize) cause failed ∧
        Kernel.dropGuard guard failed = .ok () stopped

variable [Lawful]

/-- Calls that nobody interrupts. They do all but meddle with page directories. -/
def Scope.calls (spaces : Nat) (trusting : Prop) : Scope where
  may := (· ≠ .meddle)
  spaces
  files := 0
  trusting
  quiet same := by cases same
  trusts _ meddles := meddles rfl
  kept now := now.machine.swap.OnDisk
  keeps _ move placed := by
    obtain ⟨_, _, shape⟩ := move.sizes
    exact placed.of_shape shape
  after _ := False
  onward _ _ := id

theorem Scope.tame_calls (spaces : Nat) (trusting : Prop) (loads : List Load) :
    Tame (.calls spaces trusting) loads .none .none where
  patience := rfl
  grow _ _ same := by cases same
  settle same := by cases same
  file _ _ _ := .ret rfl
  sector _ _ := .ret rfl

variable {spaces : Nat} {trusting : Prop} {start : Moment} {pool : FramePool}

/-- Page directories are left to the memory manager, or there is no way to bring one into disorder. -/
def Sanity (trusting : Prop) : Prop :=
  trusting ∨ ∀ directory : Architecture.Directory, Lawful.Sane directory

/-- A moment of a call that nobody interrupts, on a machine with all of `pool` in memory. -/
structure UninterruptedCall (spaces : Nat) (trusting : Prop) (pool : FramePool) (now : Moment) : Prop extends
    (Scope.calls spaces trusting).Ready now where
  sanity : Sanity trusting
  houses : now.machine.Houses pool

namespace UninterruptedCall

theorem ordered (call : UninterruptedCall spaces trusting pool start) : Ordered pool start where
  toConsistent := call.toConsistent
  sane known := call.sanity.elim (fun trusting => (call.mapped trusting).sane known) fun all => all _
  houses := call.houses
  placed := call.kept

theorem path (call : UninterruptedCall spaces trusting pool start) {now : Moment}
    (path : Path (Scope.calls spaces trusting).may start now) (houses : now.machine.Houses pool) :
    UninterruptedCall spaces trusting pool now :=
  ⟨call.toReady.path path, call.sanity, houses⟩

theorem has (call : UninterruptedCall spaces trusting pool start) {space : SpaceId} {addr : VirtualAddress}
    {page : Page} {frame : FrameNumber}
    (found : (start.machine.registry space).pages.get? addr = some page)
    (resident : page.state = .resident frame) : pool.Has frame := by
  obtain ⟨index, member, named, _⟩ := call.held.placed
    (Registry.placement_eq_some.2 ⟨page, found, resident, rfl⟩ : start.machine.placement space addr = _)
  exact ⟨index, call.ordered.inside member, named.trans (call.houses.number index)⟩

theorem has_pinned (call : UninterruptedCall spaces trusting pool start) {pin : Pin}
    (claimed : pin ∈ start.ledger.pins + start.machine.callers.pins) : pool.Has pin.frame := by
  obtain ⟨index, named, owned, _⟩ := call.held.claimed claimed
  refine ⟨index, ?_, named.trans (call.houses.number index)⟩
  rw [← call.houses.capacity]
  exact call.held.sound.within (by rw [owned]; rfl)

theorem faulted (call : UninterruptedCall spaces trusting pool start) (space : SpaceId) (stackPointer : Nat) :
    UninterruptedCall spaces trusting pool ⟨start.ledger, start.machine.faulted space stackPointer⟩ :=
  call.path ((Scope.idles _ _ (start.machine.idle_stats (by rfl))).trans
    (Scope.idles _ _ (Machine.idle_stackPointer _ space stackPointer))) (call.houses.of_same rfl rfl rfl)

end UninterruptedCall

namespace Kernel
variable [SecondChance] {space : SpaceId} {pin : Bool} {pinned : List (VirtualAddress × FrameNumber)}

/-- Nothing but the want of a frame stops a load. -/
theorem load_outcome {page : Page} (call : UninterruptedCall spaces trusting pool start)
    (present : space < spaces)
    (current : (start.machine.registry space).pages.get? page.addr = some page)
    (away : page.isResident = false) :
    Outcome start.machine (load .none space page pin pinned).run
      (fun result next => next.Houses pool ∧ result ≠ .ok none) (start.machine.Wants space) := by
  rw [load_eq]
  dsimp only
  split
  · exact .run_fail ⟨call.houses, fun same => by cases same⟩
  · rename_i classified
    have follows := (allocate_follows present current away classified pinned call.toReady).2
    have found := ((allocate_outcome call.ordered space).and_ok follows).and_stop fun _ _ ended => ended
    have found := found.imp (fun _ _ taken => taken) fun _ _ ⟨asked, spent, halts⟩ =>
      Machine.Wants.mk asked spent halts
    refine .run_lift found fun frame next ⟨⟨has, houses⟩, ledger, path, flights, keeps⟩ => ?_
    have call := call.path path houses
    have fits := (call.fair ⟨space, page, frame, pinned⟩ (by rw [flights]; exact .head _)).fits
    refine .run_lift (populate_outcome houses has fits call.sectors)
      fun outcome filled ⟨houses, same⟩ => ?_
    refine conclude_outcome houses has ?_ pin outcome
    rw [Machine.registry, Machine.space, same]
    exact keeps current away

omit [SecondChance] in
theorem pinResident_outcome {page : Page} {frame : FrameNumber} {stops : Fatal → Machine → Prop}
    (call : UninterruptedCall spaces trusting pool start)
    (current : (start.machine.registry space).pages.get? page.addr = some page)
    (resident : page.state = .resident frame) : Outcome start.machine (pinResident space page.addr)
      (fun result next => next.Houses pool ∧ result ≠ none) stops := by
  have found : ∃ registry, (start.machine.registry space).pin? page.addr = some (frame, registry) := by
    simp [Registry.pin?, current, Page.frame?, resident]
  obtain ⟨registry, found⟩ := found
  refine .look ?_
  rw [found]
  have houses : Machine.Houses (start.machine.setRegistry space registry) pool :=
    call.houses.of_same rfl rfl rfl
  refine .step ((poolIndex_outcome houses (call.has current resident)).bind fun _ _ same => ?_)
  subst same
  exact .step (.ret ⟨houses.of_same rfl rfl rfl, fun same => by cases same⟩)

theorem bring_outcome {page : Page} {access : Access} (call : UninterruptedCall spaces trusting pool start)
    (present : space < spaces)
    (current : (start.machine.registry space).pages.get? page.addr = some page) :
    Outcome start.machine (bring .none space access pin pinned page).run
      (fun result next => next.Houses pool ∧ result ≠ .ok none)
      fun cause stopped => page.isResident = false ∧ start.machine.Wants space cause stopped := by
  have loaded (away : page.isResident = false) :
      Outcome start.machine (load .none space page pin pinned).run
        (fun result next => next.Houses pool ∧ result ≠ .ok none)
        fun cause stopped => page.isResident = false ∧ start.machine.Wants space cause stopped :=
    (load_outcome call present current away).imp (fun _ _ done => done) fun _ _ wants => ⟨away, wants⟩
  unfold bring
  dsimp only
  split
  · exact .run_fail ⟨call.houses, fun same => by cases same⟩
  · cases state : page.state with
    | resident frame =>
      cases pin with
      | true =>
        refine .run_last (pinResident_outcome call current state) fun result _ ⟨houses, found⟩ =>
          ⟨houses, fun same => found (Except.ok.inj same)⟩
      | false => exact .ret ⟨call.houses, fun same => by cases same⟩
    | unloaded => exact loaded (by rw [Page.isResident, Page.frame?, state]; rfl)
    | swapped slot => exact loaded (by rw [Page.isResident, Page.frame?, state]; rfl)

omit [SecondChance] in
theorem userAddress_outcome {address : Nat} {stops : Fatal → Machine → Prop}
    (call : UninterruptedCall spaces trusting pool start) : Outcome start.machine (userAddress address).run
      (fun result next => next = start.machine ∧ ∀ addr, result = .ok addr →
        addr = ⟨address⟩ ∧ address < start.machine.config.userTop) stops := by
  have ends : Outcome start.machine (userAddress address).run (fun _ _ => True) stops :=
    .run_look (by split <;> trivial)
  refine (ends.and_ok (userAddress_follows call.toReady).2).weaken fun result next => ?_
  rintro ⟨_, ledger, _, rfl, found⟩
  exact ⟨rfl, fun addr same => ⟨(found addr same).1, (found addr same).2.2⟩⟩

omit [Lawful] [SecondChance] in
theorem growStack_outcome {machine : Machine} {addr : VirtualAddress} {stops : Fatal → Machine → Prop}
    (houses : machine.Houses pool) :
    Outcome machine (growStack space addr).run (fun _ next => next.Houses pool) stops := by
  refine .run_look ?_
  dsimp only
  split
  · exact .run_fail houses
  · split
    · exact .run_fail houses
    · split
      · exact .ret houses
      · exact .run_step (.run_step (.ret (houses.of_same rfl rfl rfl)))

/-- Nothing but the want of a frame stops an address from being resolved. -/
theorem resolve_outcome {address : Nat} {access : Access} (call : UninterruptedCall spaces trusting pool start)
    (present : space < spaces) : Outcome start.machine (resolve .none space address access pin pinned).run
      (fun result next => next.Houses pool ∧ result ≠ .ok none) fun cause stopped =>
        start.machine.Exhausts space address cause stopped ∧ stopped.Houses pool := by
  refine (userAddress_outcome call).run_bind (fun error next ⟨same, _⟩ => ?_)
    fun addr next ⟨same, found⟩ => ?_
  · rw [same]
    exact ⟨call.houses, fun same => by cases same⟩
  · obtain ⟨rfl, below⟩ := found addr rfl
    subst same
    refine .run_look ?_
    dsimp only
    split
    · rename_i page found
      have keyed := (call.sound space).keyed found
      change Outcome start.machine (bring .none space access pin pinned page).run _ _
      refine (bring_outcome call present (by rw [keyed]; exact found)).imp (fun _ _ done => done)
        fun cause stopped ⟨away, wants⟩ => ?_
      exact ⟨⟨below, _, .registered found away, wants⟩, wants.houses call.houses⟩
    · rename_i absent
      have follows : Follows (Scope.calls spaces trusting) start (growStack space ⟨address⟩).run
        (growStack space ⟨address⟩).run _ := growStack_follows (fun _ same => by cases same) present
      refine ((growStack_outcome call.houses).and_ok fun result next ran => And.intro ran
        ((follows call.toReady).2 result next ran)).run_bind
          (fun _ _ ⟨houses, _⟩ => ⟨houses, fun same => by cases same⟩) ?_
      intro page next ⟨houses, grew, ledger, path, same, grown⟩
      obtain ⟨current, _, _⟩ := grown page rfl
      refine (bring_outcome (call.path path houses) present current).imp (fun _ _ done => done)
        fun cause stopped ⟨_, wants⟩ => ?_
      exact ⟨⟨below, next, .grown absent grew, wants⟩, wants.houses houses⟩

theorem handleFault_outcome {fault : PageFault} {stackPointer : Nat}
    (call : UninterruptedCall spaces trusting pool start) (present : space < spaces) :
    Outcome start.machine (handleFault .none space fault stackPointer)
      (fun _ next => next.Houses pool) fun cause stopped => fault.present = false ∧
        (start.machine.faulted space stackPointer).Exhausts space fault.address cause stopped := by
  have call := call.faulted space stackPointer
  have attempted : Outcome (start.machine.faulted space stackPointer) (do
      if fault.present then
        let addr ← userAddress fault.address
        throw (.writeToReadOnly addr.pageBase)
      else
        let _ ← resolve .none space fault.address fault.access false [] : Faulting Unit).run
      (fun _ next => next.Houses pool) fun cause stopped => fault.present = false ∧
        (start.machine.faulted space stackPointer).Exhausts space fault.address cause stopped := by
    split
    · refine (userAddress_outcome call).run_bind (fun _ _ ⟨same, _⟩ => ?_) fun _ _ ⟨same, _⟩ => .ret ?_ <;>
      · rw [same]
        exact call.houses
    · rename_i absent
      have resolved : Outcome (start.machine.faulted space stackPointer)
          (resolve .none space fault.address fault.access false []).run
          (fun result next => next.Houses pool ∧ result ≠ .ok none) fun cause stopped =>
            fault.present = false ∧
              (start.machine.faulted space stackPointer).Exhausts space fault.address cause stopped :=
        (resolve_outcome call present).imp (fun _ _ done => done)
          fun _ _ ⟨exhausts, _⟩ => ⟨Bool.eq_false_of_not_eq_true absent, exhausts⟩
      exact resolved.run_bind (fun _ _ ⟨houses, _⟩ => houses) fun _ _ ⟨houses, _⟩ => .ret houses
  refine .step (.step (attempted.bind fun result next houses => ?_))
  split
  · exact .step (.ret (houses.of_same rfl rfl rfl))
  · exact .ret houses

/-! Ranges are pinned page by page. -/

def pinNext (others : Interference) (space : SpaceId) (access : Access) (page : Nat)
    (pinned : List (VirtualAddress × FrameNumber)) : Faulting PinGuard := do
  match ← ExceptT.lift (guarded ⟨space, pinned⟩
      (pinPage others space page access pinned others.patience).run) with
  | .ok frame => return ⟨space, pinned ++ [(⟨page⟩, frame)]⟩
  | .error error =>
      dropGuard ⟨space, pinned⟩
      throw error

omit [Lawful] [SecondChance] in
theorem pinPages_succ (others : Interference) (access : Access) (page count : Nat) :
    pinPages others space access page pinned (count + 1) = (do
      let guard ← pinPages others space access page pinned count
      pinNext others space access (page + count * pageSize) guard.pages) := by
  induction count generalizing page pinned with
  | zero =>
    rw [Nat.zero_mul, Nat.add_zero, pinPages]
    refine Eq.trans ?_ (pure_bind (PinGuard.mk space pinned) _).symm
    exact congrArg (_ >>= ·) (funext fun result => by cases result <;> rfl)
  | succ count ih =>
    have place : page + pageSize + count * pageSize = page + (count + 1) * pageSize := by
      rw [Nat.succ_mul]
      omega
    rw [pinPages, pinPages, bind_assoc]
    refine congrArg (_ >>= ·) (funext fun result => ?_)
    cases result with
    | ok frame =>
      rw [← place]
      exact ih _
    | error error =>
      dsimp only
      rw [bind_assoc]
      rfl

omit [SecondChance] in
theorem has_guarded {guard : PinGuard} {ledger : Ledger} (call : UninterruptedCall spaces trusting pool start)
    (kept : start.ledger = { ledger with pins := guard.pins + ledger.pins }) :
    ∀ page ∈ guard.pages, pool.Has page.2 := by
  rintro ⟨addr, frame⟩ member
  have claimed : Pin.mk guard.owner addr frame ∈ start.ledger.pins + start.machine.callers.pins := by
    rw [kept]
    exact Multiset.mem_add.2 (.inl (Multiset.mem_add.2 (.inl (PinGuard.mem_pins member))))
  exact call.has_pinned claimed

theorem pinNext_outcome {access : Access} {page : Nat} (call : UninterruptedCall spaces trusting pool start)
    (present : space < spaces) (has : ∀ page ∈ pinned, pool.Has page.2) :
    Outcome start.machine (pinNext .none space access page pinned).run (fun _ next => next.Houses pool)
      fun cause stopped => ∃ failed, start.machine.Exhausts space page cause failed ∧
        dropGuard ⟨space, pinned⟩ failed = .ok () stopped := by
  have pin : Outcome start.machine (pinPage .none space page access pinned Interference.none.patience).run
      (fun _ next => next.Houses pool) fun cause stopped =>
        start.machine.Exhausts space page cause stopped ∧ stopped.Houses pool := by
    refine (resolve_outcome call present).run_bind (fun _ _ ⟨houses, _⟩ => houses)
      fun found next ⟨houses, lost⟩ => ?_
    cases found with
    | some frame => exact .ret houses
    | none => exact absurd rfl lost
  have drops {next : Machine} (houses : next.Houses pool) :
      ∃ last, dropGuard ⟨space, pinned⟩ next = .ok () last := by
    have dropped : Outcome next (dropGuard ⟨space, pinned⟩) (fun _ last => last.Houses pool) Never :=
      dropGuard_outcome houses has
    obtain ⟨_, last, done, _⟩ := dropped.exists_ok
    exact ⟨last, done⟩
  have pins := (guarded_outcome pin fun _ _ ⟨_, houses⟩ => drops houses).imp (fun _ _ done => done)
    fun _ _ ⟨failed, ⟨exhausts, _⟩, dropped⟩ => Exists.intro failed (And.intro exhausts dropped)
  refine .run_lift pins fun result next houses => ?_
  cases result with
  | ok frame => exact .ret houses
  | error error => exact .run_lift (dropGuard_outcome houses has) fun _ _ houses => .ret houses

omit [SecondChance] in
theorem pinPages_guards {access : Access} {page count : Nat} {result : Except FaultError PinGuard}
    {next : Machine} (call : UninterruptedCall spaces trusting pool start) (present : space < spaces)
    (aligned : page % pageSize = 0) (balanced : start.ledger.Balanced)
    (ran : (pinPages .none space access page [] count).run start.machine = .ok result next) :
    (Scope.calls spaces trusting).Ends start
      (Guards (.calls spaces trusting) start.ledger space page count) result next := by
  have follows : Follows (.calls spaces trusting) start (pinPages .none space access page [] count).run
      (pinPages .none space access page [] count).run
      (Guards (.calls spaces trusting) start.ledger space page count) :=
    pinRow_follows (fun same => by cases same) (Scope.tame_calls ..) present aligned balanced
  exact (follows call.toReady).2 result next ran

/-- Nothing but the want of a frame stops pages from being pinned one after another. -/
theorem pinPages_outcome {access : Access} {page count : Nat}
    (call : UninterruptedCall spaces trusting pool start)
    (present : space < spaces) (aligned : page % pageSize = 0) (balanced : start.ledger.Balanced) :
    Outcome start.machine (pinPages .none space access page [] count).run
      (fun _ next => next.Houses pool) (start.machine.ExhaustsIn space access page count) := by
  induction count with
  | zero => exact .ret call.houses
  | succ count ih =>
    have before := ih.and_ok fun result next ran =>
      And.intro ran (pinPages_guards call present aligned balanced ran)
    rw [pinPages_succ]
    refine Outcome.run_bind (before.imp (fun _ _ done => done) ?_) (fun _ _ ⟨houses, _⟩ => houses) ?_
    · intro cause stopped ⟨done, less, rest⟩
      exact ⟨done, Nat.lt_succ_of_lt less, rest⟩
    · intro guard next ⟨houses, ran, ledger, path, owner, _, _, kept⟩
      have call := call.path path houses
      refine (pinNext_outcome call present (has_guarded call kept)).imp (fun _ _ houses => houses)
        fun cause stopped ⟨failed, exhausts, dropped⟩ => ?_
      rw [← owner] at dropped
      exact ⟨count, Nat.lt_succ_self count, guard, next, failed, ran, exhausts, dropped⟩

def Overlaps (addr : VirtualAddress) (length : Nat) (guard : PinGuard) : Prop :=
  ∀ page ∈ guard.pages, addr.value < page.1.value + pageSize ∧ page.1.value < addr.value + length

omit [Lawful] [SecondChance] in
theorem page_overlaps {addr : VirtualAddress} {length i : Nat} (inside : i < pagesOver addr length) :
    addr.value < addr.pageBase.value + i * pageSize + pageSize ∧
      addr.pageBase.value + i * pageSize < addr.value + length := by
  have base : addr.pageBase.value + addr.pageOffset = addr.value :=
    Nat.sub_add_cancel (Nat.mod_le _ _)
  have short : addr.pageOffset < pageSize := Nat.mod_lt _ pageSize_pos
  rw [pagesOver, Nat.lt_iff_add_one_le, Nat.le_div_iff_mul_le pageSize_pos, Nat.succ_mul] at inside
  omega

omit [Lawful] [SecondChance] in
theorem overlaps_of_row {addr : VirtualAddress} {length : Nat} {guard : PinGuard}
    (row : guard.pages.map (·.1.value) =
      List.range' addr.pageBase.value (if length = 0 then 0 else pagesOver addr length) pageSize) :
    Overlaps addr length guard := by
  intro page member
  have listed : page.1.value ∈ guard.pages.map (·.1.value) := List.mem_map_of_mem member
  rw [row] at listed
  obtain ⟨i, inside, here⟩ := List.mem_range'.1 listed
  split at inside
  · exact absurd inside (Nat.not_lt_zero i)
  · rw [here, Nat.mul_comm]
    exact page_overlaps inside

/-- Nothing but the want of a frame stops a range from being pinned, and the frames of all its pages are
in the pool. -/
theorem pinRange_outcome {addr : VirtualAddress} {length : Nat} {access : Access}
    (call : UninterruptedCall spaces trusting pool start) (present : space < spaces)
    (balanced : start.ledger.Balanced) :
    Outcome start.machine (pinRange .none space addr length access).run
      (fun result next => next.Houses pool ∧ ∀ guard, result = .ok guard → Overlaps addr length guard ∧
        ∀ page ∈ guard.pages, pool.Has page.2)
      fun cause stopped => addr.value + length ≤ start.machine.config.userTop ∧
        start.machine.ExhaustsIn space access addr.pageBase.value (pagesOver addr length) cause stopped := by
  have stops : Outcome start.machine (pinRange .none space addr length access).run
      (fun _ next => next.Houses pool) fun cause stopped =>
        addr.value + length ≤ start.machine.config.userTop ∧
          start.machine.ExhaustsIn space access addr.pageBase.value (pagesOver addr length) cause stopped := by
    unfold pinRange
    dsimp only
    split
    · exact .ret call.houses
    · refine .run_look ?_
      split
      · exact .run_fail call.houses
      · rename_i passed
        exact (pinPages_outcome call present addr.pageBase_mod balanced).imp (fun _ _ houses => houses)
          fun cause stopped exhausts => ⟨Nat.le_of_not_lt (not_or.1 passed).2, exhausts⟩
  have follows : Follows (.calls spaces trusting) start (pinRange .none space addr length access).run
      (pinRange .none space addr length access).run (Guards (.calls spaces trusting) start.ledger space
        addr.pageBase.value (if length = 0 then 0 else pagesOver addr length)) :=
    pinRange_follows (fun same => by cases same) (Scope.tame_calls ..) present balanced
  refine (stops.and_ok (follows call.toReady).2).weaken
    fun result next ⟨houses, ledger, path, kept⟩ => ⟨houses, fun guard same => ?_⟩
  rw [same] at kept
  obtain ⟨_, row, _, kept⟩ := kept
  exact ⟨overlaps_of_row row, has_guarded (call.path path houses) kept⟩

/-! Copies. -/

omit [Lawful] [SecondChance] in
theorem piece_inside {guard : PinGuard} {addr : VirtualAddress} {length : Nat} {piece : Piece}
    (overlaps : Overlaps addr length guard) (member : piece ∈ guard.pieces addr length) :
    piece.offset + piece.length ≤ pageSize := by
  obtain ⟨⟨page, frame⟩, listed, rfl⟩ := List.mem_map.1 member
  have begins : addr.value < page.value + pageSize := (overlaps _ listed).1
  have ends : page.value < addr.value + length := (overlaps _ listed).2
  dsimp only
  omega

omit [Lawful] [SecondChance] in
theorem writePieces_outcome {machine : Machine} {pieces : List Piece} {bytes : Bytes}
    {stops : Fatal → Machine → Prop} (houses : machine.Houses pool)
    (inside : ∀ piece ∈ pieces, pool.Has piece.frame ∧ piece.offset + piece.length ≤ pageSize) :
    Outcome machine (writePieces space pieces bytes) (fun _ next => next.Houses pool) stops := by
  induction pieces generalizing machine bytes with
  | nil => exact .ret houses
  | cons piece rest ih =>
    obtain ⟨has, fits⟩ := inside piece List.mem_cons_self
    have short : piece.offset + (bytes.take piece.length).length ≤ pageSize :=
      Nat.le_trans (Nat.add_le_add_left (List.length_take_le _ _) _) fits
    refine (writeFrame_outcome houses has short).bind fun _ next ⟨houses, _⟩ => .step (.step ?_)
    exact ih (houses.of_same rfl rfl rfl) fun other member => inside other (List.mem_cons_of_mem _ member)

omit [Lawful] [SecondChance] in
theorem readPieces_outcome {machine : Machine} {pieces : List Piece} {stops : Fatal → Machine → Prop}
    (houses : machine.Houses pool) (has : ∀ piece ∈ pieces, pool.Has piece.frame) :
    Outcome machine (pieces.mapM fun piece => (readPiece space piece : Faulting Bytes)).run
      (fun _ next => next.Houses pool) stops := by
  induction pieces generalizing machine with
  | nil => exact .ret houses
  | cons piece rest ih =>
    have read : Outcome machine (readPiece space piece) (fun _ next => next.Houses pool) stops :=
      (readFrame_outcome houses (has piece List.mem_cons_self)).bind fun _ _ same => by
        rw [same]
        exact .step (.ret (houses.of_same rfl rfl rfl))
    rw [List.mapM_cons]
    refine .run_lift read fun _ _ houses => ?_
    exact (ih houses fun other member => has other (List.mem_cons_of_mem _ member)).run_bind
      (fun _ _ houses => houses) fun _ _ houses => .ret houses

theorem copyToUser_outcome {target : VirtualAddress} {bytes : Bytes}
    (call : UninterruptedCall spaces trusting pool start) (present : space < spaces)
    (balanced : start.ledger.Balanced) :
    Outcome start.machine (copyToUser .none space target bytes).run (fun _ next => next.Houses pool)
      fun cause stopped => target.value + bytes.length ≤ start.machine.config.userTop ∧
        start.machine.ExhaustsIn space .write target.pageBase.value (pagesOver target bytes.length)
          cause stopped := by
  refine (pinRange_outcome call present balanced).run_bind (fun _ _ ⟨houses, _⟩ => houses)
    fun guard next ⟨houses, pinned⟩ => ?_
  obtain ⟨overlaps, has⟩ := pinned guard rfl
  have inside : ∀ piece ∈ guard.pieces target bytes.length,
      pool.Has piece.frame ∧ piece.offset + piece.length ≤ pageSize := fun piece member =>
    ⟨has _ (mem_pieces member), piece_inside overlaps member⟩
  refine .run_lift (writePieces_outcome houses inside) fun _ _ houses => ?_
  exact .run_last (dropGuard_outcome houses has) fun _ _ houses => houses

theorem copyFromUser_outcome {source : VirtualAddress} {length : Nat}
    (call : UninterruptedCall spaces trusting pool start) (present : space < spaces)
    (balanced : start.ledger.Balanced) :
    Outcome start.machine (copyFromUser .none space source length).run (fun _ next => next.Houses pool)
      fun cause stopped => source.value + length ≤ start.machine.config.userTop ∧
        start.machine.ExhaustsIn space .read source.pageBase.value (pagesOver source length)
          cause stopped := by
  refine (pinRange_outcome call present balanced).run_bind (fun _ _ ⟨houses, _⟩ => houses)
    fun guard next ⟨houses, pinned⟩ => ?_
  obtain ⟨_, has⟩ := pinned guard rfl
  refine (readPieces_outcome houses fun piece member => has _ (mem_pieces member)).run_bind
    (fun _ _ houses => houses) fun parts _ houses => ?_
  exact .run_lift (dropGuard_outcome houses has) fun _ _ houses => .ret houses

/-! Pages are released. -/

omit [SecondChance] in
theorem releasePage_outcome {addr : VirtualAddress} (call : UninterruptedCall spaces trusting pool start) :
    Outcome start.machine (releasePage space addr) (fun _ next => next.Houses pool) Never := by
  refine .look ?_
  cases taken : (start.machine.registry space).take? addr.pageBase with
  | none => exact .ret call.houses
  | some found =>
    obtain ⟨page, registry⟩ := found
    have current := ((call.sound space).take? taken).1
    have has : ∀ frame, page.state = .resident frame → pool.Has frame := fun _ resident =>
      call.has current resident
    have houses : Machine.Houses (start.machine.setRegistry space registry) pool :=
      call.houses.of_same rfl rfl rfl
    -- A page that is not pinned gives up what it holds.
    have leaves (pinned : Bool) : Outcome start.machine (do
        if pinned then return .error (.inUse addr.pageBase)
        modify (·.setRegistry space registry)
        releaseHolding space page
        return .ok page : Kernel (Except RegistryError Page)) (fun _ next => next.Houses pool) Never := by
      cases pinned with
      | true => exact .ret call.houses
      | false => exact .step ((releaseHolding_outcome houses has).bind fun _ _ houses => .ret houses)
    cases state : page.frame? with
    | none =>
      simp only [state]
      exact leaves false
    | some frame =>
      simp only [state]
      have resident : page.state = .resident frame := by
        unfold Page.frame? at state
        split at state
        · cases state
          assumption
        · cases state
      refine (poolIndex_outcome call.houses (has frame resident)).bind fun index _ same => .look ?_
      rw [same]
      exact leaves _

omit [SecondChance] in
theorem destroySpace_outcome (call : UninterruptedCall spaces trusting pool start) :
    Outcome start.machine (destroySpace space) (fun _ next => next.Houses pool) Never := by
  have listed : ∀ page ∈ (start.machine.registry space).pages.values,
      ∀ frame, page.state = .resident frame → pool.Has frame := by
    intro page member frame resident
    rw [SortedMap.values_eq, List.mem_map] at member
    obtain ⟨⟨addr, _⟩, member, rfl⟩ := member
    exact call.has (SortedMap.mem_toList.1 member) resident
  refine .look (.step ?_)
  have emptied : Machine.Houses (start.machine.setRegistry space default) pool :=
    call.houses.of_same rfl rfl rfl
  refine (Outcome.forM emptied fun page member _ houses =>
    releaseHolding_outcome houses (listed page member)).bind fun _ _ houses => ?_
  exact .change (houses.of_same rfl rfl rfl)

end Kernel

end DemandPaging
