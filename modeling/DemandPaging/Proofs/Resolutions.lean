import DemandPaging.Proofs.Rosters
import DemandPaging.Proofs.Reregistration
import DemandPaging.Proofs.Tidiness

/-! What becomes of a fault. Whether it is resolved, and which error it ends in otherwise, can be told from the
registered pages, the bounds of the stack and the length of a file, as long as nothing fails that pages are
loaded from. -/
namespace DemandPaging
open Architecture (Lawful Obliging)

theorem SwapStore.readsLeft_write [Geometry] (swap : SwapStore) (page : Bytes) :
    (swap.write page).2.disk.readsLeft = swap.disk.readsLeft := by
  have writing := swap.writing_write page
  generalize (swap.write page).1 = result, (swap.write page).2 = after at writing
  cases writing with
  | misfit | full => rfl
  | stored _ _ _ _ sent => exact sent.readsLeft
  | failed _ _ sent => exact sent.readsLeft

section
variable [Architecture]

structure Machine.ReadsSucceed (machine : Machine) : Prop where
  files : ∀ file, (machine.file file).mode = .working
  disk : machine.swap.disk.readsLeft = none

/-- What the file of a page lacks that is still to be loaded from it. -/
def Machine.shortRead? (machine : Machine) (page : Page) : Option FaultError :=
  match page.state, page.backing with
  | .unloaded, .file segment =>
      let rest := (machine.file segment.file).contents.length - segment.offset
      if rest < segment.readBytes then some (.shortRead page.addr segment.readBytes rest) else none
  | _, _ => none

/-- What a fault is refused with at once, if it is. -/
def Roster.judgement? (roster : Roster) (space : SpaceId) (fault : PageFault) : Option FaultError :=
  if fault.present then
    match (VirtualAddress.ofWord? fault.address).filter (·.value < roster.config.userTop) with
    | some addr => some (.writeToReadOnly addr.pageBase)
    | none => some (.kernelAddress fault.address)
  else roster.refusal? space fault.access fault.address

theorem Roster.judgement?_of_kernel (roster : Roster) (space : SpaceId) {fault : PageFault}
    (outside : (VirtualAddress.ofWord? fault.address).filter (·.value < roster.config.userTop) = none) :
    roster.judgement? space fault = some (.kernelAddress fault.address) := by
  unfold judgement?
  split
  · rw [outside]
  · exact roster.refusal?_of_kernel space fault.access outside

theorem Roster.judgement?_of_user (roster : Roster) (space : SpaceId) {fault : PageFault}
    {addr : VirtualAddress} (inside :
      (VirtualAddress.ofWord? fault.address).filter (·.value < roster.config.userTop) = some addr) :
    roster.judgement? space fault =
      if fault.present then some (.writeToReadOnly addr.pageBase)
      else match roster.pages space addr.pageBase with
        | some face => face.refusal? fault.access addr.pageBase
        | none => roster.growth? space addr := by
  unfold judgement?
  rw [roster.refusal?_of_user space fault.access inside]
  split
  · rw [inside]
  · rfl

/-- An access that is not refused finds a page that permits it, be it one of the stack. -/
theorem Roster.grow_permits {roster : Roster} {space : SpaceId} {access : Access} {address : Nat}
    (granted : roster.refusal? space access address = none) : ∃ face,
      (roster.grow space (VirtualAddress.mk address).pageBase).pages space
        (VirtualAddress.mk address).pageBase = some face ∧ (access = .write → face.writable = true) := by
  cases known : (VirtualAddress.ofWord? address).filter (·.value < roster.config.userTop) with
  | none =>
    rw [roster.refusal?_of_kernel space access known] at granted
    cases granted
  | some addr =>
    obtain rfl := VirtualAddress.eq_of_ofWord? (Option.filter_eq_some_iff.1 known).1
    rw [roster.refusal?_of_user space access known] at granted
    cases listed : roster.pages space (VirtualAddress.mk address).pageBase with
    | some face =>
      rw [listed] at granted
      rw [Roster.grow_listed listed]
      refine ⟨face, listed, fun write => ?_⟩
      cases permits : face.writable with
      | true => rfl
      | false => simp [Face.refusal?, write, permits] at granted
    | none => exact ⟨.stack, by simp [grow, listed], fun _ => rfl⟩

namespace Kernel

/-- What is known of the ends of a computation is known of the computation, if it may stop the kernel. -/
theorem Outcome.anyStop {f : Kernel α} {start : Machine} {post : α → Machine → Prop}
    (ends : ∀ a next, f start = .ok a next → post a next) : Outcome start f post AnyStop := by
  unfold Outcome
  split
  · exact ends _ _ (by assumption)
  · trivial

/-! Room is made. -/

section
variable {start next : Machine}

structure Untapped (start next : Machine) : Prop where
  files : next.files = start.files
  reads : next.swap.disk.readsLeft = start.swap.disk.readsLeft

theorem Untapped.succeed (untapped : Untapped start next) (succeed : start.ReadsSucceed) :
    next.ReadsSucceed := by
  constructor
  · intro file
    rw [Machine.file, untapped.files]
    exact succeed.files file
  · rw [untapped.reads]
    exact succeed.disk

theorem Untapped.shortRead? (untapped : Untapped start next) (page : Page) :
    next.shortRead? page = start.shortRead? page := by
  unfold Machine.shortRead? Machine.file
  rw [untapped.files]

theorem evict_untapped {index : Nat} (sound : ∀ space, (start.registry space).Sound)
    (ended : evict start = .ok index next) : Untapped start next := by
  obtain ⟨_, _, _, _, reclaims⟩ := reclaims_of_evict sound ended
  refine ⟨reclaims.files, ?_⟩
  obtain ⟨now, same, _, saves⟩ := reclaims.saves
  generalize next.swap = swap at saves
  rw [← same]
  cases saves with
  | discard => rfl
  | @save bytes _ _ _ written =>
    have kept := now.swap.readsLeft_write bytes
    rw [written] at kept
    exact kept

theorem allocate_untapped {owner : SpaceId} {zeroed : Bool} {frame : FrameNumber}
    (sound : ∀ space, (start.registry space).Sound)
    (ended : allocate owner zeroed start = .ok frame next) : Untapped start next := by
  obtain ⟨index, mid, memory, finds, _, rfl, _⟩ := allocate_ok ended
  cases finds with
  | free => exact ⟨rfl, rfl⟩
  | evicted evicted =>
    obtain ⟨files, reads⟩ : Untapped start mid := evict_untapped sound evicted
    exact ⟨files, reads⟩

end

/-! Contents arrive. -/

section
variable {start : Machine} {load : Load}

/-- How reading ends that lacks `missing`: no page is touched, and as long as nothing fails, just what is
missing keeps the contents from arriving. -/
def Arrives (start : Machine) (missing : Option FaultError) (result : Except FaultError Unit)
    (next : Machine) : Prop :=
  next.spaces = start.spaces ∧ (start.ReadsSucceed → result = missing.elim (.ok ()) .error)

theorem writeFrame_spaces {frame : FrameNumber} {offset : Nat} {bytes : Bytes} :
    Outcome start (writeFrame frame offset bytes) (fun _ next => next.spaces = start.spaces ∧
      next.swap = start.swap) AnyStop :=
  .look (.check fun _ _ => .change ⟨rfl, rfl⟩)

theorem readSector_arrives {source : Option Load} {sector length : Nat} :
    Outcome start (readSector .none source sector length) (fun result next =>
      next.spaces = start.spaces ∧ (start.swap.disk.readsLeft = none → sector < start.swap.disk.count →
        next.swap.disk.readsLeft = none ∧ next.swap.disk.count = start.swap.disk.count ∧
          ∃ bytes, result = .ok bytes)) AnyStop := by
  apply Outcome.changeGet
  constructor
  · rfl
  · intro unlimited inside
    have reads := start.swap.disk.reads_readPart sector length
    dsimp only
    generalize start.swap.disk.readPart sector length = step at reads
    obtain ⟨outcome, after⟩ := step
    cases reads with
    | through _ still => exact ⟨still unlimited, rfl, _, rfl⟩
    | failed spent =>
      rw [unlimited] at spent
      cases spent
    | beyond outside => exact absurd inside outside

theorem loadChunk_arrives {chunk : Chunk} :
    Outcome start (loadChunk .none load chunk) (fun result next =>
      next.spaces = start.spaces ∧ (start.swap.disk.readsLeft = none → chunk.sector < start.swap.disk.count →
        next.swap.disk.readsLeft = none ∧ next.swap.disk.count = start.swap.disk.count ∧
          result = .ok ())) AnyStop := by
  refine readSector_arrives.bind fun result next ⟨spaces, arrives⟩ => ?_
  cases result with
  | error error =>
    refine .ret ⟨spaces, fun unlimited inside => ?_⟩
    obtain ⟨_, _, _, failed⟩ := arrives unlimited inside
    cases failed
  | ok bytes =>
    refine writeFrame_spaces.bind fun _ last ⟨same, swap⟩ => .ret ⟨same.trans spaces, ?_⟩
    intro unlimited inside
    obtain ⟨left, count, _⟩ := arrives unlimited inside
    rw [swap]
    exact ⟨left, count, rfl⟩

theorem loadChunks_arrive {chunks : List Chunk} :
    Outcome start (transferChunks (loadChunk .none load) chunks) (fun result next =>
      next.spaces = start.spaces ∧ (start.swap.disk.readsLeft = none →
        (∀ chunk ∈ chunks, chunk.sector < start.swap.disk.count) → result = .ok ())) AnyStop := by
  induction chunks generalizing start with
  | nil => exact .ret ⟨rfl, fun _ _ => rfl⟩
  | cons chunk rest ih =>
    refine loadChunk_arrives.bind fun result next ⟨spaces, arrives⟩ => ?_
    cases result with
    | error error =>
      refine .ret ⟨spaces, fun unlimited inside => ?_⟩
      obtain ⟨_, _, failed⟩ := arrives unlimited (inside chunk List.mem_cons_self)
      cases failed
    | ok =>
      refine ih.weaken fun result last ⟨same, further⟩ => ⟨same.trans spaces, ?_⟩
      intro unlimited inside
      obtain ⟨left, count, _⟩ := arrives unlimited (inside chunk List.mem_cons_self)
      apply further left
      intro other member
      rw [count]
      exact inside other (List.mem_cons_of_mem _ member)

theorem fillFromFile_arrives {segment : FileSegment} (unloaded : load.page.state = .unloaded)
    (backing : load.page.backing = .file segment) :
    Outcome start (fillFromFile .none load segment).run (Arrives start (start.shortRead? load.page))
      AnyStop := by
  have zeros {now : Machine} (same : now.spaces = start.spaces)
      (enough : start.ReadsSucceed → start.shortRead? load.page = none) : Outcome now
      (ExceptT.lift (writeFrame load.frame segment.readBytes (List.replicate segment.zeroBytes 0)) :
        Faulting Unit).run (Arrives start (start.shortRead? load.page)) AnyStop := by
    refine .run_last writeFrame_spaces fun _ _ kept => ⟨kept.1.trans same, fun succeed => ?_⟩
    rw [enough succeed]
    rfl
  have lacks : start.shortRead? load.page =
      if (start.file segment.file).contents.length - segment.offset < segment.readBytes then
        some (.shortRead load.page.addr segment.readBytes
          ((start.file segment.file).contents.length - segment.offset)) else none := by
    rw [Machine.shortRead?, unloaded, backing]
  unfold fillFromFile
  dsimp only
  split
  · have idle : Outcome start (Interference.none.beforeFileRead load segment.file)
        (fun _ next => start = next) AnyStop := .ret rfl
    refine .run_lift idle fun _ _ same => .run_look (.run_step ?_)
    subst same
    split
    · rename_i error failed
      refine .run_fail ⟨rfl, fun succeed => ?_⟩
      simp [BackingFile.readAt, succeed.files] at failed
    · rename_i bytes read
      have length : start.ReadsSucceed → bytes.length =
          min segment.readBytes ((start.file segment.file).contents.length - segment.offset) := by
        intro succeed
        simp only [BackingFile.readAt, succeed.files, Except.ok.injEq] at read
        rw [← read, Bytes.slice, List.length_take, List.length_drop]
      refine .run_lift writeFrame_spaces fun _ _ kept => ?_
      split
      · rename_i differs
        refine .run_fail ⟨kept.1, fun succeed => ?_⟩
        have short := length succeed
        have lacking : (start.file segment.file).contents.length - segment.offset < segment.readBytes := by
          omega
        rw [Nat.min_eq_right (Nat.le_of_lt lacking)] at short
        rw [lacks, if_pos lacking, short]
        rfl
      · rename_i equal
        refine .run_step (zeros kept.1 fun succeed => ?_)
        have long := length succeed
        rw [lacks, if_neg (by omega)]
  · rename_i empty
    exact zeros rfl fun _ => by rw [lacks, if_neg (by omega)]

theorem populate_arrives (backed : load.page.backing ≠ .unclassified)
    (away : load.page.isResident = false) (placed : start.swap.OnDisk)
    (owned : ∀ slot, load.page.state = .swapped slot →
      start.swap.isOccupied slot = true ∧ slot.index < start.swap.capacity) :
    Outcome start (populate .none load).run (Arrives start (start.shortRead? load.page)) AnyStop := by
  refine .run_lift readFrame_same fun _ next same => ?_
  rw [same]
  cases state : load.page.state with
  | resident frame => simp [Page.isResident, Page.frame?, state] at away
  | swapped slot =>
    obtain ⟨used, inside⟩ := owned slot state
    have lacks : start.shortRead? load.page = none := by rw [Machine.shortRead?, state]
    have readable : start.swap.readable slot pageSize = .ok () := by simp [SwapStore.readable, used]
    have read : Outcome start
        (readSlot .none (some load) slot pageSize (writeFrame load.frame) : Kernel _)
        (fun result next => next.spaces = start.spaces ∧ (start.ReadsSucceed → result = .ok ())) AnyStop := by
      apply Outcome.look
      dsimp only
      rw [readable]
      change Outcome start (transferChunks (loadChunk .none load) _ >>= _) _ _
      refine loadChunks_arrive.bind fun result _ reply => ?_
      obtain ⟨spaces, arrives⟩ := reply
      have whole : start.ReadsSucceed → result = .ok () := fun succeed =>
        arrives succeed.disk fun chunk member => placed.sector_lt inside member
      cases result with
      | ok => exact .ret ⟨spaces, fun _ => rfl⟩
      | error error => exact .ret ⟨spaces, fun succeed => by cases whole succeed⟩
    rw [lacks]
    refine .run_lift read fun result _ reply => ?_
    obtain ⟨spaces, arrives⟩ := reply
    cases result with
    | ok => exact .run_change ⟨spaces, fun _ => rfl⟩
    | error error => exact .ret ⟨spaces, fun succeed => by cases arrives succeed⟩
  | unloaded =>
    cases backing : load.page.backing with
    | unclassified => exact absurd backing backed
    | zero =>
      have lacks : start.shortRead? load.page = none := by rw [Machine.shortRead?, state, backing]
      rw [lacks]
      exact .run_last writeFrame_spaces fun _ _ kept => ⟨kept.1, fun _ => rfl⟩
    | file segment => exact fillFromFile_arrives state backing

end

end Kernel

variable [Lawful] {start : Moment} {space : SpaceId} {pin : Bool}
  {pinned : List (VirtualAddress × FrameNumber)}

theorem LeftToManager.ready_faulted {machine : Machine} (trusted : LeftToManager ⟨{}, machine⟩) (space : SpaceId)
    (stackPointer : Nat) :
    (Scope.answering machine.spaces.length).Ready ⟨{}, machine.faulted space stackPointer⟩ :=
  trusted.ready.path ((Scope.idles _ _ (machine.idle_stats (by rfl))).trans
    (Scope.idles _ _ (Machine.idle_stackPointer _ space stackPointer)))

namespace Kernel
variable {machine next : Machine}

/-- How an access is answered. If it is refused, nothing has changed. If it is let through, it leads to the
roster `after`, and as long as nothing fails, just what is missing keeps the page from its frame. -/
def Replies (refusal missing : Option FaultError) (start : Machine) (after : Roster)
    (result : Except FaultError (Option FrameNumber)) (next : Machine) : Prop :=
  match refusal with
  | some error => result = .error error ∧ next = start
  | none => next.roster = after ∧ result ≠ .ok none ∧
      (start.ReadsSucceed → result ≠ .error (.map .outOfMemory) →
        ∀ error, result = .error error ↔ missing = some error)

/-- What a load finds when it has its frame: the page is still what it was, and the slot that it is to be
read from is in use. -/
theorem LoadRun.obtains {scope : Scope} {others : Interference} {page : Page} {frame : FrameNumber}
    {taken mid : Machine} {outcome : Except FaultError Unit}
    {result : Except FaultError (Option FrameNumber)}
    (run : LoadRun others ⟨space, page, frame, pinned⟩ pin start.machine taken outcome mid result next)
    (ready : scope.Ready start) (trusted : ∀ {now}, scope.Ready now → LeftToManager now)
    (present : space < scope.spaces)
    (found : (start.machine.registry space).pages.get? page.addr = some page)
    (away : page.isResident = false) :
    ∃ ledger, LeftToManager ⟨ledger, taken⟩ ∧ (taken.registry space).pages.get? page.addr = some page ∧
      ∀ slot, page.state = .swapped slot →
        taken.swap.isOccupied slot = true ∧ slot.index < taken.swap.capacity := by
  obtain ⟨last, path, _, stays⟩ :=
    (allocate_follows present found away run.classified pinned ready).2 _ _ run.allocated
  have there : LeftToManager ⟨last, taken⟩ := trusted (ready.path path)
  have current : (taken.registry space).pages.get? page.addr = some page := stays found away
  exact ⟨last, there, current, fun slot swapped => there.owned.in_use current swapped⟩

theorem load_replies [Obliging] {page : Page} (trusted : LeftToManager start) (idle : start.ledger.loads = [])
    (present : space < start.machine.spaces.length) (owed : start.ledger.Owes ⟨space, pinned⟩)
    (found : (start.machine.registry space).pages.get? page.addr = some page)
    (away : page.isResident = false) (backed : page.backing ≠ .unclassified) :
    Outcome start.machine (load .none space page pin pinned).run
      (Replies none (start.machine.shortRead? page) start.machine start.machine.roster) AnyStop := by
  refine .anyStop fun result next ran => ?_
  obtain ⟨frame, taken, outcome, mid, run⟩ := (loadRun_iff backed).1 ran
  have mannered := (Scope.tame_answering start.machine.spaces.length).toMannered
  rw [← idle] at mannered
  -- The frame comes first. The page stays where it is meanwhile.
  obtain ⟨_, there, current, owned⟩ := run.obtains trusted.ready (fun ready => ready.kept) present found away
  have roster : taken.roster = start.machine.roster :=
    (allocate_roster trusted.sound trusted.classified).of_ok run.allocated
  have untapped : Untapped start.machine taken := allocate_untapped trusted.sound run.allocated
  -- Then the contents.
  obtain ⟨spaces, arrives⟩ := (populate_arrives backed away there.placed owned).of_ok run.read
  obtain ⟨same, transfers⟩ := (populate_answers backed).of_ok run.read
  have current : (mid.registry space).pages.get? page.addr = some page := by
    rw [Machine.registry, Machine.space, spaces]
    exact current
  obtain ⟨arrived, path, _, settles⟩ := run.settles trusted.ready mannered present owed found away
  have here : LeftToManager ⟨_, mid⟩ := (trusted.ready.path path).kept
  obtain ⟨settled, _⟩ := (conclude_answers current backed transfers pin).of_ok run.settled
  refine ⟨settled.trans (same.trans roster), ?_⟩
  rw [← untapped.shortRead?]
  have fresh : (mid.registry space).current? page = some page :=
    Option.filter_eq_some_iff.2 ⟨current, beq_self_eq_true _⟩
  cases settles with
  | lost stale =>
    rw [Registry.isStale, fresh] at stale
    cases stale
  | @failed error =>
    refine ⟨by simp, fun succeed _ other => ?_⟩
    have ends := arrives (untapped.succeed succeed)
    cases missing : taken.shortRead? page with
    | none =>
      rw [missing] at ends
      cases ends
    | some short =>
      rw [missing] at ends
      cases ends
      simp
  | refused there begins refused =>
    refine ⟨by simp, fun _ ample => ?_⟩
    rw [fresh] at there
    cases there
    obtain rfl := FrameNumber.start_ok begins
    have sound : (mid.registry space).Sound := here.sound space
    have is_page := sound.isPage current
    have sane := here.mapped.sane (mid.space_present current)
    have spent := Obliging.refuses sane is_page (Nat.mul_mod_left _ _) (here.unmapped current away) refused
    rw [spent] at ample
    exact absurd rfl ample
  | attached =>
    refine ⟨by simp, fun succeed _ other => ?_⟩
    have ends := arrives (untapped.succeed succeed)
    cases missing : taken.shortRead? page with
    | none => simp
    | some short =>
      rw [missing] at ends
      cases ends

omit [Lawful] in
theorem shortRead?_resident {page : Page} {frame : FrameNumber} (resident : page.state = .resident frame) :
    machine.shortRead? page = none := by
  rw [Machine.shortRead?, resident]

omit [Lawful] in
theorem shortRead?_zero {page : Page} (backing : page.backing = .zero) : machine.shortRead? page = none := by
  unfold Machine.shortRead?
  rw [backing]
  cases page.state <;> rfl

omit [Lawful] in
theorem growStack_untapped {addr : VirtualAddress} :
    Outcome machine (growStack space addr).run (fun _ next => Untapped machine next) AnyStop := by
  apply Outcome.run_look
  dsimp only
  split
  · exact .run_fail ⟨rfl, rfl⟩
  · split
    · exact .run_fail ⟨rfl, rfl⟩
    · split
      · exact .ret ⟨rfl, rfl⟩
      · exact .run_step (.run_step (.ret ⟨rfl, rfl⟩))

omit [Lawful] in
theorem pinResident_finds {page : Page} {frame : FrameNumber}
    (found : (machine.registry space).pages.get? page.addr = some page)
    (resident : page.state = .resident frame) :
    Outcome machine (pinResident space page.addr) (fun result _ => result ≠ none) AnyStop := by
  have pinned : ∃ registry, (machine.registry space).pin? page.addr = some (frame, registry) := by
    simp [Registry.pin?, found, Page.frame?, resident]
  obtain ⟨registry, pinned⟩ := pinned
  apply Outcome.look
  rw [pinned]
  exact .step (poolIndex_same.bind fun _ _ _ => .step (.ret (Option.some_ne_none frame)))

theorem bring_replies [Obliging] {page : Page} {access : Access} (trusted : LeftToManager start)
    (idle : start.ledger.loads = []) (present : space < start.machine.spaces.length)
    (owed : start.ledger.Owes ⟨space, pinned⟩)
    (found : (start.machine.registry space).pages.get? page.addr = some page) :
    Outcome start.machine (bring .none space access pin pinned page).run
      (Replies (page.face.refusal? access page.addr) (start.machine.shortRead? page) start.machine
        start.machine.roster) AnyStop := by
  apply bring_splits
    (fun refusal => Replies refusal (start.machine.shortRead? page) start.machine start.machine.roster)
    (fun _ => AnyStop) trusted.classified found
  case refused => exact fun _ => ⟨rfl, rfl⟩
  case resident =>
    intro frame state
    rw [shortRead?_resident state]
    cases pin with
    | true =>
      refine .run_last (pinResident_roster.and_ok fun _ _ => (pinResident_finds found state).of_ok)
        fun result _ done => ?_
      obtain ⟨kept, finds⟩ := done
      exact ⟨kept, fun same => finds (Except.ok.inj same), fun _ _ _ => by simp⟩
    | false => exact .ret ⟨rfl, by simp, fun _ _ _ => by simp⟩
  case loaded =>
    intro away backed
    exact load_replies trusted idle present owed found away backed

def missing? (machine : Machine) (space : SpaceId) (addr : VirtualAddress) : Option FaultError :=
  ((machine.registry space).pages.get? addr).bind machine.shortRead?

theorem bringGrown_replies [Obliging] {addr : VirtualAddress} {access : Access} (trusted : LeftToManager start)
    (idle : start.ledger.loads = []) (present : space < start.machine.spaces.length)
    (owed : start.ledger.Owes ⟨space, pinned⟩)
    (absent : (start.machine.registry space).pages.get? addr.pageBase = none) :
    Outcome start.machine (growStack space addr >>= bring .none space access pin pinned).run
      (Replies (start.machine.roster.growth? space addr) none start.machine
        (start.machine.roster.grow space addr.pageBase)) AnyStop := by
  have follows : Follows (Scope.answering start.machine.spaces.length) start (growStack space addr).run
    (growStack space addr).run _ := growStack_follows (fun _ => .inr (.inr ⟨_, _, by rw [idle]⟩)) present
  have undrawn : Outcome start.machine (growStack space addr).run _ AnyStop := growStack_untapped
  apply bringGrown_splits
    (fun refusal => Replies refusal none start.machine (start.machine.roster.grow space addr.pageBase))
    (fun _ => AnyStop) present absent
  case refused => exact fun _ => ⟨rfl, rfl⟩
  case grown =>
    intro page next ran face grown
    obtain ⟨ledger, path, same, added⟩ := (follows trusted.ready).2 _ _ ran
    obtain ⟨found, _, _⟩ := added page rfl
    have same : ledger = start.ledger := same
    subst same
    have there : LeftToManager ⟨start.ledger, next⟩ := (trusted.ready.path path).kept
    have known : start.machine.spaces.length ≤ next.spaces.length := (trusted.ready.path path).known
    have untapped : Untapped start.machine next := undrawn.of_ok ran
    have whole : next.shortRead? page = none := shortRead?_zero (congrArg Face.backing face)
    have brought : Outcome next (bring .none space access pin pinned page).run _ AnyStop :=
      bring_replies there idle (Nat.lt_of_lt_of_le present known) owed found
    rw [face, Face.refusal?_stack, whole] at brought
    refine brought.weaken fun _ _ replies => ?_
    obtain ⟨same, brings, answers⟩ := replies
    exact ⟨same.trans grown, brings, fun succeed => answers (untapped.succeed succeed)⟩

/-- An access is answered by the roster and by what its page lacks. -/
theorem resolve_replies [Obliging] {address : Nat} {access : Access} (trusted : LeftToManager start)
    (idle : start.ledger.loads = []) (present : space < start.machine.spaces.length)
    (owed : start.ledger.Owes ⟨space, pinned⟩) :
    Outcome start.machine (resolve .none space address access pin pinned).run
      (Replies (start.machine.roster.refusal? space access address)
        (missing? start.machine space (VirtualAddress.mk address).pageBase) start.machine
        (start.machine.roster.grow space (VirtualAddress.mk address).pageBase)) AnyStop := by
  apply resolve_splits (fun refusal => Replies refusal
      (missing? start.machine space (VirtualAddress.mk address).pageBase) start.machine
      (start.machine.roster.grow space (VirtualAddress.mk address).pageBase))
    (fun _ => AnyStop) (trusted.sound space)
  case refused => exact fun _ => ⟨rfl, rfl⟩
  case listed =>
    intro page found keyed
    have listed : start.machine.roster.pages space page.addr = some page.face :=
      congrArg (Option.map Page.face) found
    have lacks : missing? start.machine space page.addr = start.machine.shortRead? page :=
      congrArg (·.bind start.machine.shortRead?) found
    rw [← keyed, Roster.grow_listed listed, lacks]
    exact bring_replies trusted idle present owed found
  case absent =>
    intro absent
    have lacks : missing? start.machine space (VirtualAddress.mk address).pageBase = none :=
      congrArg (·.bind start.machine.shortRead?) absent
    rw [lacks]
    exact bringGrown_replies trusted idle present owed absent

/-- What a fault comes to: it is refused at once, and what is left is the machine `refused`, or the page is
brought in. -/
def Settled (refusal missing : Option FaultError) (start : Machine) (refused : FaultError → Machine)
    (after : Roster) (result : Except FaultError Unit) (next : Machine) : Prop :=
  match refusal with
  | some error => result = .error error ∧ next = refused error
  | none => next.roster = after ∧ (start.ReadsSucceed → result ≠ .error (.map .outOfMemory) →
      ∀ error, result = .error error ↔ missing = some error)

omit [Lawful] in
/-- A fault whose page is brought in comes to what the access is answered with. -/
theorem Replies.settles {refusal missing : Option FaultError} {after : Roster}
    {result : Except FaultError (Option FrameNumber)}
    (replies : Replies refusal missing machine after result next) :
    Settled refusal missing machine (fun _ => machine) after (result.map fun _ => ()) next := by
  cases refusal with
  | some error =>
    obtain ⟨rfl, rfl⟩ := replies
    exact ⟨rfl, rfl⟩
  | none =>
    obtain ⟨same, _, answers⟩ := replies
    refine ⟨same, fun succeed ample error => ?_⟩
    cases result with
    | error other =>
      have answer := answers succeed (by simpa [Except.map] using ample) error
      simpa [Except.map] using answer
    | ok found =>
      have answer := answers succeed (by simp) error
      simpa [Except.map] using answer

omit [Lawful] in
/-- A fault over protection is refused whatever page there is. -/
theorem protection_settled {fault : PageFault} (protection : fault.present = true)
    {missing : Option FaultError} {after : Roster} :
    Outcome machine (do
        let addr ← userAddress fault.address
        throw (.writeToReadOnly addr.pageBase) : Faulting Unit).run
      (Settled (machine.roster.judgement? space fault) missing machine (fun _ => machine) after)
      AnyStop := by
  refine userAddress_splits (fun outside => ?_) fun inside => ?_
  · rw [machine.roster.judgement?_of_kernel space outside]
    exact ⟨rfl, rfl⟩
  · rw [machine.roster.judgement?_of_user space inside, if_pos protection]
    exact .ret ⟨rfl, rfl⟩

theorem handleFault_settled [Obliging] {fault : PageFault} {stackPointer : Nat}
    (trusted : LeftToManager ⟨{}, machine⟩) (present : space < machine.spaces.length) :
    Outcome machine (handleFault .none space fault stackPointer)
      (Settled ((machine.faulted space stackPointer).roster.judgement? space fault)
        (missing? (machine.faulted space stackPointer) space (VirtualAddress.mk fault.address).pageBase)
        (machine.faulted space stackPointer) (fun error => { machine.faulted space stackPointer with
          log := .unresolvable space fault.address error :: machine.log })
        ((machine.faulted space stackPointer).roster.grow space (VirtualAddress.mk fault.address).pageBase))
      AnyStop := by
  have ready := trusted.ready_faulted space stackPointer
  have there : LeftToManager ⟨{}, machine.faulted space stackPointer⟩ := ready.kept
  have known : space < (machine.faulted space stackPointer).spaces.length :=
    Nat.lt_of_lt_of_le present ready.known
  have owed : Ledger.Owes {} ⟨space, []⟩ := Ledger.Balanced.owes (show Ledger.Balanced {} from rfl) space
  have attempted : Outcome (machine.faulted space stackPointer) (do
      if fault.present then
        let addr ← userAddress fault.address
        throw (.writeToReadOnly addr.pageBase)
      else
        let _ ← resolve .none space fault.address fault.access false [] : Faulting Unit).run
      (Settled ((machine.faulted space stackPointer).roster.judgement? space fault)
        (missing? (machine.faulted space stackPointer) space (VirtualAddress.mk fault.address).pageBase)
        (machine.faulted space stackPointer) (fun _ => machine.faulted space stackPointer)
        ((machine.faulted space stackPointer).roster.grow space (VirtualAddress.mk fault.address).pageBase))
      AnyStop := by
    split
    · rename_i protection
      exact protection_settled protection
    · rename_i absent
      have told : (machine.faulted space stackPointer).roster.judgement? space fault =
          (machine.faulted space stackPointer).roster.refusal? space fault.access fault.address :=
        if_neg absent
      rw [told]
      exact (resolve_replies there rfl known owed).run_bind (fun _ _ replies => replies.settles)
        fun _ _ replies => .ret replies.settles
  refine .step (.step (attempted.bind fun result next done => ?_))
  cases verdict : (machine.faulted space stackPointer).roster.judgement? space fault with
  | some refused =>
    rw [verdict] at done
    obtain ⟨rfl, rfl⟩ := done
    exact .step (.ret ⟨rfl, rfl⟩)
  | none =>
    rw [verdict] at done
    cases result with
    | error error => exact .step (.ret done)
    | ok => exact .ret done

omit [Lawful] in
theorem handleFault_ok {fault : PageFault} {stackPointer : Nat}
    (ran : handleFault .none space fault stackPointer machine = .ok (.ok ()) next) :
    fault.present = false ∧ ∃ found, (resolve .none space fault.address fault.access false []).run
      (machine.faulted space stackPointer) = .ok (.ok found) next := by
  simp only [handleFault, bind_ok, modifyStats_ok, modify_ok] at ran
  obtain ⟨_, _, rfl, _, _, rfl, result, mid, attempted, ran⟩ := ran
  cases result with
  | error error =>
    obtain ⟨_, _, _, ends⟩ := bind_ok.1 ran
    cases (pure_ok.1 ends).1
  | ok =>
    obtain ⟨_, rfl⟩ := pure_ok.1 ran
    split at attempted
    · obtain ⟨_, _, _, failed⟩ := run_bind_ok.1 attempted
      cases (run_throw_ok.1 failed).1
    · rename_i absent
      obtain ⟨found, _, resolved, ends⟩ := run_bind_ok.1 attempted
      obtain ⟨_, rfl⟩ := run_pure_ok.1 ends
      exact ⟨eq_false_of_ne_true absent, found, resolved⟩

/-- A fault that was resolved has left its page in a frame, and the access is permitted. -/
theorem handleFault_lands [Obliging] {fault : PageFault} {stackPointer : Nat}
    (trusted : LeftToManager ⟨{}, machine⟩) (present : space < machine.spaces.length)
    (ran : handleFault .none space fault stackPointer machine = .ok (.ok ()) next) :
    LeftToManager ⟨{}, next⟩ ∧ ∃ frame writable,
      next.placement space (VirtualAddress.mk fault.address).pageBase = some (frame, writable) ∧
        (fault.access = .write → writable = true) := by
  obtain ⟨_, found, resolved⟩ := handleFault_ok ran
  have ready := trusted.ready_faulted space stackPointer
  have known : space < (machine.faulted space stackPointer).spaces.length :=
    Nat.lt_of_lt_of_le present ready.known
  have owed : Ledger.Owes {} ⟨space, []⟩ := Ledger.Balanced.owes (show Ledger.Balanced {} from rfl) space
  have follows : Follows (Scope.answering machine.spaces.length) ⟨{}, machine.faulted space stackPointer⟩
      (resolve .none space fault.address fault.access false []).run
      (resolve .none space fault.address fault.access false []).run _ :=
    resolve_follows (Scope.tame_answering _) present owed
  obtain ⟨ledger, path, brings⟩ := (follows ready).2 _ _ resolved
  have replies := (resolve_replies ready.kept rfl known owed).of_ok resolved
  cases verdict : (machine.faulted space stackPointer).roster.refusal? space fault.access fault.address with
  | some error =>
    rw [verdict] at replies
    cases replies.1
  | none =>
    rw [verdict] at replies
    obtain ⟨grown, won, _⟩ := replies
    cases found with
    | none => exact absurd rfl won
    | some frame =>
      obtain ⟨same, writable, placed⟩ := brings
      have same : ledger = {} := same
      subst same
      refine ⟨(ready.path path).kept, frame, writable, placed, fun write => ?_⟩
      obtain ⟨page, registered, _, permits⟩ := Registry.placement_eq_some.1 placed
      obtain ⟨face, listed, permitted⟩ := Roster.grow_permits verdict
      rw [← grown] at listed
      have listed : ((next.registry space).pages.get? _).map Page.face = some face := listed
      rw [registered] at listed
      rw [← permits]
      exact (congrArg Face.writable (Option.some.inj listed)).trans (permitted write)

end Kernel

end

end DemandPaging
