import DemandPaging.Proofs.Calls
import DemandPaging.Proofs.Lives

/-! Who is let in. An access is let through or refused by what is fixed about the page while it comes and
goes, and by how far the stack may grow. Making room, loading and pinning keep all of that. -/
namespace DemandPaging
open Architecture (Lawful SecondChance)

/-- What is fixed about a page while it comes and goes. A page without a backing does neither, so that its
state is fixed too. -/
structure Face where
  backing : Backing
  writable : Bool
  stuck : Option PageState

def Page.face (page : Page) : Face where
  backing := page.backing
  writable := page.writable
  stuck := if page.backing = .unclassified then some page.state else none

def Face.stack : Face := ⟨.zero, true, none⟩

/-- A page with a backing has the same face wherever it is. -/
theorem Page.face_moved {page : Page} (backed : page.backing ≠ .unclassified) (state : PageState)
    (pinned : Bool) (generation : Nat) :
    Page.face { page with state, pinned, generation } = page.face := by
  simp [face, backed]

/-- The registered pages of all spaces, and what decides how far their stacks may grow. -/
@[ext]
structure Roster where
  config : Config
  stackPointer : SpaceId → Nat
  pages : SpaceId → VirtualAddress → Option Face

/-- Something that a page was to come from has failed, or the directory that it was to go to. -/
def FaultError.IsTransfer : FaultError → Prop
  | .shortRead _ _ _ | .file _ | .swap _ | .map _ => True
  | .kernelAddress _ | .unmapped _ | .writeToReadOnly _ | .stackOverflow _ | .unclassified _ |
    .registry _ => False

/-- Why a registered page is out of bounds for an access, if it is. -/
def Face.refusal? (face : Face) (access : Access) (page : VirtualAddress) : Option FaultError :=
  if access = .write ∧ !face.writable then some (.writeToReadOnly page)
  else if face.backing = .unclassified then some (.unclassified page)
  else none

@[simp] theorem Face.refusal?_stack (access : Access) (page : VirtualAddress) :
    Face.stack.refusal? access page = none := by
  simp [refusal?, stack]

namespace Roster

/-- The roster with a page of a stack in it, unless a page is there already. -/
def grow (roster : Roster) (space : SpaceId) (page : VirtualAddress) : Roster :=
  { roster with pages := fun owner addr =>
      (roster.pages owner addr).or (if space = owner ∧ page = addr then some .stack else none) }

theorem grow_listed {roster : Roster} {space : SpaceId} {page : VirtualAddress} {face : Face}
    (listed : roster.pages space page = some face) : roster.grow space page = roster := by
  have same : (roster.grow space page).pages = roster.pages := by
    funext owner addr
    change (roster.pages owner addr).or _ = roster.pages owner addr
    split
    · rename_i here
      rw [← here.1, ← here.2, listed]
      rfl
    · exact Option.or_none
  exact congrArg (fun pages => { roster with pages }) same

/-- The pages without a backing were there before. -/
theorem listed_of_grown {roster : Roster} {space owner : SpaceId} {page addr : VirtualAddress}
    {face : Face} (listed : (roster.grow space page).pages owner addr = some face)
    (bare : face.backing = .unclassified) : roster.pages owner addr = some face := by
  rcases Option.or_eq_some_iff.1 listed with before | ⟨_, added⟩
  · exact before
  · split at added
    · cases added
      cases bare
    · cases added

variable [Geometry]

/-- Why the stack may not grow to an address, if it may not. -/
def growth? (roster : Roster) (space : SpaceId) (addr : VirtualAddress) : Option FaultError :=
  let page := addr.pageBase
  let reach := Word.saturatingAdd addr.value roster.config.stackGrowthMargin
  if reach < roster.stackPointer space then some (.unmapped page)
  else if roster.config.maxStackSize < roster.config.userTop - page.value then some (.stackOverflow page)
  else if !page.isUser then some (.registry (.notUser page))
  else none

def refusal? (roster : Roster) (space : SpaceId) (access : Access) (address : Nat) :
    Option FaultError :=
  match (VirtualAddress.ofWord? address).filter (·.value < roster.config.userTop) with
  | none => some (.kernelAddress address)
  | some addr =>
      match roster.pages space addr.pageBase with
      | some face => face.refusal? access addr.pageBase
      | none => roster.growth? space addr

theorem refusal?_of_kernel (roster : Roster) (space : SpaceId) (access : Access) {address : Nat}
    (outside : (VirtualAddress.ofWord? address).filter (·.value < roster.config.userTop) = none) :
    roster.refusal? space access address = some (.kernelAddress address) := by
  rw [refusal?, outside]

theorem refusal?_of_user (roster : Roster) (space : SpaceId) (access : Access) {address : Nat}
    {addr : VirtualAddress}
    (inside : (VirtualAddress.ofWord? address).filter (·.value < roster.config.userTop) = some addr) :
    roster.refusal? space access address =
      match roster.pages space addr.pageBase with
      | some face => face.refusal? access addr.pageBase
      | none => roster.growth? space addr := by
  rw [refusal?, inside]

end Roster

theorem VirtualAddress.eq_of_ofWord? [Geometry] {address : Nat} {addr : VirtualAddress}
    (built : ofWord? address = some addr) : addr = ⟨address⟩ := by
  unfold ofWord? at built
  split at built
  · exact (Option.some.inj built).symm
  · cases built

theorem Registry.refusal?_pageBase [Geometry] (registry : Registry) {addr : VirtualAddress}
    (absent : registry.pages.get? addr.pageBase = none) : registry.refusal? addr.pageBase =
      if !addr.pageBase.isUser then some (.notUser addr.pageBase) else none := by
  have aligned : addr.pageBase.isPageAligned = true := beq_iff_eq.2 addr.pageBase_mod
  have free : registry.pages.contains addr.pageBase = false := by
    rw [SortedMap.contains, absent]
    rfl
  rw [refusal?, aligned, free]
  simp

section
variable [Architecture]

def Machine.roster (machine : Machine) : Roster where
  config := machine.config
  stackPointer space := (machine.space space).stackPointer
  pages space addr := ((machine.registry space).pages.get? addr).map Page.face

namespace Machine
variable {machine after : Machine} {space : SpaceId} {registry : Registry}

theorem stackPointer_setRegistry (other : SpaceId) :
    ((machine.setRegistry space registry).space other).stackPointer =
      (machine.space other).stackPointer := by
  by_cases same : space = other
  · subst same
    by_cases present : space < machine.spaces.length
    · rw [setRegistry, space_setSpace_self machine _ present]
    · have absent : machine.setRegistry space registry = machine := by
        rw [setRegistry, setSpace, List.set_eq_of_length_le (Nat.le_of_not_lt present)]
      rw [absent]
  · rw [setRegistry, space_setSpace_of_ne machine _ same]

theorem roster_of_spaces (config : after.config = machine.config) (spaces : after.spaces = machine.spaces) :
    after.roster = machine.roster := by
  unfold roster registry space
  rw [config, spaces]

/-- A registry in which each page has the face it had changes no roster. -/
theorem roster_setRegistry (same : ∀ addr, (registry.pages.get? addr).map Page.face =
    ((machine.registry space).pages.get? addr).map Page.face) :
    (machine.setRegistry space registry).roster = machine.roster := by
  refine Roster.ext rfl (funext stackPointer_setRegistry) ?_
  funext other addr
  exact @told_revised _ machine space _ (fun registry addr => (registry.pages.get? addr).map Page.face)
    registry same other addr

theorem roster_changed {addr : VirtualAddress} {page now : Page}
    (found : (machine.registry space).pages.get? addr = some page) (face : now.face = page.face)
    (others : ∀ other, registry.pages.get? other =
      if addr = other then some now else (machine.registry space).pages.get? other) :
    (machine.setRegistry space registry).roster = machine.roster := by
  refine roster_setRegistry fun other => ?_
  rw [others]
  split
  · rename_i here
    rw [← here, found]
    exact congrArg some face
  · rfl

theorem roster_grown {page : Page} (present : space < machine.spaces.length)
    (absent : (machine.registry space).pages.get? page.addr = none) (face : page.face = .stack) :
    (machine.setRegistry space ((machine.registry space).add page)).roster =
      machine.roster.grow space page.addr := by
  refine Roster.ext rfl (funext stackPointer_setRegistry) ?_
  funext other addr
  have added : ∀ other, ((machine.registry space).add page).pages.get? other =
      if page.addr = other then some page else (machine.registry space).pages.get? other :=
    fun other => Registry.get?_insert _ _ other _
  have told := @told_moved _ machine space _ (fun registry addr => registry.pages.get? addr) present _ _ _
    added other addr
  refine (congrArg (Option.map Page.face) told).trans ?_
  change _ = (((machine.registry other).pages.get? addr).map Page.face).or _
  split
  · rename_i here
    rw [← here.1, ← here.2, absent]
    exact congrArg some face
  · exact Option.or_none.symm

theorem roster_unpinFrame (frame : FrameNumber) :
    (machine.setRegistry space ((machine.registry space).unpinFrame frame)).roster = machine.roster := by
  unfold Registry.unpinFrame
  split
  · rw [machine.setRegistry_registry]
  · split
    · rw [machine.setRegistry_registry]
    · rename_i page found
      have face : Page.face { page with pinned := false } = page.face := rfl
      exact roster_changed found face (Registry.get?_insert _ _ · _)

theorem roster_settle {page : Page} (found : (machine.registry space).pages.get? page.addr = some page)
    (backed : page.backing ≠ .unclassified) (frame : FrameNumber) (pinned : Bool) :
    (machine.setRegistry space ((machine.registry space).settle page frame pinned)).roster =
      machine.roster :=
  roster_changed found (page.face_moved backed (.resident frame) pinned (page.generation + 1))
    fun other => Registry.get?_insert _ _ other _

/-- Whether the pages without a backing are nowhere can be told from the roster. -/
theorem Classified.of_listed (classified : machine.Classified)
    (listed : ∀ {space addr face}, after.roster.pages space addr = some face →
      face.backing = .unclassified → machine.roster.pages space addr = some face) :
    after.Classified := by
  rintro space addr ⟨now, _⟩ found bare
  have there : after.roster.pages space addr = some now.face :=
    congrArg (Option.map Page.face) (life?_eq_some.1 found).1
  obtain ⟨page, before, face⟩ := Option.map_eq_some_iff.1 (listed there bare)
  have backing : page.backing = now.backing := congrArg Face.backing face
  have stuck := congrArg Face.stuck face
  simp only [Page.face, backing, if_pos bare] at stuck
  rw [← Option.some.inj stuck]
  exact classified.page before (backing.trans bare)

theorem Classified.of_roster (classified : machine.Classified) (same : after.roster = machine.roster) :
    after.Classified :=
  classified.of_listed fun listed _ => same ▸ listed

theorem Classified.grown (classified : machine.Classified) {page : VirtualAddress}
    (same : after.roster = machine.roster.grow space page) : after.Classified :=
  classified.of_listed fun listed bare => Roster.listed_of_grown (same ▸ listed) bare

/-- A page leaves its frame. It has a backing, since it was in one. -/
theorem roster_detach (sound : (machine.registry space).Sound) (classified : machine.Classified)
    {frame : FrameNumber} {page : Page}
    (found : (machine.registry space).lookupFrame frame = some page) (state : PageState) :
    (machine.setRegistry space ((machine.registry space).detach frame state)).roster =
      machine.roster := by
  obtain ⟨registered, resident⟩ := sound.lookupFrame_eq_some found
  have backed : page.backing ≠ .unclassified := by
    intro bare
    cases resident.symm.trans (classified.page registered bare)
  exact roster_changed registered (page.face_moved backed state false (page.generation + 1))
    (sound.get?_detach found state)

end Machine

namespace Kernel

def AnyStop (_ : Fatal) (_ : Machine) : Prop := True

theorem Outcome.check {start : Machine} {outcome : Except Fatal α} {k : α → Kernel β}
    {post : β → Machine → Prop} (rest : ∀ a, outcome = .ok a → Outcome start (k a) post AnyStop) :
    Outcome start (Kernel.orStop outcome >>= k) post AnyStop := by
  cases outcome with
  | ok a => exact rest a rfl
  | error cause => trivial

/-- How an access is answered that leads to the roster `after`: with the refusal, if it is refused, and
then nothing has changed. If it is let through, it can still fail since a transfer does. -/
def Answers (refusal : Option FaultError) (start : Machine) (after : Roster)
    (result : Except FaultError α) (next : Machine) : Prop :=
  match refusal with
  | some error => result = .error error ∧ next = start
  | none => next.roster = after ∧ ∀ error, result = .error error → error.IsTransfer

/-! What is done to frames, slots and directories. -/

section
variable {start : Machine} {frame : FrameNumber}

theorem poolIndex_same : Outcome start (poolIndex frame) (fun _ next => next = start) AnyStop := by
  refine .look ?_
  cases start.pool.index frame with
  | ok index => exact .ret rfl
  | error cause => trivial

theorem readFrame_same : Outcome start (readFrame frame) (fun _ next => next = start) AnyStop := by
  refine .look ?_
  cases start.memory.read frame with
  | ok bytes => exact .ret rfl
  | error cause => trivial

theorem writeFrame_roster {offset : Nat} {bytes : Bytes} : Outcome start (writeFrame frame offset bytes)
    (fun _ next => next.roster = start.roster) AnyStop :=
  .look (.check fun _ _ => .change rfl)

theorem free_roster :
    Outcome start (free frame) (fun _ next => next.roster = start.roster) AnyStop := by
  refine poolIndex_same.bind fun index _ same => .look ?_
  subst same
  split
  · exact .step (.change rfl)
  · exact .change rfl

theorem freeSlot_roster {slot : SwapSlot} :
    Outcome start (freeSlot slot) (fun _ next => next.roster = start.roster) AnyStop := by
  refine .look (.step ?_)
  split
  · exact .change rfl
  · exact .ret rfl

theorem unpin_roster {owner : SpaceId} :
    Outcome start (unpin frame owner) (fun _ next => next.roster = start.roster) AnyStop := by
  refine poolIndex_same.bind fun index _ same => .look ?_
  subst same
  dsimp only
  split
  · exact .change rfl
  · split
    · exact .change rfl
    · refine .step ?_
      split
      · exact .change (Machine.roster_unpinFrame frame)
      · exact .ret rfl

theorem dropGuard_roster {guard : PinGuard} :
    Outcome start (dropGuard guard) (fun _ next => next.roster = start.roster) AnyStop :=
  .forM rfl fun _ _ _ same => unpin_roster.weaken fun _ _ kept => kept.trans same

theorem pinResident_roster {space : SpaceId} {addr : VirtualAddress} :
    Outcome start (pinResident space addr) (fun _ next => next.roster = start.roster) AnyStop := by
  refine .look ?_
  split
  · exact .ret rfl
  · rename_i frame registry pinned
    obtain ⟨page, found, _, others⟩ := Registry.get?_pin? pinned
    have face : Page.face { page with pinned := true } = page.face := rfl
    have kept : (start.setRegistry space registry).roster = start.roster :=
      Machine.roster_changed found face others
    exact .step (poolIndex_same.bind fun index _ same => by
      subst same
      exact .step (.ret kept))

end

/-! Contents arrive. -/

section
variable {start : Machine} {load : Load}

theorem readSector_roster {source : Option Load} {sector length : Nat} :
    Outcome start (readSector .none source sector length)
      (fun _ next => next.roster = start.roster) AnyStop :=
  .changeGet rfl

theorem readSlot_roster {slot : SwapSlot} :
    Outcome start (readSlot .none (some load) slot pageSize (writeFrame load.frame) : Kernel _)
      (fun _ next => next.roster = start.roster) AnyStop := by
  refine .look ?_
  dsimp only
  split
  · exact .ret rfl
  · have chunks : Outcome start (transferChunks (loadChunk .none load) (start.swap.layout slot))
        (fun _ next => next.roster = start.roster) AnyStop := by
      refine .transferChunks rfl fun chunk _ now same => ?_
      refine readSector_roster.bind fun result next kept => ?_
      cases result with
      | error error => exact .ret (kept.trans same)
      | ok bytes => exact writeFrame_roster.bind fun _ _ wrote => .ret (wrote.trans (kept.trans same))
    refine chunks.bind fun result _ kept => ?_
    cases result <;> exact .ret kept

theorem fillFromFile_answers {segment : FileSegment} :
    Outcome start (fillFromFile .none load segment).run (Answers none start start.roster) AnyStop := by
  have zeros {now : Machine} (same : now.roster = start.roster) : Outcome now
      (ExceptT.lift (writeFrame load.frame segment.readBytes (List.replicate segment.zeroBytes 0)) :
        Faulting Unit).run (Answers none start start.roster) AnyStop :=
    .run_last writeFrame_roster fun _ _ kept => ⟨kept.trans same, nofun⟩
  unfold fillFromFile
  dsimp only
  split
  · have idle : Outcome start (Interference.none.beforeFileRead load segment.file)
        (fun _ next => start = next) AnyStop := .ret rfl
    refine .run_lift idle fun _ _ same => .run_look (.run_step ?_)
    subst same
    split
    · exact .run_fail ⟨rfl, fun _ same => by cases same; trivial⟩
    · refine .run_lift writeFrame_roster fun _ _ kept => ?_
      split
      · exact .run_fail ⟨kept, fun _ same => by cases same; trivial⟩
      · exact .run_step (zeros kept)
  · exact zeros rfl

/-- The contents of a page with a backing arrive, or a transfer fails. -/
theorem populate_answers (backed : load.page.backing ≠ .unclassified) :
    Outcome start (populate .none load).run (Answers none start start.roster) AnyStop := by
  refine .run_lift readFrame_same fun _ _ same => ?_
  subst same
  split
  · refine .run_lift readSlot_roster fun result _ kept => ?_
    cases result with
    | error error => exact .ret ⟨kept, fun _ same => by cases same; trivial⟩
    | ok => exact .run_change ⟨kept, nofun⟩
  · exact .run_last writeFrame_roster fun _ _ kept => ⟨kept, nofun⟩
  · exact fillFromFile_answers
  · rename_i bare _
    exact absurd bare backed

theorem welcome_answers {space : SpaceId} {page : Page} {frame : FrameNumber} {pin : Bool} :
    Outcome start (welcome space page frame pin).run (Answers none start start.roster) AnyStop := by
  have last : ∀ {now : Machine}, now.roster = start.roster → Outcome now
      (do if !pin then unpin frame space
          emit (.loaded space page.addr frame page.state)
          return some frame : Faulting (Option FrameNumber)).run
      (Answers none start start.roster) AnyStop := by
    intro now same
    split
    · exact .run_lift unpin_roster fun _ _ kept => .run_step (.ret ⟨kept.trans same, nofun⟩)
    · exact .run_step (.ret ⟨same, nofun⟩)
  unfold welcome
  dsimp only at last ⊢
  split
  · exact .run_lift freeSlot_roster fun _ _ kept => .run_step (last kept)
  · exact last rfl

/-- A load ends: its page settles, or a transfer has failed. -/
theorem conclude_answers (current : (start.registry load.space).pages.get? load.page.addr = some load.page)
    (backed : load.page.backing ≠ .unclassified) {outcome : Except FaultError Unit}
    (transfers : ∀ error, outcome = .error error → error.IsTransfer) (pin : Bool) :
    Outcome start (conclude load pin outcome).run (Answers none start start.roster) AnyStop := by
  cases outcome with
  | error error =>
    refine .run_lift free_roster fun _ next kept => .run_look ?_
    split
    · exact .ret ⟨kept, nofun⟩
    · exact .ret ⟨kept, fun _ same => by cases same; exact transfers error rfl⟩
  | ok =>
    have found : (start.registry load.space).current? load.page = some load.page := by
      rw [Registry.current?, current]
      simp
    have attached : Outcome start (attach load.space load.page load.frame pin)
        (fun _ next => next.roster = start.roster) AnyStop := by
      refine .look ?_
      rw [found]
      refine .check fun first _ => ?_
      have installed : Outcome start (install load.space load.page.addr first load.page.writable)
          (fun _ next => next.roster = start.roster ∧ next.spaces = start.spaces) AnyStop :=
        .changeGet ⟨rfl, rfl⟩
      refine installed.bind fun result next done => ?_
      obtain ⟨kept, same⟩ := done
      cases result with
      | error error => exact .ret kept
      | ok =>
        have here : (next.registry load.space).pages.get? load.page.addr = some load.page := by
          rw [Machine.registry, Machine.space, same]
          exact current
        exact .step (.ret ((Machine.roster_settle here backed load.frame pin).trans kept))
    refine .run_lift attached fun result next kept => ?_
    split
    · exact .run_lift free_roster fun _ _ freed => .ret ⟨freed.trans kept, nofun⟩
    · exact .run_lift free_roster fun _ _ freed =>
        .ret ⟨freed.trans kept, fun _ same => by cases same; trivial⟩
    · exact welcome_answers.weaken fun _ _ welcomed => ⟨welcomed.1.trans kept, welcomed.2⟩

end

/-! Room is made. -/

section
variable {start next : Machine} {index : Nat}

theorem evict_roster (sound : ∀ space, (start.registry space).Sound) (classified : start.Classified)
    (ended : evict start = .ok index next) : next.roster = start.roster := by
  obtain ⟨owner, page, frame, state, reclaims⟩ := reclaims_of_evict sound ended
  rw [← Machine.roster_detach (sound owner) classified reclaims.found state]
  exact Machine.roster_of_spaces reclaims.config reclaims.spaces

theorem allocate_roster {owner : SpaceId} {zeroed : Bool} (sound : ∀ space, (start.registry space).Sound)
    (classified : start.Classified) : Outcome start (allocate owner zeroed)
      (fun _ next => next.roster = start.roster) AnyStop := by
  have assigned {now : Machine} {index : Nat} (same : now.roster = start.roster) : Outcome now (do
      modifyPool (·.assign index owner)
      let frame ← orStop ((← get).pool.frameAt index)
      if zeroed then writeFrame frame 0 (List.replicate pageSize 0)
      return frame) (fun _ next => next.roster = start.roster) AnyStop := by
    refine .step (.look (.check fun frame _ => ?_))
    split
    · exact writeFrame_roster.bind fun _ _ kept => .ret (kept.trans same)
    · exact .ret same
  refine .look ?_
  cases start.pool.takeFree? with
  | some taken => exact .step (assigned rfl)
  | none =>
    have evicted : Outcome start evict (fun _ next => next.roster = start.roster) AnyStop := by
      cases ran : evict start with
      | ok index next => exact .ended ran (evict_roster sound classified ran)
      | error cause next => exact .stopped ran trivial
    exact evicted.bind fun _ _ same => assigned same

end

/-! Accesses are answered. -/

theorem userAddress_answers {machine : Machine} {address : Nat} {stops : Fatal → Machine → Prop} :
    Outcome machine (userAddress address).run (fun result next => next = machine ∧
      match (VirtualAddress.ofWord? address).filter (·.value < machine.config.userTop) with
      | some addr => result = .ok addr
      | none => result = .error (.kernelAddress address)) stops := by
  refine .run_look ?_
  cases (VirtualAddress.ofWord? address).filter (·.value < machine.config.userTop) with
  | some addr => exact .ret ⟨rfl, rfl⟩
  | none => exact .ret ⟨rfl, rfl⟩

theorem growStack_answers {machine : Machine} {space : SpaceId} {addr : VirtualAddress}
    {stops : Fatal → Machine → Prop} (present : space < machine.spaces.length)
    (absent : (machine.registry space).pages.get? addr.pageBase = none) :
    Outcome machine (growStack space addr).run (fun result next =>
      match machine.roster.growth? space addr with
      | some error => result = .error error ∧ next = machine
      | none => ∃ page, result = .ok page ∧ page.addr = addr.pageBase ∧ page.face = .stack ∧
          next.roster = machine.roster.grow space addr.pageBase) stops := by
  have refusal := (machine.registry space).refusal?_pageBase absent
  refine .run_look ?_
  dsimp only
  split
  · rename_i far
    have told : machine.roster.growth? space addr = some (.unmapped addr.pageBase) := if_pos far
    rw [told]
    exact .run_fail ⟨rfl, rfl⟩
  · rename_i near
    split
    · rename_i large
      have told : machine.roster.growth? space addr = some (.stackOverflow addr.pageBase) :=
        (if_neg near).trans (if_pos large)
      rw [told]
      exact .run_fail ⟨rfl, rfl⟩
    · rename_i small
      cases user : addr.pageBase.isUser with
      | false =>
        have told : machine.roster.growth? space addr =
            some (.registry (.notUser addr.pageBase)) :=
          (if_neg near).trans ((if_neg small).trans (if_pos (by rw [user]; rfl)))
        rw [user] at refusal
        rw [told, Registry.create, refusal]
        exact .ret ⟨rfl, rfl⟩
      | true =>
        have told : machine.roster.growth? space addr = none :=
          (if_neg near).trans ((if_neg small).trans (if_neg (by rw [user]; exact Bool.false_ne_true)))
        have grown := @Machine.roster_grown _ machine space
          (Page.mk addr.pageBase .zero true false .unloaded 0) present absent rfl
        rw [user] at refusal
        rw [told, Registry.create, refusal]
        exact .run_step (.run_step (.ret ⟨_, rfl, rfl, rfl, grown⟩))

section
variable {machine : Machine} {others : Interference} {space : SpaceId} {address : Nat} {access : Access}
  {pin : Bool} {pinned : List (VirtualAddress × FrameNumber)}

/-- What is asked for at an address is refused outside user space, and is done inside. -/
theorem userAddress_splits {f : VirtualAddress → Faulting α} {post : Except FaultError α → Machine → Prop}
    {stops : Fatal → Machine → Prop}
    (outside : (VirtualAddress.ofWord? address).filter (·.value < machine.config.userTop) = none →
      post (.error (.kernelAddress address)) machine)
    (inside : (VirtualAddress.ofWord? address).filter (·.value < machine.config.userTop) = some ⟨address⟩ →
      Outcome machine (f ⟨address⟩).run post stops) :
    Outcome machine (userAddress address >>= f).run post stops := by
  have user := @userAddress_answers _ machine address stops
  cases known : (VirtualAddress.ofWord? address).filter (·.value < machine.config.userTop) with
  | none =>
    rw [known] at user
    refine user.run_bind (fun error next ended => ?_) fun _ _ ended => ?_
    · obtain ⟨rfl, fails⟩ := ended
      cases fails
      exact outside known
    · cases ended.2
  | some addr =>
    rw [known] at user
    obtain rfl := VirtualAddress.eq_of_ofWord? (Option.filter_eq_some_iff.1 known).1
    refine user.run_bind (fun _ _ ended => ?_) fun addr next ended => ?_
    · cases ended.2
    · obtain ⟨rfl, passes⟩ := ended
      cases passes
      exact inside known

variable (post : Option FaultError → Except FaultError (Option FrameNumber) → Machine → Prop)
  (stops : Option FaultError → Fatal → Machine → Prop)

/-- An access to a registered page is refused for what is fixed about it, or it is let through: then the page
is in a frame, or it is loaded. -/
theorem bring_splits {page : Page} (classified : machine.Classified)
    (current : (machine.registry space).pages.get? page.addr = some page)
    (refused : ∀ error, post (some error) (.error error) machine)
    (resident : ∀ frame, page.state = .resident frame → Outcome machine
      (if pin then liftM (pinResident space page.addr) else pure (some frame) : Faulting _).run
      (post none) (stops none))
    (loaded : page.isResident = false → page.backing ≠ .unclassified →
      Outcome machine (load others space page pin pinned).run (post none) (stops none)) :
    Outcome machine (bring others space access pin pinned page).run
      (post (page.face.refusal? access page.addr)) (stops (page.face.refusal? access page.addr)) := by
  unfold bring
  dsimp only
  split
  · rename_i denied
    have told : page.face.refusal? access page.addr = some (.writeToReadOnly page.addr) := if_pos denied
    rw [told]
    exact .run_fail (refused _)
  · rename_i granted
    have brought (away : page.isResident = false) : Outcome machine (load others space page pin pinned).run
        (post (page.face.refusal? access page.addr)) (stops (page.face.refusal? access page.addr)) := by
      by_cases bare : page.backing = .unclassified
      · have told : page.face.refusal? access page.addr = some (.unclassified page.addr) :=
          (if_neg granted).trans (if_pos bare)
        rw [told, load_eq]
        dsimp only
        rw [if_pos bare]
        exact .run_fail (refused _)
      · have told : page.face.refusal? access page.addr = none := (if_neg granted).trans (if_neg bare)
        rw [told]
        exact loaded away bare
    cases state : page.state with
    | resident frame =>
      have backed : page.backing ≠ .unclassified := by
        intro bare
        cases state.symm.trans (classified.page current bare)
      have told : page.face.refusal? access page.addr = none := (if_neg granted).trans (if_neg backed)
      rw [told]
      exact resident frame state
    | unloaded => exact brought (by rw [Page.isResident, Page.frame?, state]; rfl)
    | swapped slot => exact brought (by rw [Page.isResident, Page.frame?, state]; rfl)

/-- An access where no page is registered is refused for the bounds of the stack, or a new page of the stack
is brought in. -/
theorem bringGrown_splits {addr : VirtualAddress} (present : space < machine.spaces.length)
    (absent : (machine.registry space).pages.get? addr.pageBase = none)
    (refused : ∀ error, post (some error) (.error error) machine)
    (grown : ∀ page next, (growStack space addr).run machine = .ok (.ok page) next → page.face = .stack →
      next.roster = machine.roster.grow space addr.pageBase →
      Outcome next (bring others space access pin pinned page).run (post none) (stops none)) :
    Outcome machine (growStack space addr >>= bring others space access pin pinned).run
      (post (machine.roster.growth? space addr)) (stops (machine.roster.growth? space addr)) := by
  have grew := (@growStack_answers _ machine space addr (stops (machine.roster.growth? space addr)) present
    absent).and_ok fun _ _ ran => ran
  cases verdict : machine.roster.growth? space addr with
  | some error =>
    rw [verdict] at grew
    refine grew.run_bind (fun _ _ ended => ?_) fun _ _ ended => ?_
    · obtain ⟨⟨fails, rfl⟩, _⟩ := ended
      cases fails
      exact refused error
    · cases ended.1.1
  | none =>
    rw [verdict] at grew
    refine grew.run_bind (fun _ _ ended => ?_) fun page next ended => ?_
    · obtain ⟨⟨_, passes, _⟩, _⟩ := ended
      cases passes
    · obtain ⟨⟨_, passes, _, face, same⟩, ran⟩ := ended
      cases passes
      exact grown page next ran face same

/-- An access is refused outside user space. Inside, it is one to a registered page, or it asks for the stack
to grow. -/
theorem resolve_splits (sound : (machine.registry space).Sound)
    (refused : ∀ error, post (some error) (.error error) machine)
    (listed : ∀ page, (machine.registry space).pages.get? page.addr = some page →
      page.addr = (VirtualAddress.mk address).pageBase →
      Outcome machine (bring others space access pin pinned page).run
        (post (page.face.refusal? access page.addr)) (stops (page.face.refusal? access page.addr)))
    (absent : (machine.registry space).pages.get? (VirtualAddress.mk address).pageBase = none →
      Outcome machine (growStack space ⟨address⟩ >>= bring others space access pin pinned).run
        (post (machine.roster.growth? space ⟨address⟩)) (stops (machine.roster.growth? space ⟨address⟩))) :
    Outcome machine (resolve others space address access pin pinned).run
      (post (machine.roster.refusal? space access address))
      (stops (machine.roster.refusal? space access address)) := by
  rw [resolve_eq]
  refine userAddress_splits (fun known => ?_) fun known => ?_
  · rw [machine.roster.refusal?_of_kernel space access known]
    exact refused _
  · rw [machine.roster.refusal?_of_user space access known]
    refine .run_look ?_
    cases found : (machine.registry space).pages.get? (VirtualAddress.mk address).pageBase with
    | some page =>
      have keyed := sound.keyed found
      have told : machine.roster.pages space (VirtualAddress.mk address).pageBase = some page.face :=
        congrArg (Option.map Page.face) found
      rw [told, ← keyed]
      dsimp only [Registry.lookup]
      rw [found]
      exact listed page (by rw [keyed]; exact found) keyed
    | none =>
      have told : machine.roster.pages space (VirtualAddress.mk address).pageBase = none :=
        congrArg (Option.map Page.face) found
      rw [told]
      dsimp only [Registry.lookup]
      rw [found]
      exact absent found

end

variable [Lawful] [SecondChance] {spaces : Nat} {trusting : Prop} {start : Moment} {pool : FramePool}
  {space : SpaceId} {pin : Bool} {pinned : List (VirtualAddress × FrameNumber)}

theorem load_answers {page : Page} (call : UninterruptedCall spaces trusting pool start)
    (present : space < spaces) (classified : start.machine.Classified)
    (current : (start.machine.registry space).pages.get? page.addr = some page)
    (away : page.isResident = false) (backed : page.backing ≠ .unclassified) :
    Outcome start.machine (load .none space page pin pinned).run
      (Answers none start.machine start.machine.roster) AnyStop := by
  rw [load_eq]
  dsimp only
  rw [if_neg backed]
  have follows := (allocate_follows present current away backed pinned call.toReady).2
  have kept : ∀ frame next, allocate space false start.machine = .ok frame next →
      next.roster = start.machine.roster := fun _ _ => (allocate_roster call.sound classified).of_ok
  have found := ((allocate_outcome call.ordered space).and_ok follows).and_ok kept
  refine .run_lift (found.imp (fun _ _ done => done) fun _ _ _ => trivial) fun frame next taken => ?_
  obtain ⟨⟨⟨has, houses⟩, ledger, path, flights, keeps⟩, same⟩ := taken
  have call := call.path path houses
  have fits := (call.fair ⟨space, page, frame, pinned⟩ (by rw [flights]; exact .head _)).fits
  have arrives : ∀ result filled, (populate .none ⟨space, page, frame, pinned⟩).run next =
      .ok result filled → Answers none next next.roster result filled :=
    fun _ _ => (populate_answers backed).of_ok
  refine .run_lift ((populate_outcome houses has fits call.sectors).and_ok arrives)
    fun outcome filled done => ?_
  obtain ⟨⟨_, spaces⟩, kept, transfers⟩ := done
  have there : (filled.registry space).pages.get? page.addr = some page := by
    rw [Machine.registry, Machine.space, spaces]
    exact keeps current away
  exact (conclude_answers there backed transfers pin).weaken fun _ _ settled =>
    ⟨settled.1.trans (kept.trans same), settled.2⟩

theorem bring_answers {page : Page} {access : Access} (call : UninterruptedCall spaces trusting pool start)
    (present : space < spaces) (classified : start.machine.Classified)
    (current : (start.machine.registry space).pages.get? page.addr = some page) :
    Outcome start.machine (bring .none space access pin pinned page).run
      (Answers (page.face.refusal? access page.addr) start.machine start.machine.roster)
      fun _ _ => page.face.refusal? access page.addr = none := by
  apply bring_splits (fun refusal => Answers refusal start.machine start.machine.roster)
    (fun refusal _ _ => refusal = none) classified current
  case refused => exact fun _ => ⟨rfl, rfl⟩
  case resident =>
    intro frame _
    cases pin with
    | true =>
      exact .run_last (pinResident_roster.imp (fun _ _ done => done) fun _ _ _ => rfl)
        fun _ _ kept => ⟨kept, nofun⟩
    | false => exact .ret ⟨rfl, nofun⟩
  case loaded =>
    intro away backed
    exact (load_answers call present classified current away backed).imp (fun _ _ done => done)
      fun _ _ _ => rfl

theorem bringGrown_answers {addr : VirtualAddress} {access : Access}
    (call : UninterruptedCall spaces trusting pool start) (present : space < spaces)
    (classified : start.machine.Classified)
    (absent : (start.machine.registry space).pages.get? addr.pageBase = none) :
    Outcome start.machine (growStack space addr >>= bring .none space access pin pinned).run
      (Answers (start.machine.roster.growth? space addr) start.machine
        (start.machine.roster.grow space addr.pageBase))
      fun _ _ => start.machine.roster.growth? space addr = none := by
  have follows : Follows (Scope.calls spaces trusting) start (growStack space addr).run
    (growStack space addr).run _ := growStack_follows (fun _ same => by cases same) present
  have housed : Outcome start.machine (growStack space addr).run (fun _ next => next.Houses pool) Never :=
    growStack_outcome call.houses
  apply bringGrown_splits
    (fun refusal => Answers refusal start.machine (start.machine.roster.grow space addr.pageBase))
    (fun refusal _ _ => refusal = none) (Nat.lt_of_lt_of_le present call.known) absent
  case refused => exact fun _ => ⟨rfl, rfl⟩
  case grown =>
    intro page next ran face grown
    obtain ⟨ledger, path, _, added⟩ := (follows call.toReady).2 _ _ ran
    obtain ⟨current, _, _⟩ := added page rfl
    have call := call.path path (housed.of_ok ran)
    have brought := @bring_answers _ _ _ _ _ _ _ _ pin pinned _ access call present
      (classified.grown grown) current
    rw [face, Face.refusal?_stack] at brought
    exact brought.weaken fun _ _ ⟨same, fails⟩ => ⟨same.trans grown, fails⟩

/-- An access is answered by the roster, and leaves it as it was but for a page of the stack. No access
that is refused stops the kernel. -/
theorem resolve_answers {address : Nat} {access : Access} (call : UninterruptedCall spaces trusting pool start)
    (present : space < spaces) (classified : start.machine.Classified) :
    Outcome start.machine (resolve .none space address access pin pinned).run
      (Answers (start.machine.roster.refusal? space access address) start.machine
        (start.machine.roster.grow space (VirtualAddress.mk address).pageBase))
      fun _ _ => start.machine.roster.refusal? space access address = none := by
  apply resolve_splits (fun refusal => Answers refusal start.machine
    (start.machine.roster.grow space (VirtualAddress.mk address).pageBase))
    (fun refusal _ _ => refusal = none) (call.sound space)
  case refused => exact fun _ => ⟨rfl, rfl⟩
  case listed =>
    intro page current keyed
    have listed : start.machine.roster.pages space (VirtualAddress.mk address).pageBase = some page.face := by
      rw [← keyed]
      exact congrArg (Option.map Page.face) current
    rw [Roster.grow_listed listed]
    exact bring_answers call present classified current
  case absent =>
    intro absent
    exact bringGrown_answers call present classified absent

end Kernel

end

end DemandPaging
