import DemandPaging.Proofs.LifeCycles
import DemandPaging.Proofs.Rosters
import DemandPaging.Proofs.Safety

/-! Pinning a range beside the faults that the process itself would have had. Both ask for the pages of
the range one after another, and are answered by the same roster. They ask at different places of the
first page, however: the process at the first byte of the range, the kernel at the base of the page. -/
namespace DemandPaging
open Architecture (Lawful SecondChance)

section
variable [Geometry]

namespace Kernel

/-- The first byte of a range in the page `i` pages after the one that it begins in. -/
def firstByte (addr : VirtualAddress) (i : Nat) : Nat :=
  max addr.value (addr.pageBase.value + i * pageSize)

theorem firstByte_zero (addr : VirtualAddress) : firstByte addr 0 = addr.value := by
  have below : addr.pageBase.value ≤ addr.value := Nat.sub_le _ _
  unfold firstByte
  omega

theorem firstByte_succ (addr : VirtualAddress) (i : Nat) :
    firstByte addr (i + 1) = addr.pageBase.value + (i + 1) * pageSize := by
  have base : addr.pageBase.value + addr.pageOffset = addr.value :=
    Nat.sub_add_cancel (Nat.mod_le _ _)
  have short : addr.pageOffset < pageSize := Nat.mod_lt _ pageSize_pos
  unfold firstByte
  rw [Nat.succ_mul]
  omega

theorem pageBase_firstByte (addr : VirtualAddress) (i : Nat) :
    (VirtualAddress.mk (firstByte addr i)).pageBase = ⟨addr.pageBase.value + i * pageSize⟩ := by
  cases i with
  | zero =>
    rw [firstByte_zero, Nat.zero_mul, Nat.add_zero]
  | succ i =>
    rw [firstByte_succ]
    apply VirtualAddress.pageBase_of_isPage
    apply beq_iff_eq.2
    rw [Nat.add_mul_mod_self_right]
    exact addr.pageBase_mod

def firstBytes (addr : VirtualAddress) (count : Nat) : List Nat :=
  (List.range count).map (firstByte addr)

end Kernel

namespace Roster

/-- The roster after accesses to consecutive pages that were all let through. -/
def growRow (roster : Roster) (space : SpaceId) (page : Nat) : Nat → Roster
  | 0 => roster
  | count + 1 => (roster.growRow space page count).grow space ⟨page + count * pageSize⟩

theorem listed_of_grownRow {roster : Roster} {space owner : SpaceId} {page count : Nat}
    {addr : VirtualAddress} {face : Face}
    (listed : (roster.growRow space page count).pages owner addr = some face)
    (bare : face.backing = .unclassified) : roster.pages owner addr = some face := by
  induction count with
  | zero => exact listed
  | succ count ih => exact ih (listed_of_grown listed bare)

/-- The page is registered, or its first byte is near enough to the stack pointer for the stack to grow
there. -/
def Near (roster : Roster) (space : SpaceId) (page : VirtualAddress) : Prop :=
  roster.pages space page = none →
    roster.stackPointer space ≤ Word.saturatingAdd page.value roster.config.stackGrowthMargin

variable {roster : Roster} {space : SpaceId} {access : Access} {addr : VirtualAddress}

/-- An access that is let through is one to user space. -/
theorem user_of_granted (granted : roster.refusal? space access addr.value = none) :
    Canonical addr.value ∧ addr.value < roster.config.userTop := by
  cases known : (VirtualAddress.ofWord? addr.value).filter (·.value < roster.config.userTop) with
  | none =>
    rw [roster.refusal?_of_kernel space access known] at granted
    cases granted
  | some found =>
    obtain ⟨built, below⟩ := Option.filter_eq_some_iff.1 known
    have same := VirtualAddress.eq_of_ofWord? built
    subst same
    unfold VirtualAddress.ofWord? at built
    split at built
    · rename_i canonical
      exact ⟨canonical, of_decide_eq_true below⟩
    · cases built

theorem refusal?_user (canonical : Canonical addr.value) (below : addr.value < roster.config.userTop) :
    roster.refusal? space access addr.value =
      match roster.pages space addr.pageBase with
      | some face => face.refusal? access addr.pageBase
      | none => roster.growth? space addr := by
  apply roster.refusal?_of_user space access
  rw [VirtualAddress.ofWord?, if_pos canonical]
  simp [below]

/-- Where the process is let in at an address, the kernel is let in at the base of the page, unless the
page is new and its base is too far below the stack pointer. -/
theorem refusal?_pageBase (granted : roster.refusal? space access addr.value = none) :
    (roster.Near space addr.pageBase → roster.refusal? space access addr.pageBase.value = none) ∧
      (¬roster.Near space addr.pageBase →
        roster.refusal? space access addr.pageBase.value = some (.unmapped addr.pageBase)) := by
  obtain ⟨canonical, below⟩ := user_of_granted granted
  have is_page := VirtualAddress.isPage_pageBase canonical
  have base : addr.pageBase.pageBase = addr.pageBase := VirtualAddress.pageBase_of_isPage is_page.2
  have less : addr.pageBase.value < roster.config.userTop := Nat.lt_of_le_of_lt (Nat.sub_le _ _) below
  have told := @refusal?_user _ roster space access addr.pageBase is_page.1 less
  rw [refusal?_user canonical below] at granted
  rw [told, base]
  unfold Near
  cases listed : roster.pages space addr.pageBase with
  | some face =>
    rw [listed] at granted
    exact ⟨fun _ => granted, fun far => absurd (fun absent => by cases absent) far⟩
  | none =>
    rw [listed] at granted
    unfold growth? at granted ⊢
    rw [base]
    dsimp only at granted ⊢
    constructor
    · intro near
      rw [if_neg (Nat.not_lt.2 (near rfl))]
      split at granted
      · cases granted
      · exact granted
    · intro far
      have short := Nat.lt_of_not_le fun near => far fun _ => near
      rw [if_pos short]

end Roster

end

section
variable [Architecture]

theorem Machine.setStackPointer_recorded (machine : Machine) (space : SpaceId) :
    machine.setStackPointer space (machine.space space).stackPointer = machine := by
  have kept : machine.spaces.set space (machine.spaces.getD space default) = machine.spaces := by
    by_cases present : space < machine.spaces.length
    · simp [List.getD_eq_getElem?_getD, present]
    · exact List.set_eq_of_length_le (Nat.le_of_not_lt present)
  exact congrArg (fun spaces => { machine with spaces }) kept

theorem Machine.roster_faulted (machine : Machine) (space : SpaceId) :
    (machine.faulted space (machine.space space).stackPointer).roster = machine.roster := by
  have counted := setStackPointer_recorded
    { machine with stats := { machine.stats with faults := machine.stats.faults + 1 } } space
  exact (congrArg Machine.roster counted).trans rfl

theorem Machine.Classified.grownRow {machine after : Machine} (classified : machine.Classified)
    {space : SpaceId} {page count : Nat} (same : after.roster = machine.roster.growRow space page count) :
    after.Classified :=
  classified.of_listed fun listed bare => Roster.listed_of_grownRow (same ▸ listed) bare

namespace Kernel

/-- A process faults at an address that is not mapped, with the stack pointer that it had last. -/
def faultAt (space : SpaceId) (access : Access) (address : Nat) : Faulting Unit := do
  let machine ← get
  ExceptT.mk (handleFault .none space ⟨address, access, false⟩ (machine.space space).stackPointer)

/-- It faults at one address after another, until a fault cannot be resolved. -/
def faultEach (space : SpaceId) (access : Access) (addresses : List Nat) : Faulting Unit :=
  forM addresses (faultAt space access)

theorem faultEach_succ (space : SpaceId) (access : Access) (addr : VirtualAddress) (count : Nat) :
    faultEach space access (firstBytes addr (count + 1)) = (do
      faultEach space access (firstBytes addr count)
      faultAt space access (firstByte addr count)) := by
  rw [faultEach, firstBytes, List.range_succ, List.map_append, List.forM_append]
  simp [faultEach, firstBytes]

/-- An access to several pages comes to its end and leads to the roster `after`, or a transfer has failed
on the way. -/
inductive Passes (after : Roster) : Except FaultError α → Machine → Prop
  | done {a next} (same : next.roster = after) : Passes after (.ok a) next
  | failed {error next} (transfer : error.IsTransfer) : Passes after (.error error) next

variable [Lawful] [SecondChance] {spaces : Nat} {trusting : Prop} {start : Moment} {pool : FramePool}
  {space : SpaceId} {access : Access}

/-- A fault is resolved only if the roster lets the access in. -/
theorem faultAt_answers {address : Nat} (call : UninterruptedCall spaces trusting pool start)
    (present : space < spaces) (classified : start.machine.Classified) :
    Outcome start.machine (faultAt space access address).run (fun result next => result = .ok () →
      start.machine.roster.refusal? space access address = none ∧
        next.roster = start.machine.roster.grow space (VirtualAddress.mk address).pageBase) AnyStop := by
  have same := start.machine.roster_faulted space
  have answered := @resolve_answers _ _ _ _ _ _ _ space false [] address access
    (call.faulted space (start.machine.space space).stackPointer) present (classified.of_roster same)
  rw [same] at answered
  have attempted : Outcome (start.machine.faulted space (start.machine.space space).stackPointer)
      (do let _ ← resolve .none space address access false [] : Faulting Unit).run
      (fun result next => result = .ok () →
        start.machine.roster.refusal? space access address = none ∧
          next.roster = start.machine.roster.grow space (VirtualAddress.mk address).pageBase)
      AnyStop := by
    refine (answered.imp (fun _ _ done => done) fun _ _ _ => trivial).run_bind
      (fun _ _ _ => nofun) fun _ next done => .ret fun _ => ?_
    cases refusal : start.machine.roster.refusal? space access address with
    | some error =>
      rw [refusal] at done
      cases done.1
    | none =>
      rw [refusal] at done
      exact ⟨rfl, done.1⟩
  refine .run_look (.step (.step (attempted.bind fun result next done => ?_)))
  cases result with
  | error error => exact .step (.ret nofun)
  | ok => exact .ret done

/-- Faults that are resolved one after another at the first bytes of a range: at each of them the roster
lets the access in, as it was by then. -/
theorem faultEach_ok {addr : VirtualAddress} {count : Nat} {after : Machine}
    (call : UninterruptedCall spaces trusting pool start) (present : space < spaces)
    (balanced : start.ledger.Balanced) (classified : start.machine.Classified)
    (ran : (faultEach space access (firstBytes addr count)).run start.machine = .ok (.ok ()) after) :
    (∃ ledger, UninterruptedCall spaces trusting pool ⟨ledger, after⟩ ∧ ledger.Balanced) ∧ after.Classified ∧
      after.roster = start.machine.roster.growRow space addr.pageBase.value count ∧
      ∀ i < count, (start.machine.roster.growRow space addr.pageBase.value i).refusal? space access
        (firstByte addr i) = none := by
  induction count generalizing after with
  | zero =>
    obtain ⟨_, rfl⟩ := pure_ok.1 ran
    exact ⟨⟨start.ledger, call, balanced⟩, classified, rfl, fun i less => absurd less (Nat.not_lt_zero i)⟩
  | succ count ih =>
    rw [faultEach_succ] at ran
    obtain ⟨_, mid, before, last⟩ := run_bind_ok.1 ran
    obtain ⟨⟨ledger, call, balanced⟩, classified, roster, granted⟩ := ih before
    have faulted : handleFault .none space ⟨firstByte addr count, access, false⟩
        (mid.space space).stackPointer mid = .ok (.ok ()) after := last
    obtain ⟨refusal, grown⟩ := (faultAt_answers call present classified).of_ok last rfl
    have classified : after.Classified := classified.grown grown
    have follows : Follows (.calls spaces trusting) ⟨ledger, mid⟩ _
        (handleFault .none space ⟨firstByte addr count, access, false⟩ (mid.space space).stackPointer) _ :=
      handleFault_follows (Scope.tame_calls ..) present balanced
    obtain ⟨_, path, same⟩ := (follows call.toReady).2 _ _ faulted
    cases same
    have houses := (handleFault_outcome call present).of_ok faulted
    rw [pageBase_firstByte, roster] at grown
    rw [roster] at refusal
    refine ⟨⟨ledger, call.path path houses, balanced⟩, classified, grown, fun i less => ?_⟩
    rcases Nat.lt_succ_iff_lt_or_eq.1 less with earlier | rfl
    · exact granted i earlier
    · exact refusal

omit [Lawful] [SecondChance] in
theorem guarded_anyStop {machine : Machine} {guard : PinGuard} {f : Kernel α} {post : α → Machine → Prop}
    (outcome : Outcome machine f post AnyStop) : Outcome machine (guarded guard f) post AnyStop := by
  cases ran : f machine with
  | ok a next =>
    have ends : guarded guard f machine = .ok a next := by
      change EStateM.tryCatch f _ machine = _
      unfold EStateM.tryCatch
      rw [ran]
    exact .ended ends (outcome.of_ok ran)
  | error cause next =>
    have stops : guarded guard f machine = (dropGuard guard >>= fun _ => throw cause) next := by
      change EStateM.tryCatch f _ machine = _
      unfold EStateM.tryCatch
      rw [ran]
      rfl
    exact .of_eq stops (dropGuard_roster.bind fun _ _ _ => trivial)

/-- A page that the roster lets the kernel into is pinned, or a transfer fails. -/
theorem pinNext_passes {page : Nat} {pinned : List (VirtualAddress × FrameNumber)}
    (call : UninterruptedCall spaces trusting pool start) (present : space < spaces)
    (classified : start.machine.Classified)
    (granted : start.machine.roster.refusal? space access page = none) :
    Outcome start.machine (pinNext .none space access page pinned).run
      (Passes (start.machine.roster.grow space (VirtualAddress.mk page).pageBase)) AnyStop := by
  have answered := @resolve_answers _ _ _ _ _ _ _ space true pinned page access call present classified
  rw [granted] at answered
  have pin : Outcome start.machine
      (pinPage .none space page access pinned Interference.none.patience).run
      (Answers none start.machine (start.machine.roster.grow space (VirtualAddress.mk page).pageBase))
      AnyStop := by
    refine (answered.imp (fun _ _ done => done) fun _ _ _ => trivial).run_bind
      (fun _ _ ⟨same, fails⟩ => ?_) fun found _ ⟨same, _⟩ => ?_
    · exact ⟨same, fun _ equal => fails _ (by cases equal; rfl)⟩
    · cases found with
      | some frame => exact .ret ⟨same, nofun⟩
      | none => trivial
  refine .run_lift (guarded_anyStop pin) fun result next ⟨same, fails⟩ => ?_
  cases result with
  | ok frame => exact .ret (.done same)
  | error error => exact .run_lift dropGuard_roster fun _ _ _ => .ret (.failed (fails error rfl))

/-- Pages in a row are pinned if the roster lets the kernel into each of them, as it is by then. -/
theorem pinPages_passes {page count : Nat} (call : UninterruptedCall spaces trusting pool start)
    (present : space < spaces) (aligned : page % pageSize = 0) (balanced : start.ledger.Balanced)
    (classified : start.machine.Classified)
    (granted : ∀ i < count, (start.machine.roster.growRow space page i).refusal? space access
      (page + i * pageSize) = none) :
    Outcome start.machine (pinPages .none space access page [] count).run
      (Passes (start.machine.roster.growRow space page count)) AnyStop := by
  induction count with
  | zero => exact .ret (.done rfl)
  | succ count ih =>
    have before := ((ih fun i less => granted i (Nat.lt_succ_of_lt less)).and_ok
      fun result next ran => pinPages_guards call present aligned balanced ran).and_ok
      fun _ _ ran => (pinPages_outcome call present aligned balanced).of_ok ran
    rw [pinPages_succ]
    refine before.run_bind (fun _ _ ⟨⟨passes, _⟩, _⟩ => ?_)
      fun guard next ⟨⟨passes, _, path, _⟩, houses⟩ => ?_
    · cases passes with
      | failed transfer => exact .failed transfer
    · cases passes with
      | done same =>
        have last := granted count (Nat.lt_succ_self count)
        rw [← same] at last
        have base : (VirtualAddress.mk (page + count * pageSize)).pageBase =
            ⟨page + count * pageSize⟩ := by
          apply VirtualAddress.pageBase_of_isPage
          apply beq_iff_eq.2
          rw [Nat.add_mul_mod_self_right]
          exact aligned
        have passes := @pinNext_passes _ _ _ _ _ _ _ _ access _ guard.pages (call.path path houses)
          present (classified.grownRow same) last
        rw [base] at passes
        change Outcome next _ (Passes (next.roster.grow space _)) AnyStop at passes
        rw [same] at passes
        exact passes

omit [Lawful] [SecondChance] in
theorem pagesOver_pos (addr : VirtualAddress) {length : Nat} (some : 0 < length) :
    0 < pagesOver addr length := by
  apply Nat.div_pos
  · omega
  · exact pageSize_pos

/-- What comes of an access of the kernel to a range, of which the process could touch every page and come
to the roster `after`. -/
inductive Grants (machine : Machine) (space : SpaceId) (addr : VirtualAddress) (after : Roster) :
    Except FaultError α → Machine → Prop
  | passes {result next} (near : machine.roster.Near space addr.pageBase)
      (passes : Passes after result next) : Grants machine space addr after result next
  | refused (far : ¬machine.roster.Near space addr.pageBase) :
      Grants machine space addr after (.error (.unmapped addr.pageBase)) machine

omit [Lawful] [SecondChance] in
theorem Grants.error {machine next : Machine} {addr : VirtualAddress} {after : Roster}
    {error : FaultError} (grants : Grants machine space addr after (.error error : Except FaultError α) next) :
    Grants machine space addr after (.error error : Except FaultError β) next := by
  cases grants with
  | passes near passes =>
    cases passes with
    | failed transfer => exact .passes near (.failed transfer)
  | refused far => exact .refused far

/-- Where the first page is out of reach, no page is pinned. -/
theorem pinPages_refused {addr : VirtualAddress} {count : Nat}
    (call : UninterruptedCall spaces trusting pool start) (present : space < spaces)
    (classified : start.machine.Classified)
    (refused : start.machine.roster.refusal? space access addr.pageBase.value =
      some (.unmapped addr.pageBase)) {stops : Fatal → Machine → Prop} :
    Outcome start.machine (pinPages .none space access addr.pageBase.value [] (count + 1)).run
      (fun result next => result = .error (.unmapped addr.pageBase) ∧ next = start.machine) stops := by
  have answered := @resolve_answers _ _ _ _ _ _ _ space true [] addr.pageBase.value access call present
    classified
  rw [refused] at answered
  have pin : Outcome start.machine
      (pinPage .none space addr.pageBase.value access [] Interference.none.patience).run
      (fun result next => result = .error (.unmapped addr.pageBase) ∧ next = start.machine) Never := by
    refine (answered.imp (fun _ _ done => done) fun _ _ granted => by cases granted).run_bind
      (fun _ _ refused => ?_) fun _ _ granted => by cases granted.1
    cases refused.1
    exact ⟨rfl, refused.2⟩
  have drops : ∀ cause next, Never cause next → ∃ last, dropGuard ⟨space, []⟩ next = .ok () last :=
    fun _ _ never => never.elim
  have guards : Outcome start.machine
      (guarded ⟨space, []⟩ (pinPage .none space addr.pageBase.value access [] Interference.none.patience).run)
      (fun result next => result = .error (.unmapped addr.pageBase) ∧ next = start.machine) stops :=
    (guarded_outcome pin drops).imp (fun _ _ done => done) fun _ _ ends => by
      obtain ⟨_, never, _⟩ := ends
      exact never.elim
  rw [pinPages]
  refine .run_lift guards fun result next done => ?_
  obtain ⟨fails, same⟩ := done
  subst fails
  exact .ret ⟨rfl, same⟩

variable {addr : VirtualAddress} {length : Nat}

/-- A range is pinned if the process could touch its pages, unless its first page is out of reach. -/
theorem pinRange_grants (call : UninterruptedCall spaces trusting pool start) (present : space < spaces)
    (balanced : start.ledger.Balanced) (classified : start.machine.Classified) (some : 0 < length)
    (inside : addr.value + length ≤ start.machine.config.userTop)
    (word : start.machine.config.userTop < Word.limit)
    (granted : ∀ i < pagesOver addr length,
      (start.machine.roster.growRow space addr.pageBase.value i).refusal? space access
        (firstByte addr i) = none) :
    Outcome start.machine (pinRange .none space addr length access).run
      (Grants start.machine space addr
        (start.machine.roster.growRow space addr.pageBase.value (pagesOver addr length))) AnyStop := by
  have first := granted 0 (pagesOver_pos addr some)
  rw [firstByte_zero] at first
  obtain ⟨near, far⟩ := Roster.refusal?_pageBase first
  unfold pinRange
  dsimp only
  rw [if_neg (Nat.ne_of_gt some)]
  refine .run_look ?_
  rw [if_neg (by omega)]
  by_cases reach : start.machine.roster.Near space addr.pageBase
  · refine (pinPages_passes call present addr.pageBase_mod balanced classified ?_).weaken
      fun _ _ passes => .passes reach passes
    intro i less
    cases i with
    | zero =>
      rw [Nat.zero_mul, Nat.add_zero]
      exact near reach
    | succ i =>
      rw [← firstByte_succ]
      exact granted (i + 1) less
  · obtain ⟨count, more⟩ := Nat.exists_eq_succ_of_ne_zero (Nat.ne_of_gt (pagesOver_pos addr some))
    rw [more]
    refine (pinPages_refused call present classified (far reach)).weaken fun _ _ ⟨fails, same⟩ => ?_
    rw [fails, same]
    exact .refused reach

/-! Copies. -/

omit [Lawful] [SecondChance] in
theorem writePieces_roster {machine : Machine} {pieces : List Piece} {bytes : Bytes} :
    Outcome machine (writePieces space pieces bytes)
      (fun _ next => next.roster = machine.roster) AnyStop := by
  induction pieces generalizing machine bytes with
  | nil => exact .ret rfl
  | cons piece rest ih =>
    exact writeFrame_roster.bind fun _ _ wrote =>
      .step (.step (ih.weaken fun _ _ kept => kept.trans wrote))

omit [Lawful] [SecondChance] in
theorem readPieces_passes {machine : Machine} {pieces : List Piece} :
    Outcome machine (pieces.mapM fun piece => (readPiece space piece : Faulting Bytes)).run
      (Passes machine.roster) AnyStop := by
  induction pieces generalizing machine with
  | nil => exact .ret (.done rfl)
  | cons piece rest ih =>
    have read : Outcome machine (readPiece space piece)
        (fun _ next => next.roster = machine.roster) AnyStop :=
      readFrame_same.bind fun _ _ same => by
        rw [same]
        exact .step (.ret rfl)
    rw [List.mapM_cons]
    refine .run_lift read fun _ _ kept => ?_
    rw [← kept]
    refine ih.run_bind (fun _ _ passes => ?_) fun _ _ passes => ?_
    · cases passes with
      | failed transfer => exact .failed transfer
    · cases passes with
      | done same => exact .ret (.done same)

omit [Lawful] [SecondChance] in
theorem copyToUser_grants {machine : Machine} {after : Roster} {bytes : Bytes}
    (pinned : Outcome machine (pinRange .none space addr bytes.length .write).run
      (Grants machine space addr after) AnyStop) :
    Outcome machine (copyToUser .none space addr bytes).run (Grants machine space addr after)
      AnyStop := by
  refine pinned.run_bind (fun _ _ grants => grants.error) fun guard next grants => ?_
  cases grants with
  | passes near passes =>
    cases passes with
    | done same =>
      refine .run_lift writePieces_roster fun _ _ wrote => ?_
      exact .run_last dropGuard_roster fun _ _ dropped =>
        .passes near (.done (dropped.trans (wrote.trans same)))

omit [Lawful] [SecondChance] in
theorem copyFromUser_grants {machine : Machine} {after : Roster}
    (pinned : Outcome machine (pinRange .none space addr length .read).run
      (Grants machine space addr after) AnyStop) :
    Outcome machine (copyFromUser .none space addr length).run
      (Grants machine space addr after) AnyStop := by
  refine pinned.run_bind (fun _ _ grants => grants.error) fun guard next grants => ?_
  cases grants with
  | passes near passes =>
    cases passes with
    | done same =>
      refine readPieces_passes.run_bind (fun _ _ passes => ?_) fun parts _ passes => ?_
      · cases passes with
        | failed transfer => exact .passes near (.failed transfer)
      · cases passes with
        | done read =>
          exact .run_lift dropGuard_roster fun _ _ dropped =>
            .ret (.passes near (.done (dropped.trans (read.trans same))))

end Kernel

/-- How a computation on behalf of a process ends, if it does not stop the kernel: with an error or
without. -/
def Kernel.ending? (x : Faulting α) (machine : Machine) : Option (Option FaultError) :=
  match x.run machine with
  | .ok (.ok _) _ => some none
  | .ok (.error error) _ => some (some error)
  | .error _ _ => none

theorem Kernel.ok_of_ending? {x : Faulting α} {machine : Machine} (ends : ending? x machine = some none) :
    ∃ a next, x.run machine = .ok (.ok a) next := by
  unfold ending? at ends
  split at ends
  · exact ⟨_, _, by assumption⟩
  · cases ends
  · cases ends

theorem Kernel.error_of_ending? {x : Faulting α} {machine : Machine} {error : FaultError}
    (ends : ending? x machine = some (some error)) : ∃ next, x.run machine = .ok (.error error) next := by
  unfold ending? at ends
  split at ends
  · cases ends
  · cases ends
    exact ⟨_, by assumption⟩
  · cases ends

/-- The kernel's accesses to a range beside faults of the process at the first bytes of its pages, which
were all resolved and led to the machine `after`. -/
structure Machine.FollowsFaults (machine after : Machine) (space : SpaceId) (addr : VirtualAddress)
    (length : Nat) (access : Access) : Prop where
  pin : Kernel.Outcome machine (Kernel.pinRange .none space addr length access).run
    (Kernel.Grants machine space addr after.roster)
    (machine.ExhaustsIn space access addr.pageBase.value (Kernel.pagesOver addr length))
  copyTo : access = .write → ∀ bytes : Bytes, bytes.length = length →
    Kernel.Outcome machine (Kernel.copyToUser .none space addr bytes).run
      (Kernel.Grants machine space addr after.roster)
      (machine.ExhaustsIn space access addr.pageBase.value (Kernel.pagesOver addr length))
  copyFrom : access = .read → Kernel.Outcome machine (Kernel.copyFromUser .none space addr length).run
    (Kernel.Grants machine space addr after.roster)
    (machine.ExhaustsIn space access addr.pageBase.value (Kernel.pagesOver addr length))

variable [Lawful]

/-- Wherever a run has led to, the kernel is let into a range where the process is, unless the first page
of the range is new and its base is too far below the stack pointer. -/
theorem Reached.follows_faults [SecondChance] {rule : Rule} {loads : List Load} {machine after : Machine}
    (sensible : rule.Sensible) (unrepeated : rule.Unrepeated) (sanity : Sanity rule.Trusting)
    (reached : Reached rule loads machine) (backed : machine.Backed) {space : SpaceId}
    (present : space < machine.spaces.length) {addr : VirtualAddress} {length : Nat} {access : Access}
    (some : 0 < length) (inside : addr.value + length ≤ machine.config.userTop)
    (word : machine.config.userTop < Word.limit)
    (faulted : (Kernel.faultEach space access
      (Kernel.firstBytes addr (Kernel.pagesOver addr length))).run machine = .ok (.ok ()) after) :
    machine.FollowsFaults after space addr length access := by
  obtain ⟨ledger, rfl, between, placed, traced, classified⟩ := Reached.keeps
    (fun now => now.machine.swap.OnDisk ∧ Traced now ∧ now.machine.Classified) sensible
    (fun booted => by
      obtain ⟨_, _, opened, _, rfl⟩ := Machine.boot_ok booted
      refine ⟨SwapStore.onDisk_ofDisk opened, fun _ member => absurd member List.not_mem_nil, ?_⟩
      intro space addr life found
      exact absurd (Machine.space_present _ (Machine.life?_eq_some.1 found).1) (Nat.not_lt_zero _))
    (fun lets move consistent _ ⟨placed, traced, classified⟩ =>
      ⟨placed.of_shape move.sizes.2.2, traced.move move consistent unrepeated lets,
        classified.move move consistent traced⟩)
    (fun _ _ _ kept => kept) reached
  have call := between.uninterruptedCall sanity placed backed
  have balanced := between.balanced
  obtain ⟨_, _, roster, granted⟩ := Kernel.faultEach_ok call present balanced classified faulted
  have grants := Kernel.pinRange_grants call present balanced classified some inside word granted
  change Kernel.Outcome machine _ (Kernel.Grants machine space addr _) _ at grants
  rw [← roster] at grants
  constructor
  · exact ((Kernel.pinRange_outcome call present balanced).and_ok fun _ _ => grants.of_ok).imp
      (fun _ _ ⟨_, granted⟩ => granted) fun _ _ ⟨_, exhausts⟩ => exhausts
  · rintro rfl bytes rfl
    exact ((Kernel.copyToUser_outcome call present balanced).and_ok
      fun _ _ => (Kernel.copyToUser_grants grants).of_ok).imp
      (fun _ _ ⟨_, granted⟩ => granted) fun _ _ ⟨_, exhausts⟩ => exhausts
  · rintro rfl
    exact ((Kernel.copyFromUser_outcome call present balanced).and_ok
      fun _ _ => (Kernel.copyFromUser_grants grants).of_ok).imp
      (fun _ _ ⟨_, granted⟩ => granted) fun _ _ ⟨_, exhausts⟩ => exhausts

end

section
attribute [local instance] Architecture.small

/-- A process without pages, which has its stack pointer a little below the top of user space. -/
def belowStack : Machine :=
  [.createSpace none ⟨0, []⟩, .setStackPointer 0 0x7fe8].foldl Machine.undisturbed twoFrames

/-- A range of two pages below the stack pointer. -/
theorem belowStack_follows_faults : Rule.lifecycle.Sensible ∧ Rule.lifecycle.Unrepeated ∧
    Sanity Rule.lifecycle.Trusting ∧ Reached .lifecycle [] belowStack ∧ belowStack.Backed ∧
    0 < belowStack.spaces.length ∧ belowStack.config.userTop < Word.limit ∧
    ∃ after, (Kernel.faultEach 0 .write (Kernel.firstBytes ⟨0x7fd8⟩ (Kernel.pagesOver ⟨0x7fd8⟩ 24))).run
        belowStack = .ok (.ok ()) after ∧
      belowStack.FollowsFaults after 0 ⟨0x7fd8⟩ 24 .write := by
  have gentle := Rule.gentle_lifecycle
  have sanity : Sanity Rule.lifecycle.Trusting := .inr fun _ => trivial
  have reached : Reached .lifecycle [] belowStack :=
    twoFrames_reached.carried Rule.lifecycle_idle (by decide +kernel)
  have backed : belowStack.Backed := by
    intro index inside
    have capacity : belowStack.pool.capacity = 2 := rfl
    rw [capacity] at inside
    match index, inside with
    | 0, _ => exact ⟨_, rfl, rfl⟩
    | 1, _ => exact ⟨_, rfl, rfl⟩
  have present : 0 < belowStack.spaces.length := by decide +kernel
  have word : belowStack.config.userTop < Word.limit := by decide +kernel
  have ends : Kernel.ending? (Kernel.faultEach 0 .write
      (Kernel.firstBytes ⟨0x7fd8⟩ (Kernel.pagesOver ⟨0x7fd8⟩ 24))) belowStack = some none := by
    decide +kernel
  obtain ⟨_, after, faulted⟩ := Kernel.ok_of_ending? ends
  exact ⟨gentle.sensible, gentle.unrepeated, sanity, reached, backed, present, word, after, faulted,
    reached.follows_faults gentle.sensible gentle.unrepeated sanity backed present (by decide)
      (by decide +kernel) word faulted⟩

/-- The last eight bytes within reach of the stack pointer. The process can touch them, but their page
begins out of reach, and the kernel neither pins it nor copies to it. -/
theorem belowStack_refused : Reached .lifecycle [] belowStack ∧
    (∃ after, (Kernel.faultEach 0 .write (Kernel.firstBytes ⟨0x7fc8⟩ (Kernel.pagesOver ⟨0x7fc8⟩ 8))).run
      belowStack = .ok (.ok ()) after) ∧
    (∃ next, (Kernel.pinRange .none 0 ⟨0x7fc8⟩ 8 .write).run belowStack =
      .ok (.error (.unmapped ⟨0x7fc0⟩)) next) ∧
    ∃ next, (Kernel.copyToUser .none 0 ⟨0x7fc8⟩ (List.replicate 8 7)).run belowStack =
      .ok (.error (.unmapped ⟨0x7fc0⟩)) next := by
  have reached : Reached .lifecycle [] belowStack :=
    twoFrames_reached.carried Rule.lifecycle_idle (by decide +kernel)
  have ends : Kernel.ending? (Kernel.faultEach 0 .write
      (Kernel.firstBytes ⟨0x7fc8⟩ (Kernel.pagesOver ⟨0x7fc8⟩ 8))) belowStack = some none := by
    decide +kernel
  obtain ⟨_, after, faulted⟩ := Kernel.ok_of_ending? ends
  exact ⟨reached, ⟨after, faulted⟩, Kernel.error_of_ending? (by decide +kernel),
    Kernel.error_of_ending? (by decide +kernel)⟩

end

end DemandPaging
