import DemandPaging.Proofs.Resolutions

/-! Verdicts on faults. What the kernel makes of a fault is told here in the order in which it looks at
things, from the address, the stack, the registered page and the file alone. That is what becomes of it in
every machine a run can be at. -/
namespace DemandPaging
open Architecture (Lawful Obliging)

section
variable [Architecture]

/-- The error that a fault ends in, if it ends in one. -/
def Machine.verdict? (machine : Machine) (space : SpaceId) (fault : PageFault) (stackPointer : Nat) :
    Option FaultError :=
  let config := machine.config
  let base := (VirtualAddress.mk fault.address).pageBase
  if ¬Canonical fault.address ∨ config.userTop ≤ fault.address then some (.kernelAddress fault.address)
  else if fault.present then some (.writeToReadOnly base)
  else match (machine.registry space).pages.get? base with
    | none =>
        if fault.address + config.stackGrowthMargin < stackPointer then some (.unmapped base)
        else if config.maxStackSize < config.userTop - base.value then some (.stackOverflow base)
        else none
    | some page =>
        if fault.access = .write ∧ page.writable = false then some (.writeToReadOnly base)
        else if page.backing = .unclassified then some (.unclassified base)
        else machine.shortRead? page

/-- What becomes of a fault at `machine`. -/
structure Machine.Judged (machine : Machine) (space : SpaceId) (fault : PageFault) (stackPointer : Nat)
    (result : Except FaultError Unit) (next : Machine) : Prop where
  verdict : result = (machine.verdict? space fault stackPointer).elim (.ok ()) .error
  resident : result = .ok () → ∃ page frame,
    (next.registry space).pages.get? (VirtualAddress.mk fault.address).pageBase = some page ∧
      page.state = .resident frame
  /-- A page that was not registered is one of the stack. -/
  added : result = .ok () →
    (machine.registry space).pages.get? (VirtualAddress.mk fault.address).pageBase = none →
    ∃ page, (next.registry space).pages.get? (VirtualAddress.mk fault.address).pageBase = some page ∧
      page.backing = .zero ∧ page.writable = true
  /-- No other page is registered, none is unregistered, and all stay what they are. -/
  others : ∀ {owner addr}, owner ≠ space ∨ addr ≠ (VirtualAddress.mk fault.address).pageBase ∨
      (machine.registry owner).pages.get? addr ≠ none ∨ result ≠ .ok () →
    ((next.registry owner).pages.get? addr).map Page.face =
      ((machine.registry owner).pages.get? addr).map Page.face
  /-- A fault that is refused before its page is loaded leaves nothing but a line of the log. -/
  refused : ∀ {error}, result = .error error →
    (∀ addr expected actual, error ≠ .shortRead addr expected actual) →
    next = { machine.faulted space stackPointer with
      log := .unresolvable space fault.address error :: machine.log }

/-- A stack may grow as far as its bounds say, if addresses and the stack pointer are words. -/
theorem Roster.growth?_eq {roster : Roster} {space : SpaceId} {addr : VirtualAddress}
    (below : addr.value < userTop)
    (word : roster.stackPointer space < Word.limit) : roster.growth? space addr =
      if addr.value + roster.config.stackGrowthMargin < roster.stackPointer space then
        some (.unmapped addr.pageBase)
      else if roster.config.maxStackSize < roster.config.userTop - addr.pageBase.value then
        some (.stackOverflow addr.pageBase)
      else none := by
  have reach : Word.saturatingAdd addr.value roster.config.stackGrowthMargin <
      roster.stackPointer space ↔
        addr.value + roster.config.stackGrowthMargin < roster.stackPointer space := by
    unfold Word.saturatingAdd
    omega
  have user : addr.pageBase.isUser = true :=
    decide_eq_true (Nat.lt_of_le_of_lt (Nat.sub_le _ _) below)
  simp [Roster.growth?, reach, user]

namespace Machine
variable {machine : Machine} {space : SpaceId} {fault : PageFault} {stackPointer : Nat}

theorem registry_faulted (owner : SpaceId) :
    (machine.faulted space stackPointer).registry owner = machine.registry owner :=
  (space_setStackPointer _ stackPointer).1

theorem stackPointer_faulted (present : space < machine.spaces.length) :
    (machine.faulted space stackPointer).roster.stackPointer space = stackPointer :=
  congrArg AddressSpace.stackPointer (space_setSpace_self { machine with
    stats := { machine.stats with faults := machine.stats.faults + 1 } } _ present)

theorem pages_faulted (owner : SpaceId) (addr : VirtualAddress) :
    (machine.faulted space stackPointer).roster.pages owner addr =
      ((machine.registry owner).pages.get? addr).map Page.face :=
  congrArg (fun registry : Registry => (registry.pages.get? addr).map Page.face) (registry_faulted owner)

/-- The verdict is what the roster says, and then what the page lacks. -/
theorem verdict?_eq (present : space < machine.spaces.length)
    (below : machine.config.userTop ≤ userTop) (word : stackPointer < Word.limit) :
    machine.verdict? space fault stackPointer =
      ((machine.faulted space stackPointer).roster.judgement? space fault).or
        (Kernel.missing? (machine.faulted space stackPointer) space
          (VirtualAddress.mk fault.address).pageBase) := by
  unfold verdict?
  dsimp only
  split
  · rename_i outside
    have known : (VirtualAddress.ofWord? fault.address).filter (·.value < machine.config.userTop) = none := by
      unfold VirtualAddress.ofWord?
      rcases outside with astray | above
      · rw [if_neg astray]
        rfl
      · split
        · simp [above]
        · rfl
    rw [(machine.faulted space stackPointer).roster.judgement?_of_kernel space known]
    rfl
  · rename_i inside
    obtain ⟨canonical, inside⟩ := not_or.1 inside
    have canonical := not_not.1 canonical
    have inside := Nat.lt_of_not_le inside
    have known : (VirtualAddress.ofWord? fault.address).filter (·.value < machine.config.userTop) =
        some ⟨fault.address⟩ := by
      simp [VirtualAddress.ofWord?, canonical, inside]
    rw [(machine.faulted space stackPointer).roster.judgement?_of_user space known, Kernel.missing?,
      registry_faulted, pages_faulted]
    split
    · rfl
    · cases found : (machine.registry space).pages.get? (VirtualAddress.mk fault.address).pageBase with
      | none =>
        have word : (machine.faulted space stackPointer).roster.stackPointer space < Word.limit := by
          rw [stackPointer_faulted present]
          exact word
        rw [Option.map_none, Option.bind_none, Option.or_none]
        dsimp only
        rw [Roster.growth?_eq (Nat.lt_of_lt_of_le inside below) word, stackPointer_faulted present]
        rfl
      | some page =>
        simp only [Option.map_some, Option.bind_some, Face.refusal?, Page.face, Bool.not_eq_true']
        split
        · rfl
        · split <;> rfl

theorem shortRead?_eq_some {page : Page} {error : FaultError} (lacks : machine.shortRead? page = some error) :
    ∃ addr expected actual, error = .shortRead addr expected actual := by
  unfold shortRead? at lacks
  split at lacks
  · dsimp only at lacks
    split at lacks
    · cases lacks
      exact ⟨_, _, _, rfl⟩
    · cases lacks
  · cases lacks

theorem listed_of_missing {addr : VirtualAddress} {error : FaultError}
    (missing : Kernel.missing? (machine.faulted space stackPointer) space addr = some error) :
    (machine.registry space).pages.get? addr ≠ none ∧
      ∃ addr expected actual, error = .shortRead addr expected actual := by
  rw [Kernel.missing?, registry_faulted] at missing
  obtain ⟨page, found, missing⟩ := Option.bind_eq_some_iff.1 missing
  constructor
  · rw [found]
    exact Option.some_ne_none page
  · exact shortRead?_eq_some missing

/-- What is registered where the stack has grown by a page, unless one was there already. -/
theorem faces_of_grown {next : Machine} {page : VirtualAddress}
    (grown : next.roster = (machine.faulted space stackPointer).roster.grow space page)
    (owner : SpaceId) (addr : VirtualAddress) :
    ((next.registry owner).pages.get? addr).map Page.face =
      (((machine.registry owner).pages.get? addr).map Page.face).or
        (if space = owner ∧ page = addr then some .stack else none) := by
  have before : (machine.faulted space stackPointer).roster.pages owner addr = _ :=
    pages_faulted owner addr
  rw [← before]
  exact congrArg (fun roster : Roster => roster.pages owner addr) grown

end Machine

variable [Lawful]

/-- Wherever a run has led to, a fault comes to what it is to come to, as long as nothing fails that pages
are loaded from and there is memory for page tables. -/
theorem Reached.judged [Obliging] {machine next : Machine} {space : SpaceId} {fault : PageFault}
    {stackPointer : Nat} {result : Except FaultError Unit} (reached : Reached .careful [] machine)
    (present : space < machine.spaces.length) (below : machine.config.userTop ≤ userTop)
    (word : stackPointer < Word.limit) (succeed : machine.ReadsSucceed)
    (ran : Kernel.handleFault .none space fault stackPointer machine = .ok result next)
    (ample : result ≠ .error (.map .outOfMemory)) : machine.Judged space fault stackPointer result next := by
  have trusted := reached.leftToManager
  have settled := (Kernel.handleFault_settled trusted present).of_ok ran
  have verdict : machine.verdict? space fault stackPointer = _ := Machine.verdict?_eq present below word
  have lands : result = .ok () → ∃ frame writable,
      next.placement space (VirtualAddress.mk fault.address).pageBase = some (frame, writable) := by
    rintro rfl
    obtain ⟨_, frame, writable, placed, _⟩ := Kernel.handleFault_lands trusted present ran
    exact ⟨frame, writable, placed⟩
  cases told : (machine.faulted space stackPointer).roster.judgement? space fault with
  | some error =>
    rw [told] at settled verdict
    obtain ⟨rfl, rfl⟩ := settled
    refine ⟨?_, nofun, nofun, fun _ => Machine.pages_faulted _ _, fun same _ => ?_⟩
    · rw [verdict]
      rfl
    · cases same
      rfl
  | none =>
    rw [told, Option.none_or] at verdict
    rw [told] at settled
    obtain ⟨grown, answers⟩ := settled
    have answers := answers ⟨succeed.files, succeed.disk⟩ ample
    have faces := Machine.faces_of_grown grown
    constructor
    case verdict =>
      rw [verdict]
      cases missing : Kernel.missing? (machine.faulted space stackPointer) space
          (VirtualAddress.mk fault.address).pageBase with
      | some error => exact (answers error).2 missing
      | none =>
        cases result with
        | ok => rfl
        | error error => cases missing.symm.trans ((answers error).1 rfl)
    case resident =>
      intro resolved
      obtain ⟨frame, writable, placed⟩ := lands resolved
      obtain ⟨page, found, resident, _⟩ := Registry.placement_eq_some.1 placed
      exact ⟨page, frame, found, resident⟩
    case added =>
      intro _ absent
      have face := faces space (VirtualAddress.mk fault.address).pageBase
      rw [absent, if_pos ⟨rfl, rfl⟩] at face
      obtain ⟨page, found, face⟩ := Option.map_eq_some_iff.1 face
      exact ⟨page, found, congrArg Face.backing face, congrArg Face.writable face⟩
    case others =>
      intro owner addr kept
      rw [faces]
      by_cases here : space = owner ∧ (VirtualAddress.mk fault.address).pageBase = addr
      · obtain ⟨rfl, rfl⟩ := here
        have listed : (machine.registry space).pages.get? (VirtualAddress.mk fault.address).pageBase ≠ none := by
          rcases kept with other | other | listed | failed
          · exact absurd rfl other
          · exact absurd rfl other
          · exact listed
          · cases result with
            | ok => exact absurd rfl failed
            | error error => exact (Machine.listed_of_missing ((answers error).1 rfl)).1
        obtain ⟨page, found⟩ := Option.ne_none_iff_exists'.1 listed
        rw [found]
        rfl
      · rw [if_neg here, Option.or_none]
    case refused =>
      intro error failed whole
      obtain ⟨_, addr, expected, actual, same⟩ := Machine.listed_of_missing ((answers error).1 failed)
      exact absurd same (whole addr expected actual)

end

section
attribute [local instance] Architecture.small

def shortFile : Machine :=
  [.createSpace none ⟨0, []⟩, .openFile (List.replicate 10 7) .working,
    .registerSegment 0 0 0 0x1000 16 0 false].foldl Machine.undisturbed twoFrames

/-- The page cannot be loaded. -/
theorem shortFile_judged : ∃ result next, Reached .careful [] shortFile ∧ 0 < shortFile.spaces.length ∧
    shortFile.config.userTop ≤ userTop ∧ 0x7fe8 < Word.limit ∧ shortFile.ReadsSucceed ∧
    Kernel.handleFault .none 0 ⟨0x1008, .read, false⟩ 0x7fe8 shortFile = .ok result next ∧
    result = .error (.shortRead ⟨0x1000⟩ 16 10) ∧
    shortFile.Judged 0 ⟨0x1008, .read, false⟩ 0x7fe8 result next := by
  have reached : Reached .careful [] shortFile :=
    twoFrames_reached.carried Rule.careful_idle (by decide +kernel)
  have present : 0 < shortFile.spaces.length := by decide +kernel
  have below : shortFile.config.userTop ≤ userTop := by decide +kernel
  have succeed : shortFile.ReadsSucceed := by
    constructor
    · intro file
      match file with
      | 0 => rfl
      | _ + 1 => rfl
    · rfl
  have answered : (Kernel.handleFault .none 0 ⟨0x1008, .read, false⟩ 0x7fe8).answer? shortFile =
      some (.error (.shortRead ⟨0x1000⟩ 16 10)) := by decide +kernel
  have ran := Kernel.ok_of_answer? answered
  exact ⟨_, _, reached, present, below, by decide, succeed, ran, rfl,
    reached.judged present below (by decide) succeed ran (by decide)⟩

end

end DemandPaging
