import DemandPaging.Proofs.Faults
import DemandPaging.Proofs.Pins
import DemandPaging.Session.Perform

/-! Accesses of a process as moves. An access that goes through has reached a resident page. -/
namespace DemandPaging
open Architecture (Lawful)

variable [Architecture] [Lawful] {scope : Scope} {start : Moment} {others variant : Interference}

namespace Machine

/-- What an access that went through has reached, and what is known of the page then. -/
structure Reached (machine : Machine) (space : SpaceId) (addr : VirtualAddress) (kind : Access)
    (phys : PhysicalAddress) (frame : FrameNumber) (writable : Bool) : Prop where
  placed : machine.placement space addr.pageBase = some (frame, writable)
  place : phys = ⟨frame.value * pageSize + addr.pageOffset⟩
  permitted : kind = .write → writable = true
  dirty : kind = .write → machine.isDirty space addr.pageBase = true

end Machine

omit [Lawful] in
theorem PhysicalAddress.frame_of_offset {frame : FrameNumber} {offset : Nat} (within : offset < pageSize) :
    PhysicalAddress.frame ⟨frame.value * pageSize + offset⟩ = frame ∧
      PhysicalAddress.pageOffset ⟨frame.value * pageSize + offset⟩ = offset := by
  constructor
  · rw [PhysicalAddress.frame, Nat.mul_comm, Nat.mul_add_div pageSize_pos, Nat.div_eq_of_lt within]
    rfl
  · rw [PhysicalAddress.pageOffset, Nat.mul_comm, Nat.mul_add_mod, Nat.mod_eq_of_lt within]

namespace Machine

omit [Lawful] in
theorem Reached.frame {machine : Machine} {space : SpaceId} {addr : VirtualAddress} {kind : Access}
    {phys : PhysicalAddress} {frame : FrameNumber} {writable : Bool}
    (reached : machine.Reached space addr kind phys frame writable) :
    phys.frame = frame ∧ phys.pageOffset = addr.pageOffset := by
  rw [reached.place]
  exact PhysicalAddress.frame_of_offset (Nat.mod_lt _ pageSize_pos)

end Machine

namespace Kernel

def tryAccess (space : SpaceId) (addr : VirtualAddress) (kind : Access) :
    Kernel (Except PageFault PhysicalAddress) :=
  modifyGet fun machine =>
    let (result, directory) := Architecture.access (machine.directory space) addr kind
    (result, machine.setDirectory space directory)

/-- An access that goes through reaches a resident page, if the directory shows those only. -/
theorem tryAccess_follows {space : SpaceId} {addr : VirtualAddress} {kind : Access}
    (canonical : Canonical addr.value) (present : space < scope.spaces) :
    Follows scope start (tryAccess space addr kind) (tryAccess space addr kind) fun result now =>
      now.ledger = start.ledger ∧ (scope.trusting → ∀ phys, result = .ok phys →
        ∃ frame writable, now.machine.Reached space addr kind phys frame writable) := by
  refine .of_ok fun ready result next ended => ?_
  obtain ⟨rfl, rfl⟩ := modifyGet_ok.1 ended
  have known := Nat.lt_of_lt_of_le present ready.known
  have is_page := VirtualAddress.isPage_pageBase canonical
  have idle : start.machine.Idle (start.machine.setDirectory space
      (Architecture.access (start.machine.directory space) addr kind).2) :=
    start.machine.idle_directory space fun sane =>
      ⟨Lawful.sane_access sane canonical, Lawful.access_alike sane canonical⟩
  refine ⟨start.ledger, scope.idles _ idle, rfl, fun trusting phys through => ?_⟩
  have mapped := ready.mapped trusting
  have sane := mapped.sane known
  have verdict : Architecture.verdict addr kind
      (Architecture.mapping (start.machine.directory space) addr.pageBase) = .ok phys :=
    (Lawful.access_result sane canonical).symm.trans through
  rw [mapped.shows known is_page, Registry.expected] at verdict
  cases placed : (start.machine.registry space).placement addr.pageBase with
  | none =>
    rw [placed] at verdict
    cases verdict
  | some found =>
    obtain ⟨frame, writable⟩ := found
    rw [placed] at verdict
    change (if kind = .write ∧ !writable then _ else _) = _ at verdict
    split at verdict
    · cases verdict
    · rename_i permitted
      cases verdict
      refine ⟨frame, writable, placed, rfl, fun write => ?_, fun write => ?_⟩
      · cases writable with
        | true => rfl
        | false => exact absurd ⟨write, rfl⟩ permitted
      · subst write
        change Architecture.isDirty (Machine.directory (start.machine.setDirectory space _) space) _ = _
        rw [start.machine.directory_setDirectory_self _ (ready.present known)]
        exact Lawful.dirty_access sane canonical through

theorem touch_follows {space : SpaceId} {addr : VirtualAddress} {kind : Access} {faults tries : Nat}
    (canonical : Canonical addr.value) (tame : Tame scope start.ledger.loads others variant)
    (present : space < scope.spaces) (balanced : start.ledger.Balanced) :
    Follows scope start (touch others space addr kind faults tries)
      (touch variant space addr kind faults tries) fun result now => now.ledger = start.ledger ∧
        (scope.trusting → ∀ phys count, result = .reached phys count →
          ∃ frame writable, now.machine.Reached space addr kind phys frame writable) := by
  induction tries generalizing start faults with
  | zero => exact .ret ⟨rfl, fun _ _ _ same => by cases same⟩
  | succ tries ih =>
    change Follows scope start (tryAccess space addr kind >>= _) (tryAccess space addr kind >>= _) _
    refine (tryAccess_follows canonical present).bind fun result now ⟨ledger, reached⟩ => ?_
    rw [← ledger] at tame balanced ⊢
    cases result with
    | ok phys =>
      refine .ret ⟨rfl, fun trusting other count same => ?_⟩
      cases same
      exact reached trusting phys rfl
    | error fault =>
      refine .look ((handleFault_follows tame present balanced).bind fun result next same => ?_)
      rw [← same] at tame balanced ⊢
      cases result with
      | error error => exact .ret ⟨rfl, fun _ _ _ same => by cases same⟩
      | ok => exact ih tame balanced

theorem afterTouch_follows {space : SpaceId} {addr : Nat} {kind : Access}
    {proceed : PhysicalAddress → Nat → Kernel Reply}
    (tame : Tame scope start.ledger.loads others variant) (present : space < scope.spaces)
    (balanced : start.ledger.Balanced)
    (rest : ∀ now phys faults, now.ledger = start.ledger →
      (scope.trusting → ∃ frame writable,
        now.machine.Reached space ⟨addr⟩ kind phys frame writable) →
      Follows scope now (proceed phys faults) (proceed phys faults)
        fun _ next => next.ledger = start.ledger) :
    Follows scope start (afterTouch others space addr kind proceed)
      (afterTouch variant space addr kind proceed) fun _ now => now.ledger = start.ledger := by
  refine Follows.orStop.bind fun address now ⟨found, same⟩ => ?_
  subst same
  obtain ⟨canonical, rfl⟩ := VirtualAddress.ofWord_ok found
  refine (touch_follows canonical tame present balanced).bind fun result now ⟨ledger, reached⟩ => ?_
  cases result with
  | reached phys faults =>
    exact rest now phys faults ledger fun trusting => reached trusting phys faults rfl
  | killed error => exact .ret ledger
  | stuck => exact .ret ledger

end Kernel

end DemandPaging
