import DemandPaging.Kernel.Fault
import DemandPaging.Proofs.Arrivals

/-! Faults as moves: a page of the stack may be registered, and the page faulted on is brought in. -/
namespace DemandPaging
open Architecture (Lawful)

theorem Registry.create_ok [Geometry] {registry after : Registry} {addr : VirtualAddress}
    {backing : Backing} {writable : Bool} {page : Page}
    (created : registry.create addr backing writable = .ok (page, after)) :
    registry.refusal? page.addr = none ∧ page = { addr, backing, writable } ∧
      after = registry.add page := by
  unfold create at created
  split at created
  · cases created
  · rename_i accepted
    cases created
    exact ⟨accepted, rfl, rfl⟩

variable [Architecture]

namespace Kernel
variable [Lawful] {scope : Scope} {start : Moment} {others variant : Interference}

theorem userAddress_follows {address : Nat} :
    Follows scope start (userAddress address).run (userAddress address).run fun result now =>
      start = now ∧ ∀ addr, result = .ok addr →
        addr = ⟨address⟩ ∧ Canonical address ∧ address < start.machine.config.userTop := by
  refine .run_look ?_
  split
  · rename_i addr found
    refine .ret ⟨rfl, fun _ same => ?_⟩
    cases same
    obtain ⟨found, below⟩ := Option.filter_eq_some_iff.1 found
    unfold VirtualAddress.ofWord? at found
    split at found
    · rename_i canonical
      cases found
      exact ⟨rfl, canonical, of_decide_eq_true below⟩
    · cases found
  · exact .ret ⟨rfl, nofun⟩

/-- A fault on the stack registers a page that is new, or fails. -/
theorem growStack_follows {space : SpaceId} {addr : VirtualAddress}
    (allowed : ∀ addr, scope.may (.grow start.ledger.loads space addr)) (present : space < scope.spaces) :
    Follows scope start (growStack space addr).run (growStack space addr).run fun result now =>
      now.ledger = start.ledger ∧ ∀ page, result = .ok page →
        (now.machine.registry space).pages.get? page.addr = some page ∧
          page.addr = addr.pageBase ∧ page.isResident = false := by
  refine .run_look ?_
  dsimp only
  split
  · exact .run_fail ⟨rfl, nofun⟩
  · split
    · exact .run_fail ⟨rfl, nofun⟩
    · split
      · exact .ret ⟨rfl, nofun⟩
      · rename_i page registry created
        obtain ⟨accepted, fresh, rfl⟩ := Registry.create_ok created
        refine .of_ok fun ready result next ended => ?_
        obtain ⟨_, _, registered, ended⟩ := run_lift_ok.1 ended
        obtain ⟨_, _, told, ended⟩ := run_lift_ok.1 ended
        obtain ⟨rfl, rfl⟩ := run_pure_ok.1 ended
        cases modify_ok.1 registered
        cases emit_ok.1 told
        have known := Nat.lt_of_lt_of_le present ready.known
        have move : Move (.grow start.ledger.loads space page.addr) start ⟨start.ledger, _⟩ :=
          .grow accepted (by rw [fresh]) (by rw [fresh]) (by rw [fresh]) (by rw [fresh]; trivial)
        refine ⟨_, .of_move (allowed page.addr) move, rfl, ?_⟩
        intro _ same
        cases same
        refine ⟨?_, by rw [fresh], by rw [fresh]; rfl⟩
        have here := start.machine.registry_setRegistry_self
          ((start.machine.registry space).add page) known
        change ((start.machine.setRegistry space _).registry space).pages.get? page.addr = _
        rw [here, Registry.add, SortedMap.get?_insert_self]

theorem pinResident_follows {space : SpaceId} {addr : VirtualAddress} :
    Follows scope start (pinResident space addr) (pinResident space addr) fun result now =>
      Brings start.ledger space addr true (.ok result) now := by
  refine .of_ok fun ready result next ended => ?_
  simp only [pinResident, bind_ok, get_ok] at ended
  obtain ⟨_, _, ⟨rfl, rfl⟩, ended⟩ := ended
  cases pinned : (start.machine.registry space).pin? addr with
  | none =>
    simp only [pinned, pure_ok] at ended
    obtain ⟨rfl, rfl⟩ := ended
    exact ⟨_, .refl _, rfl⟩
  | some found =>
    obtain ⟨frame, registry⟩ := found
    simp only [pinned, bind_ok, modify_ok, poolIndex_ok, modifyPool_ok, pure_ok] at ended
    obtain ⟨_, _, rfl, index, _, ⟨located, rfl⟩, _, _, rfl, rfl, rfl⟩ := ended
    have place : frame.value - start.machine.pool.base.value = index := by
      rw [(FramePool.index_ok.1 located).1]
      exact FramePool.number_sub _ _
    obtain ⟨⟨writable, placed⟩, _, same⟩ := (ready.sound space).pin? pinned
    obtain ⟨page, registered, _⟩ := Registry.placement_eq_some.1 placed
    have present := start.machine.space_present registered
    have move : Move .quiet start ⟨start.ledger.keep true ⟨space, addr, frame⟩, _⟩ := .pin pinned
    rw [place] at move
    refine ⟨_, .of_move scope.quiet move, rfl, writable, ?_⟩
    change ((start.machine.setRegistry space registry).registry space).placement addr = _
    rw [start.machine.registry_setRegistry_self registry present, same]
    exact placed

def bring (others : Interference) (space : SpaceId) (access : Access) (pin : Bool)
    (pinned : List (VirtualAddress × FrameNumber)) (page : Page) : Faulting (Option FrameNumber) := do
  if access = .write ∧ !page.writable then throw (.writeToReadOnly page.addr)
  match page.state with
  | .resident frame => if pin then pinResident space page.addr else return some frame
  | _ => load others space page pin pinned

/-- Brings in the page of a user address, which is added to the stack if it is not registered. -/
def bringAt (others : Interference) (space : SpaceId) (access : Access) (pin : Bool)
    (pinned : List (VirtualAddress × FrameNumber)) (addr : VirtualAddress) :
    Faulting (Option FrameNumber) := do
  match ((← get).registry space).lookup addr with
  | some page => bring others space access pin pinned page
  | none => growStack space addr >>= bring others space access pin pinned

omit [Lawful] in
theorem resolve_eq (others : Interference) (space : SpaceId) (address : Nat) (access : Access) (pin : Bool)
    (pinned : List (VirtualAddress × FrameNumber)) :
    resolve others space address access pin pinned =
      userAddress address >>= bringAt others space access pin pinned := by
  refine congrArg (_ >>= ·) (funext fun addr => congrArg (_ >>= ·) (funext fun machine => ?_))
  cases (machine.registry space).lookup addr <;> rfl

theorem bring_follows {space : SpaceId} {page : Page} {access : Access} {pin : Bool}
    {pinned : List (VirtualAddress × FrameNumber)}
    (tame : Tame scope start.ledger.loads others variant) (present : space < scope.spaces)
    (owed : start.ledger.Owes ⟨space, pinned⟩)
    (current : (start.machine.registry space).pages.get? page.addr = some page) :
    Follows scope start (bring others space access pin pinned page).run
      (bring variant space access pin pinned page).run (Brings start.ledger space page.addr pin) := by
  unfold bring
  dsimp only
  split
  · exact .run_fail rfl
  · cases state : page.state with
    | resident frame =>
      cases pin with
      | true => exact .run_last pinResident_follows fun _ _ done => done
      | false =>
        have placed : start.machine.placement space page.addr = some (frame, page.writable) :=
          Registry.placement_eq_some.2 ⟨page, current, state, rfl⟩
        exact .ret ⟨rfl, page.writable, placed⟩
    | unloaded =>
      exact load_follows tame present owed current (by rw [Page.isResident, Page.frame?, state]; rfl)
    | swapped slot =>
      exact load_follows tame present owed current (by rw [Page.isResident, Page.frame?, state]; rfl)

theorem resolve_follows {space : SpaceId} {address : Nat} {access : Access} {pin : Bool}
    {pinned : List (VirtualAddress × FrameNumber)}
    (tame : Tame scope start.ledger.loads others variant) (present : space < scope.spaces)
    (owed : start.ledger.Owes ⟨space, pinned⟩) :
    Follows scope start (resolve others space address access pin pinned).run
      (resolve variant space address access pin pinned).run
      (Brings start.ledger space (VirtualAddress.mk address).pageBase pin) := by
  refine userAddress_follows.run_bind (fun error now ⟨same, _⟩ => ?_) fun addr now ⟨same, found⟩ => ?_
  · rw [same]
    rfl
  · obtain ⟨rfl, _⟩ := found addr rfl
    subst same
    refine .run_look ?_
    dsimp only
    split
    · rename_i page found
      change Follows scope start (bring others space access pin pinned page).run
        (bring variant space access pin pinned page).run _
      refine .of_ready fun ready => ?_
      have here := (ready.sound space).keyed found
      rw [← here]
      exact bring_follows tame present owed (by rw [here]; exact found)
    · refine (growStack_follows (tame.grow space) present).run_bind
        (fun error now ⟨ledger, _⟩ => ledger) fun page now ⟨ledger, grown⟩ => ?_
      obtain ⟨registered, here, _⟩ := grown page rfl
      rw [← ledger] at tame owed
      rw [← ledger, ← here]
      exact bring_follows tame present owed registered

theorem handleFault_follows {space : SpaceId} {fault : PageFault} {stackPointer : Nat}
    (tame : Tame scope start.ledger.loads others variant) (present : space < scope.spaces)
    (balanced : start.ledger.Balanced) :
    Follows scope start (handleFault others space fault stackPointer)
      (handleFault variant space fault stackPointer) fun _ now => now.ledger = start.ledger := by
  refine (Follows.idle (start.machine.idle_stats (by rfl))).bind fun _ _ counted => ?_
  subst counted
  refine (Follows.idle (Machine.idle_stackPointer _ space stackPointer)).bind fun _ now moved => ?_
  have ledger : now.ledger = start.ledger := by rw [moved]
  rw [← ledger] at tame balanced
  refine .step start.ledger ?_ fun result now ledger => ?_
  · rw [← ledger]
    split
    · exact userAddress_follows.run_bind (fun _ _ ⟨same, _⟩ => by rw [same])
        fun _ _ ⟨same, _⟩ => .ret (by rw [same])
    · exact (resolve_follows tame present (balanced.owes space)).run_bind (fun _ _ done => done)
        fun _ _ done => .ret done.unpinned
  · split
    · exact (Follows.idle (now.machine.idle_log fun _ same => by cases same)).bind fun _ _ told =>
        .ret (by rw [told]; exact ledger)
    · exact .ret ledger

theorem setupStack_follows {space : SpaceId}
    (allowed : ∀ addr, firstStackPage start.machine.config.userTop = .ok addr →
      (start.machine.registry space).pages.get? addr = none →
      scope.may (.register start.ledger.loads space addr))
    (tame : Tame scope start.ledger.loads others variant) (present : space < scope.spaces)
    (balanced : start.ledger.Balanced) :
    Follows scope start (setupStack others space).run (setupStack variant space).run
      fun _ now => now.ledger = start.ledger := by
  refine .run_look (.run_lift .orStop fun addr now ⟨found, same⟩ => .run_look ?_)
  subst same
  split
  · exact .ret rfl
  · rename_i page registry created
    obtain ⟨accepted, fresh, rfl⟩ := Registry.create_ok created
    have here : page.addr = addr := by rw [fresh]
    have register : scope.Ready start → Move (.register start.ledger.loads space page.addr) start
        ⟨start.ledger, start.machine.setRegistry space ((start.machine.registry space).add page)⟩ :=
      fun _ => .register accepted (by rw [fresh]) (by rw [fresh]) (by rw [fresh])
        (by rw [fresh]; trivial)
    have absent := Registry.refusal?_eq_none accepted
    rw [here] at absent
    refine .run_lift (.move start.ledger (by rw [here]; exact allowed addr found absent.1) register)
      fun _ _ registered => ?_
    subst registered
    refine .run_lift (.idle (Machine.idle_stackPointer _ space _)) fun _ now moved => ?_
    have ledger : now.ledger = start.ledger := by rw [moved]
    rw [← ledger] at tame balanced ⊢
    exact (resolve_follows tame present (balanced.owes space)).run_bind (fun _ _ done => done)
      fun _ _ done => .ret done.unpinned

end Kernel

end DemandPaging
