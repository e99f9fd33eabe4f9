import DemandPaging.Proofs.Books

/-! Calls that are watched: what is claimed of the books holds of every machine that a call comes to, if it is
kept where a page is loaded, and where the kernel stops for want of a slot, that happens while a page is
loaded. -/
namespace DemandPaging
open Architecture (Lawful)

variable [Architecture]

/-- A claim about the books, and what is to be known of a machine at which the kernel stops for want of a
slot. -/
structure Watch where
  claim : Machine → Prop
  full : Machine → Prop
  booked : ∀ {machine after}, after.books = machine.books → claim machine → claim after
  /-- Pins that are dropped on the way out make no difference. -/
  dropped : ∀ {frame owner u machine after}, Kernel.unpin frame owner machine = .ok u after →
    full machine → full after

/-- What a watch finds when the kernel stops. -/
def Watch.Stops (watch : Watch) (cause : Fatal) (machine : Machine) : Prop :=
  cause = .swapExhausted → watch.full machine

variable [Lawful]

/-- A computation keeps the claim, and stops for want of a slot only where it may. -/
def Watched (watch : Watch) (scope : Scope) (start : Moment) (f : Kernel α) : Prop :=
  scope.Ready start → watch.claim start.machine →
    Kernel.Outcome start.machine f (fun _ => watch.claim) watch.Stops

namespace Watched
open Kernel (Preserves)
variable {watch : Watch} {scope : Scope} {start : Moment} {f : Kernel α} {k : α → Kernel β}
  {x : Faulting α} {h : α → Faulting β} {mid : α → Moment → Prop}

/-- What leaves the books alone keeps the claim. -/
theorem of_books (books : Preserves Machine.books f) : Watched watch scope start f :=
  fun _ claim => (books start.machine).imp (fun _ _ same => watch.booked same claim)
    fun _ _ other same => absurd same other

theorem ret (a : α) : Watched watch scope start (pure a : Kernel α) := fun _ claim => claim

/-- What comes after goes on from the moments that the moves of the first part lead to. -/
theorem bind (first : Watched watch scope start f) (follows : Follows scope start f f mid)
    (rest : ∀ a now, mid a now → Watched watch scope now (k a)) : Watched watch scope start (f >>= k) := by
  intro ready claim
  refine ((first ready claim).and_ok (follows ready).2).bind fun a next ⟨kept, ledger, path, done⟩ => ?_
  exact rest a _ done (ready.path path) kept

/-- What comes after leaves the books alone. -/
theorem ends (first : Watched watch scope start f) (rest : ∀ a, Preserves Machine.books (k a)) :
    Watched watch scope start (f >>= k) := fun ready claim =>
  (first ready claim).bind fun a next kept => (rest a next).imp
    (fun _ _ same => watch.booked same kept) fun _ _ other same => absurd same other

theorem look {k : Machine → Kernel β} (rest : Watched watch scope start (k start.machine)) :
    Watched watch scope start (get >>= k) := rest

theorem run_bind {done : Except FaultError α → Moment → Prop} (first : Watched watch scope start x.run)
    (follows : Follows scope start x.run x.run done)
    (rest : ∀ a now, done (.ok a) now → Watched watch scope now (h a).run) :
    Watched watch scope start (x >>= h).run := by
  rw [ExceptT.run_bind]
  refine first.bind follows fun outcome now ends => ?_
  cases outcome with
  | ok a => exact rest a now ends
  | error error => exact .ret _

theorem run_ends (first : Watched watch scope start x.run)
    (rest : ∀ a, Preserves Machine.books (h a).run) : Watched watch scope start (x >>= h).run := by
  rw [ExceptT.run_bind]
  refine first.ends fun outcome => ?_
  cases outcome with
  | ok a => exact rest a
  | error error => exact .ret _

theorem run_lift (first : Watched watch scope start f) (follows : Follows scope start f f mid)
    (rest : ∀ a now, mid a now → Watched watch scope now (h a).run) :
    Watched watch scope start (ExceptT.lift f >>= h).run := by
  rw [ExceptT.run_bind_lift]
  exact first.bind follows rest

theorem run_look {h : Machine → Faulting β} (rest : Watched watch scope start (h start.machine).run) :
    Watched watch scope start ((get : Faulting Machine) >>= h).run := rest

theorem run_ret (a : α) : Watched watch scope start (pure a : Faulting α).run := ret _

theorem run_fail (error : FaultError) : Watched watch scope start (throw error : Faulting α).run := ret _

theorem of_ready (watched : scope.Ready start → Watched watch scope start f) :
    Watched watch scope start f := fun ready => watched ready ready

/-- A stop is let through once the pins of a guard are dropped. -/
theorem guarded {guard : PinGuard} (watched : Watched watch scope start f) :
    Watched watch scope start (Kernel.guarded guard f) := by
  refine fun ready claim => (watched ready claim).rescue fun cause next known => ?_
  by_cases full : cause = .swapExhausted
  · refine .forM (fun _ => known full) fun item _ now known => ?_
    refine ((Kernel.unpin_books item.2 guard.owner) now).and_ok (fun _ _ ran => watch.dropped ran (known full))
      |>.imp (fun _ _ kept _ => kept.2) fun _ _ other same => absurd same other
  · exact (Kernel.dropGuard_books guard next).imp (fun _ _ _ same => absurd same full)
      fun _ _ other same => absurd same other

end Watched

structure Watch.Loads (watch : Watch) (scope : Scope) (others : Interference) : Prop where
  tame : Tame scope [] others others
  load : ∀ {start : Moment} {space : SpaceId} {page : Page} {pin : Bool}
    {pinned : List (VirtualAddress × FrameNumber)}, start.ledger.loads = [] → space < scope.spaces →
    start.ledger.Owes ⟨space, pinned⟩ →
    (start.machine.registry space).pages.get? page.addr = some page → page.isResident = false →
    Watched watch scope start (Kernel.load others space page pin pinned).run

namespace Kernel
variable {watch : Watch} {scope : Scope} {start : Moment} {others : Interference} {space : SpaceId}
  {access : Access} {pin : Bool} {pinned : List (VirtualAddress × FrameNumber)}

theorem bring_watched {page : Page} (loads : watch.Loads scope others) (idle : start.ledger.loads = [])
    (present : space < scope.spaces) (owed : start.ledger.Owes ⟨space, pinned⟩)
    (current : (start.machine.registry space).pages.get? page.addr = some page) :
    Watched watch scope start (bring others space access pin pinned page).run := by
  unfold bring
  dsimp only
  split
  · exact .run_fail _
  · cases state : page.state with
    | resident frame =>
      cases pin with
      | true => exact .of_books (.run_last (pinResident_books _ _))
      | false => exact .run_ret _
    | unloaded | swapped =>
      exact loads.load idle present owed current (by rw [Page.isResident, Page.frame?, state]; rfl)

theorem resolve_watched {address : Nat} (loads : watch.Loads scope others)
    (idle : start.ledger.loads = []) (present : space < scope.spaces)
    (owed : start.ledger.Owes ⟨space, pinned⟩) :
    Watched watch scope start (resolve others space address access pin pinned).run := by
  rw [resolve_eq]
  refine (Watched.of_books (userAddress_books address)).run_bind userAddress_follows
    fun addr now ⟨same, _⟩ => ?_
  subst same
  refine .run_look ?_
  split
  · rename_i page found
    refine .of_ready fun ready => ?_
    have here := (ready.sound space).keyed found
    exact bring_watched loads idle present owed (by rw [here]; exact found)
  · have grow : ∀ addr, scope.may (.grow start.ledger.loads space addr) := fun addr => by
      rw [idle]
      exact loads.tame.grow space addr
    refine (Watched.of_books (growStack_books space addr)).run_bind (growStack_follows grow present)
      fun page now ⟨ledger, grown⟩ => ?_
    obtain ⟨registered, _⟩ := grown page rfl
    exact bring_watched loads (by rw [ledger]; exact idle) present (by rw [ledger]; exact owed) registered

theorem handleFault_watched {fault : PageFault} {stackPointer : Nat} (loads : watch.Loads scope others)
    (idle : start.ledger.loads = []) (present : space < scope.spaces) (balanced : start.ledger.Balanced) :
    Watched watch scope start (handleFault others space fault stackPointer) := by
  refine (Watched.of_books (.modify (by exact fun _ => rfl))).bind
    (.idle (start.machine.idle_stats (by rfl))) fun _ _ counted => ?_
  subst counted
  refine (Watched.of_books (.modify (by exact fun _ => rfl))).bind
    (.idle (Machine.idle_stackPointer _ space stackPointer)) fun _ now moved => ?_
  subst moved
  refine .ends ?_ fun result => ?_
  · split
    · exact .of_books ((userAddress_books _).run_bind fun _ => .run_fail _)
    · exact .run_ends (resolve_watched loads (by exact idle) present (by exact balanced.owes space)) fun _ =>
        .run_ret _
  · split
    · exact (emit_books _).bind fun _ => .ret _
    · exact .ret _

theorem setupStack_watched (loads : watch.Loads scope others) (idle : start.ledger.loads = [])
    (present : space < scope.spaces) (balanced : start.ledger.Balanced)
    (allowed : ∀ addr, firstStackPage start.machine.config.userTop = .ok addr →
      (start.machine.registry space).pages.get? addr = none →
      scope.may (.register start.ledger.loads space addr)) :
    Watched watch scope start (setupStack others space).run := by
  have first : Fatal.NotExhausted (firstStackPage start.machine.config.userTop) :=
    (Word.notExhausted_sub _ _).bind VirtualAddress.notExhausted_ofWord
  refine .run_look (.run_lift (.of_books (.orStop first)) .orStop fun addr now ⟨found, same⟩ => .run_look ?_)
  subst same
  split
  · exact .run_fail _
  · rename_i page registry created
    obtain ⟨accepted, fresh, rfl⟩ := Registry.create_ok created
    have here : page.addr = addr := by rw [fresh]
    have absent := Registry.refusal?_eq_none accepted
    rw [here] at absent
    have register : scope.Ready start → Move (.register start.ledger.loads space page.addr) start
        ⟨start.ledger, start.machine.setRegistry space ((start.machine.registry space).add page)⟩ :=
      fun _ => .register accepted (by rw [fresh]) (by rw [fresh]) (by rw [fresh])
        (by rw [fresh]; trivial)
    refine .run_lift (.of_books (.modify (by exact fun _ => rfl)))
      (.move start.ledger (by rw [here]; exact allowed addr found absent.1) register) fun _ _ registered => ?_
    subst registered
    refine .run_lift (.of_books (.modify (by exact fun _ => rfl)))
      (.idle (Machine.idle_stackPointer _ space _)) fun _ now moved => ?_
    subst moved
    exact .run_ends (resolve_watched loads (by exact idle) present (by exact balanced.owes space)) fun _ =>
      .run_ret _

theorem pinPage_watched {page tries : Nat} (loads : watch.Loads scope others)
    (idle : start.ledger.loads = []) (present : space < scope.spaces)
    (owed : start.ledger.Owes ⟨space, pinned⟩) :
    Watched watch scope start (pinPage others space page access pinned tries).run := by
  induction tries generalizing start with
  | zero => exact fun _ _ same => by cases same
  | succ tries ih =>
    have tame := loads.tame
    rw [← idle] at tame
    refine (resolve_watched loads idle present owed).run_bind (resolve_follows tame present owed)
      fun found now done => ?_
    cases found with
    | some frame => exact .run_ret _
    | none =>
      have ledger : now.ledger = start.ledger := done
      exact ih (by rw [ledger]; exact idle) (by rw [ledger]; exact owed)

theorem pinPages_watched {page count : Nat} (loads : watch.Loads scope others)
    (idle : start.ledger.loads = []) (present : space < scope.spaces)
    (owed : start.ledger.Owes ⟨space, pinned⟩) (aligned : page % pageSize = 0) :
    Watched watch scope start (pinPages others space access page pinned count).run := by
  induction count generalizing start page pinned with
  | zero => exact .run_ret _
  | succ count ih =>
    have tame := loads.tame
    rw [← idle] at tame
    refine .run_lift (Watched.guarded (pinPage_watched loads idle present owed))
      (guarded_follows (pinPage_follows tame present owed)) fun result now brought => ?_
    cases result with
    | error error => exact .of_books (.run_lift (dropGuard_books _) fun _ => .run_fail _)
    | ok frame =>
      obtain ⟨kept, _⟩ := brought
      have base : (VirtualAddress.mk page).pageBase = ⟨page⟩ := by
        rw [VirtualAddress.pageBase, aligned, Nat.sub_zero]
      rw [base] at kept
      refine ih ?_ ?_ ?_
      · rw [kept]
        exact idle
      · unfold Ledger.Owes
        rw [kept, PinGuard.pins_append]
        change _ ::ₘ start.ledger.pins = _ + (start.ledger.loads.map Load.pins).sum
        rw [owed, Multiset.cons_add]
      · rw [Nat.add_mod_right, aligned]

theorem pinRange_watched {addr : VirtualAddress} {length : Nat} (loads : watch.Loads scope others)
    (idle : start.ledger.loads = []) (present : space < scope.spaces) (balanced : start.ledger.Balanced) :
    Watched watch scope start (pinRange others space addr length access).run := by
  unfold pinRange
  dsimp only
  split
  · exact .run_ret _
  · refine .run_look ?_
    split
    · exact .run_fail _
    · exact pinPages_watched loads idle present (balanced.owes space) addr.pageBase_mod

theorem copyToUser_watched {target : VirtualAddress} {bytes : Bytes} (loads : watch.Loads scope others)
    (idle : start.ledger.loads = []) (present : space < scope.spaces) (balanced : start.ledger.Balanced) :
    Watched watch scope start (copyToUser others space target bytes).run :=
  (pinRange_watched loads idle present balanced).run_ends fun _ =>
    .run_lift (writePieces_books _ _ _) fun _ => .run_last (dropGuard_books _)

theorem copyFromUser_watched {source : VirtualAddress} {length : Nat} (loads : watch.Loads scope others)
    (idle : start.ledger.loads = []) (present : space < scope.spaces) (balanced : start.ledger.Balanced) :
    Watched watch scope start (copyFromUser others space source length).run :=
  (pinRange_watched loads idle present balanced).run_ends fun _ =>
    .run_bind (readPieces_books _ _) fun _ => .run_lift (dropGuard_books _) fun _ => .run_ret _

theorem touch_watched {addr : VirtualAddress} {kind : Access} {faults tries : Nat}
    (loads : watch.Loads scope others) (idle : start.ledger.loads = []) (present : space < scope.spaces)
    (balanced : start.ledger.Balanced) (canonical : Canonical addr.value) :
    Watched watch scope start (touch others space addr kind faults tries) := by
  induction tries generalizing start faults with
  | zero => exact .ret _
  | succ tries ih =>
    have tame := loads.tame
    rw [← idle] at tame
    change Watched watch scope start (tryAccess space addr kind >>= _)
    refine (Watched.of_books (tryAccess_books _ _ _)).bind (tryAccess_follows canonical present)
      fun result now ⟨ledger, _⟩ => ?_
    cases result with
    | ok phys => exact .ret _
    | error fault =>
      rw [← ledger] at tame balanced idle
      refine .look ((handleFault_watched loads idle present balanced).bind
        (handleFault_follows tame present balanced) fun result next same => ?_)
      rw [← same] at balanced idle
      cases result with
      | error error => exact .ret _
      | ok => exact ih idle balanced

theorem afterTouch_watched {addr : Nat} {kind : Access} {proceed : PhysicalAddress → Nat → Kernel Reply}
    (loads : watch.Loads scope others) (idle : start.ledger.loads = []) (present : space < scope.spaces)
    (balanced : start.ledger.Balanced)
    (rest : ∀ phys faults, Preserves Machine.books (proceed phys faults)) :
    Watched watch scope start (afterTouch others space addr kind proceed) := by
  refine (Watched.of_books (virtual_books addr)).bind virtual_follows fun address now ⟨found, same⟩ => ?_
  subst same
  obtain ⟨canonical, rfl⟩ := found
  refine (touch_watched loads idle present balanced canonical).ends fun result => ?_
  cases result with
  | reached phys faults => exact rest phys faults
  | killed error => exact .ret _
  | stuck => exact .ret _

/-- What is answered to an action on behalf of a process. -/
theorem answer_watched {x : Faulting α} {reply : α → Kernel Reply} (action : Watched watch scope start x.run)
    (rest : ∀ a, Preserves Machine.books (reply a)) : Watched watch scope start (answer x reply) :=
  action.ends fun result => by
    cases result with
    | ok a => exact rest a
    | error error => exact .ret _

end Kernel

/-- The operations that neither load pages nor leave the books alone: by them callers obtain frames, have slots
given up, or use the swap store themselves. -/
def Op.books : Op → Bool
  | .disk _ | .swap _ | .release _ _ | .destroy _ | .allocate _ _ => true
  | _ => false

namespace Kernel
variable {watch : Watch} {scope : Scope} {start : Moment} {others : Interference}

/-- Every other operation is watched. -/
theorem perform_watched {op : Op} (loads : watch.Loads scope others) (idle : start.ledger.loads = [])
    (balanced : start.ledger.Balanced) (regular : op.Regular scope.spaces scope.files)
    (does : ∀ act, op.Does start.ledger.loads start.machine act → scope.may act)
    (other : op.books = false) : Watched watch scope start (perform others op) := by
  cases op with
  | disk | swap | release | destroy | allocate => cases other
  | registry space op =>
    exact .of_books (.look fun machine => .bind (.orStop (op.notExhausted_run _)) fun _ =>
      .bind (.modify fun _ => rfl) fun _ => .ret _)
  | directory space op =>
    exact .of_books (.look fun machine => .bind (.orStop (op.notExhausted_run _)) fun _ =>
      .bind (.modify fun _ => rfl) fun _ => .ret _)
  | createSpace share spec =>
    have created : ∀ directory, Preserves Machine.books (createSpace directory) := fun directory =>
      .look fun machine => (emit_books _).bind fun _ => .bind (.modify fun _ => rfl) fun _ => .ret _
    cases share with
    | some space =>
      refine .of_books (.look fun machine => ?_)
      exact (created _).bind (k := fun created => pure (Reply.number created.number)) fun _ => .ret _
    | none => exact .of_books (.bind (.modifyGet fun _ => rfl) fun _ => (created _).bind fun _ => .ret _)
  | openFile contents mode => exact .of_books (.look fun machine => .bind (.modify fun _ => rfl) fun _ => .ret _)
  | setFileMode file mode => exact .of_books (.bind (.modify fun _ => rfl) fun _ => .ret _)
  | fileReads file => exact .of_books (.look fun machine => .ret _)
  | registerZero space addr count writable =>
    exact .of_books ((virtual_books _).bind fun _ => (registerZero_books _ _ _ _ _ _).bind fun _ => .ret _)
  | registerSegment space file offset addr readBytes zeroBytes writable =>
    refine .of_books ((virtual_books _).bind fun _ =>
      (registerSegment_books _ _ _ _ _ _ _).bind fun result => ?_)
    cases result with
    | ok => exact .ret _
    | error error => exact .ret _
  | reserve space addr writable =>
    exact .of_books (.look fun machine => .bind (.orStop (RegistryOp.notExhausted_run _ _)) fun _ =>
      .bind (.modify fun _ => rfl) fun _ => .ret _)
  | fault space fault stackPointer =>
    refine .look (answer_watched (x := ExceptT.mk _) ?_ fun _ => .ret _)
    exact handleFault_watched loads idle regular balanced
  | touch space addr kind => exact afterTouch_watched loads idle regular balanced fun _ _ => .ret _
  | peek space addr =>
    exact afterTouch_watched loads idle regular balanced fun _ _ => (readFrame_books _).bind fun _ => .ret _
  | poke space addr byte =>
    exact afterTouch_watched loads idle regular balanced fun _ _ => (writeFrame_books _ _ _).bind fun _ => .ret _
  | copyTo space addr bytes =>
    refine (Watched.of_books (virtual_books addr)).bind virtual_follows fun _ now ⟨_, same⟩ => ?_
    subst same
    exact answer_watched (copyToUser_watched loads idle regular balanced) fun _ => .ret _
  | copyFrom space addr length =>
    refine (Watched.of_books (virtual_books addr)).bind virtual_follows fun _ now ⟨_, same⟩ => ?_
    subst same
    refine (Watched.of_books (.orStop (Word.notExhausted_room _ _))).bind .orStop fun _ now ⟨_, same⟩ => ?_
    subst same
    exact answer_watched (copyFromUser_watched loads idle regular balanced) fun _ => .ret _
  | pin space addr length kind =>
    refine (Watched.of_books (virtual_books addr)).bind virtual_follows fun _ now ⟨_, same⟩ => ?_
    subst same
    exact answer_watched (pinRange_watched loads idle regular balanced) fun _ =>
      .look fun machine => (modifyCallers_books _).bind fun _ => .ret _
  | unpin guard => exact .of_books ((unpinGuard_books _).bind fun _ => .ret _)
  | guardFrame guard addr =>
    refine .of_books ((virtual_books _).bind fun _ => .look fun machine => ?_)
    split
    · exact .ret _
    · exact .ret _
  | setupStack space =>
    refine answer_watched (setupStack_watched loads idle regular balanced fun addr found absent => ?_)
      fun _ => .ret _
    exact does _ (Op.Acts.does ⟨addr, found, absent, rfl⟩ rfl)
  | setStackPointer space stackPointer => exact .of_books (.bind (.modify fun _ => rfl) fun _ => .ret _)
  | free frame =>
    exact .of_books ((free_books _).bind fun _ => (modifyCallers_books _).bind fun _ => .ret _)
  | isPinned frame | owner frame =>
    exact .of_books ((poolIndex_books _).bind fun _ => .look fun machine => .ret _)
  | writeFrame frame bytes => exact .of_books ((writeFrame_books _ _ _).bind fun _ => .ret _)
  | readFrame frame length =>
    exact .of_books (.look fun machine => .bind (.orStop (machine.memory.notExhausted_readRun _ _)) fun _ =>
      .ret _)
  | noteSlot space addr =>
    refine .of_books ((virtual_books _).bind fun _ => .look fun machine => ?_)
    split
    · exact .look fun machine => (modifyCallers_books _).bind fun _ => .ret _
    · exact .ret _
  | config => exact .of_books (.look fun machine => .ret _)
  | beforeFileRead file script | beforeSectorRead script =>
    exact .of_books ((modifyCallers_books _).bind fun _ => .ret _)

end Kernel

end DemandPaging
