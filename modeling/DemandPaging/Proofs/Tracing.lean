import DemandPaging.Proofs.Mappings
import DemandPaging.Proofs.Running

/-! What computations of the kernel come to, as paths of moves. Two computations that differ in the
doings of other parties are followed side by side: as long as those do the same, so do the two, and
what comes after that is told apart. -/
namespace DemandPaging
open Architecture (Lawful)

variable [Architecture] [Lawful]

/-- The moves that a run may make, how many spaces and files there are at the least, whether page
directories are left to processes and the memory manager, and what else is known of each moment on the
way. -/
structure Scope where
  may : Act → Prop
  spaces : Nat
  files : Nat
  trusting : Prop
  quiet : may .quiet
  trusts : trusting → ¬may .meddle
  kept : Moment → Prop
  keeps : ∀ {act start stop}, may act → Move act start stop → kept start → kept stop
  /-- What comes after the place where other parties may do different things. -/
  after : Moment → Prop
  onward : ∀ {act start stop}, may act → Move act start stop → after start → after stop

/-- A moment at which a computation can begin. -/
structure Scope.Ready (scope : Scope) (now : Moment) : Prop extends Consistent now where
  known : scope.spaces ≤ now.machine.spaces.length
  opened : scope.files ≤ now.machine.files.length
  sectors : 0 < now.machine.swap.disk.sectorSize
  mapped : scope.trusting → Mapped now.machine
  kept : scope.kept now

omit [Lawful] in
theorem Machine.Saves.shape {machine : Machine} {space : SpaceId} {page : Page}
    {frame : FrameNumber} {state : PageState} {swap : SwapStore}
    (saves : machine.Saves space page frame state swap) : swap.shape = machine.swap.shape := by
  cases saves with
  | discard => rfl
  | @save bytes slot swap read written =>
    have kept := machine.swap.shape_write bytes
    rwa [written] at kept

omit [Lawful] in
theorem Machine.sizes_vacate (machine : Machine) (space : SpaceId) (page : Page) (registry : Registry) :
    machine.spaces.length ≤ ((machine.vacate space page).setRegistry space registry).spaces.length ∧
      machine.files.length ≤ ((machine.vacate space page).setRegistry space registry).files.length ∧
      ((machine.vacate space page).setRegistry space registry).swap.shape = machine.swap.shape := by
  refine ⟨Nat.le_of_eq ?_, Nat.le_of_eq (congrArg List.length (Machine.files_vacate ..)).symm, ?_⟩
  · rw [Machine.length_setRegistry, Machine.spaces_vacate]
  · change (machine.vacate space page).swap.shape = _
    unfold Machine.vacate
    split
    · rfl
    · exact SwapStore.shape_free _ _
    · rfl

theorem Move.sizes {act : Act} {start stop : Moment} (move : Move act start stop) :
    start.machine.spaces.length ≤ stop.machine.spaces.length ∧
      start.machine.files.length ≤ stop.machine.files.length ∧
      stop.machine.swap.shape = start.machine.swap.shape := by
  cases move with
  | idle idle => exact ⟨Nat.le_of_eq idle.spaces.symm, idle.fileCount, idle.shape⟩
  | scribble scribbled =>
    exact ⟨Nat.le_of_eq scribbled.spaces.symm, scribbled.fileCount, scribbled.shape⟩
  | tamper aside => exact ⟨Nat.le_of_eq aside.spaces.symm, aside.fileCount, aside.shape⟩
  | stray scribbled =>
    exact ⟨Nat.le_of_eq scribbled.spaces.symm, scribbled.fileCount, scribbled.shape⟩
  | register | grow | classify | pin =>
    exact ⟨Nat.le_of_eq (Machine.length_setRegistry _ _).symm, Nat.le_refl _, rfl⟩
  | drop taken | expel taken => exact Machine.sizes_vacate ..
  | evict found unpinned saves =>
    exact ⟨Nat.le_of_eq (Machine.length_setRegistry _ _).symm, Nat.le_refl _, saves.shape⟩
  | @attach flights pins machine load =>
    refine ⟨Nat.le_of_eq (Machine.length_setRegistry _ _).symm, Nat.le_refl _, ?_⟩
    unfold Machine.arrive
    dsimp only
    split
    · exact SwapStore.shape_free _ _
    · rfl
  | @unpin flights pins machine pin =>
    unfold Machine.unpin
    dsimp only
    split
    · split
      · exact ⟨Nat.le_refl _, Nat.le_refl _, rfl⟩
      · exact ⟨Nat.le_of_eq (Machine.length_setRegistry _ _).symm, Nat.le_refl _, rfl⟩
    · exact ⟨Nat.le_refl _, Nat.le_refl _, rfl⟩
  | create | share => exact ⟨by simp, Nat.le_refl _, rfl⟩
  | store owned written idle dirty =>
    exact ⟨Nat.le_of_eq idle.spaces.symm, idle.fileCount, idle.shape⟩
  | misfree | meddle | take | fill | abandon | handOut | takeBack | lend | recover | refuse =>
    exact ⟨Nat.le_refl _, Nat.le_refl _, rfl⟩

theorem Move.sectorSize {act : Act} {start stop : Moment} (move : Move act start stop) :
    stop.machine.swap.disk.sectorSize = start.machine.swap.disk.sectorSize :=
  congrArg Prod.fst move.sizes.2.2

theorem Move.log {act : Act} {start stop : Moment} (move : Move act start stop) :
    start.machine.log <:+ stop.machine.log := by
  have same : ∀ {log : List Event}, log = start.machine.log → start.machine.log <:+ log := by
    rintro log rfl
    exact List.suffix_refl _
  cases move with
  | idle idle => exact idle.log
  | scribble scribbled | stray scribbled => exact scribbled.log
  | tamper aside => exact aside.log
  | grow | misfree => exact List.suffix_cons _ _
  | drop | expel => exact same (Machine.log_vacate ..)
  | unpin => exact same (Machine.log_unpin ..)
  | store owned written idle dirty => exact idle.log
  | register | classify | evict | take | fill | attach | abandon | pin | handOut | takeBack | create
  | meddle | share | lend | recover | refuse => exact same rfl

theorem Path.log {may : Act → Prop} {start stop : Moment} (path : Path may start stop) :
    start.machine.log <:+ stop.machine.log :=
  path.keeps (fun now => start.machine.log <:+ now.machine.log) (List.suffix_refl _)
    fun _ move known => known.trans move.log

/-- A page that is added to a stack shows in the log. -/
theorem Move.log_grow {act : Act} {start stop : Moment} {loads : List Load} {space : SpaceId}
    {addr : VirtualAddress} (move : Move act start stop) (grows : act = .grow loads space addr) :
    stop.machine.log = .stackGrown space addr :: start.machine.log := by
  cases move <;> cases grows
  rfl

theorem Path.sectorSize {may : Act → Prop} {start stop : Moment} (path : Path may start stop) :
    stop.machine.swap.disk.sectorSize = start.machine.swap.disk.sectorSize :=
  path.keeps (fun now => now.machine.swap.disk.sectorSize = _) rfl fun _ move same =>
    move.sectorSize.trans same

theorem Scope.Ready.path {scope : Scope} {start stop : Moment} (ready : scope.Ready start)
    (path : Path scope.may start stop) : scope.Ready stop := by
  refine path.keeps scope.Ready ready fun {act _ _} allowed move ready => ?_
  obtain ⟨spaces, files, _⟩ := move.sizes
  have mapped : scope.trusting → Mapped _ := fun trusting =>
    (ready.mapped trusting).move move ready.toConsistent fun meddles =>
      scope.trusts trusting (meddles ▸ allowed)
  exact ⟨ready.toConsistent.move move, Nat.le_trans ready.known spaces, Nat.le_trans ready.opened files,
    Nat.lt_of_lt_of_eq ready.sectors move.sectorSize.symm, mapped, scope.keeps allowed move ready.kept⟩

/-- What every move of a consistent machine keeps, a path keeps. -/
theorem Consistent.along {may : Act → Prop} {claim : Moment → Prop} {start stop : Moment}
    (consistent : Consistent start) (path : Path may start stop)
    (sectors : 0 < start.machine.swap.disk.sectorSize)
    (each : ∀ {act before after}, may act → Move act before after → Consistent before →
      0 < before.machine.swap.disk.sectorSize → claim before → claim after)
    (holds : claim start) : claim stop := by
  have kept := path.keeps
    (fun now => Consistent now ∧ 0 < now.machine.swap.disk.sectorSize ∧ claim now)
    ⟨consistent, sectors, holds⟩ fun allowed move ⟨consistent, sectors, holds⟩ =>
      ⟨consistent.move move, Nat.lt_of_lt_of_eq sectors move.sectorSize.symm,
        each allowed move consistent sectors holds⟩
  exact kept.2.2

theorem Scope.idles (scope : Scope) (ledger : Ledger) {machine after : Machine}
    (idle : machine.Idle after) : Path scope.may ⟨ledger, machine⟩ ⟨ledger, after⟩ :=
  .of_move scope.quiet (.idle idle)

/-- A way that starts after the place where other parties may do different things. -/
theorem Scope.later (scope : Scope) {start stop : Moment} (path : Path scope.may start stop)
    (after : scope.after start) : scope.after stop :=
  path.keeps scope.after after scope.onward

def Scope.Ends (scope : Scope) (start : Moment) (claim : α → Moment → Prop) (a : α)
    (machine : Machine) : Prop :=
  ∃ ledger, Path scope.may start ⟨ledger, machine⟩ ∧ claim a ⟨ledger, machine⟩

theorem Scope.Ends.imp {scope : Scope} {start : Moment} {claim weaker : α → Moment → Prop} {a : α}
    {machine : Machine} (ends : scope.Ends start claim a machine)
    (weaken : ∀ now, claim a now → weaker a now) : scope.Ends start weaker a machine := by
  obtain ⟨ledger, path, holds⟩ := ends
  exact ⟨ledger, path, weaken _ holds⟩

theorem Scope.Ends.trans {scope : Scope} {start mid : Moment} {claim : α → Moment → Prop} {a : α}
    {machine : Machine} (path : Path scope.may start mid) (ends : scope.Ends mid claim a machine) :
    scope.Ends start claim a machine := by
  obtain ⟨ledger, further, holds⟩ := ends
  exact ⟨ledger, path.trans further, holds⟩

/-- Both computations run the same from `start`, or come past the place where other parties do
different things. Where they end well they have made moves, and `post` holds. -/
def Follows (scope : Scope) (start : Moment) (f g : Kernel α) (post : α → Moment → Prop) : Prop :=
  scope.Ready start → Kernel.Alike (∃ now, scope.after now) start.machine f g
    (scope.Ends start fun a now => scope.after now ∧ post a now) (scope.Ends start post)

namespace Follows
variable {scope : Scope} {start : Moment} {f g : Kernel α} {k l : α → Kernel β}
  {mid : α → Moment → Prop} {post : β → Moment → Prop}

theorem bind (first : Follows scope start f g mid)
    (rest : ∀ a now, mid a now → Follows scope now (k a) (l a) post) :
    Follows scope start (f >>= k) (g >>= l) post := by
  intro ready
  refine (first ready).bind (fun a machine ⟨ledger, path, done⟩ => ?_)
    fun a machine ⟨ledger, path, after, done⟩ b last ran => ?_
  · exact (rest a _ done (ready.path path)).imp (fun _ _ => .trans path) fun _ _ => .trans path
  · obtain ⟨ledger, further, ends⟩ := (rest a _ done (ready.path path)).2 b last ran
    exact ⟨ledger, path.trans further, scope.later further after, ends⟩

theorem imp {weaker : α → Moment → Prop} (follows : Follows scope start f g mid)
    (weaken : ∀ a now, mid a now → weaker a now) : Follows scope start f g weaker :=
  fun ready => (follows ready).imp
    (fun a _ ends => ends.imp fun now ⟨after, done⟩ => ⟨after, weaken a now done⟩)
    fun a _ ends => ends.imp (weaken a)

/-- Two steps that keep the ledger. -/
theorem step (ledger : Ledger) (first : Follows scope start f g fun _ now => now.ledger = ledger)
    (rest : ∀ a (now : Moment), now.ledger = ledger → Follows scope now (k a) (l a) post) :
    Follows scope start (f >>= k) (g >>= l) post :=
  first.bind rest

theorem of_ready (follows : scope.Ready start → Follows scope start f g mid) :
    Follows scope start f g mid :=
  fun ready => follows ready ready

theorem along (follows : Follows scope start f g mid) :
    Follows scope start f g fun a now => mid a now ∧ Path scope.may start now :=
  fun ready => (follows ready).imp
    (fun _ _ ⟨ledger, path, after, done⟩ => ⟨ledger, path, after, done, path⟩)
    fun _ _ ⟨ledger, path, done⟩ => ⟨ledger, path, done, path⟩

/-- A computation that nobody can interfere with is followed by itself. -/
theorem of_ok (moves : scope.Ready start → ∀ a machine, f start.machine = .ok a machine →
      ∃ ledger, Path scope.may start ⟨ledger, machine⟩ ∧ mid a ⟨ledger, machine⟩) :
    Follows scope start f f mid :=
  fun ready => .of_ok (moves ready)

theorem ret {a : α} (done : mid a start) :
    Follows scope start (pure a) (pure a) mid :=
  of_ok fun _ _ _ ended => by
    obtain ⟨rfl, rfl⟩ := Kernel.pure_ok.1 ended
    exact ⟨start.ledger, .refl start, done⟩

theorem stop {cause : Fatal} :
    Follows scope start (throw cause : Kernel α) (throw cause) mid :=
  of_ok fun _ _ _ ended => (Kernel.throw_ok.1 ended).elim

theorem look {k l : Machine → Kernel β}
    (rest : Follows scope start (k start.machine) (l start.machine) post) :
    Follows scope start (get >>= k) (get >>= l) post :=
  rest

theorem orStop {outcome : Except Fatal α} :
    Follows scope start (Kernel.orStop outcome) (Kernel.orStop outcome)
      fun a now => outcome = .ok a ∧ start = now :=
  of_ok fun _ _ _ ended => by
    obtain ⟨same, rfl⟩ := Kernel.orStop_ok.1 ended
    exact ⟨start.ledger, .refl start, same, rfl⟩

theorem move {change : Machine → Machine} {act : Act} (ledger : Ledger) (allowed : scope.may act)
    (move : scope.Ready start → Move act start ⟨ledger, change start.machine⟩) :
    Follows scope start (modify change : Kernel Unit) (modify change)
      fun _ now => now = ⟨ledger, change start.machine⟩ :=
  of_ok fun ready _ _ ended => by
    cases Kernel.modify_ok.1 ended
    exact ⟨ledger, .of_move allowed (move ready), rfl⟩

theorem idle {change : Machine → Machine} (idle : start.machine.Idle (change start.machine)) :
    Follows scope start (modify change : Kernel Unit) (modify change)
      fun _ now => now = ⟨start.ledger, change start.machine⟩ :=
  move start.ledger scope.quiet fun _ => .idle idle

end Follows

/-! Computations on behalf of a process, which may fail. -/

namespace Follows
variable {scope : Scope} {start : Moment} {c d : Kernel α} {x y : Faulting α}
  {h i : α → Faulting β} {mid : α → Moment → Prop} {post : Except FaultError β → Moment → Prop}

theorem run_bind {done : Except FaultError α → Moment → Prop}
    (first : Follows scope start x.run y.run done)
    (failed : ∀ error now, done (.error error) now → post (.error error) now)
    (rest : ∀ a now, done (.ok a) now → Follows scope now (h a).run (i a).run post) :
    Follows scope start (x >>= h).run (y >>= i).run post := by
  rw [ExceptT.run_bind, ExceptT.run_bind]
  refine first.bind fun outcome now ends => ?_
  cases outcome with
  | ok a => exact rest a now ends
  | error error => exact .ret (failed error now ends)

theorem run_lift (first : Follows scope start c d mid)
    (rest : ∀ a now, mid a now → Follows scope now (h a).run (i a).run post) :
    Follows scope start (ExceptT.lift c >>= h).run (ExceptT.lift d >>= i).run post := by
  rw [ExceptT.run_bind_lift, ExceptT.run_bind_lift]
  exact first.bind rest

theorem run_last {post : Except FaultError α → Moment → Prop} (first : Follows scope start c d mid)
    (rest : ∀ a now, mid a now → post (.ok a) now) :
    Follows scope start (ExceptT.lift c).run (ExceptT.lift d).run post := by
  rw [ExceptT.run_lift, ExceptT.run_lift, ← bind_pure_comp, ← bind_pure_comp]
  exact first.bind fun a now done => .ret (rest a now done)

theorem run_fail {error : FaultError} (done : post (.error error) start) :
    Follows scope start ((throw error : Faulting α) >>= h).run ((throw error : Faulting α) >>= i).run
      post :=
  ret done

theorem run_look {h i : Machine → Faulting β}
    (rest : Follows scope start (h start.machine).run (i start.machine).run post) :
    Follows scope start ((get : Faulting Machine) >>= h).run ((get : Faulting Machine) >>= i).run
      post :=
  rest

end Follows

end DemandPaging
