import DemandPaging.Proofs.Resolutions

/-! Races that loads lose. A load can tell at its end that its page has changed only if the page changed in
a turn of other parties, while the load was waiting for a file or a sector. -/
namespace DemandPaging
open Architecture (Lawful)

variable [Architecture]

/-- In a turn of other parties the page of a load is attached, detached or unregistered: it is stale when
they have had their turn, and was not before. -/
def Interference.Upsets (others : Interference) (load : Load) (hook : Hook) (point : Machine) : Prop :=
  (point.registry load.space).isStale load.page = false ∧
    ∃ resumed, others.turn hook point = .ok () resumed ∧
      (resumed.registry load.space).isStale load.page = true

/-- Parties that do the same wherever the page of a load is left alone. -/
def Interference.Mimics (variant others : Interference) (load : Load) : Prop :=
  ∀ hook point, ¬others.Upsets load hook point → variant.turn hook point = others.turn hook point

/-- Other parties can be stopped at any one place. -/
theorem Interference.exists_stopping (others : Interference) (hook : Hook) (point : Machine) :
    ∃ variant : Interference, variant.patience = others.patience ∧
      (∀ other place, ¬(other = hook ∧ place = point) →
        variant.turn other place = others.turn other place) ∧
      variant.turn hook point = .error .stalled point := by
  classical
  let turn (other : Hook) : Kernel Unit := fun place =>
    if other = hook ∧ place = point then .error .stalled place else others.turn other place
  refine ⟨⟨fun load file => turn (.file load file), fun load => turn (.sector load), others.patience⟩,
    rfl, fun other place elsewhere => ?_, ?_⟩
  · cases other with
    | file => exact if_neg elsewhere
    | sector => exact if_neg elsewhere
  · cases hook with
    | file => exact if_pos ⟨rfl, rfl⟩
    | sector => exact if_pos ⟨rfl, rfl⟩

namespace Kernel
variable {load : Load}

/-- A computation comes to a turn in which the page of a load is upset: if other parties stop the kernel
there, it stops. -/
def Halts (load : Load) (action : Interference → Kernel α) (others : Interference) (start : Machine) : Prop :=
  ∃ hook point, others.Upsets load hook point ∧
    ∀ variant : Interference, variant.Mimics others load → ∀ cause stopped,
      variant.turn hook point = .error cause stopped → action variant start = .error cause stopped

/-- Unless a computation comes to such a turn, the page is left alone all along. -/
def Heeds (load : Load) (action : Interference → Kernel α) : Prop :=
  ∀ (others : Interference) (start next : Machine) (a : α),
    (start.registry load.space).isStale load.page = false → action others start = .ok a next →
    ((next.registry load.space).isStale load.page = false ∧
      ∀ variant : Interference, variant.Mimics others load → action variant start = .ok a next) ∨
    Halts load action others start

theorem bind_of_error {f : Kernel α} {k : α → Kernel β} {start stopped : Machine} {cause : Fatal}
    (ran : f start = .error cause stopped) : (f >>= k) start = .error cause stopped := by
  change EStateM.bind f k start = _
  unfold EStateM.bind
  rw [ran]

section
variable {f : Interference → Kernel α} {k : Interference → α → Kernel β} {others : Interference}
  {start mid : Machine}

theorem Halts.first (halts : Halts load f others start) :
    Halts load (fun others => f others >>= k others) others start := by
  obtain ⟨hook, point, upsets, stops⟩ := halts
  exact ⟨hook, point, upsets, fun _ mimics _ _ stopped => bind_of_error (stops _ mimics _ _ stopped)⟩

theorem Halts.later {a : α} (same : ∀ variant : Interference, variant.Mimics others load →
      f variant start = .ok a mid) (halts : Halts load (k · a) others mid) :
    Halts load (fun others => f others >>= k others) others start := by
  obtain ⟨hook, point, upsets, stops⟩ := halts
  exact ⟨hook, point, upsets, fun variant mimics _ _ stopped =>
    (bind_of_ok (same variant mimics)).trans (stops variant mimics _ _ stopped)⟩

theorem Halts.run_later {x : Faulting α} {k : Interference → α → Faulting β} {a : α}
    (ran : x.run start = .ok (.ok a) mid) (halts : Halts load (fun others => (k others a).run) others mid) :
    Halts load (fun others => (x >>= k others).run) others start := by
  obtain ⟨hook, point, upsets, stops⟩ := halts
  refine ⟨hook, point, upsets, fun variant mimics _ _ stopped => ?_⟩
  change (x >>= k variant).run start = _
  rw [ExceptT.run_bind, bind_of_ok ran]
  exact stops variant mimics _ _ stopped

/-- A computation that ends gives other parties their turn where it would halt. -/
theorem Halts.reenters {a : α} {next : Machine} (halts : Halts load f others start)
    (ran : f others start = .ok a next) :
    ∃ hook point, others.Upsets load hook point ∧ Reenters f others start hook point := by
  obtain ⟨hook, point, upsets, stops⟩ := halts
  obtain ⟨variant, patience, elsewhere, stopped⟩ := others.exists_stopping hook point
  have mimics : variant.Mimics others load := by
    intro other place unchanged
    refine elsewhere other place ?_
    rintro ⟨rfl, rfl⟩
    exact unchanged upsets
  refine ⟨hook, point, upsets, variant, patience, elsewhere, ?_⟩
  rw [stops variant mimics _ _ stopped, ran]
  nofun

theorem Heeds.bind (first : Heeds load f) (rest : ∀ a, Heeds load (k · a)) :
    Heeds load fun others => f others >>= k others := by
  intro others start next b fresh ran
  obtain ⟨a, mid, ran, rest_ran⟩ := bind_ok.1 ran
  rcases first _ _ _ _ fresh ran with ⟨fresh, same⟩ | halts
  · rcases rest a _ _ _ _ fresh rest_ran with ⟨fresh, onward⟩ | halts
    · exact .inl ⟨fresh, fun variant mimics =>
        (bind_of_ok (same variant mimics)).trans (onward variant mimics)⟩
    · exact .inr (.later same halts)
  · exact .inr halts.first

theorem Heeds.run_lift {k : Interference → α → Faulting β} (first : Heeds load f)
    (rest : ∀ a, Heeds load fun others => (k others a).run) :
    Heeds load fun others => ((liftM (f others) : Faulting α) >>= k others).run := by
  have steps : (fun others => ((liftM (f others) : Faulting α) >>= k others).run) =
      fun others => f others >>= fun a => (k others a).run :=
    funext fun others => ExceptT.run_bind_lift (f others) (k others)
  rw [steps]
  exact first.bind rest

/-- What other parties have no part in, and what leaves the registered pages. -/
theorem Heeds.still {f : Kernel α}
    (keeps : ∀ {start a next}, f start = .ok a next → next.spaces = start.spaces) :
    Heeds load fun _ => f := by
  intro others start next a fresh ran
  refine .inl ⟨?_, fun _ _ => ran⟩
  rw [Machine.registry, Machine.space, keeps ran]
  exact fresh

theorem Heeds.turn (hook : Hook) : Heeds load (·.turn hook) := by
  intro others start next a fresh ran
  by_cases upsets : others.Upsets load hook start
  · exact .inr ⟨hook, start, upsets, fun _ _ _ _ stopped => stopped⟩
  · refine .inl ⟨eq_false_of_ne_true fun stale => upsets ⟨fresh, next, ran, stale⟩, fun _ mimics => ?_⟩
    exact (mimics hook start upsets).trans ran

theorem Heeds.ret (a : α) : Heeds load fun _ => (pure a : Kernel α) :=
  .still fun ran => by rw [(pure_ok.1 ran).2]

theorem Heeds.run_last (last : Heeds load f) :
    Heeds load fun others => (liftM (f others) : Faulting α).run :=
  last.bind fun _ => .ret _

theorem Heeds.look : Heeds load fun _ => (get : Kernel Machine) :=
  .still fun ran => by rw [(get_ok.1 ran).2]

theorem Heeds.step {change : Machine → Machine} (keeps : ∀ machine, (change machine).spaces = machine.spaces) :
    Heeds load fun _ => (modify change : Kernel Unit) :=
  .still fun ran => by rw [modify_ok.1 ran, keeps]

end

theorem modifyStats_heeds (change : Stats → Stats) : Heeds load fun _ => modifyStats change :=
  .step fun _ => rfl

theorem writeFrame_heeds (frame : FrameNumber) (offset : Nat) (bytes : Bytes) :
    Heeds load fun _ => writeFrame frame offset bytes :=
  .still fun ran => by
    obtain ⟨_, _, rfl⟩ := writeFrame_ok.1 ran
    rfl

theorem readSector_heeds (source : Option Load) (sector length : Nat) :
    Heeds load fun others => readSector others source sector length :=
  .bind (.turn (.sector source)) fun _ => .still fun ran => by rw [(modifyGet_ok.1 ran).2]

theorem loadChunk_heeds (source : Load) (chunk : Chunk) :
    Heeds load fun others => loadChunk others source chunk := by
  refine .bind (readSector_heeds _ _ _) fun result => ?_
  cases result with
  | error error => exact .ret _
  | ok bytes => exact .bind (writeFrame_heeds _ _ _) fun _ => .ret _

theorem loadChunks_heed (source : Load) (chunks : List Chunk) :
    Heeds load fun others => transferChunks (loadChunk others source) chunks := by
  induction chunks with
  | nil => exact .ret _
  | cons chunk rest ih =>
    refine .bind (loadChunk_heeds source chunk) fun result => ?_
    cases result with
    | error error => exact .ret _
    | ok => exact ih

theorem readSlot_heeds (source : Load) (slot : SwapSlot) :
    Heeds load fun others =>
      (readSlot others (some source) slot pageSize (writeFrame source.frame) : Kernel _) := by
  refine .bind .look fun machine => ?_
  dsimp only
  cases machine.swap.readable slot pageSize with
  | error error => exact .ret _
  | ok =>
    refine .bind (loadChunks_heed source (machine.swap.layout slot)) fun result => ?_
    cases result with
    | error error => exact .ret _
    | ok => exact .ret _

theorem fillFromFile_heeds (source : Load) (segment : FileSegment) :
    Heeds load fun others => (fillFromFile others source segment).run := by
  have zeros : Heeds load fun _ => (ExceptT.lift (writeFrame source.frame segment.readBytes
      (List.replicate segment.zeroBytes 0)) : Faulting Unit).run :=
    .run_last (writeFrame_heeds _ _ _)
  by_cases some : 0 < segment.readBytes
  · simp only [fillFromFile, if_pos some]
    refine .run_lift (.turn (.file source segment.file)) fun _ => .run_lift .look fun machine => ?_
    generalize (machine.file segment.file).readAt segment.offset segment.readBytes = read
    obtain ⟨result, file⟩ := read
    refine .run_lift (.step fun _ => rfl) fun _ => ?_
    cases result with
    | error error => exact .ret _
    | ok bytes =>
      refine .run_lift (writeFrame_heeds _ _ _) fun _ => ?_
      by_cases short : bytes.length ≠ segment.readBytes
      · simp only [if_pos short]
        exact .ret _
      · simp only [if_neg short]
        exact .run_lift (modifyStats_heeds _) fun _ => zeros
  · simp only [fillFromFile, if_neg some]
    exact zeros

theorem populate_heeds (source : Load) : Heeds load fun others => (populate others source).run := by
  refine .run_lift (.still fun ran => by rw [(readFrame_ok.1 ran).2]) fun _ => ?_
  cases source.page.state with
  | swapped slot =>
    refine .run_lift (readSlot_heeds source slot) fun result => ?_
    cases result with
    | error error => exact .ret _
    | ok => exact .run_last (modifyStats_heeds _)
  | unloaded | resident =>
    cases source.page.backing with
    | unclassified => exact .ret _
    | zero => exact .run_last (writeFrame_heeds _ _ _)
    | file segment => exact fillFromFile_heeds source segment

/-! Only a load can tell that it has lost, and it can tell because other parties had their turn. -/

variable [Lawful] {scope : Scope} {start : Moment} {others : Interference} {space : SpaceId} {page : Page}
  {access : Access} {pin : Bool} {pinned : List (VirtualAddress × FrameNumber)} {next : Machine}

theorem load_lost (tame : Tame scope start.ledger.loads others others) (ready : scope.Ready start)
    (present : space < scope.spaces) (owed : start.ledger.Owes ⟨space, pinned⟩)
    (found : (start.machine.registry space).pages.get? page.addr = some page)
    (away : page.isResident = false)
    (ran : (Kernel.load others space page pin pinned).run start.machine = .ok (.ok none) next) :
    ∃ frame, Halts ⟨space, page, frame, pinned⟩
      (fun others => (Kernel.load others space page pin pinned).run) others start.machine := by
  have backed : page.backing ≠ .unclassified := by
    intro bare
    rw [load_eq] at ran
    dsimp only at ran
    rw [if_pos bare] at ran
    cases (run_throw_ok.1 ran).1
  have eased : (fun others => (Kernel.load others space page pin pinned).run) = fun others =>
      allocate space false >>= fun frame => (populate others ⟨space, page, frame, pinned⟩).run >>=
        fun outcome => (conclude ⟨space, page, frame, pinned⟩ pin outcome).run := by
    funext others
    rw [load_eq]
    dsimp only
    rw [if_neg backed]
    exact (ExceptT.run_bind_lift _ _).trans
      (congrArg (_ >>= ·) (funext fun frame => ExceptT.run_bind_lift _ _))
  obtain ⟨frame, taken, outcome, mid, run⟩ := (loadRun_iff backed).1 ran
  refine ⟨frame, ?_⟩
  rw [eased]
  -- The frame is obtained, and the page is still what it was.
  obtain ⟨last, path, _, stays⟩ :=
    (allocate_follows present found away backed pinned ready).2 _ _ run.allocated
  have current : (taken.registry space).pages.get? page.addr = some page := stays found away
  have fresh : (taken.registry space).isStale page = false := by
    have there : (taken.registry space).current? page = some page :=
      Option.filter_eq_some_iff.2 ⟨current, beq_self_eq_true _⟩
    rw [Registry.isStale, there]
    rfl
  refine .later (fun _ _ => run.allocated) ?_
  have heeds : Heeds ⟨space, page, frame, pinned⟩ fun others =>
      (populate others ⟨space, page, frame, pinned⟩).run := populate_heeds _
  rcases heeds _ _ _ _ fresh run.read with ⟨kept, _⟩ | halts
  · obtain ⟨_, _, _, settles⟩ := run.settles ready tame.toMannered present owed found away
    cases settles with
    | lost stale =>
      rw [kept] at stale
      cases stale
  · exact halts.first

omit [Lawful] in
/-- A page that is in no frame is loaded, if the access is permitted. -/
theorem bring_away (permitted : ¬(access = .write ∧ (!page.writable) = true)) (away : page.isResident = false)
    (others : Interference) :
    bring others space access pin pinned page = Kernel.load others space page pin pinned := by
  rw [bring, if_neg permitted]
  cases state : page.state with
  | resident frame => simp [Page.isResident, Page.frame?, state] at away
  | unloaded => rfl
  | swapped slot => rfl

theorem bring_lost (tame : Tame scope start.ledger.loads others others) (ready : scope.Ready start)
    (present : space < scope.spaces) (owed : start.ledger.Owes ⟨space, pinned⟩)
    (found : (start.machine.registry space).pages.get? page.addr = some page)
    (ran : (bring others space access pin pinned page).run start.machine = .ok (.ok none) next) :
    ∃ load : Load, load.space = space ∧ load.page.addr = page.addr ∧
      Halts load (fun others => (bring others space access pin pinned page).run) others start.machine := by
  by_cases denied : access = .write ∧ (!page.writable) = true
  · simp only [bring, if_pos denied] at ran
    cases (run_throw_ok.1 ran).1
  cases away : page.isResident with
  | false =>
    rw [bring_away denied away] at ran
    simp only [bring_away denied away]
    obtain ⟨frame, halts⟩ := load_lost tame ready present owed found away ran
    exact ⟨_, rfl, rfl, halts⟩
  | true =>
    obtain ⟨frame, state⟩ := Page.isResident_iff.1 away
    simp only [bring, if_neg denied, state] at ran
    cases pin with
    | false => cases (run_pure_ok.1 ran).1
    | true =>
      have finds : Outcome start.machine (pinResident space page.addr) _ AnyStop :=
        pinResident_finds found state
      obtain ⟨_, _, pinned, ended⟩ := bind_ok.1 ran
      cases (pure_ok.1 ended).1
      exact absurd rfl (finds.of_ok pinned)

theorem bringAt_lost {addr : VirtualAddress} (tame : Tame scope start.ledger.loads others others)
    (ready : scope.Ready start) (present : space < scope.spaces)
    (owed : start.ledger.Owes ⟨space, pinned⟩)
    (ran : (bringAt others space access pin pinned addr).run start.machine = .ok (.ok none) next) :
    ∃ load : Load, load.space = space ∧ load.page.addr = addr.pageBase ∧
      Halts load (fun others => (bringAt others space access pin pinned addr).run) others
        start.machine := by
  have looked : (get : Faulting Machine).run start.machine = .ok (.ok start.machine) start.machine := rfl
  obtain ⟨_, _, look, ran⟩ := run_bind_ok.1 ran
  cases looked.symm.trans look
  cases found : (start.machine.registry space).lookup addr with
  | some page =>
    simp only [found] at ran
    have keyed := (ready.sound space).keyed found
    obtain ⟨load, here, there, halts⟩ := bring_lost tame ready present owed (by rw [keyed]; exact found) ran
    refine ⟨load, here, there.trans keyed, .run_later looked ?_⟩
    simp only [found]
    exact halts
  | none =>
    simp only [found] at ran
    obtain ⟨page, mid, grew, ran⟩ := run_bind_ok.1 ran
    have follows : Follows scope start (growStack space addr).run (growStack space addr).run _ :=
      growStack_follows (tame.grow space) present
    obtain ⟨ledger, path, same, grown⟩ := (follows ready).2 _ _ grew
    obtain ⟨registered, keyed, _⟩ := grown page rfl
    have same : ledger = start.ledger := same
    subst same
    obtain ⟨load, here, there, halts⟩ := @bring_lost _ _ _ ⟨start.ledger, mid⟩ _ _ _ _ _ _ _ tame
      (ready.path path) present owed registered ran
    refine ⟨load, here, there.trans keyed, .run_later looked ?_⟩
    simp only [found]
    exact .run_later grew halts

/-- A race is lost only if the page was upset in a turn of other parties. -/
theorem resolve_lost {address : Nat} (tame : Tame scope start.ledger.loads others others)
    (ready : scope.Ready start) (present : space < scope.spaces)
    (owed : start.ledger.Owes ⟨space, pinned⟩)
    (ran : (resolve others space address access pin pinned).run start.machine = .ok (.ok none) next) :
    ∃ load : Load, load.space = space ∧ load.page.addr = (VirtualAddress.mk address).pageBase ∧
      Halts load (fun others => (resolve others space address access pin pinned).run) others
        start.machine := by
  simp only [resolve_eq] at ran ⊢
  obtain ⟨addr, mid, asked, ran⟩ := run_bind_ok.1 ran
  have user : Outcome start.machine (userAddress address).run _ AnyStop := userAddress_answers
  obtain ⟨same, known⟩ := user.of_ok asked
  subst same
  split at known
  · rename_i found
    cases known
    obtain rfl := VirtualAddress.eq_of_ofWord? (Option.filter_eq_some_iff.1 found).1
    obtain ⟨load, here, there, halts⟩ := bringAt_lost tame ready present owed ran
    exact ⟨load, here, there, .run_later asked halts⟩
  · cases known

end Kernel

/-! What upsets a page is done by operations of the other parties. -/

/-- The page at an address is attached, detached or unregistered. -/
inductive Upheaval (space : SpaceId) (addr : VirtualAddress) (before after : Machine) : Prop
  | attached {page : Page} (frame : FrameNumber) (pinned : Bool)
      (found : (before.registry space).pages.get? addr = some page) (away : page.isResident = false)
      (now : (after.registry space).pages.get? addr = some { page with
        state := .resident frame, pinned, generation := page.generation + 1 })
  | detached {page : Page} {frame : FrameNumber} {state : PageState}
      (found : (before.registry space).pages.get? addr = some page)
      (resident : page.state = .resident frame) (away : ∀ other, state ≠ .resident other)
      (now : (after.registry space).pages.get? addr = some { page with
        state, pinned := false, generation := page.generation + 1 })
  | unregistered {page : Page} (found : (before.registry space).pages.get? addr = some page)
      (gone : (after.registry space).pages.get? addr = none)

omit [Architecture] in
theorem Registry.fresh_iff {registry : Registry} {snapshot : Page} : registry.isStale snapshot = false ↔
    ∃ page, registry.pages.get? snapshot.addr = some page ∧ page.generation = snapshot.generation := by
  rw [isStale, Option.isNone_eq_false_iff, Option.isSome_iff_exists]
  simp only [current?, Option.filter_eq_some_iff, beq_iff_eq]

variable [Lawful]

theorem Move.upheaval {act : Act} {start stop : Moment} {space : SpaceId} {snapshot : Page}
    (move : Move act start stop) (consistent : Consistent start)
    (fresh : (start.machine.registry space).isStale snapshot = false)
    (stale : (stop.machine.registry space).isStale snapshot = true) :
    Upheaval space snapshot.addr start.machine stop.machine := by
  obtain ⟨page, found, same⟩ := Registry.fresh_iff.1 fresh
  have changed := Registry.isStale_iff.1 stale
  have becomes := move.becomes consistent space snapshot.addr
  rw [found] at becomes
  generalize now : (stop.machine.registry space).pages.get? snapshot.addr = next at becomes
  cases becomes with
  | gone => exact .unregistered found now
  | turns turns =>
    have differs := changed _ now
    cases turns with
    | stays => exact absurd same differs
    | classified => exact absurd same differs
    | marked => exact absurd same differs
    | leaves resident unpinned saves =>
      refine .detached found resident (fun other same => ?_) now
      subst same
      cases saves
    | @arrives load flights pinned latest owner current =>
      have member : load ∈ start.ledger.loads := by
        rw [Ledger.loads, latest]
        exact .head _
      exact .attached load.frame pinned found (consistent.awaits member (owner ▸ current)) now

/-- If a page goes stale on the way, it does so in one of the moves. -/
theorem Path.upheaval {may : Act → Prop} {start stop : Moment} {space : SpaceId} {snapshot : Page}
    (path : Path may start stop) (consistent : Consistent start)
    (fresh : (start.machine.registry space).isStale snapshot = false)
    (stale : (stop.machine.registry space).isStale snapshot = true) :
    ∃ act before after, Path may start before ∧ Move act before after ∧ Path may after stop ∧
      Upheaval space snapshot.addr before.machine after.machine := by
  induction path with
  | refl =>
    rw [fresh] at stale
    cases stale
  | @next act start mid stop allowed move rest ih =>
    by_cases upset : (mid.machine.registry space).isStale snapshot = true
    · exact ⟨act, start, mid, .refl _, move, rest, move.upheaval consistent fresh upset⟩
    · obtain ⟨other, before, after, path, later, onward, upheaval⟩ :=
        ih (consistent.move move) (eq_false_of_ne_true upset) stale
      exact ⟨other, before, after, .next allowed move path, later, onward, upheaval⟩

/-- In a turn of other parties that leads from `point` to `resumed`, an operation of theirs attaches,
detaches or unregisters the page at an address. -/
inductive Spoils (rule : Rule) (ledger : Ledger) (space : SpaceId) (addr : VirtualAddress)
    (point resumed : Machine) : Prop
  | intro {op : Op} {parties : Interference} {reply : Reply} {before after : Machine} {act : Act}
      {now next : Moment} (since : Path (rule.Lets ledger.loads) ⟨ledger, point⟩ ⟨ledger, before⟩)
      (allowed : rule ledger.loads before op after)
      (ran : Kernel.perform parties op before = .ok reply after)
      (begun : Path (rule.Lets ledger.loads) ⟨ledger, before⟩ now) (move : Move act now next)
      (upheaval : Upheaval space addr now.machine next.machine)
      (ended : Path (rule.Lets ledger.loads) next ⟨ledger, after⟩)
      (rest : Path (rule.Lets ledger.loads) ⟨ledger, after⟩ ⟨ledger, resumed⟩)

theorem Spoils.after {rule : Rule} {ledger : Ledger} {space : SpaceId} {addr : VirtualAddress}
    {first point resumed : Machine} (path : Path (rule.Lets ledger.loads) ⟨ledger, first⟩ ⟨ledger, point⟩)
    (spoils : Spoils rule ledger space addr point resumed) :
    Spoils rule ledger space addr first resumed := by
  obtain ⟨since, allowed, ran, begun, move, upheaval, ended, rest⟩ := spoils
  exact ⟨path.trans since, allowed, ran, begun, move, upheaval, ended, rest⟩

/-- If a page goes stale in an errand, one of its operations spoils it. -/
theorem Errand.spoils {rule : Rule} {loads : List Load} {machine : Machine}
    {result : EStateM.Result Fatal Machine Unit} (errand : Errand rule loads machine result)
    (sensible : rule.Sensible) {ledger : Ledger} (under : ledger.loads = loads)
    (between : BetweenOperations rule ⟨ledger, machine⟩) {resumed : Machine} (ended : result = .ok () resumed)
    {space : SpaceId} {snapshot : Page} (fresh : (machine.registry space).isStale snapshot = false)
    (stale : (resumed.registry space).isStale snapshot = true) :
    Spoils rule ledger space snapshot.addr machine resumed := by
  induction errand with
  | done =>
    cases ended
    rw [fresh] at stale
    cases stale
  | @op loads machine op others reply mid result allowed turns ran rest turns_ih rest_ih =>
    subst under
    have moves : others.Moves rule ⟨ledger, machine⟩ := fun hook now after within between under ended => by
      rw [under]
      exact (turns hook _ within).moves sensible under between ended
    have path := moves.perform sensible between allowed ran
    have there : BetweenOperations rule ⟨ledger, mid⟩ := between.path path
    by_cases upset : (mid.registry space).isStale snapshot = true
    · obtain ⟨act, now, next, begun, move, done, upheaval⟩ :=
        path.upheaval between.toConsistent fresh upset
      exact ⟨.refl _, allowed, ran, begun, move, upheaval, done, rest.moves sensible rfl there ended⟩
    · exact (rest_ih rfl there ended (eq_false_of_ne_true upset)).after path
  | stop => cases ended
  | @note loads machine result callers guards frames rest ih =>
    have path : Path (rule.Lets loads) ⟨ledger, machine⟩ ⟨ledger, { machine with callers }⟩ :=
      .of_move .quiet (.idle (machine.idle_callers guards frames))
    subst under
    exact (ih rfl (between.path path) ended fresh).after path

end DemandPaging
