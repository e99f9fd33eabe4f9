import DemandPaging.Proofs.Operations

/-! Other parties that run whole operations of the memory manager while a load waits. Where such an
operation is interrupted in turn, it is interrupted by operations again. What they do is a run of
moves that leaves the loads under way as they are. -/
namespace DemandPaging
open Architecture (Lawful)

/-- Where a computation gives other parties their turn. -/
inductive Hook where
  /-- A file is about to be read. -/
  | file (load : Load) (file : FileId)
  /-- A sector is about to be read, for a load or for a caller. -/
  | sector (load : Option Load)

def Hook.load? : Hook → Option Load
  | .file load _ => some load
  | .sector load => load

variable [Architecture]

def Interference.turn (others : Interference) : Hook → Kernel Unit
  | .file load file => others.beforeFileRead load file
  | .sector load => others.beforeSectorRead load

def Machine.Within (machine after : Machine) : Prop :=
  machine.spaces.length ≤ after.spaces.length ∧ machine.files.length ≤ after.files.length

/-- What may be done: an operation at a machine where `loads` are under way, that leads to another
machine. -/
abbrev Rule := List Load → Machine → Op → Machine → Prop

/-- Doings that come to a row of complete operations: how they end when they start at a machine where
`loads` are under way. An operation that is interrupted is so by more of the same. -/
inductive Errand (rule : Rule) : List Load → Machine → EStateM.Result Fatal Machine Unit → Prop
  | done (loads machine) : Errand rule loads machine (.ok () machine)
  | op {loads machine op others reply mid result} (allowed : rule loads machine op mid)
      (turns : ∀ hook point, machine.Within point → Errand rule (hook.load?.toList ++ loads) point
        (Interference.turn others hook point))
      (ran : Kernel.perform others op machine = .ok reply mid)
      (rest : Errand rule loads mid result) : Errand rule loads machine result
  | stop {loads machine op others cause mid} (allowed : rule loads machine op mid)
      (ran : Kernel.perform others op machine = .error cause mid) :
      Errand rule loads machine (.error cause mid)
  /-- Callers change what they keep to themselves, their guards and frames apart. -/
  | note {loads machine result} {callers : Callers} (guards : callers.guards = machine.callers.guards)
      (frames : callers.frames = machine.callers.frames)
      (rest : Errand rule loads { machine with callers } result) : Errand rule loads machine result

/-- Other parties do nothing but run operations, from `machine` on. -/
def Interference.Orderly (rule : Rule) (loads : List Load) (machine : Machine)
    (others : Interference) : Prop :=
  ∀ hook point, machine.Within point →
    Errand rule (hook.load?.toList ++ loads) point (others.turn hook point)

/-- A run from `start` gives other parties their turn at `point`: what comes of it depends on what
they do there. -/
def Reenters {α : Type} (action : Interference → Kernel α) (others : Interference) (start : Machine)
    (hook : Hook) (point : Machine) : Prop :=
  ∃ variant : Interference, variant.patience = others.patience ∧
    (∀ other place, ¬(other = hook ∧ place = point) →
      variant.turn other place = others.turn other place) ∧
    action variant start ≠ action others start

theorem Interference.orderly_none (rule : Rule) (loads : List Load) (machine : Machine) :
    Interference.none.Orderly rule loads machine := by
  intro hook point _
  cases hook with
  | file => exact .done _ point
  | sector => exact .done _ point

/-- The operations of the memory manager, as far as the spaces and files they name exist. Callers
obtain no frames for themselves, and each space has a directory that callers leave alone. -/
def Machine.Offers (machine : Machine) (op : Op) : Prop :=
  op.Regular machine.spaces.length machine.files.length ∧ op.lends = false ∧ op.meddles = false

instance (machine : Machine) (op : Op) : Decidable (machine.Offers op) :=
  inferInstanceAs (Decidable (op.Regular _ _ ∧ op.lends = false ∧ op.meddles = false))

def Rule.offered : Rule := fun _ machine op _ => machine.Offers op

instance (loads : List Load) (machine : Machine) (op : Op) (after : Machine) :
    Decidable (Rule.offered loads machine op after) :=
  inferInstanceAs (Decidable (machine.Offers op))

def Kernel.performOffered : List Op → Kernel Unit
  | [] => return
  | op :: rest => do
      if (← get).Offers op then
        let _ ← Kernel.perform .none op
      performOffered rest

theorem Errand.performOffered (ops : List Op) (loads : List Load) (machine : Machine) :
    Errand Rule.offered loads machine (Kernel.performOffered ops machine) := by
  induction ops generalizing machine with
  | nil => exact .done loads machine
  | cons op rest ih =>
    change Errand _ _ _ ((if machine.Offers op then
      Kernel.perform .none op >>= fun _ => Kernel.performOffered rest
      else Kernel.performOffered rest : Kernel Unit) machine)
    split
    · rename_i offered
      change Errand _ _ _ (EStateM.bind (Kernel.perform .none op) _ machine)
      unfold EStateM.bind
      cases ran : Kernel.perform .none op machine with
      | ok reply mid => exact .op offered (Interference.orderly_none _ _ _) ran (ih mid)
      | error cause mid => exact .stop offered ran
    · exact ih machine

/-- Another party that performs operations whenever a file or a sector is about to be read. -/
def Interference.performing (file sector : List Op) : Interference where
  beforeFileRead _ _ := Kernel.performOffered file
  beforeSectorRead _ := Kernel.performOffered sector
  patience := 2

theorem Interference.orderly_performing (file sector : List Op) (loads : List Load)
    (machine : Machine) : (performing file sector).Orderly Rule.offered loads machine := by
  intro hook point _
  cases hook with
  | file => exact .performOffered file _ point
  | sector => exact .performOffered sector _ point

/-- Operations are asked for on spaces and files there are, and callers give back only frames that
they have. -/
structure Rule.Sensible (rule : Rule) : Prop where
  regular : ∀ {loads machine op after}, rule loads machine op after →
    op.Regular machine.spaces.length machine.files.length
  rightful : ∀ {loads machine op after}, rule loads machine op after → op.rightful machine = true

theorem Rule.sensible_offered : Rule.offered.Sensible where
  regular offered := offered.1
  rightful {_ _ op _} offered := by
    cases op with
    | free => cases offered.2.1
    | _ => rfl

/-- Callers leave page directories alone, and each space has one of its own. -/
def Rule.Trusting (rule : Rule) : Prop :=
  ∀ {loads machine op after}, rule loads machine op after → op.meddles = false

theorem Rule.trusting_offered : Rule.offered.Trusting := fun offered => offered.2.2

/-- Callers leave the dirty bits of pages alone. -/
def Rule.Spotless (rule : Rule) : Prop :=
  ∀ {loads machine op after}, rule loads machine op after → op.soils = false

def Log.Tells (before after : List Event) (event : Event) : Prop :=
  ∃ new, after = new ++ before ∧ event ∈ new

/-- What operations do under a rule while the loads of `floor` are under way, and stay so. -/
inductive Rule.Lets [Lawful] (rule : Rule) (floor : List Load) : Act → Prop
  | quiet : Lets rule floor .quiet
  | settle {loads} (above : floor <:+ loads) : Lets rule floor (.settle loads)
  | op {loads machine op after act} (above : floor <:+ loads) (allowed : rule loads machine op after)
      (does : op.Does loads machine act) : Lets rule floor act
  | grow {loads machine op after space addr} (above : floor <:+ loads)
      (allowed : rule loads machine op after)
      (told : Log.Tells machine.log after.log (.stackGrown space addr)) :
      Lets rule floor (.grow loads space addr)
  | stray (astray : ¬(rule.Trusting ∧ rule.Spotless)) : Lets rule floor .stray

variable [Lawful] {rule : Rule} {floor : List Load}

omit [Lawful] in
theorem Rule.Lets.mono [Lawful] {fewer : List Load} {act : Act} (lets : rule.Lets floor act)
    (below : fewer <:+ floor) : rule.Lets fewer act := by
  cases lets with
  | quiet => exact .quiet
  | settle above => exact .settle (below.trans above)
  | op above allowed does => exact .op (below.trans above) allowed does
  | grow above allowed told => exact .grow (below.trans above) allowed told
  | stray astray => exact .stray astray

omit [Lawful] in
theorem Rule.Lets.not_meddle [Lawful] {act : Act} (lets : rule.Lets floor act)
    (trusting : rule.Trusting) : act ≠ .meddle := by
  rintro rfl
  cases lets with
  | op above allowed does =>
    exact Bool.false_ne_true ((trusting allowed).symm.trans does.1.meddles)

omit [Lawful] in
theorem Rule.Lets.not_stray [Lawful] {act : Act} (lets : rule.Lets floor act)
    (trusting : rule.Trusting) (spotless : rule.Spotless) : act ≠ .stray := by
  rintro rfl
  cases lets with
  | op above allowed does => exact does.1.not_stray
  | stray astray => exact astray ⟨trusting, spotless⟩

/-- A moment between operations, or where one gives other parties their turn. -/
structure BetweenOperations (rule : Rule) (now : Moment) : Prop extends Consistent now where
  balanced : now.ledger.Balanced
  sectors : 0 < now.machine.swap.disk.sectorSize
  mapped : rule.Trusting → Mapped now.machine

/-- The moves of an operation that starts at `start`. Which pages it adds to stacks shows in the log
only when it has ended. -/
def Rule.Wide (rule : Rule) (start : Moment) (act : Act) : Prop :=
  rule.Lets start.ledger.loads act ∨ ∃ space addr, act = .grow start.ledger.loads space addr

/-- An operation that starts at `start`. What comes after one of the moments of `marked` is told
apart. -/
def Rule.scope (rule : Rule) (start : Moment) (marked : Moment → Prop) : Scope where
  may := rule.Wide start
  spaces := start.machine.spaces.length
  files := start.machine.files.length
  trusting := rule.Trusting
  quiet := .inl .quiet
  trusts := by
    rintro trusting (lets | ⟨_, _, grows⟩)
    · exact lets.not_meddle trusting rfl
    · cases grows
  kept := Path (rule.Wide start) start
  keeps allowed move path := path.trans (.of_move allowed move)
  after now := ∃ place, marked place ∧ Path (rule.Wide start) place now
  onward allowed move := fun ⟨place, mark, path⟩ => ⟨place, mark, path.trans (.of_move allowed move)⟩

variable {marked : Moment → Prop}

theorem BetweenOperations.ready {start : Moment} (between : BetweenOperations rule start) :
    (rule.scope start marked).Ready start :=
  ⟨between.toConsistent, Nat.le_refl _, Nat.le_refl _, between.sectors, between.mapped, .refl start⟩

/-- The log tells of all pages that were added to stacks on the way, from some point of the operation
on. -/
theorem Rule.narrow {start mid stop : Moment} {op : Op}
    (path : Path (rule.Wide start) mid stop)
    (since : start.machine.log <:+ mid.machine.log)
    (allowed : rule start.ledger.loads start.machine op stop.machine) :
    Path (rule.Lets start.ledger.loads) mid stop := by
  induction path with
  | refl => exact .refl _
  | @next act mid after stop wide move rest ih =>
    refine .next ?_ move (ih (since.trans move.log) allowed)
    rcases wide with lets | ⟨space, addr, rfl⟩
    · exact lets
    · refine .grow (List.suffix_refl _) allowed ?_
      obtain ⟨older, grown⟩ := since
      obtain ⟨newer, ended⟩ := rest.log
      refine ⟨newer ++ .stackGrown space addr :: older, ?_, by simp⟩
      rw [← ended, move.log_grow rfl, List.append_assoc, List.cons_append, grown]

theorem BetweenOperations.within {may : Act → Prop} {start stop : Moment}
    (between : BetweenOperations rule start)
    (path : Path may start stop) : start.machine.Within stop.machine := by
  let claim : Moment → Prop := fun now => start.machine.Within now.machine
  have whole : claim start := ⟨Nat.le_refl _, Nat.le_refl _⟩
  refine between.toConsistent.along path between.sectors (fun _ move _ _ known => ?_) whole
  obtain ⟨spaces, files, _⟩ := move.sizes
  exact ⟨Nat.le_trans known.1 spaces, Nat.le_trans known.2 files⟩

section
variable {start : Moment} {others variant : Interference}

/-- Where operations are run in turn, they make moves under the rule. -/
def Interference.Moves (rule : Rule) (start : Moment) (others : Interference) : Prop :=
  ∀ (hook : Hook) {now : Moment} {after : Machine}, start.machine.Within now.machine →
    BetweenOperations rule now →
    now.ledger.loads = hook.load?.toList ++ start.ledger.loads →
    others.turn hook now.machine = .ok () after →
    Path (rule.Lets now.ledger.loads) now ⟨now.ledger, after⟩

/-- Two parties, one of them orderly, keep to the moves if they agree wherever a computation can be, but
for turns that lead to one of the moments of `marked`. -/
theorem Interference.Moves.tame (moves : others.Moves rule start)
    (patience : others.patience = variant.patience)
    (agree : ∀ hook {now : Moment}, (rule.scope start marked).Ready now → now.ledger.Balanced →
      now.ledger.loads = hook.load?.toList ++ start.ledger.loads →
      variant.turn hook now.machine = others.turn hook now.machine ∨
        ((∃ place, marked place) ∧
          ∀ after, others.turn hook now.machine = .ok () after → marked ⟨now.ledger, after⟩)) :
    Tame (rule.scope start marked) start.ledger.loads others variant := by
  have follows : ∀ (hook : Hook) {now : Moment},
      now.ledger.loads = hook.load?.toList ++ start.ledger.loads → now.ledger.Balanced →
      Follows (rule.scope start marked) now (others.turn hook) (variant.turn hook)
        fun _ next => next.ledger = now.ledger := by
    intro hook now under balanced ready
    have between : BetweenOperations rule now := ⟨ready.toConsistent, balanced, ready.sectors, ready.mapped⟩
    have path : ∀ {next}, others.turn hook now.machine = .ok () next →
        Path (rule.Wide start) now ⟨now.ledger, next⟩ := by
      intro next ended
      refine (moves hook ⟨ready.known, ready.opened⟩ between under ended).widen fun act lets => .inl ?_
      refine lets.mono ?_
      rw [under]
      exact List.suffix_append _ _
    refine ⟨(agree hook ready balanced under).imp Eq.symm fun ⟨⟨place, mark⟩, marks⟩ => ⟨?_, ?_⟩,
      fun _ next ended => ⟨_, path ended, rfl⟩⟩
    · exact ⟨place, place, mark, .refl _⟩
    · exact fun _ next ended => ⟨_, path ended, ⟨_, marks next ended, .refl _⟩, rfl⟩
  exact {
    patience
    grow := fun space addr => .inr ⟨space, addr, rfl⟩
    settle := .inl (.settle (List.suffix_refl _))
    file := fun file under => follows (.file _ file) under
    sector := fun under => follows (.sector _) under }

/-- An operation as moves under the rule, beside the same operation with other parties. -/
theorem Rule.Sensible.runs (sensible : rule.Sensible) (between : BetweenOperations rule start) {op : Op}
    {after : Machine} (allowed : rule start.ledger.loads start.machine op after)
    (tame : Tame (rule.scope start marked) start.ledger.loads others variant) :
    Kernel.Alike (∃ now, (rule.scope start marked).after now) start.machine (Kernel.perform others op)
      (Kernel.perform variant op)
      ((rule.scope start marked).Ends start fun _ now =>
        (rule.scope start marked).after now ∧ now.ledger = start.ledger)
      ((rule.scope start marked).Ends start fun _ now => now.ledger = start.ledger) := by
  have spotless : op.soils = true → ¬(rule.Trusting ∧ rule.Spotless) := by
    rintro soils ⟨_, spotless⟩
    exact Bool.false_ne_true ((spotless allowed).symm.trans soils)
  have run : Follows (rule.scope start marked) start (Kernel.perform others op)
      (Kernel.perform variant op) fun _ now => now.ledger = start.ledger :=
    Kernel.perform_follows (sensible.regular allowed) (sensible.rightful allowed)
      (fun _ does => .inl (.op (List.suffix_refl _) allowed does))
      (fun astray => .inl (.stray fun both => astray both.1))
      (fun soils => .inl (.stray (spotless soils))) tame between.balanced
  exact run between.ready

theorem Interference.Moves.perform (moves : others.Moves rule start) (sensible : rule.Sensible)
    (between : BetweenOperations rule start) {op : Op} {reply : Reply} {after : Machine}
    (allowed : rule start.ledger.loads start.machine op after)
    (ran : Kernel.perform others op start.machine = .ok reply after) :
    Path (rule.Lets start.ledger.loads) start ⟨start.ledger, after⟩ := by
  have tame : Tame (rule.scope start fun _ => False) start.ledger.loads others others :=
    moves.tame rfl fun _ _ _ _ _ => .inl rfl
  obtain ⟨last, path, same⟩ := (sensible.runs between allowed tame).2 reply after ran
  have same : last = start.ledger := same
  subst same
  exact Rule.narrow path (List.suffix_refl _) allowed

/-- Where a computation is re-entered, its load is one of those under way, and all else is as in a moment
between operations. -/
theorem Interference.Moves.visits {action : Interference → Kernel α} {hook : Hook} {point : Machine}
    (moves : others.Moves rule start) {late post : α → Machine → Prop}
    (runs : ∀ {variant}, Tame (rule.scope start fun _ => False) start.ledger.loads others variant →
      Kernel.Alike (∃ now, (rule.scope start fun _ => False).after now) start.machine (action others)
        (action variant) late post)
    (reenters : Reenters action others start.machine hook point) :
    ∃ ledger, ledger.loads = hook.load?.toList ++ start.ledger.loads ∧ BetweenOperations rule ⟨ledger, point⟩ ∧
      Path (rule.Wide start) start ⟨ledger, point⟩ := by
  obtain ⟨other, patience, elsewhere, differs⟩ := reenters
  by_contra missing
  -- A computation is never at such a point, so it does not see the difference.
  have agree : ∀ place {now : Moment}, (rule.scope start fun _ => False).Ready now →
      now.ledger.Balanced → now.ledger.loads = place.load?.toList ++ start.ledger.loads →
      other.turn place now.machine = others.turn place now.machine := by
    intro place now there balanced under
    refine elsewhere place now.machine fun ⟨same, here⟩ => missing ⟨now.ledger, ?_, ?_, ?_⟩
    · rw [← same]
      exact under
    · rw [← here]
      exact ⟨there.toConsistent, balanced, there.sectors, there.mapped⟩
    · rw [← here]
      exact there.kept
  have tame : Tame (rule.scope start fun _ => False) start.ledger.loads others other :=
    moves.tame patience.symm fun hook _ there balanced under => .inl (agree hook there balanced under)
  rcases (runs tame).1 with same | ⟨⟨_, _, nowhere, _⟩, _⟩
  · exact differs same.symm
  · exact nowhere

theorem Interference.Moves.reenters (moves : others.Moves rule start) (sensible : rule.Sensible)
    (between : BetweenOperations rule start) {op : Op} {hook : Hook} {point : Machine}
    (allowed : rule start.ledger.loads start.machine op point)
    (reenters : Reenters (Kernel.perform · op) others start.machine hook point) :
    ∃ ledger, ledger.loads = hook.load?.toList ++ start.ledger.loads ∧ BetweenOperations rule ⟨ledger, point⟩ ∧
      Path (rule.Lets start.ledger.loads) start ⟨ledger, point⟩ := by
  obtain ⟨ledger, under, there, path⟩ := moves.visits (sensible.runs between allowed) reenters
  exact ⟨ledger, under, there, Rule.narrow path (List.suffix_refl _) allowed⟩

/-- An operation that is re-entered goes on by moves when other parties have had their turn. -/
theorem Interference.Moves.resumes (moves : others.Moves rule start) (sensible : rule.Sensible)
    (between : BetweenOperations rule start) {op : Op} {hook : Hook} {point resumed after : Machine}
    {reply : Reply} (entered : rule start.ledger.loads start.machine op point)
    (allowed : rule start.ledger.loads start.machine op after)
    (reenters : Reenters (Kernel.perform · op) others start.machine hook point)
    (turned : others.turn hook point = .ok () resumed)
    (ran : Kernel.perform others op start.machine = .ok reply after) :
    ∃ ledger, ledger.loads = hook.load?.toList ++ start.ledger.loads ∧ BetweenOperations rule ⟨ledger, point⟩ ∧
      Path (rule.Lets start.ledger.loads) start ⟨ledger, point⟩ ∧
      Path (rule.Lets ledger.loads) ⟨ledger, point⟩ ⟨ledger, resumed⟩ ∧
      Path (rule.Lets start.ledger.loads) ⟨ledger, resumed⟩ ⟨start.ledger, after⟩ := by
  let marked : Moment → Prop := fun now => now.machine = resumed ∧
    now.ledger.loads = hook.load?.toList ++ start.ledger.loads ∧ BetweenOperations rule ⟨now.ledger, point⟩ ∧
    Path (rule.Lets start.ledger.loads) start ⟨now.ledger, point⟩
  obtain ⟨first, waits, there, path⟩ := moves.reenters sensible between entered reenters
  obtain ⟨other, patience, elsewhere, differs⟩ := reenters
  have tame : Tame (rule.scope start marked) start.ledger.loads others other := by
    refine moves.tame patience.symm fun place ⟨ledger, machine⟩ ready balanced under => ?_
    by_cases here : place = hook ∧ machine = point
    · obtain ⟨rfl, rfl⟩ := here
      refine .inr ⟨⟨⟨first, resumed⟩, rfl, waits, there, path⟩, fun next ended => ?_⟩
      rw [turned] at ended
      cases ended
      exact ⟨rfl, under, ⟨ready.toConsistent, balanced, ready.sectors, ready.mapped⟩,
        Rule.narrow ready.kept (List.suffix_refl _) entered⟩
    · exact .inl (elsewhere place machine here)
  rcases (sensible.runs between allowed tame).1 with same | ⟨_, late⟩
  · exact absurd same.symm differs
  · obtain ⟨last, _, ⟨⟨ledger, _⟩, ⟨rfl, under, there, path⟩, rest⟩, same⟩ := late reply after ran
    have same : last = start.ledger := same
    subst same
    have within : start.machine.Within point := between.within path
    have turn : Path (rule.Lets ledger.loads) ⟨ledger, point⟩ ⟨ledger, _⟩ :=
      moves hook within there under turned
    have grown : start.machine.log <:+ point.log := path.log
    exact ⟨ledger, under, there, path, turn, Rule.narrow rest (grown.trans turn.log) allowed⟩

end

theorem BetweenOperations.path {loads : List Load} {ledger : Ledger} {machine after : Machine}
    (between : BetweenOperations rule ⟨ledger, machine⟩)
    (path : Path (rule.Lets loads) ⟨ledger, machine⟩ ⟨ledger, after⟩) :
    BetweenOperations rule ⟨ledger, after⟩ := by
  have kept := path.keeps (fun now => Consistent now ∧ 0 < now.machine.swap.disk.sectorSize ∧
      (rule.Trusting → Mapped now.machine))
    ⟨between.toConsistent, between.sectors, between.mapped⟩
    fun lets move ⟨consistent, sectors, mapped⟩ =>
      ⟨consistent.move move, Nat.lt_of_lt_of_eq sectors move.sectorSize.symm,
        fun trusting => (mapped trusting).move move consistent (lets.not_meddle trusting)⟩
  exact ⟨kept.1, between.balanced, kept.2.1, kept.2.2⟩

theorem Errand.moves {loads : List Load} {machine : Machine}
    {result : EStateM.Result Fatal Machine Unit} (errand : Errand rule loads machine result)
    (sensible : rule.Sensible) {ledger : Ledger} (under : ledger.loads = loads)
    (between : BetweenOperations rule ⟨ledger, machine⟩) {after : Machine} (ended : result = .ok () after) :
    Path (rule.Lets loads) ⟨ledger, machine⟩ ⟨ledger, after⟩ := by
  induction errand generalizing ledger after with
  | done =>
    cases ended
    exact .refl _
  | @op loads machine op others reply mid result allowed turns ran rest turns_ih rest_ih =>
    subst under
    have moves : others.Moves rule ⟨ledger, machine⟩ := fun hook now after within between under ended => by
      rw [under]
      exact turns_ih hook _ within under between ended
    have path := moves.perform sensible between allowed ran
    exact path.trans (rest_ih rfl (between.path path) ended)
  | stop => cases ended
  | @note loads machine result callers guards frames rest ih =>
    have idle := machine.idle_callers guards frames
    have path : Path (rule.Lets loads) ⟨ledger, machine⟩ ⟨ledger, { machine with callers }⟩ :=
      .of_move .quiet (.idle idle)
    exact path.trans (ih under (between.path path) ended)

theorem Interference.Orderly.moves {others : Interference} {start : Moment}
    (orderly : others.Orderly rule start.ledger.loads start.machine) (sensible : rule.Sensible) :
    others.Moves rule start := fun hook now after within between under ended => by
  rw [under]
  exact (orderly hook _ within).moves sensible under between ended

end DemandPaging
