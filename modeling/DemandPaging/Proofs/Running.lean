import DemandPaging.Machine

/-! How kernel computations run. The first half says when the primitives end well and where they
leave the machine. The second half compares two computations that differ in the doings of other
parties only: they are alike at a state if they run the same from there, or else only come to their
ends after the place where they differ. -/
namespace DemandPaging

theorem Fatal.bind_ok {x : Except Fatal α} {k : α → Except Fatal β} {b : β} :
    (x >>= k) = .ok b ↔ ∃ a, x = .ok a ∧ k a = .ok b := by
  cases x with
  | ok a =>
    constructor
    · intro rest
      exact ⟨a, rfl, rest⟩
    · rintro ⟨_, same, rest⟩
      cases same
      exact rest
  | error cause => simp [bind, Except.bind]

namespace Kernel
variable [Architecture]

section ending
variable {f : Kernel α} {k : α → Kernel β} {start next : Machine}

theorem bind_ok {b : β} :
    (f >>= k) start = .ok b next ↔ ∃ a mid, f start = .ok a mid ∧ k a mid = .ok b next := by
  change EStateM.bind f k start = .ok b next ↔ _
  unfold EStateM.bind
  cases ran : f start with
  | ok a mid =>
    constructor
    · intro rest
      exact ⟨a, mid, rfl, rest⟩
    · rintro ⟨_, _, same, rest⟩
      cases same
      exact rest
  | error cause mid => simp

theorem bind_of_ok {a : α} (ran : f start = .ok a next) : (f >>= k) start = k a next := by
  change EStateM.bind f k start = _
  unfold EStateM.bind
  rw [ran]

theorem pure_ok {a b : α} : (pure a : Kernel α) start = .ok b next ↔ a = b ∧ start = next := by
  change EStateM.Result.ok a start = .ok b next ↔ _
  simp

theorem get_ok {machine : Machine} :
    (get : Kernel Machine) start = .ok machine next ↔ start = machine ∧ start = next := by
  change EStateM.Result.ok start start = .ok machine next ↔ _
  simp

theorem modify_ok {change : Machine → Machine} {u : Unit} :
    (modify change : Kernel Unit) start = .ok u next ↔ next = change start := by
  change EStateM.Result.ok () (change start) = .ok u next ↔ _
  simp [eq_comm]

theorem modifyGet_ok {change : Machine → α × Machine} {a : α} :
    (modifyGet change : Kernel α) start = .ok a next ↔
      a = (change start).1 ∧ next = (change start).2 := by
  change EStateM.Result.ok (change start).1 (change start).2 = .ok a next ↔ _
  simp [eq_comm]

theorem throw_ok {cause : Fatal} {a : α} :
    (throw cause : Kernel α) start = .ok a next ↔ False := by
  change EStateM.Result.error cause start = .ok a next ↔ _
  simp

theorem orStop_ok {outcome : Except Fatal α} {a : α} :
    orStop outcome start = .ok a next ↔ outcome = .ok a ∧ start = next := by
  cases outcome with
  | ok value => simp only [orStop, pure_ok, Except.ok.injEq]
  | error cause => simp [orStop, throw_ok]

theorem emit_ok {event : Event} {u : Unit} :
    emit event start = .ok u next ↔ next = { start with log := event :: start.log } :=
  modify_ok

theorem modifyPool_ok {change : FramePool → FramePool} {u : Unit} :
    modifyPool change start = .ok u next ↔ next = { start with pool := change start.pool } :=
  modify_ok

theorem modifyStats_ok {change : Stats → Stats} {u : Unit} :
    modifyStats change start = .ok u next ↔ next = { start with stats := change start.stats } :=
  modify_ok

theorem modifyCallers_ok {change : Callers → Callers} {u : Unit} :
    modifyCallers change start = .ok u next ↔
      next = { start with callers := change start.callers } :=
  modify_ok

theorem modifyRegistry_ok {space : SpaceId} {change : Registry → Registry} {u : Unit} :
    modifyRegistry space change start = .ok u next ↔
      next = start.setRegistry space (change (start.registry space)) :=
  modify_ok

theorem readFrame_ok {frame : FrameNumber} {bytes : Bytes} :
    readFrame frame start = .ok bytes next ↔
      start.memory.read frame = .ok bytes ∧ start = next := by
  simp only [readFrame, bind_ok, get_ok, orStop_ok]
  constructor
  · rintro ⟨_, _, ⟨rfl, rfl⟩, read, rfl⟩
    exact ⟨read, rfl⟩
  · rintro ⟨read, rfl⟩
    exact ⟨_, _, ⟨rfl, rfl⟩, read, rfl⟩

theorem writeFrame_ok {frame : FrameNumber} {offset : Nat} {bytes : Bytes} {u : Unit} :
    writeFrame frame offset bytes start = .ok u next ↔
      ∃ memory, start.memory.write frame offset bytes = .ok memory ∧
        next = { start with memory } := by
  simp only [writeFrame, bind_ok, get_ok, orStop_ok, modify_ok]
  constructor
  · rintro ⟨_, _, ⟨rfl, rfl⟩, memory, _, ⟨written, rfl⟩, rfl⟩
    exact ⟨memory, written, rfl⟩
  · rintro ⟨memory, written, rfl⟩
    exact ⟨_, _, ⟨rfl, rfl⟩, memory, _, ⟨written, rfl⟩, rfl⟩

theorem poolIndex_ok {frame : FrameNumber} {index : Nat} :
    poolIndex frame start = .ok index next ↔
      start.pool.index frame = .ok index ∧ start = next := by
  simp only [poolIndex, bind_ok, get_ok, orStop_ok]
  constructor
  · rintro ⟨_, _, ⟨rfl, rfl⟩, found, rfl⟩
    exact ⟨found, rfl⟩
  · rintro ⟨found, rfl⟩
    exact ⟨_, _, ⟨rfl, rfl⟩, found, rfl⟩

theorem run_lift_ok {h : α → Faulting β} {result : Except FaultError β} :
    ((liftM f : Faulting α) >>= h).run start = .ok result next ↔
      ∃ a mid, f start = .ok a mid ∧ (h a).run mid = .ok result next := by
  change (ExceptT.lift f >>= h).run start = .ok result next ↔ _
  rw [ExceptT.run_bind_lift]
  exact bind_ok

/-- A computation on behalf of a process fails where its first step does, and goes on from there else. -/
theorem run_bind_ends {x : Faulting α} {h : α → Faulting β} {result : Except FaultError β} :
    (x >>= h).run start = .ok result next ↔
      (∃ a mid, x.run start = .ok (.ok a) mid ∧ (h a).run mid = .ok result next) ∨
      ∃ error, x.run start = .ok (.error error) next ∧ result = .error error := by
  rw [ExceptT.run_bind, bind_ok]
  constructor
  · rintro ⟨outcome, mid, first, rest⟩
    cases outcome with
    | ok a => exact .inl ⟨a, mid, first, rest⟩
    | error error =>
      obtain ⟨rfl, rfl⟩ := pure_ok.1 rest
      exact .inr ⟨error, first, rfl⟩
  · rintro (⟨a, mid, first, rest⟩ | ⟨error, first, rfl⟩)
    · exact ⟨.ok a, mid, first, rest⟩
    · exact ⟨.error error, next, first, rfl⟩

theorem run_bind_ok {x : Faulting α} {h : α → Faulting β} {b : β} :
    (x >>= h).run start = .ok (.ok b) next ↔
      ∃ a mid, x.run start = .ok (.ok a) mid ∧ (h a).run mid = .ok (.ok b) next := by
  rw [run_bind_ends]
  exact or_iff_left fun ⟨_, _, failed⟩ => nomatch failed

theorem run_pure_ok {a : α} {result : Except FaultError α} :
    (pure a : Faulting α).run start = .ok result next ↔ .ok a = result ∧ start = next :=
  pure_ok

theorem run_throw_ok {error : FaultError} {result : Except FaultError α} :
    (throw error : Faulting α).run start = .ok result next ↔ .error error = result ∧ start = next :=
  pure_ok

end ending

def leaves (f : Kernel α) (start : Machine) : Machine :=
  match f start with
  | .ok _ next | .error _ next => next

def answer? (f : Kernel α) (start : Machine) : Option α :=
  match f start with
  | .ok a _ => some a
  | .error _ _ => none

theorem ok_of_answer? {f : Kernel α} {start : Machine} {a : α} (answered : f.answer? start = some a) :
    f start = .ok a (f.leaves start) := by
  unfold answer? at answered
  unfold leaves
  split at answered
  · rename_i ran
    cases answered
    rw [ran]
  · cases answered

def endsWell (f : Kernel α) (start : Machine) : Bool :=
  match f start with
  | .ok _ _ => true
  | .error _ _ => false

theorem ok_of_endsWell {f : Kernel α} {start : Machine} (well : f.endsWell start = true) :
    ∃ a, f start = .ok a (f.leaves start) := by
  unfold endsWell at well
  unfold leaves
  split at well
  · exact ⟨_, by assumption⟩
  · cases well

/-- Both computations run the same from `start`, unless they may differ and whatever the first ends well
with is `late`. Where it ends well, `post` holds. -/
def Alike (differ : Prop) (start : Machine) (f g : Kernel α) (late post : α → Machine → Prop) : Prop :=
  (f start = g start ∨ differ ∧ ∀ a next, f start = .ok a next → late a next) ∧
    ∀ a next, f start = .ok a next → post a next

namespace Alike
variable {differ : Prop} {start : Machine} {f g : Kernel α} {k l : α → Kernel β}
  {early mid : α → Machine → Prop} {late post : β → Machine → Prop}

theorem of_ok (ends : ∀ a next, f start = .ok a next → mid a next) :
    Alike differ start f f early mid :=
  ⟨.inl rfl, ends⟩

theorem imp {later weaker : α → Machine → Prop} (alike : Alike differ start f g early mid)
    (delay : ∀ a next, early a next → later a next) (weaken : ∀ a next, mid a next → weaker a next) :
    Alike differ start f g later weaker :=
  ⟨alike.1.imp_right fun ⟨may, ends⟩ => ⟨may, fun a next ran => delay a next (ends a next ran)⟩,
    fun a next ran => weaken a next (alike.2 a next ran)⟩

theorem bind (first : Alike differ start f g early mid)
    (rest : ∀ a next, mid a next → Alike differ next (k a) (l a) late post)
    (onward : ∀ a next, early a next → ∀ b last, k a next = .ok b last → late b last) :
    Alike differ start (f >>= k) (g >>= l) late post := by
  obtain ⟨either, ends⟩ := first
  refine ⟨?_, fun b next ran => ?_⟩
  · rcases either with same | ⟨may, early⟩
    · change EStateM.bind f k start = EStateM.bind g l start ∨ _
      unfold EStateM.bind
      rw [← same]
      cases ran : f start with
      | ok a next =>
        refine (rest a next (ends a next ran)).1.imp_right fun ⟨may, late⟩ => ⟨may, fun b last ended => ?_⟩
        obtain ⟨_, _, first_ran, rest_ran⟩ := bind_ok.1 ended
        rw [ran] at first_ran
        cases first_ran
        exact late b last rest_ran
      | error cause next => exact .inl rfl
    · refine .inr ⟨may, fun b last ended => ?_⟩
      obtain ⟨a, next, first_ran, rest_ran⟩ := bind_ok.1 ended
      exact onward a next (early a next first_ran) b last rest_ran
  · obtain ⟨a, between, first_ran, rest_ran⟩ := bind_ok.1 ran
    exact (rest a between (ends a between first_ran)).2 b next rest_ran

end Alike

end Kernel

end DemandPaging
