import DemandPaging.Proofs.Running

/-! What a computation of the kernel comes to, whether it ends well or stops the kernel. What is said of
a computation in this way is put together from what is said of its steps, and includes that it ends. -/
namespace DemandPaging.Kernel
variable [Architecture]

/-- Where the computation ends well, `post` holds; where it stops the kernel, `stops` does. -/
def Outcome (start : Machine) (f : Kernel α) (post : α → Machine → Prop)
    (stops : Fatal → Machine → Prop) : Prop :=
  match f start with
  | .ok a next => post a next
  | .error cause next => stops cause next

def Never (_ : Fatal) (_ : Machine) : Prop := False

namespace Outcome
variable {start : Machine} {f : Kernel α} {k : α → Kernel β} {mid : α → Machine → Prop}
  {post : β → Machine → Prop} {stops : Fatal → Machine → Prop}

theorem bind (first : Outcome start f mid stops)
    (rest : ∀ a next, mid a next → Outcome next (k a) post stops) :
    Outcome start (f >>= k) post stops := by
  change Outcome start (EStateM.bind f k) post stops
  unfold Outcome at first ⊢
  unfold EStateM.bind
  cases ran : f start with
  | ok a next =>
    rw [ran] at first
    exact rest a next first
  | error cause next =>
    rw [ran] at first
    exact first

theorem imp {weaker : α → Machine → Prop} {more : Fatal → Machine → Prop}
    (outcome : Outcome start f mid stops) (weaken : ∀ a next, mid a next → weaker a next)
    (widen : ∀ cause next, stops cause next → more cause next) : Outcome start f weaker more := by
  unfold Outcome at outcome ⊢
  split at outcome
  · exact weaken _ _ outcome
  · exact widen _ _ outcome

theorem weaken {weaker : α → Machine → Prop} (outcome : Outcome start f mid stops)
    (weaken : ∀ a next, mid a next → weaker a next) : Outcome start f weaker stops :=
  outcome.imp weaken fun _ _ stopped => stopped

theorem and_ok {extra : α → Machine → Prop} (outcome : Outcome start f mid stops)
    (ends : ∀ a next, f start = .ok a next → extra a next) :
    Outcome start f (fun a next => mid a next ∧ extra a next) stops := by
  unfold Outcome at outcome ⊢
  split at outcome
  · rename_i ran
    exact ⟨outcome, ends _ _ ran⟩
  · exact outcome

theorem and_stop {extra : Fatal → Machine → Prop} (outcome : Outcome start f mid stops)
    (ends : ∀ cause next, f start = .error cause next → extra cause next) :
    Outcome start f mid (fun cause next => extra cause next ∧ stops cause next) := by
  unfold Outcome at outcome ⊢
  split at outcome
  · exact outcome
  · rename_i ran
    exact ⟨ends _ _ ran, outcome⟩

theorem always (outcome : Outcome start f mid Never) : Outcome start f mid stops :=
  outcome.imp (fun _ _ done => done) fun _ _ never => never.elim

theorem of_ok {a : α} {next : Machine} (outcome : Outcome start f mid stops)
    (ran : f start = .ok a next) : mid a next := by
  unfold Outcome at outcome
  rw [ran] at outcome
  exact outcome

theorem of_error {cause : Fatal} {next : Machine} (outcome : Outcome start f mid stops)
    (ran : f start = .error cause next) : stops cause next := by
  unfold Outcome at outcome
  rw [ran] at outcome
  exact outcome

theorem exists_ok (outcome : Outcome start f mid Never) :
    ∃ a next, f start = .ok a next ∧ mid a next := by
  unfold Outcome at outcome
  split at outcome
  · rename_i a next ran
    exact ⟨a, next, ran, outcome⟩
  · exact outcome.elim

theorem of_eq {g : Kernel α} {other : Machine} (same : f start = g other)
    (outcome : Outcome other g mid stops) : Outcome start f mid stops := by
  unfold Outcome at outcome ⊢
  rw [same]
  exact outcome

theorem ended {a : α} {next : Machine} (ran : f start = .ok a next) (done : mid a next) :
    Outcome start f mid stops := by
  unfold Outcome
  rw [ran]
  exact done

theorem stopped {cause : Fatal} {next : Machine} (ran : f start = .error cause next)
    (known : stops cause next) : Outcome start f mid stops := by
  unfold Outcome
  rw [ran]
  exact known

theorem ret {a : α} (done : mid a start) : Outcome start (pure a) mid stops := done

theorem look {k : Machine → Kernel β} (rest : Outcome start (k start) post stops) :
    Outcome start (get >>= k) post stops := rest

theorem change {change : Machine → Machine} {post : Unit → Machine → Prop}
    (done : post () (change start)) : Outcome start (modify change : Kernel Unit) post stops := done

theorem changeGet {change : Machine → α × Machine} (done : mid (change start).1 (change start).2) :
    Outcome start (modifyGet change : Kernel α) mid stops := done

theorem orStop {outcome : Except Fatal α} {a : α} (passed : outcome = .ok a) (done : mid a start) :
    Outcome start (Kernel.orStop outcome) mid stops := by
  subst passed
  exact done

theorem step {change : Machine → Machine} {k : Unit → Kernel β}
    (rest : Outcome (change start) (k ()) post stops) :
    Outcome start ((modify change : Kernel Unit) >>= k) post stops := rest

theorem pass {outcome : Except Fatal α} {a : α} (passed : outcome = .ok a)
    (rest : Outcome start (k a) post stops) :
    Outcome start (Kernel.orStop outcome >>= k) post stops := by
  subst passed
  exact rest

/-- A stop is let through once something is undone. -/
theorem rescue {undo : Kernel Unit} {reasons : Fatal → Machine → Prop}
    (first : Outcome start f mid reasons)
    (undone : ∀ cause next, reasons cause next → Outcome next undo (fun _ last => stops cause last) stops) :
    Outcome start (tryCatch f fun cause => do undo; throw cause) mid stops := by
  unfold Outcome at first
  change Outcome start (EStateM.tryCatch f _) mid stops
  unfold Outcome EStateM.tryCatch
  cases ran : f start with
  | ok a next =>
    rw [ran] at first
    exact first
  | error cause next =>
    rw [ran] at first
    exact (undone cause next first).bind fun _ _ known => known

/-- What every step of a list of steps keeps, all of them keep. -/
theorem forM {claim : Machine → Prop} {items : List ι} {step : ι → Kernel PUnit} (holds : claim start)
    (each : ∀ item ∈ items, ∀ {now}, claim now → Outcome now (step item) (fun _ => claim) stops) :
    Outcome start (items.forM step) (fun _ => claim) stops := by
  induction items generalizing start with
  | nil => exact holds
  | cons item rest ih =>
    exact (each item List.mem_cons_self holds).bind fun _ _ kept =>
      ih kept fun other member => each other (List.mem_cons_of_mem _ member)

theorem transferChunks {claim : Machine → Prop} {chunks : List Chunk}
    {transfer : Chunk → Kernel (Except BlockError Unit)} (holds : claim start)
    (each : ∀ chunk ∈ chunks, ∀ {now}, claim now →
      Outcome now (transfer chunk) (fun _ => claim) stops) :
    Outcome start (transferChunks transfer chunks) (fun _ => claim) stops := by
  induction chunks generalizing start with
  | nil => exact holds
  | cons chunk rest ih =>
    refine (each chunk List.mem_cons_self holds).bind fun result _ kept => ?_
    cases result with
    | ok => exact ih kept fun other member => each other (List.mem_cons_of_mem _ member)
    | error error => exact kept

end Outcome

/-! Computations on behalf of a process, which may fail. -/

namespace Outcome
variable {start : Machine} {c : Kernel α} {x : Faulting α} {h : α → Faulting β}
  {mid : α → Machine → Prop} {post : Except FaultError β → Machine → Prop}
  {stops : Fatal → Machine → Prop}

theorem run_bind {done : Except FaultError α → Machine → Prop} (first : Outcome start x.run done stops)
    (failed : ∀ error next, done (.error error) next → post (.error error) next)
    (rest : ∀ a next, done (.ok a) next → Outcome next (h a).run post stops) :
    Outcome start (x >>= h).run post stops := by
  rw [ExceptT.run_bind]
  refine first.bind fun outcome next ends => ?_
  cases outcome with
  | ok a => exact rest a next ends
  | error error => exact failed error next ends

theorem run_lift (first : Outcome start c mid stops)
    (rest : ∀ a next, mid a next → Outcome next (h a).run post stops) :
    Outcome start (ExceptT.lift c >>= h).run post stops := by
  rw [ExceptT.run_bind_lift]
  exact first.bind rest

theorem run_last {post : Except FaultError α → Machine → Prop} (first : Outcome start c mid stops)
    (rest : ∀ a next, mid a next → post (.ok a) next) :
    Outcome start (ExceptT.lift c).run post stops := by
  rw [ExceptT.run_lift, ← bind_pure_comp]
  exact first.bind rest

theorem run_fail {error : FaultError} (done : post (.error error) start) :
    Outcome start ((throw error : Faulting α) >>= h).run post stops := done

theorem run_step {change : Machine → Machine} {h : Unit → Faulting β}
    (rest : Outcome (change start) (h ()).run post stops) :
    Outcome start (ExceptT.lift (modify change) >>= h).run post stops := rest

theorem run_change {change : Machine → Machine} {post : Except FaultError Unit → Machine → Prop}
    (done : post (.ok ()) (change start)) :
    Outcome start (ExceptT.lift (modify change)).run post stops := done

theorem run_look {h : Machine → Faulting β} (rest : Outcome start (h start).run post stops) :
    Outcome start ((get : Faulting Machine) >>= h).run post stops := rest

end Outcome

end DemandPaging.Kernel
