import DemandPaging.Proofs.FailedLoads
import DemandPaging.Proofs.Progress
import DemandPaging.Proofs.Recoveries
import DemandPaging.Proofs.UserCopies

/-! Attempts to bring in a page that fail. Whatever an operation was about when a load failed, the load leaves no
trace, and once what the page is loaded from has been put right, it comes in. -/
namespace DemandPaging
open Architecture (Lawful SecondChance)

section
variable [Architecture]

/-- The kernel sets out to load a page at `point`, in an attempt that has begun before. -/
structure Attempt.Loads (attempt : Attempt) (point : Machine) (page : Page) : Prop where
  asks : attempt.start.Asks attempt.space ⟨attempt.address⟩ point
  found : (point.registry attempt.space).lookup ⟨attempt.address⟩ = some page
  away : page.isResident = false
  classified : page.backing ≠ .unclassified

/-- A load fails that an attempt has come to. What it has obtained is given up, and the page can come in later. -/
structure Attempt.LeavesNoTrace (attempt : Attempt) (point : Machine) (page : Page) (next : Machine) :
    Prop where
  gives_up : ∃ index victim, point.GivesUp attempt.space page index victim next
  /-- When the pins are dropped that the call has made before, the page can be brought in. -/
  recovers : ∃ last, Kernel.dropGuard ⟨attempt.space, attempt.pinned⟩ next = .ok () last ∧
    last.Recovers attempt.space page

variable [Lawful]

/-! Attempts that fail. -/

omit [Lawful] in
theorem Kernel.bringAt_eq {machine : Machine} (others : Interference) (space : SpaceId) (access : Access)
    (pin : Bool) (pinned : List (VirtualAddress × FrameNumber)) (addr : VirtualAddress) :
    (bringAt others space access pin pinned addr).run machine =
      (match (machine.registry space).lookup addr with
        | some page => bring others space access pin pinned page
        | none => growStack space addr >>= bring others space access pin pinned).run machine :=
  rfl

omit [Lawful] in
/-- A page is not brought in if it must not be, or if a load fails. -/
theorem Kernel.bring_fails {machine next : Machine} {space : SpaceId} {access : Access} {pin : Bool}
    {pinned : List (VirtualAddress × FrameNumber)} {page : Page} {error : FaultError}
    (failed : (bring .none space access pin pinned page).run machine = .ok (.error error) next) :
    (next = machine ∧ (page.writable = false ∨ page.backing = .unclassified)) ∨
      page.isResident = false ∧ page.backing ≠ .unclassified ∧
        (Kernel.load .none space page pin pinned).run machine = .ok (.error error) next := by
  have loads (away : page.isResident = false)
      (failed : (Kernel.load .none space page pin pinned).run machine = .ok (.error error) next) :
      (next = machine ∧ (page.writable = false ∨ page.backing = .unclassified)) ∨
        page.isResident = false ∧ page.backing ≠ .unclassified ∧
          (Kernel.load .none space page pin pinned).run machine = .ok (.error error) next := by
    by_cases bare : page.backing = .unclassified
    · rw [load_eq] at failed
      dsimp only at failed
      rw [if_pos bare] at failed
      exact .inl ⟨(run_throw_ok.1 failed).2.symm, .inr bare⟩
    · exact .inr ⟨away, bare, failed⟩
  unfold bring at failed
  dsimp only at failed
  split at failed
  · rename_i denied
    exact .inl ⟨(run_throw_ok.1 failed).2.symm, .inl (by simpa using denied.2)⟩
  · cases state : page.state with
    | resident frame =>
      rw [state] at failed
      cases pin with
      | false => cases (run_pure_ok.1 failed).1
      | true =>
        have failed : (ExceptT.lift (pinResident space page.addr) : Faulting _).run machine = _ := failed
        rw [ExceptT.run_lift, ← bind_pure_comp] at failed
        obtain ⟨_, _, _, same⟩ := bind_ok.1 failed
        cases (pure_ok.1 same).1
    | unloaded | swapped =>
      rw [state] at failed
      exact loads (by rw [Page.isResident, Page.frame?, state]; rfl) failed

section
variable [SecondChance] {spaces : Nat} {trusting clean : Prop} {pool : FramePool} {machine : Machine}
  {attempt : Attempt} {ledger : Ledger}

structure Attempt.Sets (attempt : Attempt) (spaces : Nat) (trusting clean : Prop) (pool : FramePool)
    (ledger : Ledger) : Prop extends
    UninterruptedLoading spaces trusting clean pool ⟨ledger, attempt.start⟩ where
  idle : ledger.loads = []
  owed : ledger.Owes ⟨attempt.space, attempt.pinned⟩
  aligned : attempt.pin = true → attempt.address % pageSize = 0

theorem Attempt.Sets.ends (sets : attempt.Sets spaces trusting clean pool ledger)
    (present : attempt.space < spaces) {result : Except FaultError (Option FrameNumber)} {next : Machine}
    (ran : attempt.run .none attempt.start = .ok result next) :
    ∃ last, UninterruptedLoading spaces trusting clean pool ⟨last, next⟩ ∧
      Brings ledger attempt.space (VirtualAddress.mk attempt.address).pageBase attempt.pin result
        ⟨last, next⟩ := by
  have follows : Follows (.alone spaces trusting clean) ⟨ledger, attempt.start⟩ (attempt.run .none)
      (attempt.run .none) _ :=
    Kernel.resolve_follows (Scope.tame_alone spaces trusting clean sets.idle) present sets.owed
  obtain ⟨last, path, brings⟩ := (follows sets.toReady).2 _ _ ran
  have comes : Kernel.Outcome attempt.start (attempt.run .none) _ _ :=
    Kernel.resolve_outcome sets.uninterruptedCall present
  exact ⟨last, sets.path path (comes.of_ok ran).1, brings⟩

/-- Wherever an attempt begins, loads can rely on what they rely on. -/
theorem Machine.Attempts.sets (attempts : machine.Attempts .none attempt)
    (loading : UninterruptedLoading spaces trusting clean pool ⟨{}, machine⟩)
    (present : attempt.space < spaces) :
    ∃ ledger, attempt.Sets spaces trusting clean pool ledger := by
  have balanced : Ledger.Balanced {} := rfl
  induction attempts with
  | @fault space fault stackPointer absent =>
    have path : Path Act.Alone ⟨{}, machine⟩ ⟨{}, machine.faulted space stackPointer⟩ :=
      (Scope.idles (.alone spaces trusting clean) _ (machine.idle_stats (by rfl))).trans
        (Scope.idles (.alone spaces trusting clean) _ (Machine.idle_stackPointer _ space stackPointer))
    exact ⟨{}, loading.path path (loading.houses.of_same rfl rfl rfl), rfl, balanced.owes space, nofun⟩
  | @stack space base page registry located created =>
    obtain ⟨accepted, fresh, rfl⟩ := Registry.create_ok created
    have register : Move (.register (Ledger.loads {}) space page.addr) ⟨{}, machine⟩
        ⟨{}, machine.setRegistry space ((machine.registry space).add page)⟩ :=
      .register accepted (by rw [fresh]) (by rw [fresh]) (by rw [fresh]) (by rw [fresh]; trivial)
    have path : Path Act.Alone ⟨{}, machine⟩ ⟨{}, Machine.setStackPointer
        (machine.setRegistry space ((machine.registry space).add page)) space machine.config.userTop⟩ :=
      .next (.register space page.addr) register
        (.of_move .quiet (.idle (Machine.idle_stackPointer _ space machine.config.userTop)))
    exact ⟨{}, loading.path path (loading.houses.of_same rfl rfl rfl), rfl, balanced.owes space, nofun⟩
  | first space addr access =>
    exact ⟨{}, loading, rfl, balanced.owes space, fun _ => addr.pageBase_mod⟩
  | @onward attempt frame next before pins ran ih =>
    obtain ⟨ledger, sets⟩ := ih present
    obtain ⟨last, there, kept, _⟩ := sets.ends present ran
    have base : (VirtualAddress.mk attempt.address).pageBase = ⟨attempt.address⟩ := by
      rw [VirtualAddress.pageBase, sets.aligned pins, Nat.sub_zero]
    have kept : last = ledger.keep true ⟨attempt.space, ⟨attempt.address⟩, frame⟩ := by
      rw [← base, ← pins]
      exact kept
    subst kept
    refine ⟨_, there, sets.idle, sets.owed.onward ⟨attempt.address⟩ frame, fun _ => ?_⟩
    change (attempt.address + pageSize) % pageSize = 0
    rw [Nat.add_mod_right]
    exact sets.aligned pins
  | @again attempt next before pins ran ih =>
    obtain ⟨ledger, sets⟩ := ih present
    obtain ⟨last, there, kept⟩ := sets.ends present ran
    have kept : last = ledger := kept
    subst kept
    exact ⟨last, there, sets.idle, sets.owed, sets.aligned⟩

omit [SecondChance] in
/-- A page that the stack has just grown by may be written to, so that only its load can fail. -/
theorem Attempt.Sets.grown_fails (sets : attempt.Sets spaces trusting clean pool ledger)
    (present : attempt.space < spaces)
    (found : (attempt.start.registry attempt.space).lookup ⟨attempt.address⟩ = none)
    {page : Page} {point next : Machine} {error : FaultError}
    (grew : (Kernel.growStack attempt.space ⟨attempt.address⟩).run attempt.start = .ok (.ok page) point)
    (failed : (Kernel.bring .none attempt.space attempt.access attempt.pin attempt.pinned page).run point =
      .ok (.error error) next) :
    attempt.Loads point page ∧ UninterruptedLoading spaces trusting clean pool ⟨ledger, point⟩ ∧
      (Kernel.load .none attempt.space page attempt.pin attempt.pinned).run point = .ok (.error error) next := by
  have answers : Kernel.Outcome attempt.start (Kernel.growStack attempt.space ⟨attempt.address⟩).run _
    Kernel.Never := Kernel.growStack_answers (Nat.lt_of_lt_of_le present sets.known) found
  have face := answers.of_ok grew
  split at face
  · cases face.1
  · obtain ⟨_, same, here, face, _⟩ := face
    cases same
    have writable : page.writable = true := congrArg Face.writable face
    have backing : page.backing = .zero := congrArg Face.backing face
    have follows : Follows (.alone spaces trusting clean) ⟨ledger, attempt.start⟩
        (Kernel.growStack attempt.space ⟨attempt.address⟩).run
        (Kernel.growStack attempt.space ⟨attempt.address⟩).run _ :=
      Kernel.growStack_follows ((Scope.tame_alone spaces trusting clean sets.idle).grow _) present
    obtain ⟨last, path, same, grown⟩ := (follows sets.toReady).2 _ _ grew
    have same : last = ledger := same
    subst same
    obtain ⟨registered, _, away⟩ := grown page rfl
    have houses : Kernel.Outcome attempt.start (Kernel.growStack attempt.space ⟨attempt.address⟩).run _
      Kernel.Never := Kernel.growStack_outcome sets.houses
    rcases Kernel.bring_fails failed with ⟨_, denied | bare⟩ | ⟨_, classified, failed⟩
    · rw [writable] at denied
      cases denied
    · rw [backing] at bare
      cases bare
    · have there : (point.registry attempt.space).lookup ⟨attempt.address⟩ = some page := by
        rw [Registry.lookup, ← here]
        exact registered
      exact ⟨⟨.grown found grew, there, away, classified⟩, sets.path path (houses.of_ok grew), failed⟩

omit [SecondChance] in
/-- Where an attempt fails, nothing has happened, or a load has failed. -/
theorem Attempt.Sets.fails (sets : attempt.Sets spaces trusting clean pool ledger)
    (present : attempt.space < spaces) {error : FaultError} {next : Machine}
    (failed : attempt.run .none attempt.start = .ok (.error error) next) :
    next = attempt.start ∨ ∃ point page, attempt.Loads point page ∧
      UninterruptedLoading spaces trusting clean pool ⟨ledger, point⟩ ∧
      (Kernel.load .none attempt.space page attempt.pin attempt.pinned).run point =
        .ok (.error error) next := by
  rw [Attempt.run, Kernel.resolve_eq] at failed
  have user : Kernel.Outcome attempt.start (Kernel.userAddress attempt.address).run _ Kernel.Never :=
    Kernel.userAddress_answers
  rcases Kernel.run_bind_ends.1 failed with ⟨addr, mid, asked, failed⟩ | ⟨_, refused, _⟩
  · obtain ⟨rfl, known⟩ := user.of_ok asked
    have there : addr = ⟨attempt.address⟩ := by
      split at known
      · rename_i found
        cases known
        exact VirtualAddress.eq_of_ofWord? (Option.filter_eq_some_iff.1 found).1
      · cases known
    subst there
    rw [Kernel.bringAt_eq] at failed
    cases found : (attempt.start.registry attempt.space).lookup ⟨attempt.address⟩ with
    | some page =>
      rw [found] at failed
      rcases Kernel.bring_fails failed with ⟨same, _⟩ | ⟨away, classified, failed⟩
      · exact .inl same
      · exact .inr ⟨_, page, ⟨.registered found away, found, away, classified⟩, sets.toUninterruptedLoading,
          failed⟩
    | none =>
      rw [found] at failed
      have answers : Kernel.Outcome attempt.start (Kernel.growStack attempt.space ⟨attempt.address⟩).run _
        Kernel.Never := Kernel.growStack_answers (Nat.lt_of_lt_of_le present sets.known) found
      rcases Kernel.run_bind_ends.1 failed with ⟨page, point, grew, failed⟩ | ⟨_, refused, _⟩
      · exact .inr ⟨point, page, sets.grown_fails present found grew failed⟩
      · have same := answers.of_ok refused
        split at same
        · exact .inl same.2
        · obtain ⟨_, other, _⟩ := same
          cases other
  · exact .inl (user.of_ok refused).1

omit [Lawful] in
omit [SecondChance] in
theorem Machine.spare_unpin {space : SpaceId} {frame : FrameNumber} (spare : machine.pool.free ≠ []) :
    (machine.unpin space frame).pool.free ≠ [] := by
  unfold unpin
  dsimp only
  split
  · split
    · rw [FramePool.free_giveBack]
      exact List.cons_ne_nil _ _
    · exact spare
  · exact spare

omit [SecondChance] in
/-- When its pins are dropped, a page that is in no frame stays as it is. -/
theorem LoadsUndisturbed.awaits {guard : PinGuard} {next : Machine} {space : SpaceId} {page : Page}
    (undisturbed : LoadsUndisturbed clean ⟨⟨[], guard.pins + 0⟩, machine⟩)
    (path : Path (· = .unpin) ⟨⟨[], guard.pins + 0⟩, machine⟩ ⟨{}, next⟩) (houses : next.Houses pool)
    (spare : machine.pool.free ≠ []) (found : (machine.registry space).pages.get? page.addr = some page)
    (away : page.isResident = false) (classified : page.backing ≠ .unclassified) :
    next.Awaits pool space page := by
  have moved : Path Act.Alone ⟨⟨[], guard.pins + 0⟩, machine⟩ ⟨{}, next⟩ :=
    path.widen fun _ same => same ▸ .unpin
  have after : LoadsUndisturbed clean ⟨{}, next⟩ :=
    moved.keeps (LoadsUndisturbed clean) undisturbed fun alone move undisturbed => undisturbed.move move alone
  refine { after.toLoadable with houses, away, classified, spare := ?_, found := ?_ }
  · refine path.keeps (fun now => now.machine.pool.free ≠ []) spare fun only move spare => ?_
    subst only
    cases move
    exact Machine.spare_unpin spare
  · obtain ⟨pinned, there⟩ := (path.unmoved undisturbed.toConsistent).pages found
    have unpinned : page.pinned = false := (undisturbed.sound space).unpinned found away
    have still : pinned = false := (after.sound space).unpinned there away
    rw [still, ← unpinned] at there
    exact there

omit [Architecture] [Lawful] [SecondChance] in
/-- Where no load is under way, nothing but the guard of the call is held. -/
theorem Ledger.Owes.alone {guard : PinGuard} (owed : ledger.Owes guard) (idle : ledger.loads = []) :
    ledger = ⟨[], guard.pins + 0⟩ := by
  obtain ⟨flights, pins⟩ := ledger
  have none : flights = [] := List.map_eq_nil_iff.1 idle
  subst none
  have owed : pins = guard.pins + 0 := owed
  rw [owed]

theorem Attempt.Sets.leaves_no_trace {point next : Machine} {page : Page} {error : FaultError}
    (sets : attempt.Sets spaces trusting clean pool ledger)
    (loading : UninterruptedLoading spaces trusting clean pool ⟨ledger, point⟩)
    (present : attempt.space < spaces) (loads : attempt.Loads point page)
    (failed : (Kernel.load .none attempt.space page attempt.pin attempt.pinned).run point =
      .ok (.error error) next) : attempt.LeavesNoTrace point page next := by
  have found : (point.registry attempt.space).pages.get? page.addr = some page := by
    rw [(loading.sound attempt.space).keyed loads.found]
    exact loads.found
  obtain ⟨index, victim, gives⟩ := Kernel.load_gives_up loading.uninterruptedCall loading.loadsUndisturbed.owned
    loading.loadsUndisturbed.marked present sets.owed found loads.away loads.classified failed
  refine ⟨⟨index, victim, gives⟩, ?_⟩
  -- The load was a run of moves, so that what could be relied on before can be relied on after it.
  have follows : Follows (.alone spaces trusting clean) ⟨ledger, point⟩
      (Kernel.load .none attempt.space page attempt.pin attempt.pinned).run
      (Kernel.load .none attempt.space page attempt.pin attempt.pinned).run _ :=
    Kernel.load_follows (Scope.tame_alone spaces trusting clean sets.idle) present sets.owed found loads.away
  obtain ⟨last, path, brings⟩ := (follows loading.toReady).2 _ _ failed
  have same : last = ledger := brings
  subst same
  have comes : Kernel.Outcome point (Kernel.load .none attempt.space page attempt.pin attempt.pinned).run _ _ :=
    Kernel.load_outcome loading.uninterruptedCall present found loads.away
  have after := loading.path path (comes.of_ok failed).1
  obtain rfl := sets.owed.alone sets.idle
  obtain ⟨last, dropped, path⟩ := Kernel.dropGuard_ends after.toConsistent
  let guard : PinGuard := ⟨attempt.space, attempt.pinned⟩
  have held : Ledger.mk [] (guard.pins + 0) = { ({} : Ledger) with pins := guard.pins + Ledger.pins {} } := rfl
  have has : ∀ page ∈ guard.pages, pool.Has page.2 := Kernel.has_guarded after.uninterruptedCall held
  have houses : Kernel.Outcome next (Kernel.dropGuard guard) _ Kernel.Never :=
    Kernel.dropGuard_outcome after.houses has
  have spare : next.pool.free ≠ [] := by
    cases gives.yields with
    | free _ free | evicted _ free =>
      rw [free]
      exact List.cons_ne_nil _ _
  have awaits : last.Awaits pool attempt.space page :=
    after.loadsUndisturbed.awaits path (houses.of_ok dropped) spare gives.kept loads.away loads.classified
  exact ⟨last, dropped, awaits.recovers⟩

end

/-! Runs. -/

/-- Between operations loads can rely on what they rely on, if callers leave slots alone. -/
theorem Reached.loadable {rule : Rule} {machine : Machine}
    (unrepeated : ∀ {loads machine op after}, rule loads machine op after →
      Rule.unrepeated loads machine op after)
    (reached : Reached rule [] machine) (backed : machine.Backed) :
    BetweenOperations rule ⟨{}, machine⟩ ∧ Loadable ⟨{}, machine⟩ := by
  have sensible : rule.Sensible :=
    ⟨fun allowed => (unrepeated allowed).1, fun allowed => (unrepeated allowed).2.1⟩
  have apart : rule.Unrepeated := fun allowed => (unrepeated allowed).2.2.2
  obtain ⟨ledger, none, between, placed, traced, owned, marked, backs⟩ := Reached.keeps
    (fun now => now.machine.swap.OnDisk ∧ Traced now ∧ Owned now.machine ∧ now.machine.Marked ∧
      ∀ space addr page, (now.machine.registry space).pages.get? addr = some page →
        now.machine.Backs page.backing)
    sensible
    (fun booted => by
      obtain ⟨_, _, opened, _, rfl⟩ := Machine.boot_ok booted
      exact ⟨SwapStore.onDisk_ofDisk opened, fun _ member => absurd member List.not_mem_nil, .opened opened rfl,
        ⟨fun found => absurd found nofun⟩, fun _ _ _ found => absurd found nofun⟩)
    (fun lets move consistent sectors ⟨placed, traced, owned, marked, backs⟩ => by
      have untampered := lets.not_tamper fun allowed => (unrepeated allowed).2.2.1
      exact ⟨placed.of_shape move.sizes.2.2, traced.move move consistent apart lets,
        owned.stows (move.stows untampered consistent traced sectors), marked.move move consistent,
        fun _ _ _ found => move.kept_backs consistent (fun found => backs _ _ _ found) found⟩)
    (fun _ _ _ ⟨placed, traced, owned, marked, backs⟩ =>
      ⟨placed, traced, ⟨owned.occupied, owned.single⟩, ⟨marked.agrees⟩, backs⟩) reached
  obtain rfl : ledger = {} := between.balanced.empty none
  have carries : ∀ flight ∈ Ledger.flights {}, flight.Carries machine := fun _ member =>
    absurd member List.not_mem_nil
  have filled : ∀ {space addr page frame}, (machine.registry space).pages.get? addr = some page →
      page.state = .resident frame → machine.Fills frame := by
    intro space addr page frame found resident
    obtain ⟨index, member, named, _⟩ := between.held.placed
      (Registry.placement_eq_some.2 ⟨page, found, resident, rfl⟩ : machine.placement space addr = _)
    obtain ⟨bytes, read, whole⟩ := backed index (between.held.sound.within (between.held.sound.ring.1 member).1)
    have named : frame = machine.pool.number index := named
    rw [← named] at read
    exact ⟨bytes, read, Nat.le_of_eq whole.symm⟩
  have supplied : Supplied ⟨{}, machine⟩ :=
    ⟨between.toConsistent, between.sectors, traced, owned, backs _ _ _, carries, filled⟩
  exact ⟨between, supplied, placed, marked⟩

/-- A failed load leaves no trace. Where an operation fails to bring in a page, nothing has happened to this
end, or a load has failed. What the load has obtained is given up then, the page is as it was, no other page but
one has left its frame, and none holds other bytes, unless that page was not marked as dirty when others than the
process and copies had written to it. When what the page is loaded from has been put right, the page comes in. -/
theorem Reached.failed_loads [SecondChance] {rule : Rule} {machine next : Machine} {attempt : Attempt}
    {error : FaultError} (unrepeated : ∀ {loads machine op after}, rule loads machine op after →
      Rule.unrepeated loads machine op after)
    (sanity : Sanity rule.Trusting) (reached : Reached rule [] machine) (backed : machine.Backed)
    (present : attempt.space < machine.spaces.length) (attempts : machine.Attempts .none attempt)
    (failed : attempt.run .none attempt.start = .ok (.error error) next) :
    next = attempt.start ∨ ∃ point page, attempt.Loads point page ∧
      (Kernel.load .none attempt.space page attempt.pin attempt.pinned).run point = .ok (.error error) next ∧
      attempt.LeavesNoTrace point page next ∧
      (Reached .entrusted [] machine → ∀ {owner addr}, ¬point.Forgets next owner addr) := by
  obtain ⟨between, loadable⟩ := reached.loadable unrepeated backed
  have undisturbed : LoadsUndisturbed (Reached .entrusted [] machine) ⟨{}, machine⟩ := by
    refine ⟨loadable, fun entrusted => ?_⟩
    obtain ⟨ledger, none, balanced, kept⟩ := entrusted.tended
    obtain rfl : ledger = {} := balanced.empty none
    exact kept
  have houses : machine.Houses machine.pool := (between.uninterruptedCall sanity loadable.placed backed).houses
  have loading : UninterruptedLoading machine.spaces.length rule.Trusting
      (Reached .entrusted [] machine) machine.pool
      ⟨{}, machine⟩ :=
    ⟨⟨between.toConsistent, Nat.le_refl _, Nat.zero_le _, between.sectors, between.mapped, undisturbed⟩, sanity,
      houses⟩
  obtain ⟨ledger, sets⟩ := attempts.sets loading present
  rcases sets.fails present failed with same | ⟨point, page, loads, there, failed⟩
  · exact .inl same
  · have trace := sets.leaves_no_trace there present loads failed
    refine .inr ⟨point, page, loads, failed, trace, fun entrusted owner addr forgets => ?_⟩
    obtain ⟨_, _, _, _, exposed, _⟩ := forgets
    exact (there.loadsUndisturbed.pristine entrusted).2 exposed

end

section
attribute [local instance] Architecture.small

/-- The pages of two files and a zero page, where there is room for two. The kernel writes into the frame of the
first, which it has pinned, and the file of the second is too short. -/
def shortHandedOps : List Op :=
  [.createSpace none ⟨0, []⟩, .openFile (List.replicate 16 119) .working, .openFile [7, 7, 7, 7] .working,
    .registerSegment 0 0 0 0x1000 16 0 true, .registerSegment 0 1 0 0x1010 16 0 true,
    .registerZero 0 0x1020 1 true, .pin 0 0x1000 16 .write, .writeFrame 4 [1, 2, 3], .unpin 0,
    .touch 0 0x1020 .read]

def shortHanded : Machine := shortHandedOps.foldl Machine.undisturbed twoFrames

theorem shortHanded_backed : shortHanded.Backed := by
  have whole : ∀ index < shortHanded.pool.capacity,
      (shortHanded.memory.read (shortHanded.pool.number index)).toOption.map List.length = some pageSize := by
    decide +kernel
  intro index inside
  have whole := whole index inside
  cases read : shortHanded.memory.read (shortHanded.pool.number index) with
  | ok bytes =>
    rw [read] at whole
    exact ⟨bytes, rfl, Option.some.inj whole⟩
  | error cause =>
    rw [read] at whole
    cases whole

theorem shortHanded_reached : Reached .careful [] shortHanded :=
  twoFrames_reached.carried Rule.careful_idle (by decide +kernel)

def shortHandedAttempt : Attempt :=
  ⟨0, 0x1010, .read, false, [], shortHanded.faulted 0 0x8000⟩

def shortHandedAfter : Machine := (shortHandedAttempt.run .none).leaves shortHandedAttempt.start

theorem shortHanded_fails : shortHandedAttempt.run .none shortHandedAttempt.start =
    .ok (.error (.shortRead ⟨0x1010⟩ 16 4)) shortHandedAfter :=
  have answered : (shortHandedAttempt.run .none).answer? shortHandedAttempt.start =
      some (.error (.shortRead ⟨0x1010⟩ 16 4)) := by decide +kernel
  Kernel.ok_of_answer? answered

/-- The second page cannot be loaded, and its load leaves no trace. -/
theorem shortHanded_leaves_no_trace :
    Reached .careful [] shortHanded ∧ Sanity Rule.careful.Trusting ∧ shortHanded.Backed ∧
      shortHandedAttempt.space < shortHanded.spaces.length ∧ shortHanded.Attempts .none shortHandedAttempt ∧
      shortHandedAttempt.run .none shortHandedAttempt.start =
        .ok (.error (.shortRead ⟨0x1010⟩ 16 4)) shortHandedAfter ∧
      ∃ point page, shortHandedAttempt.Loads point page ∧
        shortHandedAttempt.LeavesNoTrace point page shortHandedAfter := by
  have sanity : Sanity Rule.careful.Trusting := .inl fun allowed => allowed.2
  have present : shortHandedAttempt.space < shortHanded.spaces.length := by decide +kernel
  have attempts : shortHanded.Attempts .none shortHandedAttempt :=
    @Machine.Attempts.fault _ shortHanded .none 0 ⟨0x1010, .read, false⟩ 0x8000 rfl
  refine ⟨shortHanded_reached, sanity, shortHanded_backed, present, attempts, shortHanded_fails, ?_⟩
  rcases shortHanded_reached.failed_loads And.left sanity shortHanded_backed present attempts
    shortHanded_fails with same | ⟨point, page, loads, _, trace, _⟩
  · have freed : shortHandedAfter.pool.free.length = 1 := by decide +kernel
    have spent : shortHandedAttempt.start.pool.free.length = 0 := by decide +kernel
    rw [same, spent] at freed
    cases freed
  · exact ⟨point, page, loads, trace⟩

/-- The first page had to leave its frame for that. It was not marked as dirty, and what the kernel had written
is lost. -/
theorem shortHanded_forgets :
    Reached .careful [] shortHanded ∧ shortHanded.Attempts .none shortHandedAttempt ∧
      shortHandedAttempt.run .none shortHandedAttempt.start =
        .ok (.error (.shortRead ⟨0x1010⟩ 16 4)) shortHandedAfter ∧
      shortHandedAttempt.start.heldByte? 0 ⟨0x1000⟩ = some 1 ∧
      shortHandedAfter.heldByte? 0 ⟨0x1000⟩ = some 119 :=
  ⟨shortHanded_reached, @Machine.Attempts.fault _ shortHanded .none 0 ⟨0x1010, .read, false⟩ 0x8000 rfl,
    shortHanded_fails, by decide +kernel, by decide +kernel⟩

end

end DemandPaging
