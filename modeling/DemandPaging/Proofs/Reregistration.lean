import DemandPaging.Proofs.Bijection

/-! What becomes of a load whose page is registered anew while it waits. A load tells its page from a
later one at the same address by the generation alone, and every registration starts from generation
zero. So a load attaches to a later page just if that page has come through as many changes as its
own had when the load began. -/
namespace DemandPaging
open Architecture (Lawful)

section
variable [Architecture]

omit [Architecture] in
theorem Registry.isStale_iff {registry : Registry} {snapshot : Page} :
    registry.isStale snapshot = true ↔ ∀ now, registry.pages.get? snapshot.addr = some now →
      now.generation ≠ snapshot.generation := by
  rw [isStale, Option.isNone_iff_eq_none]
  constructor
  · intro none now found same
    have current : registry.current? snapshot = some now :=
      Option.filter_eq_some_iff.2 ⟨found, beq_iff_eq.2 same⟩
    rw [none] at current
    cases current
  · intro differ
    cases current : registry.current? snapshot with
    | none => rfl
    | some now =>
      obtain ⟨found, same⟩ := Consistent.current?_eq_some current
      exact absurd same (differ now found)

namespace Kernel

/-- A load that ends: it obtains `frame` and leaves the machine at `taken`, its reading ends at `mid`
after all that other parties did meanwhile, and it settles. -/
structure LoadRun (others : Interference) (load : Load) (pin : Bool) (start taken : Machine)
    (outcome : Except FaultError Unit) (mid : Machine)
    (result : Except FaultError (Option FrameNumber)) (next : Machine) : Prop where
  classified : load.page.backing ≠ .unclassified
  allocated : allocate load.space false start = .ok load.frame taken
  read : (populate others load).run taken = .ok outcome mid
  settled : (conclude load pin outcome).run mid = .ok result next

theorem loadRun_iff {others : Interference} {space : SpaceId} {page : Page} {pin : Bool}
    {pinned : List (VirtualAddress × FrameNumber)} {start next : Machine}
    {result : Except FaultError (Option FrameNumber)} (classified : page.backing ≠ .unclassified) :
    (Kernel.load others space page pin pinned).run start = .ok result next ↔
      ∃ frame taken outcome mid,
        LoadRun others ⟨space, page, frame, pinned⟩ pin start taken outcome mid result next := by
  rw [load_eq]
  dsimp only
  rw [if_neg classified]
  constructor
  · intro ran
    obtain ⟨frame, taken, allocated, ran⟩ := run_lift_ok.1 ran
    obtain ⟨outcome, mid, read, settled⟩ := run_lift_ok.1 ran
    exact ⟨frame, taken, outcome, mid, classified, allocated, read, settled⟩
  · rintro ⟨frame, taken, outcome, mid, run⟩
    exact run_lift_ok.2 ⟨_, _, run.allocated, run_lift_ok.2 ⟨_, _, run.read, run.settled⟩⟩

variable [Lawful] {scope : Scope} {start : Moment} {others : Interference} {load : Load} {pin : Bool}
  {taken mid next : Machine} {outcome : Except FaultError Unit}
  {result : Except FaultError (Option FrameNumber)}

/-- The way of a load to the end of its reading, and how it settles there. -/
theorem LoadRun.settles (run : LoadRun others load pin start.machine taken outcome mid result next)
    (ready : scope.Ready start) (mannered : Mannered scope start.ledger.loads others others)
    (present : load.space < scope.spaces)
    (owed : start.ledger.Owes ⟨load.space, load.pinned⟩)
    (current : (start.machine.registry load.space).pages.get? load.page.addr = some load.page)
    (away : load.page.isResident = false) :
    ∃ arrived, Path scope.may start
        ⟨⟨⟨load, arrived⟩ :: start.ledger.flights, start.ledger.pins⟩, mid⟩ ∧
      (outcome = .ok () → arrived = pageSize) ∧ mid.Settles load pin outcome result next := by
  obtain ⟨last, path, ledger, _⟩ :=
    (allocate_follows present current away run.classified load.pinned ready).2 _ _ run.allocated
  have ledger : last = { start.ledger with flights := ⟨load, 0⟩ :: start.ledger.flights } := ledger
  subst ledger
  have there := ready.path path
  have fair := there.fair load (.head _)
  obtain ⟨last, further, arrived, ledger, done⟩ :=
    (populate_follows mannered away fair.fits rfl rfl owed there).2 _ _ run.read
  have ledger : last = ⟨⟨load, arrived⟩ :: start.ledger.flights, start.ledger.pins⟩ := ledger
  subst ledger
  have here := there.path further
  exact ⟨arrived, path.trans further, done, conclude_ok here rfl run.settled⟩

end Kernel

variable [Lawful] {others : Interference} {load : Load} {pin : Bool}
  {taken mid next : Machine} {outcome : Except FaultError Unit}
  {result : Except FaultError (Option FrameNumber)}

omit [Lawful] in
/-- What a load makes of the page that is registered at its address when its reading has ended at
`mid`, of whichever registration that page is. -/
structure Kernel.LaterPage (load : Load) (pin : Bool) (outcome : Except FaultError Unit)
    (mid : Machine) (result : Except FaultError (Option FrameNumber)) (next : Machine) : Prop where
  stale_iff : (mid.registry load.space).isStale load.page = true ↔
    ∀ now, (mid.registry load.space).pages.get? load.page.addr = some now →
      now.generation ≠ load.page.generation
  /-- If there is no such page, or one of another generation, the load only takes its frame back. -/
  lost : (mid.registry load.space).isStale load.page = true → result = .ok none ∧
    next = { mid with pool := mid.pool.withdraw (load.frame.value - mid.pool.base.value) }
  /-- If there is one of the same generation, and the contents could be read and mapped, it becomes
  resident with what the load has read, and the slot that this came from is freed. -/
  taken : ∀ now, (mid.registry load.space).pages.get? load.page.addr = some now →
    now.generation = load.page.generation → outcome = .ok () →
    ∀ first directory, load.frame.start = .ok first →
      Architecture.install (mid.directory load.space) load.page.addr first now.writable =
        (.ok (), directory) →
      result = .ok (some load.frame) ∧
      (next.registry load.space).pages.get? load.page.addr = some { now with
        state := .resident load.frame, pinned := pin, generation := now.generation + 1 } ∧
      next.memory = mid.memory ∧
      next.swap = match load.page.state with
        | .swapped slot => (mid.swap.free slot).2
        | _ => mid.swap

/-- A load takes a later page for its own just if the generations are the same. -/
theorem Reached.later_page {loads : List Load} {machine : Machine}
    (reached : Reached .offered loads machine) (orderly : others.Orderly .offered loads machine)
    (present : load.space < machine.spaces.length)
    (current : (machine.registry load.space).pages.get? load.page.addr = some load.page)
    (away : load.page.isResident = false) (first : load.pinned = [])
    (run : Kernel.LoadRun others load pin machine taken outcome mid result next) :
    Kernel.LaterPage load pin outcome mid result next := by
  obtain ⟨ledger, rfl, between, _⟩ := Reached.keeps (fun _ => True) Rule.sensible_offered
    (fun _ => trivial) (fun _ _ _ _ _ => trivial) (fun _ _ _ _ => trivial) reached
  have start : BetweenOperations .offered ⟨ledger, machine⟩ := between
  have moves : others.Moves .offered ⟨ledger, machine⟩ := orderly.moves Rule.sensible_offered
  have ready : (Rule.offered.scope ⟨ledger, machine⟩ fun _ => False).Ready ⟨ledger, machine⟩ :=
    start.ready
  have owed : ledger.Owes ⟨load.space, load.pinned⟩ := first ▸ between.balanced.owes load.space
  obtain ⟨arrived, path, _, settles⟩ := Kernel.LoadRun.settles run ready
    (moves.tame rfl fun _ _ _ _ _ => .inl rfl).toMannered present owed current away
  have there := ready.path path
  refine ⟨Registry.isStale_iff, fun stale => ?_, fun now found same read first directory begins maps => ?_⟩
  · -- Nothing is attached to a page that is not current.
    have gone : (mid.registry load.space).current? load.page = none := by
      simpa [Registry.isStale] using stale
    cases settles with
    | lost => exact ⟨rfl, rfl⟩
    | failed fresh =>
      rw [stale] at fresh
      cases fresh
    | refused current | attached current =>
      rw [gone] at current
      cases current
  · have here : (mid.registry load.space).current? load.page = some now :=
      Option.filter_eq_some_iff.2 ⟨found, beq_iff_eq.2 same⟩
    have keyed : now.addr = load.page.addr := (there.sound load.space).keyed found
    subst read
    cases settles with
    | lost stale =>
      rw [Registry.isStale, here] at stale
      cases stale
    | @refused page other error refusing current starts refused =>
      rw [here] at current
      cases current
      rw [begins] at starts
      cases starts
      rw [keyed, maps] at refused
      cases refused
    | @attached page other mapped log current starts installed more =>
      rw [here] at current
      cases current
      have known : load.space < mid.spaces.length := Nat.lt_of_lt_of_le present there.known
      refine ⟨rfl, ?_, rfl, rfl⟩
      change ((mid.arrive load now mapped pin).registry load.space).pages.get? _ = _
      have settled : (mid.arrive load now mapped pin).registry load.space =
          (mid.registry load.space).settle now load.frame pin :=
        Machine.registry_setRegistry_self _ _ known
      rw [settled, ← keyed]
      exact SortedMap.get?_insert_self _ _ _

end

section
attribute [local instance] Architecture.small

/-- While a page is loaded from its file, it is given up and a zero page is registered in its place. -/
def replacing : Interference :=
  .performing [.release 0 0x1000, .registerZero 0 0x1000 1 true] []

def filePage : Page where
  addr := ⟨0x1000⟩
  backing := .file ⟨0, 0, 16⟩
  writable := true

theorem later_page_replacing : ∃ frame taken outcome mid result next,
    Kernel.LoadRun replacing ⟨0, filePage, frame, []⟩ false fileMapped taken outcome mid result next ∧
      Kernel.LaterPage ⟨0, filePage, frame, []⟩ false outcome mid result next := by
  have well : (Kernel.load replacing 0 filePage false []).run.endsWell fileMapped = true := by
    decide +kernel
  obtain ⟨_, ended⟩ := Kernel.ok_of_endsWell well
  obtain ⟨frame, taken, outcome, mid, run⟩ := (Kernel.loadRun_iff (by decide)).1 ended
  have present : 0 < fileMapped.spaces.length := by decide +kernel
  have current : (fileMapped.registry 0).pages.get? ⟨0x1000⟩ = some filePage := by decide +kernel
  exact ⟨frame, taken, outcome, mid, _, _, run, Reached.later_page fileMapped_reached
    (Interference.orderly_performing _ _ _ _) present current rfl rfl run⟩

/-- A zero page that was registered while a page of a file was being loaded becomes resident with the
bytes of the file. -/
theorem replaced_page_holds_file :
    (fileMapped.registry 0).pages.get? ⟨0x1000⟩ = some filePage ∧
    (((Kernel.perform replacing (.fault 0 ⟨0x1000, .read, false⟩ none)).leaves fileMapped).registry
      0).pages.get? ⟨0x1000⟩ = some ⟨⟨0x1000⟩, .zero, true, false, .resident ⟨4⟩, 1⟩ ∧
    ((Kernel.perform replacing (.fault 0 ⟨0x1000, .read, false⟩ none)).leaves
      fileMapped).memory.read ⟨4⟩ = .ok (List.replicate 16 7) := by
  decide +kernel

end

end DemandPaging
