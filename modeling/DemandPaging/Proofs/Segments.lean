import DemandPaging.Kernel.Spaces
import DemandPaging.Proofs.Faults
import DemandPaging.Session.Perform

/-! Registering pages as moves: each page of a run is registered by itself, and a segment that fails
leaves the registry as it was. -/
namespace DemandPaging
open Architecture (Lawful)

def VirtualAddress.page [Geometry] (addr : VirtualAddress) (i : Nat) : VirtualAddress :=
  ⟨addr.value + i * pageSize⟩

theorem VirtualAddress.page_injective [Geometry] {addr : VirtualAddress} {i j : Nat}
    (same : addr.page i = addr.page j) : i = j := by
  have equal := Nat.add_left_cancel (congrArg VirtualAddress.value same)
  exact Nat.eq_of_mul_eq_mul_right pageSize_pos equal

theorem VirtualAddress.add_ok [Geometry] {addr page : VirtualAddress} {i : Nat}
    (found : addr.add (i * pageSize) = .ok page) : page = addr.page i := by
  unfold VirtualAddress.add Word.add VirtualAddress.ofWord at found
  split at found
  · change (if _ then _ else _) = _ at found
    split at found
    · cases found
      rfl
    · cases found
  · cases found

theorem Machine.backs_ofParts [Architecture] {machine : Machine} {file : FileId}
    {offset readBytes : Nat} {segment : FileSegment} (opened : file < machine.files.length)
    (made : FileSegment.ofParts file offset readBytes = .ok segment) :
    machine.Backs (.file segment) := by
  unfold FileSegment.ofParts at made
  split at made
  · rename_i within
    cases made
    exact ⟨within, opened⟩
  · cases made

namespace Registry
variable [Architecture] {registry start : Registry} {addr : VirtualAddress} {count : Nat}

structure Grown (start : Registry) (addr : VirtualAddress) (count : Nat) (registry : Registry) :
    Prop where
  holders : registry.holders = start.holders
  absent : ∀ i, i < count → start.pages.get? (addr.page i) = none
  unloaded : ∀ i, i < count → ∃ page, registry.pages.get? (addr.page i) = some page ∧
    page.state = .unloaded
  others : ∀ other, (∀ i, i < count → other ≠ addr.page i) →
    registry.pages.get? other = start.pages.get? other

theorem Grown.zero : Grown start addr 0 start where
  holders := rfl
  absent _ less := absurd less (Nat.not_lt_zero _)
  unloaded _ less := absurd less (Nat.not_lt_zero _)
  others _ _ := rfl

theorem Grown.get?_next (grown : Grown start addr count registry) :
    registry.pages.get? (addr.page count) = start.pages.get? (addr.page count) :=
  grown.others _ fun _ less same => Nat.ne_of_gt less (VirtualAddress.page_injective same)

/-- One more page is put in. -/
theorem Grown.add (grown : Grown start addr count registry) {page : Page}
    (here : page.addr = addr.page count) (accepted : registry.refusal? page.addr = none)
    (unloaded : page.state = .unloaded) : Grown start addr (count + 1) (registry.add page) where
  holders := grown.holders
  absent i less := by
    rcases Nat.lt_succ_iff_lt_or_eq.1 less with less | rfl
    · exact grown.absent i less
    · rw [← grown.get?_next, ← here]
      exact (refusal?_eq_none accepted).1
  unloaded i less := by
    rcases Nat.lt_succ_iff_lt_or_eq.1 less with less | rfl
    · obtain ⟨old, found, state⟩ := grown.unloaded i less
      refine ⟨old, ?_, state⟩
      have differ : page.addr ≠ addr.page i := by
        rw [here]
        exact fun same => Nat.ne_of_gt less (VirtualAddress.page_injective same)
      rw [Registry.add, SortedMap.get?_insert_of_ne _ _ differ]
      exact found
    · exact ⟨page, by rw [← here, Registry.add, SortedMap.get?_insert_self], unloaded⟩
  others other apart := by
    have differ : page.addr ≠ other := by
      rw [here]
      exact (apart count (Nat.lt_succ_self _)).symm
    rw [Registry.add, SortedMap.get?_insert_of_ne _ _ differ]
    exact grown.others other fun i less => apart i (Nat.lt_succ_of_lt less)

theorem Grown.get?_removePages (grown : Grown start addr count registry) {n : Nat} (within : n ≤ count) :
    (registry.removePages addr n).holders = registry.holders ∧
      ∀ other, (registry.removePages addr n).pages.get? other =
        if ∃ i, i < n ∧ other = addr.page i then none else registry.pages.get? other := by
  induction n with
  | zero =>
    refine ⟨rfl, fun other => ?_⟩
    rw [if_neg fun ⟨_, less, _⟩ => absurd less (Nat.not_lt_zero _)]
    rfl
  | succ n ih =>
    obtain ⟨holders, pages⟩ := ih (Nat.le_of_succ_le within)
    obtain ⟨page, found, state⟩ := grown.unloaded n within
    have present : (registry.removePages addr n).pages.get? (addr.page n) = some page := by
      rw [pages, if_neg fun ⟨i, less, same⟩ =>
        Nat.ne_of_gt less (VirtualAddress.page_injective same), found]
    have next : registry.removePages addr (n + 1) =
        { registry.removePages addr n with
          pages := (registry.removePages addr n).pages.erase (addr.page n) } := by
      have removed : (registry.removePages addr n).remove ⟨addr.value + n * pageSize⟩ = .ok (page,
          { registry.removePages addr n with
            pages := (registry.removePages addr n).pages.erase (addr.page n) }) := by
        change (registry.removePages addr n).remove (addr.page n) = _
        simp only [remove, present, if_pos state]
      rw [removePages, List.range_succ, List.foldl_append, List.foldl_cons, List.foldl_nil,
        ← removePages]
      rw [removed]
    rw [next]
    refine ⟨holders, fun other => ?_⟩
    by_cases here : addr.page n = other
    · rw [here, SortedMap.get?_erase_self, if_pos ⟨n, Nat.lt_succ_self n, here.symm⟩]
    · rw [SortedMap.get?_erase_of_ne _ here, pages]
      refine if_congr ⟨?_, ?_⟩ rfl rfl
      · rintro ⟨i, less, same⟩
        exact ⟨i, Nat.lt_succ_of_lt less, same⟩
      · rintro ⟨i, less, same⟩
        rcases Nat.lt_succ_iff_lt_or_eq.1 less with less | rfl
        · exact ⟨i, less, same⟩
        · exact absurd same.symm here

theorem Grown.removePages (grown : Grown start addr count registry) :
    registry.removePages addr count = start := by
  obtain ⟨holders, pages⟩ := grown.get?_removePages (Nat.le_refl count)
  have same : (registry.removePages addr count).pages = start.pages := SortedMap.ext fun other => by
    rw [pages]
    split
    · rename_i inside
      obtain ⟨i, less, rfl⟩ := inside
      exact (grown.absent i less).symm
    · rename_i outside
      exact grown.others other fun i less equal => outside ⟨i, less, equal⟩
  rw [grown.holders] at holders
  generalize registry.removePages addr count = after at same holders
  obtain ⟨_, _⟩ := after
  cases same
  cases holders
  rfl

end Registry

variable [Architecture] [Lawful] {scope : Scope} {start : Moment} {space : SpaceId}

namespace Kernel

/-- One page more is registered, in a registry that stands for that of the space. -/
theorem add_moves {registry : Registry} {page : Page} (present : space < start.machine.spaces.length)
    (path : Path scope.may start ⟨start.ledger, start.machine.setRegistry space registry⟩)
    (accepted : registry.refusal? page.addr = none)
    (allowed : scope.may (.register start.ledger.loads space page.addr))
    (unloaded : page.state = .unloaded) (first : page.generation = 0) (free : page.pinned = false)
    (backs : start.machine.Backs page.backing) :
    Path scope.may start ⟨start.ledger, start.machine.setRegistry space (registry.add page)⟩ := by
  have here := start.machine.registry_setRegistry_self registry present
  have move : Move (.register start.ledger.loads space page.addr)
      ⟨start.ledger, start.machine.setRegistry space registry⟩ ⟨start.ledger, _⟩ :=
    .register (by rw [here]; exact accepted) unloaded first free backs
  rw [here, Machine.setRegistry_setRegistry] at move
  exact path.trans (.of_move allowed move)

/-- The pages of a segment are registered one by one, or none of them is. -/
theorem createPages_moves {addr : VirtualAddress} {file : FileId} {offset readBytes done : Nat}
    {writable : Bool} {remaining : Nat} {registry after : Registry}
    {outcome : Except RegistryError Unit} (present : space < start.machine.spaces.length)
    (opened : file < start.machine.files.length)
    (allowed : outcome = .ok () → ∀ i, i < done + remaining →
      (start.machine.registry space).pages.get? (addr.page i) = none →
      scope.may (.register start.ledger.loads space (addr.page i)))
    (grown : Registry.Grown (start.machine.registry space) addr done registry)
    (path : outcome = .ok () →
      Path scope.may start ⟨start.ledger, start.machine.setRegistry space registry⟩)
    (created : Registry.createPages addr file offset readBytes writable done remaining registry =
      .ok (outcome, after)) :
    Path scope.may start ⟨start.ledger, start.machine.setRegistry space after⟩ := by
  induction remaining generalizing done registry with
  | zero =>
    cases created
    exact path rfl
  | succ remaining ih =>
    unfold Registry.createPages at created
    obtain ⟨first, _, created⟩ := Fatal.bind_ok.1 created
    obtain ⟨segment, made, created⟩ := Fatal.bind_ok.1 created
    obtain ⟨page, found, created⟩ := Fatal.bind_ok.1 created
    have here := VirtualAddress.add_ok found
    cases refused : registry.refusal? page with
    | some error =>
      simp only [refused] at created
      cases created
      rw [grown.removePages, Machine.setRegistry_registry]
      exact .refl start
    | none =>
      simp only [refused] at created
      have fresh : (start.machine.registry space).pages.get? (addr.page done) = none := by
        rw [← grown.get?_next, ← here]
        exact (Registry.refusal?_eq_none refused).1
      refine ih (fun accepted i within => allowed accepted i (by omega)) (grown.add here refused rfl)
        (fun accepted => ?_) created
      refine add_moves present (path accepted) refused ?_ rfl rfl rfl
        (Machine.backs_ofParts opened made)
      change scope.may (.register _ space page)
      rw [here]
      exact allowed accepted done (by omega) fresh

theorem createSegment_moves {addr : VirtualAddress} {file : FileId} {offset readBytes zeroBytes : Nat}
    {writable : Bool} {after : Registry} {outcome : Except RegistryError Nat}
    (present : space < start.machine.spaces.length) (opened : file < start.machine.files.length)
    (allowed : ∀ pages, outcome = .ok pages → ∀ i, i < (readBytes + zeroBytes) / pageSize →
      (start.machine.registry space).pages.get? (addr.page i) = none →
      scope.may (.register start.ledger.loads space (addr.page i)))
    (created : (start.machine.registry space).createSegment file offset addr readBytes zeroBytes
      writable = .ok (outcome, after)) :
    Path scope.may start ⟨start.ledger, start.machine.setRegistry space after⟩ := by
  have unchanged : Path scope.may start
      ⟨start.ledger, start.machine.setRegistry space (start.machine.registry space)⟩ := by
    rw [Machine.setRegistry_registry]
    exact .refl start
  unfold Registry.createSegment at created
  split at created
  · cases created
    exact unchanged
  · obtain ⟨total, added, created⟩ := Fatal.bind_ok.1 created
    have sum : total = readBytes + zeroBytes := by
      unfold Word.add at added
      split at added
      · cases added
        rfl
      · cases added
    subst sum
    split at created
    · cases created
      exact unchanged
    · obtain ⟨⟨result, registry⟩, made, created⟩ := Fatal.bind_ok.1 created
      have path := createPages_moves present opened (fun accepted i within => ?_) .zero
        (fun _ => unchanged) made
      · cases result <;> · cases created
                           exact path
      · subst accepted
        cases created
        exact allowed _ rfl i (by omega)

theorem registerSegment_follows {addr : VirtualAddress} {file : FileId}
    {offset readBytes zeroBytes : Nat} {writable : Bool} (present : space < scope.spaces)
    (opened : file < scope.files)
    (allowed : ∀ pages registry, (start.machine.registry space).createSegment file offset addr
        readBytes zeroBytes writable = .ok (.ok pages, registry) →
      ∀ i, i < (readBytes + zeroBytes) / pageSize →
        (start.machine.registry space).pages.get? (addr.page i) = none →
        scope.may (.register start.ledger.loads space (addr.page i))) :
    Follows scope start (registerSegment space file offset addr readBytes zeroBytes writable)
      (registerSegment space file offset addr readBytes zeroBytes writable)
      fun _ now => now.ledger = start.ledger := by
  refine .of_ok fun ready result next ended => ?_
  have known := Nat.lt_of_lt_of_le present ready.known
  simp only [registerSegment, bind_ok, get_ok, orStop_ok, modify_ok] at ended
  obtain ⟨_, _, ⟨rfl, rfl⟩, ⟨outcome, registry⟩, _, ⟨created, rfl⟩, _, _, rfl, ended⟩ := ended
  have path := createSegment_moves known (Nat.lt_of_lt_of_le opened ready.opened)
    (fun pages accepted => allowed pages registry (by rw [← accepted]; exact created)) created
  cases outcome with
  | error error =>
    obtain ⟨_, rfl⟩ := pure_ok.1 ended
    exact ⟨_, path, rfl⟩
  | ok pages =>
    simp only [bind_ok, emit_ok, pure_ok] at ended
    obtain ⟨_, _, rfl, _, rfl⟩ := ended
    exact ⟨_, path.trans (scope.idles _ (Machine.idle_log _ fun _ same => by cases same)), rfl⟩

theorem registerZeroPage_follows {page : VirtualAddress} {writable : Bool}
    (present : space < scope.spaces)
    (allowed : (start.machine.registry space).pages.get? page = none →
      scope.may (.register start.ledger.loads space page)) :
    Follows scope start (registerZeroPage space page writable) (registerZeroPage space page writable)
      fun _ now => now.ledger = start.ledger ∧ ∀ other, page ≠ other →
        (now.machine.registry space).pages.get? other =
          (start.machine.registry space).pages.get? other := by
  refine .of_ready fun ready => .look ?_
  have known := Nat.lt_of_lt_of_le present ready.known
  split
  · rename_i fresh registry created
    obtain ⟨accepted, rfl, rfl⟩ := Registry.create_ok created
    have move : Move (.register start.ledger.loads space page) start ⟨start.ledger, _⟩ :=
      @Move.register _ _ _ _ _ ⟨page, .zero, writable, false, .unloaded, 0⟩ accepted rfl rfl rfl trivial
    refine (Follows.move start.ledger (allowed (Registry.refusal?_eq_none accepted).1)
      fun _ => move).bind fun _ now registered => .ret ?_
    subst registered
    refine ⟨rfl, fun other differ => ?_⟩
    dsimp only
    rw [start.machine.registry_setRegistry_self _ known, Registry.add,
      SortedMap.get?_insert_of_ne _ _ differ]
  · exact .ret ⟨rfl, fun _ _ => rfl⟩

theorem registerZero_follows {addr : VirtualAddress} {writable : Bool} {done remaining : Nat}
    {outcomes : List (Except RegistryError VirtualAddress)} (present : space < scope.spaces)
    (allowed : ∀ i, done ≤ i → i < done + remaining →
      (start.machine.registry space).pages.get? (addr.page i) = none →
      scope.may (.register start.ledger.loads space (addr.page i))) :
    Follows scope start (registerZero space addr writable done outcomes remaining)
      (registerZero space addr writable done outcomes remaining)
      fun _ now => now.ledger = start.ledger := by
  induction remaining generalizing start done outcomes with
  | zero => exact .ret rfl
  | succ remaining ih =>
    refine Follows.orStop.bind fun page now ⟨found, same⟩ => ?_
    subst same
    cases VirtualAddress.add_ok found
    refine (registerZeroPage_follows present (allowed done (Nat.le_refl _) (by omega))).bind
      fun _ now ⟨ledger, others⟩ => ?_
    rw [← ledger]
    refine ih fun i more within absent => ?_
    rw [ledger]
    have differ : addr.page done ≠ addr.page i :=
      fun same => Nat.ne_of_lt more (VirtualAddress.page_injective same)
    exact allowed i (Nat.le_of_succ_le more) (by omega) (by rw [← others _ differ]; exact absent)

end Kernel

end DemandPaging
