import DemandPaging.Proofs.Moves
import Mathlib.Data.Multiset.MapFold

/-! Who holds the frames of the ring: each frame holds one page or has one keeper, never both, and its
pins are the claims on it. The facts are stated over the keepers, the claims, and where the pages are,
so that a change of one of them can be followed by itself. -/
namespace DemandPaging

/-- Where the pages of all spaces are, with their permissions to write. -/
abbrev Placement := SpaceId → VirtualAddress → Option (FrameNumber × Bool)

/-- Keepers, claims and pages share the frames of a pool. A keeper is a space that has a frame without
a page in it: one that a load waits for, or one that a caller obtained. -/
structure Held (keepers : Multiset (SpaceId × FrameNumber)) (claims : Multiset Pin)
    (pool : FramePool) (placement : Placement) : Prop where
  sound : pool.Sound
  placed : ∀ {space addr frame writable}, placement space addr = some (frame, writable) →
    pool.Holds frame space
  single : ∀ {space a b frame v w}, placement space a = some (frame, v) →
    placement space b = some (frame, w) → a = b
  kept : ∀ {space frame}, (space, frame) ∈ keepers → pool.Holds frame space
  distinct : (keepers.map Prod.snd).Nodup
  apart : ∀ {owner kept space addr frame writable}, (owner, kept) ∈ keepers →
    placement space addr = some (frame, writable) → frame ≠ kept
  ring : ∀ {frame space}, pool.Holds frame space →
    (space, frame) ∈ keepers ∨ ∃ addr writable, placement space addr = some (frame, writable)
  pins : ∀ index, (pool.entry index).pins =
    (keepers.map Prod.snd).count (pool.number index) +
      (claims.map (·.frame)).count (pool.number index)
  /-- What is pinned belongs to its owner, and is in place unless it was released. -/
  claimed : ∀ {pin}, pin ∈ claims → ∃ index, pin.frame = pool.number index ∧
    (pool.entry index).owner = some pin.space ∧ ((pool.entry index).released = false →
      ∃ writable, placement pin.space pin.addr = some (pin.frame, writable))
  alone : ∀ {owner frame}, (owner, frame) ∈ keepers → frame ∉ claims.map (·.frame)

namespace FramePool
variable {pool : FramePool}

theorem number_sub (pool : FramePool) (index : Nat) :
    (pool.number index).value - pool.base.value = index :=
  Nat.add_sub_cancel_left _ _

theorem Holds.index {frame : FrameNumber} {owner : SpaceId} (holds : pool.Holds frame owner) :
    frame = pool.number (frame.value - pool.base.value) ∧
      frame.value - pool.base.value ∈ pool.clock ∧
      (pool.entry (frame.value - pool.base.value)).owner = some owner := by
  obtain ⟨index, inside, rfl, owned⟩ := holds
  rw [number_sub]
  exact ⟨rfl, inside, owned⟩

end FramePool

namespace Held
variable {keepers : Multiset (SpaceId × FrameNumber)} {claims : Multiset Pin} {pool : FramePool}
  {placement : Placement} {index : Nat}

section
variable (held : Held keepers claims pool placement)
include held

/-- No frame holds two pages, of one space or of two. -/
theorem page_unique {s t : SpaceId} {a b : VirtualAddress} {frame : FrameNumber} {v w : Bool}
    (left : placement s a = some (frame, v)) (right : placement t b = some (frame, w)) :
    s = t ∧ a = b := by
  have same := FramePool.holds_unique (held.placed left) (held.placed right)
  subst same
  exact ⟨rfl, held.single left right⟩

omit held in
theorem count_claims_pos {pin : Pin} (claim : pin ∈ claims) :
    0 < (claims.map (·.frame)).count pin.frame :=
  Multiset.count_pos.2 (Multiset.mem_map_of_mem _ claim)

/-- A frame that has a keeper has one pin, that of the keeper. -/
theorem kept_pins {space : SpaceId} {frame : FrameNumber} (member : (space, frame) ∈ keepers)
    (named : frame = pool.number index) : (pool.entry index).pins = 1 := by
  have once : (keepers.map Prod.snd).count frame = 1 :=
    Multiset.count_eq_one_of_mem held.distinct (Multiset.mem_map_of_mem Prod.snd member)
  have none_else : (claims.map (·.frame)).count frame = 0 :=
    Multiset.count_eq_zero.2 (held.alone member)
  rw [held.pins index, ← named, once, none_else]

/-- A frame that nobody owns has no claims on it. -/
theorem free_unclaimed (unowned : (pool.entry index).owner = none) :
    pool.number index ∉ claims.map (·.frame) := by
  intro claim
  obtain ⟨pin, member, same⟩ := Multiset.mem_map.1 claim
  obtain ⟨other, named, owned, _⟩ := held.claimed member
  have here : index = other := FramePool.number_injective (same.symm.trans named)
  rw [here, owned] at unowned
  cases unowned

theorem take {space : SpaceId} {frame : FrameNumber} {rest : FramePool}
    (taken : pool.takeFree? = some (index, rest)) (named : frame = pool.number index) :
    Held ((space, frame) ::ₘ keepers) claims (rest.assign index space) placement := by
  have unowned := (held.sound.taken_free taken).2
  have blank := held.sound.blank unowned
  have holds : ∀ {frame holder}, (rest.assign index space).Holds frame holder ↔
      pool.Holds frame holder ∨ (frame = pool.number index ∧ holder = space) :=
    held.sound.holds_assign taken
  have number : ∀ other, (rest.assign index space).number other = pool.number other := by
    obtain ⟨returned, fresh, rfl⟩ := FramePool.takeFree?_eq taken
    exact fun _ => rfl
  have entries : ∀ other, rest.entry other = pool.entry other := by
    obtain ⟨returned, fresh, rfl⟩ := FramePool.takeFree?_eq taken
    exact fun _ => rfl
  have unheld : ∀ {known holder}, pool.Holds known holder → known ≠ frame := by
    intro known holder hold same
    obtain ⟨other, inside, there, owned⟩ := hold
    have here : other = index := FramePool.number_injective (there.symm.trans (same.trans named))
    rw [here, unowned] at owned
    cases owned
  have unclaimed : frame ∉ claims.map (·.frame) := by
    rw [named]
    exact held.free_unclaimed unowned
  exact {
    sound := held.sound.assign taken space
    placed := fun placed => holds.2 (.inl (held.placed placed))
    single := held.single
    kept := by
      intro owner known member
      rcases Multiset.mem_cons.1 member with same | member
      · cases same
        exact holds.2 (.inr ⟨named, rfl⟩)
      · exact holds.2 (.inl (held.kept member))
    distinct := by
      rw [Multiset.map_cons, Multiset.nodup_cons]
      refine ⟨fun member => ?_, held.distinct⟩
      obtain ⟨⟨owner, known⟩, listed, same⟩ := Multiset.mem_map.1 member
      exact unheld (held.kept listed) same
    apart := by
      intro owner known other addr there writable member placed
      rcases Multiset.mem_cons.1 member with same | member
      · cases same
        exact unheld (held.placed placed)
      · exact held.apart member placed
    ring := by
      intro known owner hold
      rcases holds.1 hold with hold | ⟨here, rfl⟩
      · rcases held.ring hold with member | placed
        · exact .inl (Multiset.mem_cons_of_mem member)
        · exact .inr placed
      · refine .inl ?_
        rw [here, ← named]
        exact Multiset.mem_cons_self _ _
    pins := by
      intro other
      rw [FramePool.entry_assign, entries, number, Multiset.map_cons]
      by_cases here : index = other
      · subst here
        have none_yet := held.pins index
        rw [blank] at none_yet
        rw [if_pos rfl, named, Multiset.count_cons_self]
        change 0 = _ at none_yet
        change 1 = _
        omega
      · rw [if_neg here, held.pins other, Multiset.count_cons_of_ne]
        rw [named]
        exact fun same => here (FramePool.number_injective same).symm
    claimed := by
      intro pin claim
      obtain ⟨other, there, owned, here⟩ := held.claimed claim
      refine ⟨other, by rw [number]; exact there, ?_⟩
      rw [FramePool.entry_assign, if_neg, entries]
      · exact ⟨owned, here⟩
      · intro same
        rw [← same, unowned] at owned
        cases owned
    alone := by
      intro owner known member
      rcases Multiset.mem_cons.1 member with same | member
      · cases same
        exact unclaimed
      · exact held.alone member }

theorem abandon {space : SpaceId} {frame : FrameNumber} {others : Multiset (SpaceId × FrameNumber)}
    (start : keepers = (space, frame) ::ₘ others) (named : frame = pool.number index) :
    Held others claims (pool.withdraw index) placement := by
  subst start
  have member : (space, frame) ∈ (space, frame) ::ₘ others := Multiset.mem_cons_self _ _
  have holds : ∀ {frame holder}, (pool.withdraw index).Holds frame holder ↔
      pool.Holds frame holder ∧ frame ≠ pool.number index := held.sound.holds_withdraw
  have assigned : (pool.entry index).owner.isSome = true := by
    obtain ⟨there, _, owned⟩ := (held.kept member).index
    rw [named, FramePool.number_sub] at owned
    rw [owned]
    rfl
  have distinct := held.distinct
  rw [Multiset.map_cons, Multiset.nodup_cons] at distinct
  obtain ⟨fresh, distinct⟩ := distinct
  have unclaimed : pool.number index ∉ claims.map (·.frame) := named ▸ held.alone member
  have unused : (others.map Prod.snd).count (pool.number index) = 0 := by
    rw [← named]
    exact Multiset.count_eq_zero.2 fresh
  exact {
    sound := held.sound.withdraw assigned
    placed := fun placed => holds.2 ⟨held.placed placed, named ▸ held.apart member placed⟩
    single := held.single
    kept := by
      intro owner known listed
      refine holds.2 ⟨held.kept (Multiset.mem_cons_of_mem listed), fun same => fresh ?_⟩
      change frame ∈ _
      rw [named, ← same]
      exact Multiset.mem_map_of_mem Prod.snd listed
    distinct
    apart := fun listed placed => held.apart (Multiset.mem_cons_of_mem listed) placed
    ring := by
      intro known owner hold
      obtain ⟨hold, elsewhere⟩ := holds.1 hold
      rcases held.ring hold with listed | placed
      · rcases Multiset.mem_cons.1 listed with same | listed
        · cases same
          exact absurd named elsewhere
        · exact .inl listed
      · exact .inr placed
    pins := by
      intro other
      rw [FramePool.entry_withdraw, FramePool.number_withdraw]
      by_cases here : index = other
      · subst here
        rw [if_pos rfl, unused, Multiset.count_eq_zero.2 unclaimed]
      · rw [if_neg here, held.pins other, Multiset.map_cons, Multiset.count_cons_of_ne]
        rw [named]
        exact fun same => here (FramePool.number_injective same).symm
    claimed := by
      intro pin claim
      obtain ⟨other, there, owned, here⟩ := held.claimed claim
      refine ⟨other, by rw [FramePool.number_withdraw]; exact there, ?_⟩
      rw [FramePool.entry_withdraw, if_neg]
      · exact ⟨owned, here⟩
      · intro same
        rw [same, ← there] at unclaimed
        exact unclaimed (Multiset.mem_map.2 ⟨_, claim, rfl⟩)
    alone := fun listed => held.alone (Multiset.mem_cons_of_mem listed) }

/-- A page leaves its frame, and the frame leaves the ring with the pins it has. -/
theorem vanish {space : SpaceId} {addr : VirtualAddress} {writable : Bool} {gone : Placement}
    {after : FramePool} (placed : placement space addr = some (pool.number index, writable))
    (left : ∀ other b, gone other b = if space = other ∧ addr = b then none else placement other b)
    (sound : after.Sound)
    (holds : ∀ {frame holder}, after.Holds frame holder ↔
      pool.Holds frame holder ∧ frame ≠ pool.number index)
    (number : ∀ other, after.number other = pool.number other)
    (pins : ∀ other, (after.entry other).pins = (pool.entry other).pins)
    (marked : ∀ other, 0 < (pool.entry other).pins → after.entry other =
      if index = other then { pool.entry index with released := true } else pool.entry other) :
    Held keepers claims after gone := by
  have kept : ∀ {other b frame w}, gone other b = some (frame, w) →
      ¬(space = other ∧ addr = b) ∧ placement other b = some (frame, w) := by
    intro other b frame w here
    rw [left] at here
    split at here
    · cases here
    · rename_i differ
      exact ⟨differ, here⟩
  exact {
    sound
    placed := by
      intro other b frame w here
      obtain ⟨differ, here⟩ := kept here
      refine holds.2 ⟨held.placed here, ?_⟩
      rintro rfl
      exact differ (held.page_unique placed here)
    single := fun first second => held.single (kept first).2 (kept second).2
    kept := fun member => holds.2 ⟨held.kept member, fun same =>
      held.apart member placed same.symm⟩
    distinct := held.distinct
    apart := fun member here => held.apart member (kept here).2
    ring := by
      intro frame other hold
      obtain ⟨hold, elsewhere⟩ := holds.1 hold
      rcases held.ring hold with member | ⟨b, w, here⟩
      · exact .inl member
      · refine .inr ⟨b, w, ?_⟩
        rw [left, if_neg]
        · exact here
        · rintro ⟨rfl, rfl⟩
          rw [placed] at here
          cases here
          exact elsewhere rfl
    pins := fun other => by rw [pins, number]; exact held.pins other
    claimed := by
      intro pin claim
      obtain ⟨place, there, owned, here⟩ := held.claimed claim
      refine ⟨place, by rw [number]; exact there, ?_⟩
      rw [marked]
      · split
        · rename_i same
          subst same
          exact ⟨owned, nofun⟩
        · rename_i differ
          refine ⟨owned, fun kept => ?_⟩
          obtain ⟨w, here⟩ := here kept
          refine ⟨w, ?_⟩
          rw [left, if_neg]
          · exact here
          · rintro ⟨rfl, rfl⟩
            rw [placed] at here
            have same := (Prod.mk.inj (Option.some.inj here)).1
            exact differ (FramePool.number_injective (same.trans there))
      · rw [held.pins, ← there]
        exact Nat.add_pos_right _ (count_claims_pos claim)
    alone := held.alone }

/-- A page leaves a frame without pins, which is free then, wherever the hand has got to. -/
theorem leave {space : SpaceId} {addr : VirtualAddress} {writable : Bool} {gone : Placement}
    (placed : placement space addr = some (pool.number index, writable))
    (left : ∀ other b, gone other b = if space = other ∧ addr = b then none else placement other b)
    (unpinned : (pool.entry index).pins = 0) (hand : Nat) :
    Held keepers claims (({ pool with hand } : FramePool).withdraw index) gone := by
  obtain ⟨_, inside, _⟩ := (held.placed placed).index
  rw [FramePool.number_sub] at inside
  have entry : ∀ other, (({ pool with hand } : FramePool).withdraw index).entry other =
      if index = other then {} else pool.entry other := FramePool.entry_withdraw _ _
  refine held.vanish placed left (held.sound.withdraw_turned inside hand) ?_
    (FramePool.number_withdraw { pool with hand } index) ?_ ?_
  · refine held.sound.holds_erase index (FramePool.number_withdraw { pool with hand } index)
      (FramePool.clock_withdraw { pool with hand } index) fun other differ => ?_
    rw [entry, if_neg (Ne.symm differ)]
  · intro other
    rw [entry]
    split
    · rename_i here
      rw [← here, unpinned]
    · rfl
  · intro other pinned
    have differ : index ≠ other := by
      rintro rfl
      omega
    rw [entry, if_neg differ, if_neg differ]

/-- A page leaves a pinned frame, which stays with those who pinned it. -/
theorem retire {space : SpaceId} {addr : VirtualAddress} {writable : Bool} {gone : Placement}
    (placed : placement space addr = some (pool.number index, writable))
    (left : ∀ other b, gone other b = if space = other ∧ addr = b then none else placement other b)
    (pinned : 0 < (pool.entry index).pins) :
    Held keepers claims (pool.retire index) gone := by
  obtain ⟨_, _, owned⟩ := (held.placed placed).index
  rw [FramePool.number_sub] at owned
  refine held.vanish placed left (held.sound.retire (by rw [owned]; rfl) pinned)
    held.sound.holds_retire (FramePool.number_retire pool index) ?_ ?_
  · intro other
    rw [FramePool.entry_retire]
    split
    · rename_i here
      rw [← here]
    · rfl
  · exact fun other _ => FramePool.entry_retire pool index other

/-- A page is placed in the frame of a keeper, whose pin becomes a claim. -/
theorem settle {space : SpaceId} {frame : FrameNumber} {others : Multiset (SpaceId × FrameNumber)}
    (start : keepers = (space, frame) ::ₘ others) {addr : VirtualAddress} {writable : Bool}
    {settled : Placement} (nowhere : placement space addr = none)
    (here : ∀ other b, settled other b =
      if space = other ∧ addr = b then some (frame, writable) else placement other b) :
    Held others (⟨space, addr, frame⟩ ::ₘ claims) pool settled := by
  subst start
  have member : (space, frame) ∈ (space, frame) ::ₘ others := Multiset.mem_cons_self _ _
  have distinct := held.distinct
  rw [Multiset.map_cons, Multiset.nodup_cons] at distinct
  obtain ⟨fresh, distinct⟩ := distinct
  have known : ∀ {other b there w}, settled other b = some (there, w) →
      (space = other ∧ addr = b ∧ there = frame) ∨ placement other b = some (there, w) := by
    intro other b there w placed
    rw [here] at placed
    split at placed
    · rename_i same
      cases placed
      exact .inl ⟨same.1, same.2, rfl⟩
    · exact .inr placed
  have still : ∀ {other b there w}, placement other b = some (there, w) →
      settled other b = some (there, w) := by
    intro other b there w placed
    rw [here, if_neg, placed]
    rintro ⟨rfl, rfl⟩
    rw [nowhere] at placed
    cases placed
  exact {
    sound := held.sound
    placed := by
      intro other b there w placed
      rcases known placed with ⟨rfl, _, rfl⟩ | placed
      · exact held.kept member
      · exact held.placed placed
    single := by
      intro other a b there v w first second
      rcases known first with ⟨_, rfl, rfl⟩ | first
      · rcases known second with ⟨_, same, _⟩ | second
        · exact same
        · exact absurd rfl (held.apart member second)
      · rcases known second with ⟨_, rfl, rfl⟩ | second
        · exact absurd rfl (held.apart member first)
        · exact held.single first second
    kept := fun listed => held.kept (Multiset.mem_cons_of_mem listed)
    distinct
    apart := by
      intro owner kept other b there w listed placed
      rcases known placed with ⟨_, _, rfl⟩ | placed
      · rintro rfl
        exact fresh (Multiset.mem_map.2 ⟨_, listed, rfl⟩)
      · exact held.apart (Multiset.mem_cons_of_mem listed) placed
    ring := by
      intro there owner hold
      rcases held.ring hold with listed | ⟨b, w, placed⟩
      · rcases Multiset.mem_cons.1 listed with same | listed
        · cases same
          exact .inr ⟨addr, writable, by rw [here, if_pos ⟨rfl, rfl⟩]⟩
        · exact .inl listed
      · exact .inr ⟨b, w, still placed⟩
    pins := by
      intro other
      rw [held.pins other, Multiset.map_cons, Multiset.count_cons, Multiset.map_cons,
        Multiset.count_cons]
      dsimp only
      omega
    claimed := by
      intro pin claim
      rcases Multiset.mem_cons.1 claim with same | claim
      · cases same
        obtain ⟨named, _, owned⟩ := (held.kept member).index
        exact ⟨_, named, owned, fun _ => ⟨writable, by rw [here, if_pos ⟨rfl, rfl⟩]⟩⟩
      · obtain ⟨place, there, owned, found⟩ := held.claimed claim
        exact ⟨place, there, owned, fun kept => (found kept).imp fun _ found => still found⟩
    alone := by
      intro owner there listed claim
      rw [Multiset.map_cons, Multiset.mem_cons] at claim
      rcases claim with same | claim
      · change there = frame at same
        subst same
        exact fresh (Multiset.mem_map.2 ⟨_, listed, rfl⟩)
      · exact held.alone (Multiset.mem_cons_of_mem listed) claim }

theorem pin {space : SpaceId} {addr : VirtualAddress} {writable : Bool}
    (placed : placement space addr = some (pool.number index, writable)) :
    Held keepers (⟨space, addr, pool.number index⟩ ::ₘ claims)
      (pool.setPins index ((pool.entry index).pins + 1)) placement := by
  obtain ⟨_, _, owned⟩ := (held.placed placed).index
  rw [FramePool.number_sub] at owned
  exact {
    sound := held.sound.setPins (by rw [owned]; rfl) _ fun _ => Nat.succ_pos _
    placed := fun here => FramePool.Sound.holds_setPins.2 (held.placed here)
    single := held.single
    kept := fun member => FramePool.Sound.holds_setPins.2 (held.kept member)
    distinct := held.distinct
    apart := held.apart
    ring := fun hold => held.ring (FramePool.Sound.holds_setPins.1 hold)
    pins := by
      intro other
      change _ = _ + Multiset.count (pool.number other) _
      rw [FramePool.entry_setPins, Multiset.map_cons, Multiset.count_cons]
      by_cases same : index = other
      · subst same
        rw [if_pos rfl, if_pos rfl]
        exact congrArg (· + 1) (held.pins index)
      · rw [if_neg same, if_neg fun eq => same (FramePool.number_injective eq).symm]
        exact held.pins other
    claimed := by
      intro pin claim
      obtain ⟨place, there, known, found⟩ : ∃ place, pin.frame = pool.number place ∧
          (pool.entry place).owner = some pin.space ∧ ((pool.entry place).released = false →
            ∃ writable, placement pin.space pin.addr = some (pin.frame, writable)) := by
        rcases Multiset.mem_cons.1 claim with same | claim
        · cases same
          exact ⟨index, rfl, owned, fun _ => ⟨writable, placed⟩⟩
        · exact held.claimed claim
      obtain ⟨owner, released⟩ := FramePool.setPins_same pool index
        ((pool.entry index).pins + 1) place
      exact ⟨place, there, by rw [owner]; exact known, by rw [released]; exact found⟩
    alone := by
      intro owner frame member claim
      rw [Multiset.map_cons, Multiset.mem_cons] at claim
      rcases claim with same | claim
      · exact held.apart member placed same.symm
      · exact held.alone member claim }

end

section
variable {pin : Pin} (named : pin.frame = pool.number index)
  (held : Held keepers (pin ::ₘ claims) pool placement)
include named held

theorem claimed_owner : (pool.entry index).owner = some pin.space := by
  obtain ⟨other, there, owned, _⟩ := held.claimed (Multiset.mem_cons_self _ _)
  rw [FramePool.number_injective (named.symm.trans there)]
  exact owned

theorem claimed_pins : (pool.entry index).pins =
    (keepers.map Prod.snd).count (pool.number index) +
      (claims.map (·.frame)).count (pool.number index) + 1 := by
  rw [held.pins index, Multiset.map_cons, named, Multiset.count_cons_self]
  omega

theorem unpin (more : (pool.entry index).released = true → 1 < (pool.entry index).pins) :
    Held keepers claims (pool.setPins index ((pool.entry index).pins - 1)) placement := by
  have owned := claimed_owner named held
  exact {
    sound := held.sound.setPins (by rw [owned]; rfl) _ fun released => Nat.sub_pos_of_lt (more released)
    placed := fun here => FramePool.Sound.holds_setPins.2 (held.placed here)
    single := held.single
    kept := fun member => FramePool.Sound.holds_setPins.2 (held.kept member)
    distinct := held.distinct
    apart := held.apart
    ring := fun hold => held.ring (FramePool.Sound.holds_setPins.1 hold)
    pins := by
      intro other
      change _ = _ + Multiset.count (pool.number other) _
      rw [FramePool.entry_setPins]
      by_cases same : index = other
      · subst same
        have pins := claimed_pins named held
        rw [if_pos rfl]
        dsimp only
        exact Nat.sub_eq_of_eq_add pins
      · have pins := held.pins other
        have differ : pool.number other ≠ pin.frame := by
          rw [named]
          exact fun eq => same (FramePool.number_injective eq).symm
        rw [Multiset.map_cons, Multiset.count_cons_of_ne differ] at pins
        rw [if_neg same]
        exact pins
    claimed := by
      intro other claim
      obtain ⟨place, there, known, found⟩ := held.claimed (Multiset.mem_cons_of_mem claim)
      obtain ⟨owner, released⟩ := FramePool.setPins_same pool index
        ((pool.entry index).pins - 1) place
      exact ⟨place, there, by rw [owner]; exact known, by rw [released]; exact found⟩
    alone := fun member claim => held.alone member (by
      rw [Multiset.map_cons]
      exact Multiset.mem_cons_of_mem claim) }

/-- The last pin of a frame without a page is dropped, and the frame is free. -/
theorem unpin_last (last : (pool.entry index).pins = 1)
    (released : (pool.entry index).released = true) :
    Held keepers claims (pool.giveBack index) placement := by
  have owned := claimed_owner named held
  have holds : ∀ {frame holder}, (pool.giveBack index).Holds frame holder ↔
      pool.Holds frame holder := held.sound.holds_giveBack released
  have counts := claimed_pins named held
  have unclaimed : pool.number index ∉ claims.map (·.frame) := by
    rw [← Multiset.count_eq_zero]
    omega
  exact {
    sound := held.sound.giveBack (by rw [owned]; rfl) released
    placed := fun here => holds.2 (held.placed here)
    single := held.single
    kept := fun member => holds.2 (held.kept member)
    distinct := held.distinct
    apart := held.apart
    ring := fun hold => held.ring (holds.1 hold)
    pins := by
      intro other
      change _ = _ + Multiset.count (pool.number other) _
      rw [FramePool.entry_giveBack]
      by_cases same : index = other
      · subst same
        rw [if_pos rfl]
        change 0 = Multiset.count (pool.number index) _ + Multiset.count (pool.number index) _
        omega
      · have pins := held.pins other
        have differ : pool.number other ≠ pin.frame := by
          rw [named]
          exact fun eq => same (FramePool.number_injective eq).symm
        rw [Multiset.map_cons, Multiset.count_cons_of_ne differ] at pins
        rw [if_neg same]
        exact pins
    claimed := by
      intro other claim
      obtain ⟨place, there, known, found⟩ := held.claimed (Multiset.mem_cons_of_mem claim)
      refine ⟨place, there, ?_⟩
      rw [FramePool.entry_giveBack, if_neg]
      · exact ⟨known, found⟩
      · intro same
        rw [same, ← there] at unclaimed
        exact unclaimed (Multiset.mem_map.2 ⟨_, claim, rfl⟩)
    alone := fun member claim => held.alone member (by
      rw [Multiset.map_cons]
      exact Multiset.mem_cons_of_mem claim) }

end

theorem blank (held : Held keepers claims pool placement)
    (unowned : (pool.entry index).owner = none) :
    Held keepers claims (pool.setEntry index {}) placement := by
  have entry : (pool.setEntry index {}).entry = pool.entry := by
    funext other
    rw [FramePool.entry_setEntry]
    split
    · rename_i same
      rw [← same, held.sound.blank unowned]
    · rfl
  have holds : ∀ {frame holder}, (pool.setEntry index {}).Holds frame holder ↔
      pool.Holds frame holder := by
    intro frame holder
    unfold FramePool.Holds
    rw [entry]
    rfl
  exact {
    sound := held.sound.of_entry entry rfl rfl rfl rfl
    placed := fun here => holds.2 (held.placed here)
    single := held.single
    kept := fun member => holds.2 (held.kept member)
    distinct := held.distinct
    apart := held.apart
    ring := fun hold => held.ring (holds.1 hold)
    pins := fun other => by rw [entry]; exact held.pins other
    claimed := fun claim => by rw [entry]; exact held.claimed claim
    alone := held.alone }

theorem start (base : FrameNumber) (count : Nat) :
    Held 0 0 (FramePool.ofCount base count) fun _ _ => none where
  sound := FramePool.sound_ofCount base count
  placed placed := by cases placed
  single placed := by cases placed
  kept member := absurd member (Multiset.notMem_zero _)
  distinct := Multiset.nodup_zero
  apart member := absurd member (Multiset.notMem_zero _)
  ring hold := by
    obtain ⟨index, inside, _⟩ := hold
    cases inside
  pins index := by simp [FramePool.ofCount, FramePool.entry]
  claimed claim := by simp at claim
  alone member := absurd member (Multiset.notMem_zero _)

end Held

end DemandPaging
