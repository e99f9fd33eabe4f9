import DemandPaging.Proofs.Held

/-! Consistent machines: the registries are sound, each space has a page directory, and the frames of
the ring are shared out among pages and those who hold frames for themselves. Every move takes a
consistent machine to a consistent one. -/
namespace DemandPaging

variable [Architecture]

def Machine.placement (machine : Machine) : Placement := fun space addr =>
  (machine.registry space).placement addr

namespace Machine

theorem placement_of_spaces {machine after : Machine} (spaces : after.spaces = machine.spaces) :
    after.placement = machine.placement := by
  funext space addr
  rw [placement, placement, Machine.registry, Machine.registry, Machine.space, Machine.space, spaces]

/-- The placements after one page was moved. -/
theorem placement_moved (machine : Machine) {space : SpaceId}
    (present : space < machine.spaces.length) {registry : Registry} {addr : VirtualAddress}
    {place : Option (FrameNumber × Bool)}
    (moved : ∀ other, registry.placement other =
      if addr = other then place else (machine.registry space).placement other)
    (other : SpaceId) (b : VirtualAddress) :
    (machine.setRegistry space registry).placement other b =
      if space = other ∧ addr = b then place else machine.placement other b :=
  machine.told_moved present moved other b

theorem sound_setRegistry {machine : Machine} (sound : ∀ space, (machine.registry space).Sound)
    {space : SpaceId} {registry : Registry} (replaced : registry.Sound) (other : SpaceId) :
    ((machine.setRegistry space registry).registry other).Sound := by
  rcases machine.registry_setRegistry_cases space other registry with same | ⟨_, here⟩
  · rw [same]
    exact sound other
  · rw [here]
    exact replaced

end Machine

/-- What the loads under way say of their pages was true when they began. -/
structure Load.Fair (machine : Machine) (load : Load) : Prop where
  present : load.space < machine.spaces.length
  away : load.page.isResident = false
  classified : load.page.backing ≠ .unclassified
  even : load.page.generation % 2 = 0
  page : load.page.addr.IsPage
  fits : load.page.backing.Fits

structure Consistent (now : Moment) : Prop where
  sound : ∀ space, (now.machine.registry space).Sound
  present : ∀ {space}, space < now.machine.spaces.length →
    (now.machine.space space).directory < now.machine.directories.length
  held : Held (now.ledger.keepers now.machine.callers) (now.ledger.pins + now.machine.callers.pins)
    now.machine.pool now.machine.placement
  fair : ∀ load ∈ now.ledger.loads, load.Fair now.machine

end DemandPaging
