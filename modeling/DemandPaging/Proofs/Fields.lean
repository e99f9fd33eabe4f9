import DemandPaging.Machine

/-! What the spaces and the directories of a machine are after one of them was replaced. -/
namespace DemandPaging.Machine
variable [Architecture] (machine : Machine) {space other : SpaceId}

theorem space_setSpace_self (value : AddressSpace) (present : space < machine.spaces.length) :
    (machine.setSpace space value).space space = value := by
  simp [setSpace, Machine.space, List.getD_eq_getElem?_getD, present]

theorem space_setSpace_of_ne (value : AddressSpace) (differ : space ≠ other) :
    (machine.setSpace space value).space other = machine.space other := by
  simp [setSpace, Machine.space, List.getD_eq_getElem?_getD, differ]

theorem registry_setRegistry_self (registry : Registry)
    (present : space < machine.spaces.length) :
    (machine.setRegistry space registry).registry space = registry := by
  unfold Machine.registry setRegistry
  rw [space_setSpace_self machine _ present]

theorem registry_setRegistry_of_ne (registry : Registry) (differ : space ≠ other) :
    (machine.setRegistry space registry).registry other = machine.registry other := by
  unfold Machine.registry setRegistry
  rw [space_setSpace_of_ne machine _ differ]

theorem registry_setRegistry_cases (space other : SpaceId) (registry : Registry) :
    (machine.setRegistry space registry).registry other = machine.registry other ∨
      (other = space ∧ (machine.setRegistry space registry).registry other = registry) := by
  by_cases same : space = other
  · subst same
    by_cases present : space < machine.spaces.length
    · exact .inr ⟨rfl, machine.registry_setRegistry_self registry present⟩
    · have absent : machine.setRegistry space registry = machine := by
        rw [setRegistry, setSpace, List.set_eq_of_length_le (Nat.le_of_not_lt present)]
      exact .inl (by rw [absent])
  · exact .inl (machine.registry_setRegistry_of_ne registry same)

/-- What is told of the addresses of each space, after the registry of one was replaced by another
that differs at one address. -/
theorem told_moved {tells : Registry → VirtualAddress → α} (present : space < machine.spaces.length)
    {registry : Registry} {addr : VirtualAddress} {told : α}
    (moved : ∀ other, tells registry other =
      if addr = other then told else tells (machine.registry space) other)
    (other : SpaceId) (there : VirtualAddress) :
    tells ((machine.setRegistry space registry).registry other) there =
      if space = other ∧ addr = there then told else tells (machine.registry other) there := by
  by_cases same : space = other
  · subst same
    rw [machine.registry_setRegistry_self registry present, moved]
    simp
  · rw [machine.registry_setRegistry_of_ne registry same, if_neg fun both => same both.1]

theorem told_revised {tells : Registry → VirtualAddress → α} {registry : Registry}
    (same : ∀ addr, tells registry addr = tells (machine.registry space) addr) (other : SpaceId)
    (addr : VirtualAddress) :
    tells ((machine.setRegistry space registry).registry other) addr =
      tells (machine.registry other) addr := by
  rcases machine.registry_setRegistry_cases space other registry with unchanged | ⟨rfl, replaced⟩
  · rw [unchanged]
  · rw [replaced, same]

@[simp] theorem space_directory_setRegistry (registry : Registry) :
    ((machine.setRegistry space registry).space other).directory =
      (machine.space other).directory := by
  by_cases same : space = other
  · subst same
    by_cases present : space < machine.spaces.length
    · rw [setRegistry, space_setSpace_self machine _ present]
    · have absent : machine.setRegistry space registry = machine := by
        rw [setRegistry, setSpace, List.set_eq_of_length_le (Nat.le_of_not_lt present)]
      rw [absent]
  · rw [setRegistry, space_setSpace_of_ne machine _ same]

@[simp] theorem directory_setRegistry (registry : Registry) :
    (machine.setRegistry space registry).directory other = machine.directory other := by
  unfold Machine.directory
  rw [space_directory_setRegistry]
  rfl

theorem setRegistry_registry : machine.setRegistry space (machine.registry space) = machine := by
  have kept : machine.spaces.set space (machine.spaces.getD space default) = machine.spaces := by
    by_cases present : space < machine.spaces.length
    · simp [List.getD_eq_getElem?_getD, present]
    · exact List.set_eq_of_length_le (Nat.le_of_not_lt present)
  exact congrArg (fun spaces => { machine with spaces }) kept

theorem setRegistry_setRegistry (first second : Registry) :
    (machine.setRegistry space first).setRegistry space second =
      machine.setRegistry space second := by
  by_cases present : space < machine.spaces.length
  · have same : (machine.setRegistry space first).space space =
        { machine.space space with registry := first } := machine.space_setSpace_self _ present
    rw [setRegistry, same]
    exact congrArg (fun spaces => { machine with spaces }) (List.set_set ..)
  · have absent : machine.setRegistry space first = machine := by
      rw [setRegistry, setSpace, List.set_eq_of_length_le (Nat.le_of_not_lt present)]
    rw [absent]

@[simp] theorem length_setRegistry (registry : Registry) :
    (machine.setRegistry space registry).spaces.length = machine.spaces.length :=
  List.length_set

@[simp] theorem length_setDirectory (directory : Architecture.Directory) :
    (machine.setDirectory space directory).directories.length = machine.directories.length :=
  List.length_set

theorem directory_setDirectory_self (directory : Architecture.Directory)
    (present : (machine.space space).directory < machine.directories.length) :
    (machine.setDirectory space directory).directory space = directory := by
  change (machine.directories.set (machine.space space).directory directory).getD
    (machine.space space).directory default = directory
  simp [List.getD_eq_getElem?_getD, present]

theorem directory_setDirectory_of_ne (directory : Architecture.Directory)
    (differ : (machine.space space).directory ≠ (machine.space other).directory) :
    (machine.setDirectory space directory).directory other = machine.directory other := by
  change (machine.directories.set (machine.space space).directory directory).getD
    (machine.space other).directory default = machine.directory other
  simp [Machine.directory, List.getD_eq_getElem?_getD, differ]

theorem space_setStackPointer (stackPointer : Nat) :
    ((machine.setStackPointer space stackPointer).space other).registry =
        (machine.space other).registry ∧
      ((machine.setStackPointer space stackPointer).space other).directory =
        (machine.space other).directory := by
  by_cases same : space = other
  · subst same
    by_cases present : space < machine.spaces.length
    · rw [setStackPointer, space_setSpace_self machine _ present]
      exact ⟨rfl, rfl⟩
    · have absent : machine.setStackPointer space stackPointer = machine := by
        rw [setStackPointer, setSpace, List.set_eq_of_length_le (Nat.le_of_not_lt present)]
      rw [absent]
      exact ⟨rfl, rfl⟩
  · rw [setStackPointer, space_setSpace_of_ne machine _ same]
    exact ⟨rfl, rfl⟩

theorem space_create {after : Machine} {value : AddressSpace}
    (spaces : after.spaces = machine.spaces ++ [value]) :
    after.space machine.spaces.length = value ∧
      ∀ {space}, space < machine.spaces.length → after.space space = machine.space space := by
  constructor
  · simp [Machine.space, spaces, List.getD_eq_getElem?_getD]
  · intro space known
    simp [Machine.space, spaces, List.getD_eq_getElem?_getD, List.getElem?_append_left known]

theorem registry_beyond (beyond : machine.spaces.length ≤ space) :
    machine.registry space = default := by
  simp [Machine.registry, Machine.space, List.getD_eq_getElem?_getD, List.getElem?_eq_none beyond]
  rfl

/-- The registry of a new space is empty, as is the one of any space that does not exist. -/
theorem registry_create {after : Machine} {directory : DirectoryId} {stackPointer : Nat}
    (spaces : after.spaces = machine.spaces ++ [⟨{}, directory, stackPointer⟩]) (space : SpaceId) :
    after.registry space = machine.registry space := by
  obtain ⟨new, old⟩ := machine.space_create spaces
  rcases Nat.lt_trichotomy space machine.spaces.length with known | same | far
  · rw [Machine.registry, Machine.registry, old known]
  · rw [same, machine.registry_beyond (Nat.le_refl _), Machine.registry, new]
    rfl
  · rw [machine.registry_beyond (Nat.le_of_lt far)]
    refine registry_beyond after ?_
    rw [spaces, List.length_append, List.length_singleton]
    exact far

theorem space_present {addr : VirtualAddress} {page : Page}
    (found : (machine.registry space).pages.get? addr = some page) :
    space < machine.spaces.length := by
  refine Nat.lt_of_not_le fun beyond => ?_
  rw [machine.registry_beyond beyond] at found
  simp [default] at found

end DemandPaging.Machine
