import DemandPaging.Machine

/-! Performing operations on the parts of a machine: registries, page directories, disks and swap
stores. Addresses are checked first, then backings, then the operation runs. -/
namespace DemandPaging

def DiskOp.run (op : DiskOp) (disk : Disk) : Except Fatal (Reply × Disk) :=
  match op with
  | .read sector length => do
      Word.room length 1
      disk.measure length
      match disk.fetch sector length with
      | (.ok bytes, disk) => return (.bytes bytes, disk)
      | (.error error, disk) => return (.failed (.block error), disk)
  | .write sector bytes => do
      disk.measure bytes.length
      match disk.store sector bytes with
      | (.ok (), disk) => return (.done, disk)
      | (.error error, disk) => return (.failed (.block error), disk)
  | .info => do
      return (.diskInfo disk.sectorSize (← disk.sectorCount) disk.reads disk.writes, disk)
  | .limit reads writes => .ok (.done, { disk with readsLeft := reads, writesLeft := writes })

section
variable [Geometry]

def BackingSpec.resolve : BackingSpec → Except Fatal Backing
  | .unclassified => .ok .unclassified
  | .zero => .ok .zero
  | .file source offset readBytes => do
      return .file (← FileSegment.ofParts source offset readBytes)

def RegistryOp.run (op : RegistryOp) (registry : Registry) : Except Fatal (Reply × Registry) :=
  match op with
  | .create addr backing writable => do
      let addr ← VirtualAddress.ofWord addr
      let backing ← backing.resolve
      match registry.create addr backing writable with
      | .ok (page, registry) => return (.page page, registry)
      | .error error => return (.failed (.registry error), registry)
  | .lookup addr => do
      let addr ← VirtualAddress.ofWord addr
      return ((registry.lookup addr).elim .nothing .page, registry)
  | .lookupFrame frame =>
      .ok ((registry.lookupFrame ⟨frame⟩).elim .nothing .page, registry)
  | .remove addr => do
      let addr ← VirtualAddress.ofWord addr
      match registry.remove addr with
      | .ok (page, registry) => return (.page page, registry)
      | .error error => return (.failed (.registry error), registry)
  | .classify addr backing => do
      let addr ← VirtualAddress.ofWord addr
      let backing ← backing.resolve
      match registry.classify addr backing with
      | .ok registry => return (.done, registry)
      | .error error => return (.failed (.registry error), registry)
  | .length => .ok (.length registry.size, registry)
  | .resident => .ok (.resident registry.resident, registry)

/-- A store and the slots that callers have noted, after an operation, with its answer. -/
structure SwapOutcome where
  reply : Reply
  slots : List SwapSlot
  swap : SwapStore
  events : List Event := []

/-- Performs an operation on a swap store whose device nobody else uses. -/
def SwapOp.run (op : SwapOp) (slots : List SwapSlot) (swap : SwapStore) :
    Except Fatal SwapOutcome := do
  match op with
  | .write bytes =>
      match swap.write bytes with
      | (.ok slot, swap) => return { reply := .slotWritten slot, slots := slots ++ [slot], swap }
      | (.error error, swap) => return { reply := .failed (.swap error), slots, swap }
  | .read name length =>
      match slots[name]? with
      | none => return { reply := .nothing, slots, swap }
      | some slot =>
          Word.room length 1
          match swap.read slot (List.replicate length 0xcc) with
          | (.ok (), buffer, swap) => return { reply := .bytes buffer, slots, swap }
          | (.error error, buffer, swap) =>
              return { reply := .swapReadFailed error buffer, slots, swap }
  | .free name =>
      match slots[name]? with
      | none => return { reply := .nothing, slots, swap }
      | some slot =>
          let (wasUsed, swap) := swap.free slot
          return { reply := .done, slots, swap
                   events := if wasUsed then [] else [.slotNotInUse slot] }
  | .isOccupied name =>
      return { reply := slots[name]?.elim .nothing fun slot => .truth (swap.isOccupied slot)
               slots, swap }

end

def DirectoryOp.run [Architecture] (op : DirectoryOp) (directory : Architecture.Directory) :
    Except Fatal (Reply × Architecture.Directory) :=
  match op with
  | .install addr phys writable => do
      let addr ← VirtualAddress.ofWord addr
      let phys ← PhysicalAddress.ofWord phys
      match Architecture.install directory addr phys writable with
      | (.ok (), directory) => return (.done, directory)
      | (.error error, directory) => return (.failed (.map error), directory)
  | .unmap addr => do
      let (frame, directory) := Architecture.unmap directory (← VirtualAddress.ofWord addr)
      return (frame.elim .nothing fun frame => .address frame.value, directory)
  | .isAccessed addr => do
      return (.truth (Architecture.isAccessed directory (← VirtualAddress.ofWord addr)), directory)
  | .isDirty addr => do
      return (.truth (Architecture.isDirty directory (← VirtualAddress.ofWord addr)), directory)
  | .setAccessed addr value => do
      return (.done, Architecture.setAccessed directory (← VirtualAddress.ofWord addr) value)
  | .setDirty addr value => do
      return (.done, Architecture.setDirty directory (← VirtualAddress.ofWord addr) value)
  | .translate addr => do
      let addr ← VirtualAddress.ofWord addr
      return ((Architecture.translate directory addr).elim .nothing fun phys =>
        .address phys.value, directory)
  | .entry addr => do
      let addr ← VirtualAddress.ofWord addr
      return ((Architecture.entry? directory addr).elim .nothing .entry, directory)
  | .access addr kind => do
      match Architecture.access directory (← VirtualAddress.ofWord addr) kind with
      | (.ok phys, directory) => return (.address phys.value, directory)
      | (.error fault, directory) => return (.fault fault, directory)

end DemandPaging
