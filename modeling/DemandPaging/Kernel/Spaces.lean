import DemandPaging.Machine

/-! Creating address spaces and registering their pages. -/
namespace DemandPaging
variable [Architecture]

namespace Registry

def removePages (registry : Registry) (addr : VirtualAddress) (count : Nat) : Registry :=
  (List.range count).foldl (fun registry i =>
    match registry.remove ⟨addr.value + i * pageSize⟩ with
    | .ok (_, registry) => registry
    | .error _ => registry) registry

/-- Registers the pages of a segment from page `done` on, `remaining` of them. If one cannot be
registered, none of the segment stays. -/
def createPages (addr : VirtualAddress) (file : FileId) (offset readBytes : Nat)
    (writable : Bool) (done : Nat) :
    Nat → Registry → Except Fatal (Except RegistryError Unit × Registry)
  | 0, registry => return (.ok (), registry)
  | remaining + 1, registry => do
      let place := done * pageSize
      let start ← Word.add offset place
      let segment ← FileSegment.ofParts file start (min (readBytes - place) pageSize)
      let page ← addr.add place
      match registry.refusal? page with
      | some error => return (.error error, registry.removePages addr done)
      | none =>
          createPages addr file offset readBytes writable (done + 1) remaining
            (registry.add { addr := page, backing := .file segment, writable })

/-- Registers `readBytes` bytes of a file from `offset` on, followed by `zeroBytes` zeros, as
consecutive pages from `addr` on. Each page reads its share of the file. -/
def createSegment (registry : Registry) (file : FileId) (offset : Nat) (addr : VirtualAddress)
    (readBytes zeroBytes : Nat) (writable : Bool) :
    Except Fatal (Except RegistryError Nat × Registry) := do
  if !addr.isPageAligned || offset % pageSize != 0 then
    return (.error (.unaligned addr), registry)
  let total ← Word.add readBytes zeroBytes
  if total % pageSize ≠ 0 then return (.error (.unaligned addr), registry)
  let pages := total / pageSize
  match ← createPages addr file offset readBytes writable 0 pages registry with
  | (.ok (), registry) => return (.ok pages, registry)
  | (.error error, registry) => return (.error error, registry)

end Registry

namespace Kernel

def createSpace (directory : DirectoryId) : Kernel SpaceId := do
  let machine ← get
  let space := machine.spaces.length
  emit (.spaceCreated space)
  modify fun machine => { machine with
    spaces := machine.spaces ++ [⟨{}, directory, machine.config.userTop⟩] }
  return space

def addDirectory (spec : DirectorySpec) : Kernel DirectoryId :=
  modifyGet fun machine =>
    (machine.directories.length,
      { machine with directories := machine.directories ++ [Architecture.ofSpec spec] })

def registerSegment (space : SpaceId) (file : FileId) (offset : Nat) (addr : VirtualAddress)
    (readBytes zeroBytes : Nat) (writable : Bool) : Kernel (Except RegistryError Unit) := do
  let registry := (← get).registry space
  let (result, registry) ←
    orStop (registry.createSegment file offset addr readBytes zeroBytes writable)
  modify (·.setRegistry space registry)
  match result with
  | .error error => return .error error
  | .ok pages =>
      emit (.segmentRegistered space pages addr readBytes)
      return .ok ()

end Kernel

end DemandPaging
