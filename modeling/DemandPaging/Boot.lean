import DemandPaging.Kernel.Spaces

/-! Starting the memory manager. -/
namespace DemandPaging
variable [Architecture]

/-- The frames of a pool as the log shows them: where the first begins and where the last ends. -/
def poolRange (base : FrameNumber) (count : Nat) :
    Except Fatal (PhysicalAddress × PhysicalAddress) := do
  let first ← base.start
  let last ← (← base.add count).start
  return (first, last)

def frameEntrySize : Nat := 24

/-- Starts a memory manager for a pool of frames from `base` on. The range of the pool is worked
out only for a log that shows it. -/
def Machine.boot (threshold : Option Level) (config : Config) (memory : Memory)
    (base : FrameNumber) (disk : Disk) : Except Fatal Machine := do
  let range ← if Level.enabled threshold .info then
      (poolRange base config.frameCount).map some
    else pure none
  Word.room config.frameCount frameEntrySize
  let swap ← SwapStore.ofDisk disk
  return {
    config
    pool := .ofCount base config.frameCount
    memory
    swap
    log := [.ofStore swap] ++
      range.toList.map (fun (first, last) => .poolReady config.frameCount first last) ++
      [.started config.userTop config.maxStackSize] }

def Kernel.createSpaces (spec : DirectorySpec) (count : Nat) : Kernel Unit :=
  (List.range count).forM fun _ => do
    let directory ← Kernel.addDirectory spec
    let _ ← Kernel.createSpace directory

end DemandPaging
