import DemandPaging.Kernel.Eviction

/-! Handing out frames, pinning them and taking them back. -/
namespace DemandPaging.Kernel
variable [Architecture]

/-- Assigns a frame to `owner`, evicting a page if none is free. The frame comes pinned: the caller
unpins it once a page uses it, or frees it. -/
def allocate (owner : SpaceId) (zeroed : Bool) : Kernel FrameNumber := do
  let index ← match (← get).pool.takeFree? with
    | some (index, pool) => do
        modifyPool fun _ => pool
        pure index
    | none => evict
  modifyPool (·.assign index owner)
  let frame ← orStop ((← get).pool.frameAt index)
  if zeroed then writeFrame frame 0 (List.replicate pageSize 0)
  return frame

/-- Returns a frame to the pool, unless it is not assigned. -/
def free (frame : FrameNumber) : Kernel Unit := do
  let index ← poolIndex frame
  match ((← get).pool.entry index).owner with
  | none =>
      modifyPool (·.setEntry index {})
      emit (.strayFree frame)
  | some _ => modifyPool fun pool => (pool.removeFromClock index).giveBack index

def pinResident (space : SpaceId) (page : VirtualAddress) : Kernel (Option FrameNumber) := do
  match ((← get).registry space).pin? page with
  | none => return none
  | some (frame, registry) =>
      modify (·.setRegistry space registry)
      let index ← poolIndex frame
      modifyPool fun pool =>
        let entry := pool.entry index
        pool.setEntry index { entry with pins := entry.pins + 1 }
      return some frame

/-- Drops one pin that `owner` holds on a frame. The last one makes the frame evictable again, or
frees it if its page was released meanwhile. A pin on a frame of another owner is ignored. -/
def unpin (frame : FrameNumber) (owner : SpaceId) : Kernel Unit := do
  let index ← poolIndex frame
  let entry := (← get).pool.entry index
  if entry.owner ≠ some owner ∨ entry.pins = 0 then
    emit (.strayUnpin frame owner)
  else if entry.pins = 1 ∧ entry.released then
    modifyPool (·.giveBack index)
  else
    modifyPool (·.setEntry index { entry with pins := entry.pins - 1 })
    if entry.pins = 1 then modifyRegistry owner (·.unpinFrame frame)

/-- Gives up the frame or the slot of a page that is no longer registered. A pinned frame leaves
the ring at once and is freed at its last unpin. -/
def releaseHolding (space : SpaceId) (page : Page) : Kernel Unit := do
  match page.state with
  | .unloaded => return
  | .swapped slot => freeSlot slot
  | .resident frame =>
      let _ ← unmap space page.addr
      let index ← poolIndex frame
      let entry := (← get).pool.entry index
      if 0 < entry.pins then
        emit (.releasedPinned frame)
        modifyPool fun pool =>
          (pool.setEntry index { entry with released := true }).removeFromClock index
      else free frame

/-- Unregisters the page that `addr` lies in and gives up its frame or slot, unless the frame is
pinned. -/
def releasePage (space : SpaceId) (addr : VirtualAddress) :
    Kernel (Except RegistryError Page) := do
  let base := addr.pageBase
  match ((← get).registry space).take? base with
  | none => return .error (.notFound base)
  | some (page, registry) =>
      let pinned ← match page.frame? with
        | none => pure false
        | some frame => do
            let index ← poolIndex frame
            pure ((← get).pool.isPinned index)
      if pinned then return .error (.inUse base)
      modify (·.setRegistry space registry)
      releaseHolding space page
      return .ok page

/-- Unregisters every page of a space and gives up all frames and slots, without writing any page
back. -/
def destroySpace (space : SpaceId) : Kernel Unit := do
  let pages := ((← get).registry space).pages.values
  modifyRegistry space fun _ => default
  pages.forM (releaseHolding space)
  emit (.spaceDestroyed space pages.length)

end DemandPaging.Kernel
