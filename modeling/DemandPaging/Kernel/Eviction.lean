import DemandPaging.Machine

/-! Eviction. The second-chance clock visits the assigned frames in the order of the ring, starting
at the hand. It passes over pinned frames; it takes the accessed mark of a page away and passes
over it once; the first frame that is neither pinned nor accessed is the victim. A victim that is
dirty or has nothing to load from again is written to swap; any other is dropped. -/
namespace DemandPaging.Kernel
variable [Architecture]

/-- Unmaps the page in `frame` and saves it to swap if it has to be kept. -/
def writeBack (owner : SpaceId) (frame : FrameNumber) : Kernel Unit := do
  match (← get).registry owner |>.lookupFrame frame with
  | none => emit (.nothingAttached frame)
  | some page =>
      let dirty := (← get).isDirty owner page.addr
      let _ ← unmap owner page.addr
      if !dirty && !page.backing.alwaysSwaps then
        emit (.discarded page.addr frame)
        modifyStats fun stats => { stats with discards := stats.discards + 1 }
        modifyRegistry owner (·.detach frame .unloaded)
      else
        let bytes ← readFrame frame
        let (result, swap) := (← get).swap.write bytes
        modify fun machine => { machine with swap }
        match result with
        | .ok slot =>
            emit (.swappedOut page.addr frame slot)
            modifyStats fun stats => { stats with swapWrites := stats.swapWrites + 1 }
            modifyRegistry owner (·.detach frame (.swapped slot))
        | .error .full =>
            emit (.swapFull page.addr owner)
            throw .swapExhausted
        | .error error =>
            emit (.swapWriteFailed page.addr error)
            throw (.swapWriteFailed error)

inductive Visit where
  /-- The frame is pinned or holds no page. -/
  | passOver
  /-- The page was accessed since the last visit. -/
  | spare (owner : SpaceId) (page : VirtualAddress)
  | reclaim (owner : SpaceId)
deriving DecidableEq

def visit (machine : Machine) (index : Nat) (frame : FrameNumber) : Visit :=
  let entry := machine.pool.entry index
  match entry.owner with
  | none => .passOver
  | some owner =>
      if entry.pins ≠ 0 then .passOver
      else
        match (machine.registry owner).holders.get? frame with
        | none => .passOver
        | some page => if machine.isAccessed owner page then .spare owner page else .reclaim owner

/-- Moves the clock over at most `visits` frames until one is reclaimed, and answers its index. -/
def sweep : Nat → Kernel Nat
  | 0 => throw .stalled
  | visits + 1 => do
      modifyPool (·.wrapHand)
      let machine ← get
      match machine.pool.clock[machine.pool.hand]? with
      | none => throw .stalled
      | some index =>
          let frame ← orStop (machine.pool.frameAt index)
          match visit machine index frame with
          | .passOver =>
              modifyPool (·.advanceHand)
              sweep visits
          | .spare owner page =>
              emit (.secondChance frame page)
              setAccessed owner page false
              modifyPool (·.advanceHand)
              sweep visits
          | .reclaim owner =>
              writeBack owner frame
              modifyStats fun stats => { stats with evictions := stats.evictions + 1 }
              modifyPool fun pool => (pool.setEntry index {}).removeFromClock index
              return index

/-- Reclaims an assigned frame. Two rounds of the clock are enough: the first leaves no page
accessed that it passes over. -/
def evict : Kernel Nat := do
  let pool := (← get).pool
  if pool.clock.all pool.isPinned then
    emit (.allPinned pool.clock.length)
    throw .noEvictableFrame
  sweep (2 * pool.clock.length)

end DemandPaging.Kernel
