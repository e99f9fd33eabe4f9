import DemandPaging.Session.Parts

/-! Swap stores without a memory manager, side by side. A slot that one store has handed out can be
asked for at another. What happens, the opening of the stores included, is told with the next
answer. -/
namespace DemandPaging

/-- Several swap stores, and the slots noted in the order in which the stores handed them out. -/
structure Stores where
  stores : List SwapStore
  slots : List SwapSlot := []
  /-- What happened since the last answer, the earliest first. -/
  untold : List Event := []
deriving Inhabited

variable [Geometry]

def StoreOp.run (op : StoreOp) (slots : List SwapSlot) (swap : SwapStore) :
    Except Fatal SwapOutcome := do
  match op with
  | .swap op => op.run slots swap
  | .disk op =>
      let (reply, after) ← op.run swap.disk
      return { reply, slots, swap := { swap with disk := after } }

namespace Stores

def ofDisks (disks : List (Except Fatal Disk)) : Except Fatal Stores := do
  let stores ← disks.mapM fun disk => do SwapStore.ofDisk (← disk)
  return { stores, untold := stores.map Event.ofStore }

def store (row : Stores) (number : Nat) : SwapStore := row.stores.getD number default

/-- Performs an operation on the store of a number. Answers with everything untold. -/
def perform (row : Stores) (number : Nat) (op : StoreOp) :
    Except Fatal (Reply × List Event × Stores) := do
  let outcome ← op.run row.slots (row.store number)
  return (outcome.reply, row.untold ++ outcome.events,
    { stores := row.stores.set number outcome.swap, slots := outcome.slots })

end Stores

end DemandPaging
