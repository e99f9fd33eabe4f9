import DemandPaging.Address
import DemandPaging.SortedMap

/-! The pool of user frames: which frames are free, which are assigned and to whom, and the ring
that the clock hand walks. Frames are known here by their index in the pool. -/
namespace DemandPaging

/-- Place of an address space among those created, from zero. -/
abbrev SpaceId := Nat

structure FrameEntry where
  /-- The address space holding the frame. -/
  owner : Option SpaceId := none
  /-- Outstanding pins. -/
  pins : Nat := 0
  /-- The page was released while pinned; the last unpin frees the frame. -/
  released : Bool := false
deriving DecidableEq, Inhabited

structure FramePool where
  /-- The first frame of the pool. -/
  base : FrameNumber
  /-- Number of frames. -/
  capacity : Nat
  /-- What is known of the frames that were ever assigned. -/
  entries : SortedMap Nat FrameEntry := .empty
  /-- Free indexes that were assigned before; the head is assigned next. -/
  returned : List Nat := []
  /-- The first index that was never assigned. It and those after it are free, to be assigned in
  ascending order when none is left of those returned. -/
  fresh : Nat := 0
  /-- Assigned indexes in order of assignment. -/
  clock : List Nat := []
  /-- Position in the ring of the next frame to examine. -/
  hand : Nat := 0
deriving Inhabited

namespace FramePool

/-- A pool of `count` free frames, to be assigned in ascending order. -/
def ofCount (base : FrameNumber) (count : Nat) : FramePool where
  base
  capacity := count

/-- The free indexes in the order in which they will be assigned. -/
def free (pool : FramePool) : List Nat :=
  pool.returned ++ List.range' pool.fresh (pool.capacity - pool.fresh)

def residentCount (pool : FramePool) : Nat := pool.clock.length

def freeCount (pool : FramePool) : Nat := pool.returned.length + (pool.capacity - pool.fresh)

def takeFree? (pool : FramePool) : Option (Nat × FramePool) :=
  match pool.returned with
  | index :: rest => some (index, { pool with returned := rest })
  | [] =>
      if pool.fresh < pool.capacity then
        some (pool.fresh, { pool with fresh := pool.fresh + 1 })
      else none

def entry (pool : FramePool) (index : Nat) : FrameEntry := (pool.entries.get? index).getD {}

def setEntry (pool : FramePool) (index : Nat) (entry : FrameEntry) : FramePool :=
  { pool with entries := pool.entries.insert index entry }

def isPinned (pool : FramePool) (index : Nat) : Bool := 0 < (pool.entry index).pins

def index (pool : FramePool) (frame : FrameNumber) : Except Fatal Nat :=
  if pool.base.value ≤ frame.value ∧ frame.value - pool.base.value < pool.capacity then
    .ok (frame.value - pool.base.value)
  else .error (.notInPool frame.value)

def frameAt (pool : FramePool) (index : Nat) : Except Fatal FrameNumber :=
  pool.base.add index

/-- Takes an index out of the ring and leaves the hand on the frame it was going to examine. -/
def removeFromClock (pool : FramePool) (index : Nat) : FramePool :=
  match pool.clock.findIdx? (· == index) with
  | none => pool
  | some position =>
      let clock := pool.clock.eraseIdx position
      let hand := if position < pool.hand then pool.hand - 1 else pool.hand
      { pool with clock, hand := if hand < clock.length then hand else 0 }

/-- Assigns the frame at `index` with one pin, last in the ring. -/
def assign (pool : FramePool) (index : Nat) (owner : SpaceId) : FramePool :=
  { pool.setEntry index { owner := some owner, pins := 1 } with clock := pool.clock ++ [index] }

/-- Puts the frame at `index` on the free list. -/
def giveBack (pool : FramePool) (index : Nat) : FramePool :=
  { pool.setEntry index {} with returned := index :: pool.returned }

def wrapHand (pool : FramePool) : FramePool :=
  if pool.hand < pool.clock.length then pool else { pool with hand := 0 }

def advanceHand (pool : FramePool) : FramePool := { pool with hand := pool.hand + 1 }

theorem freeCount_eq (pool : FramePool) : pool.freeCount = pool.free.length := by
  simp [freeCount, free]

theorem free_giveBack (pool : FramePool) (index : Nat) :
    (pool.giveBack index).free = index :: pool.free := rfl

theorem free_of_takeFree? {pool rest : FramePool} {index : Nat}
    (taken : pool.takeFree? = some (index, rest)) : pool.free = index :: rest.free := by
  unfold takeFree? at taken
  split at taken
  · rename_i head tail returned
    cases taken
    simp [free, returned]
  · rename_i returned
    split at taken
    · rename_i fresh
      cases taken
      have step : pool.capacity - pool.fresh = pool.capacity - (pool.fresh + 1) + 1 := by omega
      simp [free, returned, step, List.range'_succ]
    · cases taken

theorem free_of_takeFree?_none {pool : FramePool} (none_left : pool.takeFree? = none) :
    pool.free = [] := by
  unfold takeFree? at none_left
  split at none_left
  · cases none_left
  · rename_i returned
    split at none_left
    · cases none_left
    · rename_i used_up
      have done : pool.capacity - pool.fresh = 0 := by omega
      simp [free, returned, done]

end FramePool

end DemandPaging
