import DemandPaging.Geometry

/-! What is fixed when the memory manager is created, and what it counts. -/
namespace DemandPaging

structure Config where
  /-- Number of frames in the user pool. -/
  frameCount : Nat
  /-- First address above user space; the stack grows down from here. -/
  userTop : Nat
  /-- Largest size in bytes that the stack may grow to. -/
  maxStackSize : Nat
  /-- How far below the stack pointer an access still counts as stack growth. -/
  stackGrowthMargin : Nat
deriving DecidableEq, Inhabited

def Config.defaultMargin : Nat := 32

structure Stats where
  /-- Page faults handled, resolved or not. -/
  faults : Nat := 0
  /-- Frames reclaimed by the clock. -/
  evictions : Nat := 0
  /-- Evicted pages written to swap. -/
  swapWrites : Nat := 0
  /-- Pages loaded back from swap. -/
  swapReads : Nat := 0
  /-- Pages loaded from their backing file. -/
  fileReads : Nat := 0
  /-- Clean evicted pages dropped without a transfer. -/
  discards : Nat := 0
deriving DecidableEq, Inhabited

variable [Geometry]

def Config.ofFrames (frameCount : Nat) : Config where
  frameCount
  userTop := DemandPaging.userTop
  maxStackSize := Geometry.maxStackSize
  stackGrowthMargin := Config.defaultMargin

def Config.standard : Config := .ofFrames Geometry.defaultFrames

end DemandPaging
