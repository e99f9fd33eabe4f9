/-! Reasons a block device refuses a sector transfer. -/
namespace DemandPaging

inductive BlockError where
  /-- The sector lies past the end of the device. -/
  | outOfRange (sector : Nat)
  /-- The buffer is not exactly one sector long. -/
  | bufferSize (expected actual : Nat)
  /-- The device failed the transfer. -/
  | device
deriving DecidableEq, Inhabited

def BlockError.message : BlockError → String
  | .outOfRange sector => s!"sector {sector} is out of range"
  | .bufferSize expected actual =>
      s!"buffer is {actual} bytes, expected one {expected}-byte sector"
  | .device => "device I/O error"

end DemandPaging
