import DemandPaging.Geometry

/-! Backing files: the contents that pages are loaded from. -/
namespace DemandPaging

inductive FileError where
  /-- The offset cannot be represented on this platform. -/
  | offsetOutOfRange (offset : Nat)
  /-- The underlying filesystem failed the read. -/
  | io
deriving DecidableEq, Inhabited

def FileError.message : FileError → String
  | .offsetOutOfRange offset => s!"offset {Word.hex offset} is out of range"
  | .io => "file I/O error"

inductive FileMode where
  | working
  | failing
  | refusingOffsets
deriving DecidableEq, Inhabited

structure BackingFile where
  contents : Bytes
  mode : FileMode := .working
  /-- Reads served so far. -/
  reads : Nat := 0
deriving Inhabited

/-- Reads up to `length` bytes from `offset` on; fewer means that the file ends there. -/
def BackingFile.readAt (file : BackingFile) (offset length : Nat) :
    Except FileError Bytes × BackingFile :=
  match file.mode with
  | .working =>
      (.ok (file.contents.slice offset length), { file with reads := file.reads + 1 })
  | .failing => (.error .io, file)
  | .refusingOffsets => (.error (.offsetOutOfRange offset), file)

abbrev FileId := Nat

/-- The part of a file that one page is loaded from: `readBytes` bytes from `offset` on, and zeros
up to the end of the page. -/
structure FileSegment where
  file : FileId
  offset : Nat
  readBytes : Nat
deriving DecidableEq, Inhabited

variable [Geometry]

def FileSegment.ofParts (file : FileId) (offset readBytes : Nat) : Except Fatal FileSegment :=
  if readBytes ≤ pageSize then .ok { file, offset, readBytes } else .error .oversizedSegment

def FileSegment.zeroBytes (segment : FileSegment) : Nat :=
  pageSize - segment.readBytes

def FileSegment.debugText (segment : FileSegment) : String :=
  s!"FileSegment \x7b offset: {segment.offset}, read_bytes: {segment.readBytes}, " ++
    s!"zero_bytes: {segment.zeroBytes}, .. \x7d"

end DemandPaging
