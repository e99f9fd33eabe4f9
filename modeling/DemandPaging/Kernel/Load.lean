import DemandPaging.Kernel.Frames
import DemandPaging.Kernel.Interference

/-! Loading a page into a frame. The page is described by a snapshot taken before the frame was
obtained. If the page has changed when its contents have arrived, the race is lost: the frame goes
back to the pool and the page stays as others have left it. -/
namespace DemandPaging.Kernel
variable [Architecture]

/-- Reads the first `length` bytes of a sector through the controller, after other parties had
their turn. -/
def readSector (others : Interference) (load : Option Load) (sector length : Nat) :
    Kernel (Except BlockError Bytes) := do
  others.beforeSectorRead load
  modifyGet fun machine =>
    let (result, disk) := machine.swap.disk.readPart sector length
    (result, { machine with swap := { machine.swap with disk } })

/-- Reads the page in a slot for a buffer of `length` bytes, and delivers it sector by sector. A
caller reads without a load. -/
def readSlot {m : Type → Type} [Monad m] [MonadLiftT Kernel m] (others : Interference)
    (load : Option Load) (slot : SwapSlot) (length : Nat) (deliver : Nat → Bytes → m Unit) :
    m (Except SwapError Unit) := do
  let swap : SwapStore := (← (get : Kernel Machine)).swap
  match swap.readable slot length with
  | .error error => return .error error
  | .ok () =>
      let transfer (chunk : Chunk) : m (Except BlockError Unit) := do
        match ← (readSector others load chunk.sector chunk.length : Kernel _) with
        | .error error => return .error error
        | .ok bytes =>
            deliver chunk.offset bytes
            return .ok ()
      match ← transferChunks transfer (swap.layout slot) with
      | .ok () => return .ok ()
      | .error error => return .error (.io error)

def fillFromFile (others : Interference) (load : Load) (segment : FileSegment) :
    Faulting Unit := do
  if 0 < segment.readBytes then
    others.beforeFileRead load segment.file
    let (result, file) :=
      ((← get).file segment.file).readAt segment.offset segment.readBytes
    modify (·.setFile segment.file file)
    match result with
    | .error error => throw (.file error)
    | .ok bytes =>
        writeFrame load.frame 0 bytes
        if bytes.length ≠ segment.readBytes then
          throw (.shortRead load.page.addr segment.readBytes bytes.length)
        modifyStats fun stats => { stats with fileReads := stats.fileReads + 1 }
  writeFrame load.frame segment.readBytes (List.replicate segment.zeroBytes 0)

/-- Fills the frame of a load with the contents of the page, which is not resident. -/
def populate (others : Interference) (load : Load) : Faulting Unit := do
  let _ ← readFrame load.frame
  match load.page.state, load.page.backing with
  | .swapped slot, _ =>
      match ← (readSlot others load slot pageSize (writeFrame load.frame) : Kernel _) with
      | .error error => throw (.swap error)
      | .ok () => modifyStats fun stats => { stats with swapReads := stats.swapReads + 1 }
  | _, .zero => writeFrame load.frame 0 (List.replicate pageSize 0)
  | _, .file segment => fillFromFile others load segment
  | _, .unclassified => throw (.unclassified load.page.addr)

/-- Maps the page in `snapshot` to `frame` and records it as resident there, if the page has not
changed since. -/
def attach (space : SpaceId) (snapshot : Page) (frame : FrameNumber) (pinned : Bool) :
    Kernel (Except MapError Bool) := do
  match ((← get).registry space).current? snapshot with
  | none => return .ok false
  | some page =>
      let start ← orStop frame.start
      match ← install space page.addr start page.writable with
      | .error error => return .error error
      | .ok () =>
          modifyRegistry space (·.settle page frame pinned)
          return .ok true

/-- Loads a page that is not resident into a new frame and maps it. Answers the frame, or nothing
if the page was changed meanwhile. With `pin` the frame stays pinned, like those in `pinned`. -/
def load (others : Interference) (space : SpaceId) (page : Page) (pin : Bool)
    (pinned : List (VirtualAddress × FrameNumber)) : Faulting (Option FrameNumber) := do
  if page.backing = .unclassified then throw (.unclassified page.addr)
  let frame ← allocate space false
  match ← attempt (populate others ⟨space, page, frame, pinned⟩) with
  | .error error =>
      free frame
      if ((← get).registry space).isStale page then return none
      throw error
  | .ok () =>
      match ← attach space page frame pin with
      | .ok false =>
          free frame
          return none
      | .error error =>
          free frame
          throw (.map error)
      | .ok true =>
          if let .swapped slot := page.state then
            freeSlot slot
            -- The contents may differ from those of a backing file, so they must be kept.
            setDirty space page.addr true
          if !pin then unpin frame space
          emit (.loaded space page.addr frame page.state)
          return some frame

end DemandPaging.Kernel
