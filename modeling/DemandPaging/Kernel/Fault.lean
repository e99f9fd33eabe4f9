import DemandPaging.Kernel.Load

/-! Resolving page faults. -/
namespace DemandPaging.Kernel
variable [Architecture]

def userAddress (address : Nat) : Faulting VirtualAddress := do
  match (VirtualAddress.ofWord? address).filter (·.value < (← get).config.userTop) with
  | some addr => return addr
  | none => throw (.kernelAddress address)

/-- Registers a zero page for an access just below the stack pointer. -/
def growStack (space : SpaceId) (addr : VirtualAddress) : Faulting Page := do
  let page := addr.pageBase
  let machine ← get
  let config := machine.config
  let reach := Word.saturatingAdd addr.value config.stackGrowthMargin
  if reach < (machine.space space).stackPointer then throw (.unmapped page)
  if config.maxStackSize < config.userTop - page.value then throw (.stackOverflow page)
  match (machine.registry space).create page .zero true with
  | .error error => throw (.registry error)
  | .ok (page, registry) =>
      modify (·.setRegistry space registry)
      emit (.stackGrown space page.addr)
      return page

/-- Makes the page of an address resident. Answers its frame, or nothing if the page was changed
meanwhile. With `pin` the frame is left pinned, like those in `pinned`. -/
def resolve (others : Interference) (space : SpaceId) (address : Nat) (access : Access)
    (pin : Bool) (pinned : List (VirtualAddress × FrameNumber)) : Faulting (Option FrameNumber) := do
  let addr ← userAddress address
  let page ← match ((← get).registry space).lookup addr with
    | some page => pure page
    | none => growStack space addr
  if access = .write ∧ !page.writable then throw (.writeToReadOnly page.addr)
  match page.state with
  | .resident frame => if pin then pinResident space page.addr else return some frame
  | _ => load others space page pin pinned

/-- Resolves a page fault of a process whose stack pointer is `stackPointer`. -/
def handleFault (others : Interference) (space : SpaceId) (fault : PageFault)
    (stackPointer : Nat) : Kernel (Except FaultError Unit) := do
  modifyStats fun stats => { stats with faults := stats.faults + 1 }
  modify (·.setStackPointer space stackPointer)
  let attempt : Faulting Unit := do
    if fault.present then
      let addr ← userAddress fault.address
      throw (.writeToReadOnly addr.pageBase)
    else
      let _ ← resolve others space fault.address fault.access false []
  let result ← attempt.run
  if let .error error := result then emit (.unresolvable space fault.address error)
  return result

def firstStackPage (top : Nat) : Except Fatal VirtualAddress := do
  VirtualAddress.ofWord (← Word.sub top pageSize)

/-- Registers and loads the first page of the stack, and answers the initial stack pointer. -/
def setupStack (others : Interference) (space : SpaceId) : Faulting Nat := do
  let top := (← get).config.userTop
  let page ← (orStop (firstStackPage top) : Kernel VirtualAddress)
  match ((← get).registry space).create page .zero true with
  | .error error => throw (.registry error)
  | .ok (_, registry) =>
      modify (·.setRegistry space registry)
      modify (·.setStackPointer space top)
      let _ ← resolve others space page.value .write false []
      return top

end DemandPaging.Kernel
