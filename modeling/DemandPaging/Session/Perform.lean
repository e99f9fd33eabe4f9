import DemandPaging.Boot
import DemandPaging.Kernel.Pinning
import DemandPaging.Session.Parts
import DemandPaging.Session.Touch

/-! Performing the operations of callers on a machine. -/
namespace DemandPaging
namespace Kernel
variable [Architecture]

def virtual (addr : Nat) : Kernel VirtualAddress :=
  orStop (VirtualAddress.ofWord addr)

def answer {α : Type} (action : Faulting α) (reply : α → Kernel Reply) : Kernel Reply := do
  match ← action.run with
  | .ok value => reply value
  | .error error => return .failed (.fault error)

def noteSlot (slot : SwapSlot) : Kernel Unit :=
  modifyCallers fun callers => { callers with slots := callers.slots ++ [slot] }

/-- Performs an operation on the swap store. A read gives other parties their turns. -/
def performSwap (others : Interference) (op : SwapOp) : Kernel Reply := do
  let machine ← get
  match op with
  | .read name length =>
      match machine.callers.slots[name]? with
      | none => return .nothing
      | some slot =>
          orStop (Word.room length 1)
          let deliver (offset : Nat) (bytes : Bytes) : StateT Bytes Kernel Unit :=
            modify (·.patch offset bytes)
          let (result, buffer) ←
            (readSlot others none slot length deliver).run (List.replicate length 0xcc)
          match result with
          | .ok () => return .bytes buffer
          | .error error => return .swapReadFailed error buffer
  | op =>
      let outcome ← orStop (op.run machine.callers.slots machine.swap)
      modify fun machine => { machine with
        swap := outcome.swap
        callers := { machine.callers with slots := outcome.slots } }
      outcome.events.forM emit
      return outcome.reply

def registerZeroPage (space : SpaceId) (page : VirtualAddress) (writable : Bool) :
    Kernel (Except RegistryError VirtualAddress) := do
  match ((← get).registry space).create page .zero writable with
  | .ok (page, registry) =>
      modify (·.setRegistry space registry)
      return .ok page.addr
  | .error error => return .error error

/-- Registers zero pages from page `done` of those at `addr` on, `remaining` of them, each on its
own account. The outcomes so far are `outcomes`, the latest first. -/
def registerZero (space : SpaceId) (addr : VirtualAddress) (writable : Bool) (done : Nat)
    (outcomes : List (Except RegistryError VirtualAddress)) :
    Nat → Kernel (List (Except RegistryError VirtualAddress))
  | 0 => return outcomes.reverse
  | remaining + 1 => do
      let page ← orStop (addr.add (done * pageSize))
      let outcome ← registerZeroPage space page writable
      registerZero space addr writable (done + 1) (outcome :: outcomes) remaining

/-- Performs an access of a process and goes on from the byte reached. -/
def afterTouch (others : Interference) (space : SpaceId) (addr : Nat) (kind : Access)
    (proceed : PhysicalAddress → Nat → Kernel Reply) : Kernel Reply := do
  match ← touch others space (← virtual addr) kind 0 touchTries with
  | .reached phys faults => proceed phys faults
  | .killed error => return .failed (.fault error)
  | .stuck => return .stuck

def unpinGuard (number : Nat) : Kernel Bool := do
  match ((← get).callers.guards[number]?).join with
  | none => return false
  | some guard =>
      modifyCallers fun callers => { callers with guards := callers.guards.set number none }
      dropGuard guard
      return true

/-- Performs an operation among the doings of other parties. -/
def perform (others : Interference) : Op → Kernel Reply
  | .registry space op => do
      let (reply, registry) ← orStop (op.run ((← get).registry space))
      modify (·.setRegistry space registry)
      return reply
  | .directory space op => do
      let (reply, directory) ← orStop (op.run ((← get).directory space))
      modify (·.setDirectory space directory)
      return reply
  | .disk op => do
      let (reply, disk) ← orStop (op.run (← get).swap.disk)
      modify fun machine => { machine with swap := { machine.swap with disk } }
      return reply
  | .swap op => performSwap others op
  | .createSpace share spec => do
      let directory ← match share with
        | some space => pure ((← get).space space).directory
        | none => addDirectory spec
      return .number (← createSpace directory).number
  | .openFile contents mode => do
      let file := (← get).files.length
      modify fun machine => { machine with files := machine.files ++ [{ contents, mode }] }
      return .number file
  | .setFileMode file mode => do
      modify fun machine => machine.setFile file { machine.file file with mode }
      return .done
  | .fileReads file => return .number ((← get).file file).reads
  | .registerZero space addr count writable => do
      return .registered (← registerZero space (← virtual addr) writable 0 [] count)
  | .registerSegment space file offset addr readBytes zeroBytes writable => do
      let addr ← virtual addr
      match ← registerSegment space file offset addr readBytes zeroBytes writable with
      | .ok () => return .done
      | .error error => return .failed (.registry error)
  | .reserve space addr writable => do
      let (reply, registry) ← orStop
        ((RegistryOp.create addr .unclassified writable).run ((← get).registry space))
      modify (·.setRegistry space registry)
      return reply
  | .fault space fault stackPointer => do
      let stackPointer := stackPointer.getD ((← get).space space).stackPointer
      answer (ExceptT.mk (handleFault others space fault stackPointer)) fun _ => return .done
  | .touch space addr kind =>
      afterTouch others space addr kind fun phys faults => return .touched phys faults
  | .peek space addr =>
      afterTouch others space addr .read fun phys _ => do
        let bytes ← readFrame phys.frame
        return .number (bytes.getD phys.pageOffset 0).toNat
  | .poke space addr byte =>
      afterTouch others space addr .write fun phys _ => do
        writeFrame phys.frame phys.pageOffset [byte]
        return .done
  | .copyTo space addr bytes => do
      answer (copyToUser others space (← virtual addr) bytes) fun _ => return .done
  | .copyFrom space addr length => do
      let addr ← virtual addr
      orStop (Word.room length 1)
      answer (copyFromUser others space addr length) fun bytes => return .bytes bytes
  | .pin space addr length kind => do
      answer (pinRange others space (← virtual addr) length kind) fun guard => do
        let number := (← get).callers.guards.length
        modifyCallers fun callers => { callers with guards := callers.guards ++ [some guard] }
        return .pinned number guard.pages
  | .unpin guard => return if ← unpinGuard guard then .done else .nothing
  | .guardFrame guard addr => do
      let addr ← virtual addr
      match ((← get).callers.guards[guard]?).join with
      | none => return .nothing
      | some guard => return (guard.frame? addr).elim .nothing fun frame => .number frame.value
  | .release space addr => do
      match ← releasePage space (← virtual addr) with
      | .ok page => return .page page
      | .error error => return .failed (.registry error)
  | .destroy space => do
      destroySpace space
      return .done
  | .setupStack space => answer (setupStack others space) fun top => return .address top
  | .setStackPointer space stackPointer => do
      modify (·.setStackPointer space stackPointer)
      return .done
  | .allocate space zeroed => do
      let frame ← allocate space zeroed
      modifyCallers fun callers => { callers with frames := (space, frame) :: callers.frames }
      return .number frame.value
  | .free frame => do
      free ⟨frame⟩
      modifyCallers fun callers => { callers with frames := callers.frames.eraseP (·.2 = ⟨frame⟩) }
      return .done
  | .isPinned frame => do
      let index ← poolIndex ⟨frame⟩
      return .truth ((← get).pool.isPinned index)
  | .owner frame => do
      let index ← poolIndex ⟨frame⟩
      return ((← get).pool.entry index).owner.elim .nothing fun owner => .number owner.number
  | .writeFrame frame bytes => do
      writeFrame ⟨frame⟩ 0 bytes
      return .done
  | .readFrame frame length => do
      return .bytes (← orStop ((← get).memory.readRun ⟨frame⟩ length))
  | .noteSlot space addr => do
      let addr ← virtual addr
      match (((← get).registry space).lookup addr).map Page.state with
      | some (.swapped slot) =>
          let name := (← get).callers.slots.length
          noteSlot slot
          return .number name
      | _ => return .nothing
  | .config => return .settings (← get).config
  | .beforeFileRead file script => do
      modifyCallers fun callers =>
        { callers with fileScripts := callers.fileScripts.insert file script }
      return .done
  | .beforeSectorRead script => do
      modifyCallers fun callers => { callers with sectorScript := some script }
      return .done

end Kernel

end DemandPaging
