import DemandPaging.Kernel.Fault

/-! A process touching its memory: an access is retried after each fault that the memory manager
has resolved. -/
namespace DemandPaging.Kernel
variable [Architecture]

inductive Touch where
  /-- The physical address reached, and the faults on the way. -/
  | reached (addr : PhysicalAddress) (faults : Nat)
  | killed (error : FaultError)
  /-- Still faulting after every try. -/
  | stuck
deriving DecidableEq

/-- Performs an access, with so many tries left and so many faults behind. -/
def touch (others : Interference) (space : SpaceId) (addr : VirtualAddress) (kind : Access)
    (faults : Nat) : Nat → Kernel Touch
  | 0 => return .stuck
  | tries + 1 => do
      let result ← modifyGet fun machine =>
        let (result, directory) := Architecture.access (machine.directory space) addr kind
        (result, machine.setDirectory space directory)
      match result with
      | .ok phys => return .reached phys faults
      | .error fault =>
          match ← handleFault others space fault ((← get).space space).stackPointer with
          | .error error => return .killed error
          | .ok () => touch others space addr kind (faults + 1) tries

def touchTries : Nat := 5

end DemandPaging.Kernel
