import DemandPaging.Session.Perform

/-! Running the operations of callers one after another, and the scripts that interrupt them. -/
namespace DemandPaging
variable [Architecture]

namespace Kernel

/-- Performs the operations of a script and keeps the answers. -/
def runScript (others : Interference) (script : List Op) : Kernel Unit :=
  script.forM fun op => do
    let reply ← perform others op
    modifyCallers fun callers => { callers with replies := reply :: callers.replies }

def takeFileScript (file : FileId) : Kernel (List Op) :=
  modifyGet fun machine =>
    ((machine.callers.fileScripts.get? file).getD [],
      { machine with callers := { machine.callers with
          fileScripts := machine.callers.fileScripts.erase file } })

def takeSectorScript : Kernel (List Op) :=
  modifyGet fun machine =>
    (machine.callers.sectorScript.getD [],
      { machine with callers := { machine.callers with sectorScript := none } })

end Kernel

open Kernel

/-- The scripts as doings of other parties, where at most `depth` scripts are left. The operations
of a script can be interrupted in turn, by one script less. -/
def scripted : Nat → Interference
  | 0 => .none
  | depth + 1 =>
      let inner := scripted depth
      { beforeFileRead := fun _ file => do runScript inner (← takeFileScript file)
        beforeSectorRead := fun _ => do runScript inner (← takeSectorScript)
        patience := depth + 2 }

structure Step where
  reply : Reply
  /-- Answers to the operations of the scripts that ran meanwhile. -/
  interposed : List Reply
  /-- What happened, the earliest first. -/
  events : List Event
  machine : Machine

/-- How a run of operations went on: it ends early if the kernel stops. -/
inductive Course where
  | finished
  | stopped (cause : Fatal) (events : List Event)
  | next (step : Step) (rest : Course)

/-- Performs operations in order, with at most `depth` scripts among them. -/
def runOps (depth : Nat) : List Op → Machine → Course
  | [], _ => .finished
  | op :: rest, machine =>
      let start := { machine with
        log := [], callers := { machine.callers with replies := [] } }
      match perform (scripted depth) op start with
      | .error cause machine => .stopped cause machine.log.reverse
      | .ok reply machine =>
          .next ⟨reply, machine.callers.replies.reverse, machine.log.reverse, machine⟩
            (runOps depth rest machine)

def runSession (ops : List Op) (machine : Machine) : Course :=
  runOps (Op.scriptsIn ops) ops machine

end DemandPaging
