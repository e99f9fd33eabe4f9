import DemandPaging.Boot
import DemandPaging.Proofs.Interruptions

/-! Runs of the memory manager under a rule: the machines they can be at, between operations and where
a load or a caller waits for a file or the swap device. What every move under the rule keeps, holds of
all of them. -/
namespace DemandPaging
open Architecture (Lawful)

variable [Architecture]

/-- The machines that a run can be at that starts at `start`, where the loads of `floor` are under way,
and the loads that are under way there. -/
inductive Leads (rule : Rule) (floor : List Load) (start : Machine) : List Load → Machine → Prop
  | start : Leads rule floor start floor start
  /-- After an operation that other parties interrupted as the rule allows. -/
  | run {loads machine op others reply next} (leads : Leads rule floor start loads machine)
      (allowed : rule loads machine op next) (orderly : others.Orderly rule loads machine)
      (ran : Kernel.perform others op machine = .ok reply next) : Leads rule floor start loads next
  /-- Where an operation gives other parties their turn. -/
  | enter {loads machine op others hook point} (leads : Leads rule floor start loads machine)
      (allowed : rule loads machine op point) (orderly : others.Orderly rule loads machine)
      (reenters : Reenters (Kernel.perform · op) others machine hook point) :
      Leads rule floor start (hook.load?.toList ++ loads) point
  /-- Lines of the log are forgotten, and callers keep what they like apart from guards and frames. -/
  | note {loads machine} {log : List Event} {callers : Callers}
      (leads : Leads rule floor start loads machine) (fewer : log.Sublist machine.log)
      (guards : callers.guards = machine.callers.guards)
      (frames : callers.frames = machine.callers.frames) :
      Leads rule floor start loads { machine with log, callers }

/-- The machines that a run can be at that begins with the start of the memory manager. -/
def Reached (rule : Rule) (loads : List Load) (machine : Machine) : Prop :=
  ∃ threshold config memory base disk start,
    Machine.boot threshold config memory base disk = .ok start ∧ Leads rule [] start loads machine

namespace Reached
variable {rule : Rule} {loads : List Load} {machine next : Machine} {op : Op} {others : Interference}

theorem boot {threshold : Option Level} {config : Config} {memory : Memory} {base : FrameNumber}
    {disk : Disk} (booted : Machine.boot threshold config memory base disk = .ok machine) :
    Reached rule [] machine :=
  ⟨_, _, _, _, _, _, booted, .start⟩

theorem run {reply : Reply} (reached : Reached rule loads machine)
    (allowed : rule loads machine op next) (orderly : others.Orderly rule loads machine)
    (ran : Kernel.perform others op machine = .ok reply next) : Reached rule loads next := by
  obtain ⟨_, _, _, _, _, _, booted, leads⟩ := reached
  exact ⟨_, _, _, _, _, _, booted, leads.run allowed orderly ran⟩

theorem leaves (reached : Reached rule loads machine)
    (allowed : rule loads machine op ((Kernel.perform others op).leaves machine))
    (orderly : others.Orderly rule loads machine)
    (well : (Kernel.perform others op).endsWell machine = true) :
    Reached rule loads ((Kernel.perform others op).leaves machine) := by
  obtain ⟨_, ran⟩ := Kernel.ok_of_endsWell well
  exact reached.run allowed orderly ran

end Reached

def Machine.undisturbed (machine : Machine) (op : Op) : Machine :=
  (Kernel.perform .none op).leaves machine

theorem Reached.undisturbed {rule : Rule} {loads : List Load} {machine : Machine} (op : Op)
    (reached : Reached rule loads machine) (allowed : rule loads machine op (machine.undisturbed op))
    (well : (Kernel.perform .none op).endsWell machine = true) :
    Reached rule loads (machine.undisturbed op) :=
  reached.leaves allowed (Interference.orderly_none _ _ _) well

/-- Operations that nobody interrupts, one after another, may all be asked for and end well. -/
def Machine.Carries (may : Machine → Op → Prop) (machine : Machine) : List Op → Prop
  | [] => True
  | op :: rest => may machine op ∧ (Kernel.perform .none op).endsWell machine = true ∧
      (machine.undisturbed op).Carries may rest

instance Machine.decidableCarries (may : Machine → Op → Prop)
    [∀ machine op, Decidable (may machine op)] :
    (machine : Machine) → (ops : List Op) → Decidable (machine.Carries may ops)
  | _, [] => inferInstanceAs (Decidable True)
  | machine, op :: rest =>
      have := decidableCarries may (machine.undisturbed op) rest
      inferInstanceAs (Decidable (_ ∧ _ ∧ _))

theorem Reached.carried {rule : Rule} {may : Machine → Op → Prop} {machine : Machine} {ops : List Op}
    (reached : Reached rule [] machine)
    (allowed : ∀ {machine op after}, may machine op → rule [] machine op after)
    (carries : machine.Carries may ops) : Reached rule [] (ops.foldl Machine.undisturbed machine) := by
  induction ops generalizing machine with
  | nil => exact reached
  | cons op rest ih =>
    obtain ⟨may, well, rest⟩ := carries
    exact ih (.undisturbed op reached (allowed may) well) rest

/-- A machine that was started has nothing but its pool, its memory and its swap store. -/
theorem Machine.boot_ok {threshold : Option Level} {config : Config} {memory : Memory}
    {base : FrameNumber} {disk : Disk} {machine : Machine}
    (booted : boot threshold config memory base disk = .ok machine) :
    ∃ swap log, SwapStore.ofDisk disk = .ok swap ∧ (∀ slot, .slotNotInUse slot ∉ log) ∧
      machine = { config, pool := .ofCount base config.frameCount, memory, swap, log } := by
  unfold boot at booted
  split at booted
  · obtain ⟨range, _, booted⟩ := Fatal.bind_ok.1 booted
    obtain ⟨_, _, booted⟩ := Fatal.bind_ok.1 booted
    obtain ⟨swap, opened, booted⟩ := Fatal.bind_ok.1 booted
    cases booted
    refine ⟨swap, _, opened, fun slot => ?_, rfl⟩
    cases range <;> simp [Event.ofStore]
  · obtain ⟨_, _, booted⟩ := Fatal.bind_ok.1 booted
    obtain ⟨_, _, booted⟩ := Fatal.bind_ok.1 booted
    obtain ⟨swap, opened, booted⟩ := Fatal.bind_ok.1 booted
    cases booted
    refine ⟨swap, _, opened, fun slot => ?_, rfl⟩
    simp [Event.ofStore]

theorem Machine.consistent_of_no_spaces {machine : Machine} (none : machine.spaces = [])
    (base : FrameNumber) (count : Nat) (pool : machine.pool = .ofCount base count)
    (guards : machine.callers.guards = []) (frames : machine.callers.frames = []) :
    Consistent ⟨{}, machine⟩ := by
  have registry : ∀ space, machine.registry space = default := by
    intro space
    rw [Machine.registry, Machine.space, none]
    rfl
  have absent : ∀ {space}, ¬space < machine.spaces.length := by
    intro space
    rw [none]
    exact Nat.not_lt_zero _
  have placement : machine.placement = fun _ _ => Option.none := by
    funext space addr
    rw [Machine.placement, registry, Registry.placement_empty]
  refine ⟨fun space => ?_, fun known => absurd known absent, ?_, ?_⟩
  · rw [registry]
    exact Registry.sound_empty
  · have pins : machine.callers.pins = 0 := by
      rw [Callers.pins, guards]
      rfl
    have keepers : Ledger.keepers {} machine.callers = 0 := by
      rw [Ledger.keepers, frames]
      rfl
    rw [placement, pool, pins, keepers]
    exact .start base count
  · exact fun _ member => absurd member List.not_mem_nil

/-- Lines of the log and what callers keep are not what a machine is consistent by. -/
theorem Consistent.note {ledger : Ledger} {machine : Machine} (consistent : Consistent ⟨ledger, machine⟩)
    {log : List Event} {callers : Callers} (guards : callers.guards = machine.callers.guards)
    (frames : callers.frames = machine.callers.frames) :
    Consistent ⟨ledger, { machine with log, callers }⟩ := by
  refine consistent.of_tables rfl (Nat.le_refl _) ?_ consistent.fair
  change Held (_ ++ callers.frames : List _) (_ + callers.pins) _ _
  rw [frames, Consistent.pins_of_guards guards]
  exact consistent.held

omit [Architecture] in
/-- A store has no more slots than fit its disk. -/
theorem SwapStore.onDisk_ofDisk [Geometry] {disk : Disk} {swap : SwapStore}
    (opened : SwapStore.ofDisk disk = .ok swap) : swap.OnDisk := by
  obtain ⟨count, told, opened⟩ := Fatal.bind_ok.1 opened
  cases opened
  unfold Disk.sectorCount at told
  split at told
  · cases told
  · cases told
    exact Nat.div_mul_le_self _ _

variable [Lawful]

theorem Machine.boot_betweenOperations {rule : Rule} {threshold : Option Level} {config : Config}
    {memory : Memory} {base : FrameNumber} {disk : Disk} {machine : Machine}
    (booted : boot threshold config memory base disk = .ok machine) : BetweenOperations rule ⟨{}, machine⟩ := by
  obtain ⟨swap, log, opened, _, rfl⟩ := boot_ok booted
  refine ⟨Machine.consistent_of_no_spaces rfl base config.frameCount rfl rfl rfl, rfl, ?_, fun _ => ?_⟩
  rotate_left
  · exact ⟨(fun known => absurd known (Nat.not_lt_zero _)), fun known => absurd known (Nat.not_lt_zero _),
      fun known => absurd known (Nat.not_lt_zero _)⟩
  obtain ⟨count, told, opened⟩ := Fatal.bind_ok.1 opened
  cases opened
  unfold Disk.sectorCount at told
  split at told
  · cases told
  · rename_i positive
    exact Nat.pos_of_ne_zero positive

/-- The log and what callers keep do not matter to `BetweenOperations`. -/
theorem BetweenOperations.note {rule : Rule} {ledger : Ledger} {machine : Machine}
    (between : BetweenOperations rule ⟨ledger, machine⟩) {log : List Event} {callers : Callers}
    (guards : callers.guards = machine.callers.guards)
    (frames : callers.frames = machine.callers.frames) :
    BetweenOperations rule ⟨ledger, { machine with log, callers }⟩ where
  toConsistent := between.toConsistent.note guards frames
  balanced := between.balanced
  sectors := between.sectors
  mapped trusting := (between.mapped trusting).of_tables rfl rfl

/-- What all moves under a rule keep, and what does not depend on the log and on notes of callers, is
true of a run all along. -/
theorem Leads.keeps {rule : Rule} (claim : Moment → Prop) (sensible : rule.Sensible) {first : Ledger}
    {start : Machine} (between : BetweenOperations rule ⟨first, start⟩) (holds : claim ⟨first, start⟩)
    (each : ∀ {act before after}, rule.Lets first.loads act → Move act before after →
      Consistent before → 0 < before.machine.swap.disk.sectorSize → claim before → claim after)
    (note : ∀ {ledger machine log callers}, log.Sublist machine.log →
      callers.guards = machine.callers.guards → callers.frames = machine.callers.frames →
      claim ⟨ledger, machine⟩ → claim ⟨ledger, { machine with log, callers }⟩)
    {loads : List Load} {machine : Machine} (leads : Leads rule first.loads start loads machine) :
    first.loads <:+ loads ∧ ∃ ledger, ledger.loads = loads ∧ BetweenOperations rule ⟨ledger, machine⟩ ∧
      claim ⟨ledger, machine⟩ := by
  have along : ∀ {now next : Moment}, Path (rule.Lets now.ledger.loads) now next →
      first.loads <:+ now.ledger.loads → BetweenOperations rule now → claim now → claim next :=
    fun path above between holds => between.toConsistent.along path between.sectors
      (fun lets move consistent sectors => each (lets.mono above) move consistent sectors) holds
  induction leads with
  | start => exact ⟨List.suffix_refl _, first, rfl, between, holds⟩
  | @run loads machine op others reply next leads allowed orderly ran ih =>
    obtain ⟨above, ledger, rfl, between, holds⟩ := ih
    have start : BetweenOperations rule ⟨ledger, machine⟩ := between
    have moves : others.Moves rule ⟨ledger, machine⟩ := orderly.moves sensible
    have path := moves.perform sensible start allowed ran
    exact ⟨above, ledger, rfl, between.path path, along path above between holds⟩
  | @enter loads machine op others hook point leads allowed orderly reenters ih =>
    obtain ⟨above, ledger, rfl, between, holds⟩ := ih
    have start : BetweenOperations rule ⟨ledger, machine⟩ := between
    have moves : others.Moves rule ⟨ledger, machine⟩ := orderly.moves sensible
    obtain ⟨last, under, there, path⟩ := moves.reenters sensible start allowed reenters
    exact ⟨above.trans (List.suffix_append _ _), last, under, there, along path above between holds⟩
  | note leads fewer guards frames ih =>
    obtain ⟨above, ledger, rfl, between, holds⟩ := ih
    exact ⟨above, ledger, rfl, between.note guards frames, note fewer guards frames holds⟩

theorem Reached.keeps {rule : Rule} (claim : Moment → Prop) (sensible : rule.Sensible)
    (boot : ∀ {threshold config memory base disk machine},
      Machine.boot threshold config memory base disk = .ok machine → claim ⟨{}, machine⟩)
    (each : ∀ {act before after}, rule.Lets [] act → Move act before after → Consistent before →
      0 < before.machine.swap.disk.sectorSize → claim before → claim after)
    (note : ∀ {ledger machine log callers}, log.Sublist machine.log →
      callers.guards = machine.callers.guards → callers.frames = machine.callers.frames →
      claim ⟨ledger, machine⟩ → claim ⟨ledger, { machine with log, callers }⟩)
    {loads : List Load} {machine : Machine} (reached : Reached rule loads machine) :
    ∃ ledger, ledger.loads = loads ∧ BetweenOperations rule ⟨ledger, machine⟩ ∧ claim ⟨ledger, machine⟩ := by
  obtain ⟨_, _, _, _, _, start, booted, leads⟩ := reached
  exact (Leads.keeps claim sensible (Machine.boot_betweenOperations booted) (boot booted) each note leads).2

end DemandPaging
