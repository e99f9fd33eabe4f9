import DemandPaging.Proofs.ReadBack

/-! Frames of callers. A caller may obtain frames for itself, write into them and give them back. No page is
in such a frame, so the bytes of pages do not change by it. -/
namespace DemandPaging
open Architecture (Lawful)

variable [Architecture]

/-- What callers do with frames of their own: they obtain them, give them back, and write into them. -/
def Machine.Borrows (machine : Machine) : Op → Prop
  | .allocate space _ => space < machine.spaces.length
  | .free frame => (Op.free frame).rightful machine = true
  | .writeFrame frame _ => machine.callers.frames.any (·.2 = ⟨frame⟩) = true
  | _ => False

instance (machine : Machine) : (op : Op) → Decidable (machine.Borrows op)
  | .allocate space _ => inferInstanceAs (Decidable (space < machine.spaces.length))
  | .free frame => inferInstanceAs (Decidable ((Op.free frame).rightful machine = true))
  | .writeFrame frame _ => inferInstanceAs (Decidable (machine.callers.frames.any (·.2 = ⟨frame⟩) = true))
  | .registry _ _ | .directory _ _ | .disk _ | .swap _ | .createSpace _ _ | .openFile _ _ | .setFileMode _ _
  | .fileReads _ | .registerZero _ _ _ _ | .registerSegment _ _ _ _ _ _ _ | .reserve _ _ _ | .fault _ _ _
  | .touch _ _ _ | .peek _ _ | .poke _ _ _ | .copyTo _ _ _ | .copyFrom _ _ _ | .pin _ _ _ _ | .unpin _
  | .guardFrame _ _ | .release _ _ | .destroy _ | .setupStack _ | .setStackPointer _ _ | .isPinned _ | .owner _
  | .readFrame _ _ | .noteSlot _ _ | .config | .beforeFileRead _ _ | .beforeSectorRead _ =>
      inferInstanceAs (Decidable False)

/-- Operations by callers that leave the frames of others, slots and page directories to the memory
manager. -/
def Machine.Serves (machine : Machine) (op : Op) : Prop :=
  machine.Entrusts op ∨ machine.Borrows op

instance (machine : Machine) (op : Op) : Decidable (machine.Serves op) :=
  inferInstanceAs (Decidable (machine.Entrusts op ∨ machine.Borrows op))

/-- To clear a frame is to write zeros into it when it has been obtained. -/
theorem Kernel.allocate_cleared (owner : SpaceId) : allocate owner true = do
    let frame ← allocate owner false
    writeFrame frame 0 (List.replicate pageSize 0)
    return frame := by
  unfold allocate
  rw [bind_assoc]
  refine congrArg (get >>= ·) (funext fun machine => ?_)
  cases machine.pool.takeFree? with
  | none => simp only [bind_assoc, pure_bind, Bool.false_eq_true, if_false, if_true]
  | some taken => simp only [bind_assoc, pure_bind, Bool.false_eq_true, if_false, if_true]

variable [Lawful] {exposed : Exposed} {written : Written} {ledger : Ledger} {machine next : Machine}
  {others : Interference}

/-- What is written into the frame of a caller is written into no page. -/
theorem Faithful.scratched (faithful : Faithful exposed written ⟨ledger, machine⟩) {owner : SpaceId}
    {frame : FrameNumber} (mine : (owner, frame) ∈ machine.callers.frames)
    (latest : ledger.flights = []) {start : Nat} {bytes : Bytes} {memory : Memory}
    (wrote : machine.memory.write frame start bytes = .ok memory) :
    Faithful exposed written ⟨ledger, { machine with memory }⟩ := by
  have kept : (owner, frame) ∈ ledger.keepers machine.callers :=
    Multiset.mem_coe.2 (List.mem_append_right _ mine)
  refine faithful.rewritten (fun flight member => ?_) (·.write wrote)
    fun {holder addr page} found spares => ?_
  · rw [latest] at member
    cases member
  · have recalls : machine.Recalls exposed written holder page := faithful.recalls found spares
    refine recalls.elsewhere wrote fun resident => ?_
    have placed : machine.placement holder addr = some (frame, page.writable) :=
      Registry.placement_eq_some.2 ⟨page, found, resident, rfl⟩
    exact faithful.held.apart kept placed rfl

theorem Kernel.lends_follows {scope : Scope} {start : Moment} {space : SpaceId} (may : scope.may .lend) :
    Follows scope start
      (do
        let frame ← allocate space false
        modifyCallers fun callers => { callers with frames := (space, frame) :: callers.frames }
        return frame)
      (do
        let frame ← allocate space false
        modifyCallers fun callers => { callers with frames := (space, frame) :: callers.frames }
        return frame)
      fun _ now => now.ledger = start.ledger := by
  refine .of_ok fun ready _ _ ended => ?_
  simp only [bind_ok, modifyCallers_ok, pure_ok] at ended
  obtain ⟨frame, _, allocated, _, _, rfl, rfl, rfl⟩ := ended
  obtain ⟨index, mid, memory, frees, located, rfl, kept⟩ := allocate_frees ready allocated
  cases kept rfl
  exact ⟨_, lend_moves frees located may, rfl⟩

/-- What callers do with frames of their own leaves the bytes of pages as they are. -/
theorem Faithful.borrows (faithful : Faithful exposed written ⟨{}, machine⟩) {op : Op} {reply : Reply}
    (borrows : machine.Borrows op) (ran : Kernel.perform others op machine = .ok reply next) :
    Faithful exposed written ⟨{}, next⟩ := by
  have closing : ∀ {act : Act}, act.Plain → (∀ loads, ¬act.Adds loads) →
      (Scope.closing exposed written).may act := fun plain adds => ⟨plain, adds⟩
  cases op with
  | allocate space zeroed =>
    have lend : (Scope.closing exposed written).may .lend :=
      closing trivial fun _ ⟨_, _, adds⟩ => adds.elim nofun nofun
    -- The frame is cleared when it is the caller's already.
    have obtains : ∀ {frame : FrameNumber} {mid : Machine},
        Kernel.allocate space false machine = .ok frame mid →
        Faithful exposed written ⟨{}, { mid with callers := { mid.callers with
          frames := (space, frame) :: mid.callers.frames } }⟩ := fun allocated => by
      obtain ⟨_, same, faithful⟩ := faithful.ends (Kernel.lends_follows lend)
        (Kernel.bind_ok.2 ⟨_, _, allocated, rfl⟩)
      cases same
      exact faithful
    obtain ⟨frame, mid, allocated, ran⟩ := Kernel.bind_ok.1 ran
    obtain ⟨_, _, noted, ended⟩ := Kernel.bind_ok.1 ran
    obtain ⟨_, rfl⟩ := Kernel.pure_ok.1 ended
    cases Kernel.modifyCallers_ok.1 noted
    cases zeroed with
    | false => exact obtains allocated
    | true =>
      rw [Kernel.allocate_cleared] at allocated
      obtain ⟨_, given, obtained, cleared⟩ := Kernel.bind_ok.1 allocated
      obtain ⟨_, _, stored, ended⟩ := Kernel.bind_ok.1 cleared
      obtain ⟨rfl, rfl⟩ := Kernel.pure_ok.1 ended
      obtain ⟨memory, wrote, rfl⟩ := Kernel.writeFrame_ok.1 stored
      exact (obtains obtained).scratched (.head _) rfl wrote
  | free frame =>
    have follows : Follows (Scope.closing exposed written) ⟨{}, machine⟩
        (Kernel.perform others (.free frame)) (Kernel.perform others (.free frame))
        fun _ now => now.ledger = {} :=
      Kernel.free_recovers borrows fun act acts => by
        cases acts
        exact closing trivial fun _ ⟨_, _, adds⟩ => adds.elim nofun nofun
    obtain ⟨_, same, faithful⟩ := faithful.ends follows ran
    cases same
    exact faithful
  | writeFrame frame bytes =>
    obtain ⟨_, _, stored, ended⟩ := Kernel.bind_ok.1 ran
    obtain ⟨rfl, rfl⟩ := Kernel.pure_ok.1 ended
    obtain ⟨memory, wrote, rfl⟩ := Kernel.writeFrame_ok.1 stored
    obtain ⟨⟨owner, mine⟩, member, same⟩ := List.any_eq_true.1 borrows
    cases of_decide_eq_true same
    exact faithful.scratched member rfl wrote
  | _ => exact borrows.elim

end DemandPaging
