import DemandPaging.Proofs.Bijection
import DemandPaging.Proofs.Lodgings

/-! How much swap space is enough. In a run that nobody interrupts, the kernel stops for want of a slot only
when as many pages are registered as there are frames and slots. The slot of a page that is brought in is taken
until the page has arrived, so that this many pages can be too many. One less never is. -/
namespace DemandPaging

/-! The number of registered pages does not depend on pins. -/

namespace Registry

theorem size_unpinFrame (registry : Registry) (frame : FrameNumber) :
    (registry.unpinFrame frame).size = registry.size := by
  unfold unpinFrame
  split
  · rfl
  · split
    · rfl
    · rename_i found
      exact SortedMap.size_insert_of_some found

end Registry

section
variable [Architecture]

theorem Machine.registered_setRegistry {machine : Machine} {space : SpaceId} {registry : Registry}
    (same : registry.size = (machine.registry space).size) :
    (machine.setRegistry space registry).registered = machine.registered := by
  by_cases present : space < machine.spaces.length
  · have here : (machine.registry space).size = machine.spaces[space].registry.size := by
      rw [Machine.registry, Machine.space, List.getD_eq_getElem?_getD, List.getElem?_eq_getElem present]
      rfl
    unfold registered setRegistry setSpace
    rw [List.map_set, same, here]
    refine congrArg List.sum (List.ext_getElem (List.length_set ..) fun i _ _ => ?_)
    rw [List.getElem_set]
    split
    · rename_i here
      subst here
      rw [List.getElem_map]
    · rfl
  · rw [setRegistry, setSpace, List.set_eq_of_length_le (Nat.le_of_not_lt present)]

namespace Kernel

theorem unpin_registered (frame : FrameNumber) (owner : SpaceId) :
    Preserves Machine.registered (unpin frame owner) := by
  refine .bind (.look fun machine => .orStop (machine.pool.notExhausted_index frame)) fun index =>
    .look fun machine => ?_
  dsimp only
  split
  · exact .modify fun _ => rfl
  · split
    · exact .modify fun _ => rfl
    · refine .bind (.modify fun _ => rfl) fun _ => ?_
      split
      · exact .modify fun machine => Machine.registered_setRegistry (Registry.size_unpinFrame _ _)
      · exact .ret _

theorem dropGuard_registered (guard : PinGuard) : Preserves Machine.registered (dropGuard guard) :=
  .each fun _ => unpin_registered _ _

end Kernel

/-! Calls. -/

/-- A computation keeps pages in all places that are taken, and stops for want of a slot only if there are as
many pages as frames and slots. -/
def Lodging (frames slots spaces : Nat) (start : Machine) (f : Kernel α) : Prop :=
  start.Lodged frames slots spaces [] →
    Kernel.Outcome start f (fun _ => Machine.Lodged frames slots spaces []) (Machine.Crowds frames slots)

namespace Lodging
open Kernel (Preserves)
variable {frames slots spaces : Nat} {start : Machine} {f : Kernel α} {k : α → Kernel β} {x : Faulting α}
  {h : α → Faulting β}

theorem of_outcome (outcome : start.Lodged frames slots spaces [] →
    Kernel.Outcome start f (fun _ => Machine.Lodged frames slots spaces []) Kernel.OtherThanExhausted) :
    Lodging frames slots spaces start f := fun lodged => (outcome lodged).otherThanExhausted

theorem of_places (places : Preserves Machine.places f) : Lodging frames slots spaces start f :=
  .of_outcome fun lodged => (places start).weaken fun _ _ same => lodged.of_places same

theorem ret (a : α) : Lodging frames slots spaces start (pure a : Kernel α) := fun lodged => lodged

theorem of_lodged (lodging : start.Lodged frames slots spaces [] → Lodging frames slots spaces start f) :
    Lodging frames slots spaces start f := fun lodged => lodging lodged lodged

theorem check {outcome : Except Fatal α} (notExhausted : Fatal.NotExhausted outcome)
    (rest : ∀ a, outcome = .ok a → Lodging frames slots spaces start (k a)) :
    Lodging frames slots spaces start (Kernel.orStop outcome >>= k) := fun lodged =>
  (Kernel.orStop_finds notExhausted).otherThanExhausted.bind fun a _ ⟨same, passed⟩ =>
    same ▸ rest a passed lodged

theorem bind (first : Lodging frames slots spaces start f)
    (rest : ∀ a next, Lodging frames slots spaces next (k a)) : Lodging frames slots spaces start (f >>= k) :=
  fun lodged => (first lodged).bind fun a next kept => rest a next kept

theorem look {k : Machine → Kernel β} (rest : Lodging frames slots spaces start (k start)) :
    Lodging frames slots spaces start (get >>= k) := rest

theorem run_bind (first : Lodging frames slots spaces start x.run)
    (rest : ∀ a next, Lodging frames slots spaces next (h a).run) :
    Lodging frames slots spaces start (x >>= h).run := by
  rw [ExceptT.run_bind]
  refine first.bind fun outcome next => ?_
  cases outcome with
  | ok a => exact rest a next
  | error error => exact ret _

theorem run_lift (first : Lodging frames slots spaces start f)
    (rest : ∀ a next, Lodging frames slots spaces next (h a).run) :
    Lodging frames slots spaces start (ExceptT.lift f >>= h).run := by
  rw [ExceptT.run_bind_lift]
  exact first.bind rest

theorem run_last (first : Lodging frames slots spaces start f) :
    Lodging frames slots spaces start (ExceptT.lift f : Faulting α).run := by
  rw [ExceptT.run_lift, ← bind_pure_comp]
  exact first.bind fun _ _ => ret _

theorem run_look {h : Machine → Faulting β} (rest : Lodging frames slots spaces start (h start).run) :
    Lodging frames slots spaces start ((get : Faulting Machine) >>= h).run := rest

theorem run_ret (a : α) : Lodging frames slots spaces start (pure a : Faulting α).run := ret _

theorem run_fail (error : FaultError) :
    Lodging frames slots spaces start (throw error : Faulting α).run := ret _

theorem register {space : SpaceId} {registry : Registry} (stays : (start.registry space).Stays registry) :
    Lodging frames slots spaces start (modify (·.setRegistry space registry) : Kernel Unit) :=
  fun lodged => .change (lodged.stays stays)

/-- Dropping the pins of a guard on the way out changes nothing about the number of pages. -/
theorem guarded {guard : PinGuard} (lodging : Lodging frames slots spaces start f) :
    Lodging frames slots spaces start (Kernel.guarded guard f) := fun lodged =>
  (lodging lodged).rescue fun _ next crowds => (Kernel.dropGuard_registered guard next).imp
    (fun _ _ same exhausted => same ▸ crowds exhausted) fun _ _ other same => absurd same other

end Lodging

namespace Kernel
variable {frames slots spaces : Nat} {start : Machine} {others : Interference} {space : SpaceId}
  {access : Access} {pin : Bool} {pinned : List (VirtualAddress × FrameNumber)}

theorem dropGuard_lodging (guard : PinGuard) : Lodging frames slots spaces start (dropGuard guard) :=
  .of_outcome dropGuard_lodges

theorem bring_lodging {page : Page} (aloof : others.Aloof)
    (found : (start.registry space).pages.get? page.addr = some page) :
    Lodging frames slots spaces start (bring others space access pin pinned page).run := by
  unfold bring
  dsimp only
  split
  · exact .run_fail _
  · cases state : page.state with
    | resident frame =>
      cases pin with
      | true => exact .run_last (.of_outcome pinResident_lodges)
      | false => exact .run_ret _
    | unloaded | swapped =>
      exact fun lodged => load_lodges aloof lodged found (by rw [Page.isResident, Page.frame?, state]; rfl)

theorem userAddress_same {address : Nat} :
    Outcome start (userAddress address).run (fun _ next => start = next) OtherThanExhausted := by
  refine .run_look ?_
  split
  · exact .ret rfl
  · exact .ret rfl

theorem growStack_lodges {addr : VirtualAddress} (lodged : start.Lodged frames slots spaces [])
    (present : space < spaces) : Outcome start (growStack space addr).run (fun result next =>
      next.Lodged frames slots spaces [] ∧ ∀ page, result = .ok page →
        (next.registry space).pages.get? page.addr = some page) OtherThanExhausted := by
  have unchanged {error : FaultError} : Outcome start (throw error : Faulting Page).run (fun result next =>
      next.Lodged frames slots spaces [] ∧ ∀ page, result = .ok page →
        (next.registry space).pages.get? page.addr = some page) OtherThanExhausted := .ret ⟨lodged, nofun⟩
  refine .run_look ?_
  dsimp only
  split
  · exact unchanged
  · split
    · exact unchanged
    · split
      · exact unchanged
      · rename_i page registry created
        have kept := lodged.stays (Registry.stays_create created)
        have here := start.registry_setRegistry_self registry (Nat.lt_of_lt_of_le present lodged.known)
        refine .run_step (.run_step (.ret ⟨kept.of_places rfl, fun _ same => ?_⟩))
        cases same
        obtain ⟨_, _, rfl⟩ := Registry.create_ok created
        change ((start.setRegistry space _).registry space).pages.get? page.addr = _
        rw [here]
        exact SortedMap.get?_insert_self ..

theorem resolve_lodging {address : Nat} (aloof : others.Aloof) (present : space < spaces) :
    Lodging frames slots spaces start (resolve others space address access pin pinned).run := by
  intro lodged
  rw [resolve_eq]
  refine .run_bind userAddress_same.otherThanExhausted
    (fun _ next same => same ▸ lodged) fun addr next same => ?_
  subst same
  refine .run_look ?_
  split
  · rename_i page found
    refine bring_lodging aloof ?_ lodged
    rw [(lodged.orderly space).keyed found]
    exact found
  · refine .run_bind (growStack_lodges lodged present).otherThanExhausted (fun _ next ⟨kept, _⟩ => kept)
      fun page next ⟨kept, grown⟩ => bring_lodging aloof (grown page rfl) kept

theorem setStackPointer_places (space : SpaceId) (stackPointer : Nat) :
    Preserves Machine.places (modify (·.setStackPointer space stackPointer)) :=
  .modify fun machine => by
    have length : (machine.setStackPointer space stackPointer).spaces.length = machine.spaces.length :=
      List.length_set
    have registry : (machine.setStackPointer space stackPointer).registry = machine.registry :=
      funext fun other => (machine.space_setStackPointer stackPointer).1
    unfold Machine.places
    rw [length, registry]
    rfl

theorem handleFault_lodging {fault : PageFault} {stackPointer : Nat} (aloof : others.Aloof)
    (present : space < spaces) :
    Lodging frames slots spaces start (handleFault others space fault stackPointer) := by
  refine .bind (.of_places (modifyStats_places _)) fun _ _ =>
    .bind (.of_places (setStackPointer_places space stackPointer)) fun _ _ => .bind ?_ fun result _ => ?_
  · split
    · exact .run_bind (.of_outcome fun lodged => userAddress_same.weaken fun _ _ same => same ▸ lodged)
        fun _ _ => .run_fail _
    · exact .run_bind (resolve_lodging aloof present) fun _ _ => .run_ret _
  · split
    · exact .bind (.of_places (emit_places _)) fun _ _ => .ret _
    · exact .ret _

theorem setupStack_lodging (aloof : others.Aloof) (present : space < spaces) :
    Lodging frames slots spaces start (setupStack others space).run := by
  have first : Fatal.NotExhausted (firstStackPage start.config.userTop) :=
    (Word.notExhausted_sub _ _).bind VirtualAddress.notExhausted_ofWord
  refine .run_look (.run_lift (.of_places (.orStop first)) fun addr next => .run_look ?_)
  split
  · exact .run_fail _
  · rename_i created
    refine .run_lift (.register (Registry.stays_create created)) fun _ _ =>
      .run_lift (.of_places (setStackPointer_places space _)) fun _ _ => ?_
    exact .run_bind (resolve_lodging aloof present) fun _ _ => .run_ret _

theorem pinPage_lodging {page tries : Nat} (aloof : others.Aloof) (present : space < spaces) :
    Lodging frames slots spaces start (pinPage others space page access pinned tries).run := by
  induction tries generalizing start with
  | zero => exact fun _ => nofun
  | succ tries ih =>
    refine .run_bind (resolve_lodging aloof present) fun found next => ?_
    cases found with
    | some frame => exact .run_ret _
    | none => exact ih

theorem pinPages_lodging {page count : Nat} (aloof : others.Aloof) (present : space < spaces) :
    Lodging frames slots spaces start (pinPages others space access page pinned count).run := by
  induction count generalizing start page pinned with
  | zero => exact .run_ret _
  | succ count ih =>
    refine .run_lift (.guarded (pinPage_lodging aloof present)) fun result next => ?_
    cases result with
    | error error => exact .run_lift (dropGuard_lodging _) fun _ _ => .run_fail _
    | ok frame => exact ih

theorem pinRange_lodging {addr : VirtualAddress} {length : Nat} (aloof : others.Aloof)
    (present : space < spaces) :
    Lodging frames slots spaces start (pinRange others space addr length access).run := by
  unfold pinRange
  dsimp only
  split
  · exact .run_ret _
  · refine .run_look ?_
    split
    · exact .run_fail _
    · exact pinPages_lodging aloof present

theorem copyToUser_lodging {target : VirtualAddress} {bytes : Bytes} (aloof : others.Aloof)
    (present : space < spaces) : Lodging frames slots spaces start (copyToUser others space target bytes).run :=
  .run_bind (pinRange_lodging aloof present) fun guard _ =>
    .run_lift (.of_places (writePieces_places _ _ _)) fun _ _ => .run_last (dropGuard_lodging guard)

theorem copyFromUser_lodging {source : VirtualAddress} {length : Nat} (aloof : others.Aloof)
    (present : space < spaces) :
    Lodging frames slots spaces start (copyFromUser others space source length).run :=
  .run_bind (pinRange_lodging aloof present) fun guard _ =>
    .run_bind (.of_places (readPieces_places _ _)) fun _ _ =>
      .run_lift (dropGuard_lodging guard) fun _ _ => .run_ret _

theorem touch_lodging {addr : VirtualAddress} {kind : Access} {faults tries : Nat} (aloof : others.Aloof)
    (present : space < spaces) :
    Lodging frames slots spaces start (touch others space addr kind faults tries) := by
  induction tries generalizing start faults with
  | zero => exact .ret _
  | succ tries ih =>
    change Lodging frames slots spaces start (tryAccess space addr kind >>= _)
    refine .bind (.of_places (tryAccess_places _ _ _)) fun result next => ?_
    cases result with
    | ok phys => exact .ret _
    | error fault =>
      refine .look (.bind (handleFault_lodging aloof present) fun result next => ?_)
      cases result with
      | error error => exact .ret _
      | ok => exact ih

theorem afterTouch_lodging {addr : Nat} {kind : Access} {proceed : PhysicalAddress → Nat → Kernel Reply}
    (aloof : others.Aloof) (present : space < spaces)
    (rest : ∀ phys faults, Preserves Machine.places (proceed phys faults)) :
    Lodging frames slots spaces start (afterTouch others space addr kind proceed) := by
  refine .bind (.of_places (virtual_places addr)) fun address _ =>
    .bind (touch_lodging aloof present) fun result _ => ?_
  cases result with
  | reached phys faults => exact .of_places (rest phys faults)
  | killed error => exact .ret _
  | stuck => exact .ret _

theorem answer_lodging {x : Faulting α} {reply : α → Kernel Reply}
    (action : Lodging frames slots spaces start x.run) (rest : ∀ a, Preserves Machine.places (reply a)) :
    Lodging frames slots spaces start (answer x reply) :=
  action.bind fun result _ => by
    cases result with
    | ok a => exact .of_places (rest a)
    | error error => exact .ret _

end Kernel

/-! Operations. -/

/-- The operations by which callers obtain frames or write to the swap store. -/
def Op.occupies : Op → Bool
  | .allocate _ _ | .swap (.write _) => true
  | _ => false

def Machine.unpinsFirst (machine : Machine) : Op → Bool
  | .destroy space => (machine.registry space).pages.values.all fun page => !machine.isPinned page
  | _ => true

namespace Machine
variable {machine : Machine} {value : AddressSpace}

theorem registry_open (fresh : value.registry = default) :
    Machine.registry { machine with spaces := machine.spaces ++ [value] } = machine.registry := by
  funext space
  unfold Machine.registry Machine.space
  simp only [List.getD_eq_getElem?_getD]
  rcases Nat.lt_trichotomy space machine.spaces.length with before | same | beyond
  · rw [List.getElem?_append_left before]
  · subst same
    simp only [List.getElem?_concat_length, Option.getD_some, fresh, List.getElem?_length]
    rfl
  · rw [List.getElem?_eq_none (Nat.le_of_lt beyond), List.getElem?_eq_none]
    simp only [List.length_append, List.length_singleton]
    exact beyond

theorem Lodged.open {frames slots spaces : Nat} {spare : List PageState}
    (lodged : machine.Lodged frames slots spaces spare) (fresh : value.registry = default) :
    Lodged frames slots spaces spare { machine with spaces := machine.spaces ++ [value] } where
  frames := lodged.frames
  slots := lodged.slots
  known := lodged.known.trans (by simp)
  taken {place} taken := by
    unfold Lodges
    rw [registry_open fresh]
    cases place <;> exact lodged.taken taken
  owned := lodged.owned
  orderly := by
    rw [registry_open fresh]
    exact lodged.orderly

end Machine

omit [Architecture] in
/-- Callers that do not write to the swap store can but free slots. -/
theorem SwapOp.run_frees [Geometry] {op : SwapOp} {slots : List SwapSlot} {swap : SwapStore}
    {outcome : SwapOutcome} (unread : ∀ name length, op ≠ .read name length)
    (unwritten : ∀ bytes, op ≠ .write bytes) (ran : op.run slots swap = .ok outcome) :
    outcome.swap.capacity = swap.capacity ∧
      ∀ slot, outcome.swap.isOccupied slot = true → swap.isOccupied slot = true := by
  cases op with
  | read name length => exact absurd rfl (unread name length)
  | write bytes => exact absurd rfl (unwritten bytes)
  | isOccupied name =>
    cases ran
    exact ⟨rfl, fun _ => id⟩
  | free name =>
    dsimp only [SwapOp.run] at ran
    split at ran
    · cases ran
      exact ⟨rfl, fun _ => id⟩
    · rename_i slot _
      cases ran
      refine ⟨SwapStore.capacity_free _ _, fun other taken => ?_⟩
      rw [SwapStore.isOccupied_free] at taken
      split at taken
      · cases taken
      · exact taken

namespace Kernel
variable {frames slots spaces : Nat} {start : Machine} {others : Interference}

theorem createSpace_lodging (directory : DirectoryId) :
    Lodging frames slots spaces start (createSpace directory) :=
  .look (.bind (.of_places (emit_places _)) fun _ _ =>
    .bind (fun lodged => .change (lodged.open rfl)) fun _ _ => .ret _)

theorem registerZero_lodging {space : SpaceId} {addr : VirtualAddress} {writable : Bool} {done remaining : Nat}
    {outcomes : List (Except RegistryError VirtualAddress)} :
    Lodging frames slots spaces start (registerZero space addr writable done outcomes remaining) := by
  induction remaining generalizing start done outcomes with
  | zero => exact .ret _
  | succ remaining ih =>
    refine .check (addr.notExhausted_add _) fun page _ => .bind (.look ?_) fun _ _ => ih
    split
    · rename_i created
      exact .bind (.register (Registry.stays_create created)) fun _ _ => .ret _
    · exact .ret _

theorem registerSegment_lodging {space : SpaceId} {file : FileId} {offset : Nat} {addr : VirtualAddress}
    {readBytes zeroBytes : Nat} {writable : Bool} : Lodging frames slots spaces start
      (registerSegment space file offset addr readBytes zeroBytes writable) := by
  refine .look (.check ((start.registry space).notExhausted_createSegment _ _ _ _ _ _)
    fun (result, registry) created =>
    .bind (.register (Registry.stays_createSegment created)) fun _ _ => ?_)
  cases result with
  | ok pages => exact .bind (.of_places (emit_places _)) fun _ _ => .ret _
  | error error => exact .ret _

theorem registry_lodging {space : SpaceId} {op : RegistryOp} : Lodging frames slots spaces start (do
    let (reply, registry) ← orStop (op.run ((← get).registry space))
    modify (·.setRegistry space registry)
    return reply : Kernel Reply) :=
  .of_lodged fun lodged => .look (.check (op.notExhausted_run _) fun (_, _) ran =>
    .bind (.register (Registry.stays_run (lodged.orderly space) ran)) fun _ _ => .ret _)

theorem storeSwap_lodging {op : SwapOp} (unread : ∀ name length, op ≠ .read name length)
    (unwritten : ∀ bytes, op ≠ .write bytes) : Lodging frames slots spaces start (storeSwap op) := by
  refine .look (.check (op.notExhausted_run _ _) fun outcome ran => .bind (fun lodged => .change ?_) fun _ _ =>
    .bind (.of_places (.each fun _ => emit_places _)) fun _ _ => .ret _)
  obtain ⟨capacity, occupied⟩ := SwapOp.run_frees unread unwritten ran
  exact (lodged.reswap capacity fun slot taken => .inl (occupied slot taken)).of_places rfl

/-- Callers may read slots and free them. -/
theorem performSwap_lodging {op : SwapOp} (aloof : others.Aloof) (reads : ∀ bytes, op ≠ .write bytes) :
    Lodging frames slots spaces start (performSwap others op) := by
  cases op with
  | write bytes => exact absurd rfl (reads bytes)
  | read name length =>
    refine .look ?_
    dsimp only
    split
    · exact .ret _
    · refine .check (Word.notExhausted_room _ _) fun _ _ => .bind ?_ fun (result, buffer) _ => ?_
      · refine .of_places ?_
        change Preserves Machine.places (StateT.run (readSlot others none _ length
          (fun offset bytes => modify (Bytes.patch · offset bytes)) : StateT Bytes Kernel _) _)
        rw [run_readSlot]
        refine .look fun machine => ?_
        split
        · exact .ret _
        · exact .bind (lendChunks_places aloof _ _) fun _ => .ret _
      · cases result with
        | ok => exact .ret _
        | error error => exact .ret _
  | free name | isOccupied name => exact storeSwap_lodging nofun nofun

/-- Callers may do all but obtain frames, write to the swap store, and destroy spaces with pinned pages. -/
theorem perform_lodging {op : Op} {files : Nat} (aloof : others.Aloof) (regular : op.Regular spaces files)
    (so_far : op.occupies = false) (unpinned : start.unpinsFirst op = true) :
    Lodging frames slots spaces start (perform others op) := by
  cases op with
  | allocate => cases so_far
  | registry space op => exact registry_lodging
  | directory space op =>
    exact .look (.check (op.notExhausted_run _) fun _ _ =>
      .bind (.of_places (.modify fun _ => rfl)) fun _ _ => .ret _)
  | disk op =>
    exact .look (.check (op.notExhausted_run _) fun _ _ =>
      .bind (.of_places (.modify fun _ => rfl)) fun _ _ => .ret _)
  | swap op => exact performSwap_lodging aloof fun bytes same => by subst same; cases so_far
  | createSpace share spec =>
    cases share with
    | some space =>
      exact .look (.bind (k := fun created => pure (Reply.number created.number)) (createSpace_lodging _)
        fun _ _ => .ret _)
    | none =>
      exact .bind (.of_places (.modifyGet fun _ => rfl)) fun _ _ =>
        .bind (createSpace_lodging _) fun _ _ => .ret _
  | openFile contents mode =>
    exact .of_places (.look fun machine => .bind (.modify fun _ => rfl) fun _ => .ret _)
  | setFileMode file mode => exact .of_places (.bind (.modify fun _ => rfl) fun _ => .ret _)
  | fileReads file => exact .of_places (.look fun machine => .ret _)
  | registerZero space addr count writable =>
    exact .bind (.of_places (virtual_places _)) fun _ _ => .bind registerZero_lodging fun _ _ => .ret _
  | registerSegment space file offset addr readBytes zeroBytes writable =>
    refine .bind (.of_places (virtual_places _)) fun _ _ => .bind registerSegment_lodging fun result _ => ?_
    cases result with
    | ok => exact .ret _
    | error error => exact .ret _
  | reserve space addr writable => exact registry_lodging
  | fault space fault stackPointer =>
    exact .look (answer_lodging (x := ExceptT.mk _) (handleFault_lodging aloof regular) fun _ => .ret _)
  | touch space addr kind => exact afterTouch_lodging aloof regular fun _ _ => .ret _
  | peek space addr =>
    exact afterTouch_lodging aloof regular fun _ _ => (readFrame_places _).bind fun _ => .ret _
  | poke space addr byte =>
    exact afterTouch_lodging aloof regular fun _ _ => (writeFrame_places _ _ _).bind fun _ => .ret _
  | copyTo space addr bytes =>
    exact .bind (.of_places (virtual_places addr)) fun _ _ =>
      answer_lodging (copyToUser_lodging aloof regular) fun _ => .ret _
  | copyFrom space addr length =>
    exact .bind (.of_places (virtual_places addr)) fun _ _ => .check (Word.notExhausted_room _ _) fun _ _ =>
      answer_lodging (copyFromUser_lodging aloof regular) fun _ => .ret _
  | pin space addr length kind =>
    exact .bind (.of_places (virtual_places addr)) fun _ _ =>
      answer_lodging (pinRange_lodging aloof regular) fun _ =>
        .look fun machine => (modifyCallers_places _).bind fun _ => .ret _
  | unpin guard =>
    refine .bind (.look ?_) fun _ _ => .ret _
    split
    · exact .ret _
    · exact .bind (.of_places (modifyCallers_places _)) fun _ _ =>
        .bind (dropGuard_lodging _) fun _ _ => .ret _
  | guardFrame guard addr =>
    refine .of_places ((virtual_places _).bind fun _ => .look fun machine => ?_)
    split
    · exact .ret _
    · exact .ret _
  | release space addr =>
    refine .bind (.of_places (virtual_places _)) fun _ _ =>
      .bind (.of_outcome releasePage_lodges) fun result _ => ?_
    cases result with
    | ok page => exact .ret _
    | error error => exact .ret _
  | destroy space =>
    refine .bind (.of_outcome fun lodged => destroySpace_lodges lodged fun page member => ?_) fun _ _ => .ret _
    have unmarked := List.all_eq_true.1 unpinned page member
    rwa [Bool.not_eq_true'] at unmarked
  | setupStack space => exact answer_lodging (setupStack_lodging aloof regular) fun _ => .ret _
  | setStackPointer space stackPointer =>
    exact .of_places ((setStackPointer_places space stackPointer).bind fun _ => .ret _)
  | free frame =>
    refine .bind (.of_outcome fun lodged => ?_) fun _ _ =>
      .bind (.of_places (modifyCallers_places _)) fun _ _ => .ret _
    exact (free_lodges (lodged.mono (List.nil_subset _))).weaken fun _ _ ⟨kept, _⟩ => kept
  | isPinned frame | owner frame =>
    exact .of_places ((poolIndex_places _).bind fun _ => .look fun machine => .ret _)
  | writeFrame frame bytes => exact .of_places ((writeFrame_places _ _ _).bind fun _ => .ret _)
  | readFrame frame length =>
    exact .of_places (.look fun machine =>
      .bind (.orStop (machine.memory.notExhausted_readRun _ _)) fun _ => .ret _)
  | noteSlot space addr =>
    refine .of_places ((virtual_places _).bind fun _ => .look fun machine => ?_)
    split
    · exact .look fun machine => (modifyCallers_places _).bind fun _ => .ret _
    · exact .ret _
  | config => exact .of_places (.look fun machine => .ret _)
  | beforeFileRead file script | beforeSectorRead script =>
    exact .of_places ((modifyCallers_places _).bind fun _ => .ret _)

end Kernel

/-! Runs. -/

/-- An operation on spaces that exist, by which callers obtain no frames, do not write to the swap store, and do
not destroy a space with a pinned page. -/
def Machine.Tolerates (machine : Machine) (op : Op) : Prop :=
  op.Regular machine.spaces.length machine.files.length ∧ op.occupies = false ∧
    machine.unpinsFirst op = true

instance (machine : Machine) (op : Op) : Decidable (machine.Tolerates op) :=
  inferInstanceAs (Decidable (_ ∧ _ ∧ _))

/-- Runs of such operations from the start of the memory manager. Nobody interrupts them, but reads of files and
of the swap device may fail. -/
inductive RunWithoutHoarding : Machine → Machine → Prop
  | boot {threshold config memory base disk machine}
      (booted : Machine.boot threshold config memory base disk = .ok machine) :
      RunWithoutHoarding machine machine
  | run {first machine op others reply next} (so_far : RunWithoutHoarding first machine)
      (tolerated : machine.Tolerates op)
      (aloof : others.Aloof) (ran : Kernel.perform others op machine = .ok reply next) :
      RunWithoutHoarding first next

theorem Machine.Lodged.boot {threshold : Option Level} {config : Config} {memory : Memory} {base : FrameNumber}
    {disk : Disk} {machine : Machine} (booted : Machine.boot threshold config memory base disk = .ok machine) :
    machine.Lodged machine.pool.capacity machine.swap.capacity 0 [] := by
  obtain ⟨swap, log, opened, _, rfl⟩ := Machine.boot_ok booted
  have sound := FramePool.sound_ofCount base config.frameCount
  refine ⟨rfl, rfl, Nat.zero_le _, fun {place} taken => ?_,
    fun inside unowned => sound.free.2 ⟨inside, unowned⟩, fun _ => Registry.orderly_empty⟩
  cases place with
  | unloaded => exact taken.elim
  | resident frame =>
    obtain ⟨index, inside, _, absent⟩ := taken
    exact absurd (sound.free.2 ⟨inside, rfl⟩) absent
  | swapped slot =>
    exact absurd taken (by simp [SwapStore.isOccupied_ofDisk opened slot, Machine.Taken])

/-- In all machines of a run pages are in all places that are taken. -/
theorem RunWithoutHoarding.lodged {first machine : Machine} (so_far : RunWithoutHoarding first machine) :
    machine.Lodged first.pool.capacity first.swap.capacity 0 [] := by
  induction so_far with
  | boot booted => exact .boot booted
  | @run first machine _ _ _ _ _ tolerated aloof ran ih =>
    obtain ⟨regular, frugal, unpinned⟩ := tolerated
    have known : machine.Lodged first.pool.capacity first.swap.capacity machine.spaces.length [] :=
      { ih with known := Nat.le_refl _ }
    have kept := (Kernel.perform_lodging aloof regular frugal unpinned known).of_ok ran
    exact { kept with known := Nat.zero_le _ }

/-- The kernel stops for want of a slot only when as many pages are registered as there are frames and slots. -/
theorem RunWithoutHoarding.crowded {first machine stopped : Machine} {op : Op} {others : Interference}
    (so_far : RunWithoutHoarding first machine) (tolerated : machine.Tolerates op) (aloof : others.Aloof)
    (stops : Kernel.perform others op machine = .error .swapExhausted stopped) :
    first.pool.capacity + first.swap.capacity ≤ stopped.registered := by
  obtain ⟨regular, frugal, unpinned⟩ := tolerated
  have known : machine.Lodged first.pool.capacity first.swap.capacity machine.spaces.length [] :=
    { so_far.lodged with known := Nat.le_refl _ }
  exact (Kernel.perform_lodging aloof regular frugal unpinned known).of_error stops rfl

theorem RunWithoutHoarding.undisturbed {first machine : Machine} {op : Op}
    (so_far : RunWithoutHoarding first machine) (tolerated : machine.Tolerates op)
    (well : (Kernel.perform .none op).endsWell machine = true) :
    RunWithoutHoarding first (machine.undisturbed op) := by
  obtain ⟨_, ran⟩ := Kernel.ok_of_endsWell well
  exact so_far.run tolerated Interference.aloof_none ran

theorem RunWithoutHoarding.carried {first machine : Machine} {ops : List Op}
    (so_far : RunWithoutHoarding first machine) (carries : machine.Carries Machine.Tolerates ops) :
    RunWithoutHoarding first (ops.foldl Machine.undisturbed machine) := by
  induction ops generalizing machine with
  | nil => exact so_far
  | cons op rest ih =>
    obtain ⟨tolerated, well, rest⟩ := carries
    exact ih (so_far.undisturbed tolerated well) rest

def Kernel.stop? (f : Kernel α) (start : Machine) : Option Fatal :=
  match f start with
  | .ok _ _ => none
  | .error cause _ => some cause

theorem Kernel.error_of_stop? {f : Kernel α} {start : Machine} {cause : Fatal}
    (stopped : f.stop? start = some cause) : f start = .error cause (f.leaves start) := by
  unfold stop? at stopped
  unfold leaves
  split at stopped
  · cases stopped
  · rename_i ran
    cases stopped
    rw [ran]

end

section
attribute [local instance] Architecture.small

def filled : Machine :=
  [.createSpace none ⟨0, []⟩, .registerZero 0 0x1000 4 true, .poke 0 0x1000 1, .poke 0 0x1010 2,
    .poke 0 0x1020 3, .poke 0 0x1030 4].foldl Machine.undisturbed twoFrames

/-- There is no slot for the page that has to make room for another one that is in a slot. -/
theorem filled_crowded : RunWithoutHoarding twoFrames filled ∧ filled.Tolerates (.peek 0 0x1000) ∧
    Kernel.perform .none (.peek 0 0x1000) filled =
      .error .swapExhausted (filled.undisturbed (.peek 0 0x1000)) ∧
    (filled.undisturbed (.peek 0 0x1000)).registered = 4 ∧
    twoFrames.pool.capacity + twoFrames.swap.capacity ≤
      (filled.undisturbed (.peek 0 0x1000)).registered := by
  have booted : Machine.boot none (.ofFrames 2) (.mapped 4 2) ⟨4⟩ { sectorSize := 4, count := 8 } =
      .ok twoFrames := rfl
  have so_far : RunWithoutHoarding twoFrames filled :=
    (RunWithoutHoarding.boot booted).carried (by decide +kernel)
  have tolerated : filled.Tolerates (.peek 0 0x1000) := by decide +kernel
  have stops := @Kernel.error_of_stop? _ _ (Kernel.perform .none (.peek 0 0x1000)) filled .swapExhausted
    (by decide +kernel)
  exact ⟨so_far, tolerated, stops, by decide +kernel, so_far.crowded tolerated Interference.aloof_none stops⟩

/-- Callers write to both slots, and two of three pages are in the two frames. -/
def hoardingOps : List Op :=
  [.createSpace none ⟨0, []⟩, .registerZero 0 0x1000 3 true, .swap (.write (List.replicate 16 7)),
    .swap (.write (List.replicate 16 7)), .poke 0 0x1000 1, .poke 0 0x1010 2]

/-- Slots that callers have written to lodge no pages. There are never more than three pages, one less than
frames and slots, and the kernel stops for want of a slot. -/
theorem hoarding_exhausts :
    let hoarded := hoardingOps.foldl Machine.undisturbed twoFrames
    twoFrames.Carries (fun machine op =>
      op.Regular machine.spaces.length machine.files.length ∧ op.lends = false ∧
        machine.unpinsFirst op = true ∧ (machine.undisturbed op).registered ≤ 3) hoardingOps ∧
    hoarded.swap.disk.writesLeft = none ∧ twoFrames.pool.capacity + twoFrames.swap.capacity - 1 = 3 ∧
    (Kernel.perform .none (.poke 0 0x1020 3)).stop? hoarded = some .swapExhausted ∧
    (hoarded.undisturbed (.poke 0 0x1020 3)).registered = 3 := by
  decide +kernel

end

end DemandPaging
