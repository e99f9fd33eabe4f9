import DemandPaging.Proofs.Places

/-! What the memory manager does keeps pages in all frames and slots that are taken: a frame that is obtained is
to spare until a page settles in it or it is freed. The kernel stops for want of a slot only if there are as
many pages as frames and slots. -/
namespace DemandPaging

variable [Architecture]

/-! What leaves the frames, the slots and the pages alone. -/

namespace Kernel

theorem emit_places (event : Event) : Preserves Machine.places (emit event) :=
  .modify fun _ => rfl

theorem modifyCallers_places (change : Callers → Callers) : Preserves Machine.places (modifyCallers change) :=
  .modify fun _ => rfl

theorem modifyStats_places (change : Stats → Stats) : Preserves Machine.places (modifyStats change) :=
  .modify fun _ => rfl

theorem readFrame_places (frame : FrameNumber) : Preserves Machine.places (readFrame frame) :=
  .look fun machine => .orStop (machine.memory.notExhausted_read frame)

theorem writeFrame_places (frame : FrameNumber) (offset : Nat) (bytes : Bytes) :
    Preserves Machine.places (writeFrame frame offset bytes) :=
  .look fun machine => .bind (.orStop (machine.memory.notExhausted_write frame offset bytes)) fun _ =>
    (.modify fun _ => rfl)

theorem poolIndex_places (frame : FrameNumber) : Preserves Machine.places (poolIndex frame) :=
  .look fun machine => .orStop (machine.pool.notExhausted_index frame)

theorem setAccessed_places (space : SpaceId) (page : VirtualAddress) (value : Bool) :
    Preserves Machine.places (setAccessed space page value) :=
  .modify fun _ => rfl

theorem setDirty_places (space : SpaceId) (page : VirtualAddress) (value : Bool) :
    Preserves Machine.places (setDirty space page value) :=
  .modify fun _ => rfl

theorem unmap_places (space : SpaceId) (page : VirtualAddress) : Preserves Machine.places (unmap space page) :=
  .modifyGet fun _ => rfl

theorem virtual_places (addr : Nat) : Preserves Machine.places (virtual addr) :=
  .orStop (VirtualAddress.notExhausted_ofWord addr)

theorem tryAccess_places (space : SpaceId) (addr : VirtualAddress) (kind : Access) :
    Preserves Machine.places (tryAccess space addr kind) :=
  .modifyGet fun _ => rfl

theorem writePieces_places (space : SpaceId) (pieces : List Piece) (bytes : Bytes) :
    Preserves Machine.places (writePieces space pieces bytes) := by
  induction pieces generalizing bytes with
  | nil => exact .ret _
  | cons piece rest ih =>
    refine (writeFrame_places _ _ _).bind fun _ => (setAccessed_places _ _ _).bind fun _ => ?_
    exact (setDirty_places _ _ _).bind fun _ => ih _

theorem readPieces_places (space : SpaceId) (pieces : List Piece) :
    Preserves Machine.places (pieces.mapM fun piece => (readPiece space piece : Faulting Bytes)).run := by
  induction pieces with
  | nil => exact .ret _
  | cons piece rest ih =>
    rw [List.mapM_cons]
    refine .run_lift ?_ fun _ => ih.run_bind fun _ => .run_ret _
    exact (readFrame_places _).bind fun _ => (setAccessed_places _ _ _).bind fun _ => .ret _

theorem transferChunks_places {transfer : Chunk → Kernel (Except BlockError Unit)}
    (each : ∀ chunk, Preserves Machine.places (transfer chunk)) (chunks : List Chunk) :
    Preserves Machine.places (transferChunks transfer chunks) := fun _ =>
  Outcome.transferChunks rfl fun chunk _ now same =>
    (each chunk now).weaken fun _ _ later => later.trans same

section
variable {others : Interference} (aloof : others.Aloof)
include aloof

theorem turn_places (hook : Hook) : Preserves Machine.places (others.turn hook) := fun start =>
  (turn_fails aloof hook).weaken fun _ _ ⟨⟨_, _, same⟩, _⟩ => by
    rw [same]
    rfl

theorem readSector_places (load : Option Load) (sector length : Nat) :
    Preserves Machine.places (readSector others load sector length) :=
  (turn_places aloof (.sector load)).bind fun _ => .modifyGet fun _ => rfl

theorem loadChunk_places (load : Load) (chunk : Chunk) :
    Preserves Machine.places (loadChunk others load chunk) := by
  refine (readSector_places aloof _ _ _).bind fun result => ?_
  cases result with
  | error error => exact .ret _
  | ok bytes => exact (writeFrame_places _ _ _).bind fun _ => .ret _

theorem readSlot_places (load : Load) (slot : SwapSlot) : Preserves Machine.places
    (readSlot others (some load) slot pageSize (writeFrame load.frame) : Kernel _) := by
  refine .look fun machine => ?_
  dsimp only
  split
  · exact .ret _
  · refine .bind (transferChunks_places (loadChunk_places aloof load) _) fun result => ?_
    cases result <;> exact .ret _

theorem fillFromFile_places (load : Load) (segment : FileSegment) :
    Preserves Machine.places (fillFromFile others load segment).run := by
  have zeros : Preserves Machine.places (ExceptT.lift
      (writeFrame load.frame segment.readBytes (List.replicate segment.zeroBytes 0)) : Faulting Unit).run :=
    .run_last (writeFrame_places _ _ _)
  unfold fillFromFile
  dsimp only
  split
  · refine .run_lift (turn_places aloof (.file load segment.file)) fun _ => .run_look fun machine =>
      .run_lift (.modify (by exact fun _ => rfl)) fun _ => ?_
    split
    · exact .run_fail _
    · refine .run_lift (writeFrame_places _ _ _) fun _ => ?_
      split
      · exact .run_fail _
      · exact .run_lift (modifyStats_places _) fun _ => zeros
  · exact zeros

theorem populate_places (load : Load) : Preserves Machine.places (populate others load).run := by
  refine .run_lift (readFrame_places _) fun _ => ?_
  split
  · refine .run_lift (readSlot_places aloof _ _) fun result => ?_
    cases result with
    | error error => exact .run_fail _
    | ok => exact .run_last (modifyStats_places _)
  · exact .run_last (writeFrame_places _ _ _)
  · exact fillFromFile_places aloof _ _
  · exact .run_fail _

theorem lendChunks_places (chunks : List Chunk) (buffer : Bytes) :
    Preserves Machine.places ((transferChunks (lendChunk others) chunks).run buffer) := by
  induction chunks generalizing buffer with
  | nil => exact .ret _
  | cons chunk rest ih =>
    have read : Preserves Machine.places ((lendChunk others chunk).run buffer) :=
      .bind (.bind (readSector_places aloof none chunk.sector chunk.length) fun _ => .ret _)
        fun ⟨result, _⟩ => by cases result <;> exact .ret _
    refine read.bind fun ⟨result, buffer⟩ => ?_
    cases result with
    | error error => exact .ret _
    | ok => exact ih buffer

end

end Kernel

/-! Frames and slots are handed out and given up. -/

namespace Machine.Lodged
variable {frames slots spaces : Nat} {spare : List PageState} {machine : Machine}

theorem setEntry (lodged : machine.Lodged frames slots spaces spare) (index : Nat) {entry : FrameEntry}
    (owner : entry.owner = none → (machine.pool.entry index).owner = none) :
    Lodged frames slots spaces spare { machine with pool := machine.pool.setEntry index entry } := by
  refine lodged.repool rfl rfl (fun _ => .inl) fun {other} inside unowned => lodged.owned inside ?_
  rw [FramePool.entry_setEntry] at unowned
  split at unowned
  · rename_i same
    rw [← same]
    exact owner unowned
  · exact unowned

theorem removeFromClock (lodged : machine.Lodged frames slots spaces spare) (index : Nat) :
    Lodged frames slots spaces spare { machine with pool := machine.pool.removeFromClock index } := by
  obtain ⟨hand, same, _⟩ := machine.pool.removeFromClock_eq index
  rw [same]
  exact lodged.repool rfl rfl (fun _ => .inl) lodged.owned

theorem giveBack (lodged : machine.Lodged frames slots spaces spare) (index : Nat) :
    Lodged frames slots spaces spare { machine with pool := machine.pool.giveBack index } := by
  refine lodged.repool rfl rfl (fun other member => .inl (List.mem_cons_of_mem _ member))
    fun {other} inside unowned => ?_
  rw [FramePool.entry_giveBack] at unowned
  split at unowned
  · rename_i same
    rw [← same]
    exact List.mem_cons_self
  · exact List.mem_cons_of_mem _ (lodged.owned inside unowned)

/-- A frame that is assigned need not have been free: it can be one whose page has left it. -/
theorem assign (lodged : machine.Lodged frames slots spaces spare) (pool : FramePool) {index : Nat}
    (capacity : pool.capacity = machine.pool.capacity) (base : pool.base = machine.pool.base)
    (free : machine.pool.free = pool.free ∨ machine.pool.free = index :: pool.free)
    (entry : ∀ other, index ≠ other → pool.entry other = machine.pool.entry other)
    (spared : .resident (pool.number index) ∈ spare) (owner : SpaceId) :
    Lodged frames slots spaces spare { machine with pool := pool.assign index owner } := by
  refine lodged.repool capacity base (fun other member => ?_) fun {other} inside unowned => ?_
  · rcases free with same | same
    · exact .inl (same ▸ member)
    · rw [same] at member
      cases member with
      | head => exact .inr spared
      | tail _ member => exact .inl member
  · rw [FramePool.entry_assign] at unowned
    split at unowned
    · cases unowned
    · rename_i differ
      rw [entry other differ] at unowned
      have member := lodged.owned (Nat.lt_of_lt_of_eq inside capacity) unowned
      rcases free with same | same
      · exact same ▸ member
      · rw [same] at member
        exact (List.mem_cons.1 member).resolve_left fun here => differ here.symm

theorem freeSlot (lodged : machine.Lodged frames slots spaces spare) (slot : SwapSlot) :
    Lodged frames slots spaces spare { machine with swap := (machine.swap.free slot).2 } := by
  refine lodged.reswap (SwapStore.capacity_free _ _) fun other occupied => .inl ?_
  rw [SwapStore.isOccupied_free] at occupied
  split at occupied
  · cases occupied
  · exact occupied

end Machine.Lodged

theorem Machine.not_taken_frame {machine : Machine} {index : Nat} (member : index ∈ machine.pool.free) :
    ¬machine.Taken (.resident (machine.pool.number index)) := by
  rintro ⟨other, _, same, absent⟩
  rw [← FramePool.number_injective same] at absent
  exact absent member

namespace Kernel
variable {frames slots spaces : Nat} {spare : List PageState} {start : Machine} {frame : FrameNumber}
  {space : SpaceId}

theorem Outcome.otherThanExhausted {f : Kernel α} {post : α → Machine → Prop}
    (outcome : Outcome start f post OtherThanExhausted) :
    Outcome start f post (Machine.Crowds frames slots) :=
  outcome.imp (fun _ _ done => done) fun _ _ other same => absurd same other

theorem orStop_finds {outcome : Except Fatal α} (notExhausted : Fatal.NotExhausted outcome) :
    Outcome start (orStop outcome) (fun a next => start = next ∧ outcome = .ok a) OtherThanExhausted := by
  cases outcome with
  | ok a => exact .ret ⟨rfl, rfl⟩
  | error cause => exact fun same => notExhausted (congrArg Except.error same)

theorem poolIndex_finds : Outcome start (poolIndex frame) (fun index next =>
    start = next ∧ frame = start.pool.number index ∧ index < start.pool.capacity) OtherThanExhausted :=
  (orStop_finds (start.pool.notExhausted_index frame)).weaken fun _ _ ⟨same, found⟩ =>
    ⟨same, FramePool.index_ok.1 found⟩

/-- A frame that is freed need not be spared any more. -/
theorem free_lodges (lodged : start.Lodged frames slots spaces (.resident frame :: spare)) :
    Outcome start (free frame) (fun _ next => next.Lodged frames slots spaces spare ∧
      start.pool.Slackens next.pool) OtherThanExhausted := by
  refine poolIndex_finds.bind fun index _ ⟨same, named, inside⟩ => .look ?_
  subst same
  subst named
  split
  · rename_i unowned
    have kept : Machine.Lodged frames slots spaces spare { start with pool := start.pool.setEntry index {} } :=
      (lodged.setEntry index fun _ => unowned).drop (Machine.not_taken_frame (lodged.owned inside unowned))
    refine .step (.change ⟨kept.of_places rfl, rfl, fun other unpinned => ?_⟩)
    dsimp only
    rw [FramePool.entry_setEntry]
    split
    · rfl
    · exact unpinned
  · have kept : Machine.Lodged frames slots spaces spare { start with pool := start.pool.withdraw index } := by
      refine ((lodged.removeFromClock index).giveBack index).drop ?_
      rw [← start.pool.number_withdraw index]
      exact Machine.not_taken_frame List.mem_cons_self
    obtain ⟨_, same, _⟩ := start.pool.withdraw_eq index
    have base : (start.pool.withdraw index).base = start.pool.base := by rw [same]; rfl
    refine .change ⟨kept, base, fun other unpinned => ?_⟩
    change ((start.pool.withdraw index).entry other).pins = 0
    rw [FramePool.entry_withdraw]
    split
    · rfl
    · exact unpinned

theorem freeSlot_lodges {slot : SwapSlot} (lodged : start.Lodged frames slots spaces (.swapped slot :: spare)) :
    Outcome start (freeSlot slot) (fun _ next => next.Lodged frames slots spaces spare ∧ next.pool = start.pool)
      OtherThanExhausted := by
  have freed := lodged.freeSlot slot
  have kept := freed.drop fun taken => by
    rw [Machine.Taken, SwapStore.isOccupied_free, if_pos rfl] at taken
    cases taken
  refine .look (.step ?_)
  split
  · exact .change ⟨kept.of_places rfl, rfl⟩
  · exact .ret ⟨kept, rfl⟩

/-- A page that is unregistered gives up its place, unless its frame is pinned. -/
theorem releaseHolding_lodges {page : Page} (lodged : start.Lodged frames slots spaces (page.state :: spare))
    (unpinned : start.isPinned page = false) :
    Outcome start (releaseHolding space page) (fun _ next => next.Lodged frames slots spaces spare ∧
      start.pool.Slackens next.pool) OtherThanExhausted := by
  unfold releaseHolding
  cases state : page.state with
  | unloaded =>
    rw [state] at lodged
    exact .ret ⟨lodged.drop id, rfl, fun _ => id⟩
  | swapped slot =>
    rw [state] at lodged
    refine (freeSlot_lodges lodged).weaken fun _ next ⟨kept, pool⟩ => ⟨kept, ?_⟩
    rw [pool]
    exact ⟨rfl, fun _ => id⟩
  | resident frame =>
    rw [state] at lodged
    have unmapped : Outcome start (unmap space page.addr)
        (fun _ next => next.places = start.places) OtherThanExhausted :=
      unmap_places space page.addr start
    refine unmapped.bind fun _ next same => poolIndex_finds.bind fun index _ ⟨here, named, _⟩ => .look ?_
    subst here
    have pool : next.pool = start.pool := congrArg Prod.fst same
    have free : ¬0 < (next.pool.entry index).pins := by
      simpa [Machine.isPinned, state, named, pool, FramePool.number_sub, FramePool.isPinned] using unpinned
    rw [if_neg free, ← pool]
    exact free_lodges (lodged.of_places same)

theorem releaseAll_lodges {pages : List Page}
    (lodged : start.Lodged frames slots spaces (pages.map (·.state) ++ spare))
    (unpinned : ∀ page ∈ pages, start.isPinned page = false) :
    Outcome start (pages.forM (releaseHolding space))
      (fun _ => Machine.Lodged frames slots spaces spare) OtherThanExhausted := by
  induction pages generalizing start with
  | nil => exact .ret lodged
  | cons page rest ih =>
    refine (releaseHolding_lodges lodged (unpinned page List.mem_cons_self)).bind fun _ next done => ?_
    obtain ⟨kept, slackens⟩ := done
    exact ih kept fun other member =>
      Machine.unpinned_of_slack slackens (unpinned other (List.mem_cons_of_mem _ member))

theorem releasePage_lodges {addr : VirtualAddress} (lodged : start.Lodged frames slots spaces []) :
    Outcome start (releasePage space addr)
      (fun _ => Machine.Lodged frames slots spaces []) OtherThanExhausted := by
  refine .look ?_
  split
  · exact .ret lodged
  · rename_i page registry taken
    obtain ⟨found, orderly, pages⟩ := (lodged.orderly space).take? taken
    have left : (start.setRegistry space registry).Lodged frames slots spaces [page.state] := by
      refine (lodged.mono (List.nil_subset _)).rehouse orderly fun {addr other} there _ => ?_
      rw [pages]
      split
      · rename_i same
        subst same
        cases found.symm.trans there
        exact .inl List.mem_cons_self
      · exact .inr ⟨other, there, rfl⟩
    have leaves (unpinned : start.isPinned page = false) : Outcome start (do
        modify (·.setRegistry space registry)
        releaseHolding space page
        return .ok page : Kernel (Except RegistryError Page))
        (fun _ => Machine.Lodged frames slots spaces []) OtherThanExhausted :=
      .step ((releaseHolding_lodges left unpinned).bind fun _ _ kept => .ret kept.1)
    cases state : page.state with
    | unloaded | swapped =>
      simp only [Page.frame?, state]
      exact leaves (by rw [Machine.isPinned, state])
    | resident frame =>
      simp only [Page.frame?, state]
      refine poolIndex_finds.bind fun index _ finds => .look ?_
      obtain ⟨rfl, named, _⟩ := finds
      have same : start.isPinned page = start.pool.isPinned index := by
        simp [Machine.isPinned, state, named, FramePool.number_sub]
      change Outcome start (if start.pool.isPinned index = true then _ else _) _ _
      split
      · exact .ret lodged
      · rename_i unpinned
        exact leaves (same.trans (Bool.not_eq_true _ ▸ unpinned))

theorem destroySpace_lodges (lodged : start.Lodged frames slots spaces [])
    (unpinned : ∀ page ∈ (start.registry space).pages.values, start.isPinned page = false) :
    Outcome start (destroySpace space) (fun _ => Machine.Lodged frames slots spaces []) OtherThanExhausted := by
  refine .look (.step ?_)
  have left : (start.setRegistry space default).Lodged frames slots spaces
      ((start.registry space).pages.values.map (·.state) ++ []) := by
    refine (lodged.mono (List.nil_subset _)).rehouse Registry.orderly_empty fun found _ => .inl ?_
    exact List.mem_append_left _ (List.mem_map.2 ⟨_, SortedMap.mem_values found, rfl⟩)
  refine (releaseAll_lodges left fun page member => ?_).bind fun _ _ kept => .change (kept.of_places rfl)
  exact unpinned page member

theorem pinResident_lodges {addr : VirtualAddress} (lodged : start.Lodged frames slots spaces []) :
    Outcome start (pinResident space addr)
      (fun _ => Machine.Lodged frames slots spaces []) OtherThanExhausted := by
  refine .look ?_
  split
  · exact .ret lodged
  · rename_i frame registry pinned
    have kept := lodged.stays (Registry.stays_pin? (lodged.orderly space) pinned)
    refine .step (poolIndex_finds.bind fun index _ ⟨here, _⟩ => ?_)
    subst here
    exact .step (.ret (kept.setEntry index id))

theorem unpin_lodges {owner : SpaceId} (lodged : start.Lodged frames slots spaces []) :
    Outcome start (unpin frame owner) (fun _ => Machine.Lodged frames slots spaces []) OtherThanExhausted := by
  refine poolIndex_finds.bind fun index _ ⟨here, _⟩ => .look ?_
  subst here
  dsimp only
  split
  · exact .change (lodged.of_places rfl)
  · split
    · exact .change (lodged.giveBack index)
    · refine .step ?_
      have kept : Machine.Lodged frames slots spaces [] { start with
          pool := start.pool.setEntry index
            { start.pool.entry index with pins := (start.pool.entry index).pins - 1 } } :=
        lodged.setEntry index id
      split
      · exact .change (kept.stays (Registry.stays_unpinFrame (kept.orderly owner) frame))
      · exact .ret kept

theorem dropGuard_lodges {guard : PinGuard} (lodged : start.Lodged frames slots spaces []) :
    Outcome start (dropGuard guard) (fun _ => Machine.Lodged frames slots spaces []) OtherThanExhausted :=
  .forM lodged fun _ _ _ => unpin_lodges

end Kernel

/-! Frames are reclaimed. -/

/-- The frame at `index` is to spare once it is assigned. Pages that are in no frame are as they were. -/
def Machine.Vacates (frames slots spaces : Nat) (start : Machine) (index : Nat) (next : Machine) : Prop :=
  start.KeepsAway next ∧ ∀ owner, Lodged frames slots spaces [.resident (next.pool.number index)]
    { next with pool := next.pool.assign index owner }

namespace Kernel
variable {frames slots spaces : Nat} {start : Machine} {frame : FrameNumber} {space : SpaceId}

/-- The page in a frame leaves it, and the frame is to spare. -/
theorem leave_lodges {owner : SpaceId} {page : Page} (lodged : start.Lodged frames slots spaces [])
    (found : (start.registry owner).lookupFrame frame = some page) (state : PageState) :
    Machine.Lodged frames slots spaces [.resident frame]
        (start.setRegistry owner ((start.registry owner).detach frame state)) ∧
      (start.setRegistry owner ((start.registry owner).detach frame state)).Lodges state ∧
      start.KeepsAway (start.setRegistry owner ((start.registry owner).detach frame state)) := by
  obtain ⟨resident, registered, orderly, pages⟩ := (lodged.orderly owner).detach found state
  have here := start.registry_setRegistry_self ((start.registry owner).detach frame state)
    (start.space_present registered)
  refine ⟨(lodged.mono (List.nil_subset _)).rehouse orderly fun {addr other} there _ => ?_,
    ⟨owner, page.addr, { page with state, pinned := false, generation := page.generation + 1 }, ?_, rfl⟩,
    fun {other addr away} there unloaded => ?_⟩
  · rw [pages]
    split
    · rename_i same
      subst same
      cases registered.symm.trans there
      exact .inl (resident ▸ List.mem_cons_self)
    · exact .inr ⟨other, there, rfl⟩
  · rw [here, pages, if_pos rfl]
  · by_cases same : owner = other
    · subst same
      rw [here, pages, if_neg, there]
      rintro rfl
      cases registered.symm.trans there
      rw [Page.isResident, Page.frame?, resident] at unloaded
      cases unloaded
    · rw [start.registry_setRegistry_of_ne _ same]
      exact there

theorem writeBack_lodges {owner : SpaceId} {page : Page} (lodged : start.Lodged frames slots spaces [])
    (spent : start.pool.free = []) (found : (start.registry owner).lookupFrame frame = some page) :
    Outcome start (writeBack owner frame) (fun _ next => next.Lodged frames slots spaces [.resident frame] ∧
      next.pool = start.pool ∧ start.KeepsAway next) (Machine.Crowds frames slots) := by
  have unmapped : Outcome start (unmap owner page.addr) (fun _ next => next =
      start.setDirectory owner (Architecture.unmap (start.directory owner) page.addr).2) Never :=
    .changeGet rfl
  refine .look ?_
  rw [found]
  refine .look (unmapped.always.bind fun _ now same => ?_)
  subst same
  split
  · obtain ⟨left, _, away⟩ := leave_lodges lodged found .unloaded
    exact .step (.step (.change ⟨left.of_places rfl, rfl, away⟩))
  · refine readFrame_keeps.otherThanExhausted.bind fun bytes _ same => .look ?_
    subst same
    have before : (start.setDirectory owner
        (Architecture.unmap (start.directory owner) page.addr).2).swap = start.swap := rfl
    rw [before]
    cases written : start.swap.write bytes with
    | mk result swap =>
      obtain ⟨capacity, occupied, full⟩ := SwapStore.write_takes written
      refine .step ?_
      cases result with
      | ok slot =>
        obtain ⟨left, lodges, away⟩ := leave_lodges lodged found (.swapped slot)
        have saved := left.reswap capacity fun other taken => by
          rcases occupied other taken with same | before
          · cases same
            exact .inr lodges
          · exact .inl before
        exact .step (.step (.change ⟨saved.of_places rfl, rfl, away⟩))
      | error error =>
        have crowds (event : Event) : error = .full → frames + slots ≤ Machine.registered
            { start.setDirectory owner (Architecture.unmap (start.directory owner) page.addr).2 with
              swap, log := event :: start.log } :=
          fun same => lodged.crowds spent (full (by rw [same]))
        cases error with
        | full => exact fun _ => crowds _ rfl
        | _ => exact nofun

theorem visit_holds {index : Nat} {owner : SpaceId} (orderly : ∀ space, (start.registry space).Orderly)
    (seen : visit start index frame = .reclaim owner) :
    ∃ page, (start.registry owner).lookupFrame frame = some page := by
  unfold visit at seen
  dsimp only at seen
  split at seen
  · cases seen
  · split at seen
    · cases seen
    · split at seen
      · cases seen
      · rename_i addr holder
        split at seen
        · cases seen
        · cases seen
          obtain ⟨page, found, _⟩ := (orderly owner).holds holder
          exact ⟨page, Option.bind_eq_some_iff.2 ⟨addr, holder, found⟩⟩

theorem sweep_lodges {visits : Nat} (lodged : start.Lodged frames slots spaces [])
    (spent : start.pool.free = []) : Outcome start (sweep visits) (start.Vacates frames slots spaces)
      (Machine.Crowds frames slots) := by
  induction visits generalizing start with
  | zero => exact nofun
  | succ visits ih =>
    obtain ⟨hand, wrapped⟩ := start.pool.wrapHand_eq
    have kept : Machine.Lodged frames slots spaces [] { start with pool := start.pool.wrapHand } := by
      rw [wrapped]
      exact lodged.repool rfl rfl (fun _ => .inl) lodged.owned
    have empty : start.pool.wrapHand.free = [] := by
      rw [wrapped]
      exact spent
    refine .step (.look ?_)
    split
    · exact nofun
    · rename_i index there
      refine (orStop_finds (FramePool.notExhausted_frameAt _ index)).otherThanExhausted.bind fun frame mid
        ⟨here, located⟩ => ?_
      have named := FramePool.frameAt_ok located
      subst here
      have turned : Machine.Lodged frames slots spaces []
          { start with pool := start.pool.wrapHand.advanceHand } :=
        kept.repool rfl rfl (fun _ => .inl) kept.owned
      split
      · exact .step (ih turned empty)
      · exact .step (.step (.step (ih (turned.of_places rfl) empty)))
      · rename_i owner seen
        obtain ⟨page, found⟩ := visit_holds kept.orderly seen
        refine (writeBack_lodges kept empty found).bind fun _ next ⟨left, pool, away⟩ =>
          .step (.step (.ret ⟨away, fun owner => ?_⟩))
        obtain ⟨hand, retired, _⟩ := (next.pool.setEntry index {}).removeFromClock_eq index
        have same : frame = next.pool.number index := by rw [named, pool]
        rw [same] at left
        dsimp only
        rw [retired]
        refine (left.assign { next.pool.setEntry index {} with clock := next.pool.clock.erase index, hand }
          rfl rfl (.inl rfl) (fun other differ => ?_) List.mem_cons_self owner).of_places rfl
        exact (FramePool.entry_setEntry ..).trans (if_neg differ)

theorem evict_lodges (lodged : start.Lodged frames slots spaces []) (spent : start.pool.free = []) :
    Outcome start evict (start.Vacates frames slots spaces) (Machine.Crowds frames slots) := by
  refine .look ?_
  dsimp only
  split
  · exact .step nofun
  · exact sweep_lodges lodged spent

theorem allocate_lodges {owner : SpaceId} (lodged : start.Lodged frames slots spaces []) :
    Outcome start (allocate owner false) (fun frame next => start.KeepsAway next ∧
      next.Lodged frames slots spaces [.resident frame]) (Machine.Crowds frames slots) := by
  have assigned {index : Nat} {next : Machine} (away : start.KeepsAway next)
      (left : Machine.Lodged frames slots spaces [.resident (next.pool.number index)]
        { next with pool := next.pool.assign index owner }) : Outcome next (do
        modifyPool (·.assign index owner)
        let frame ← orStop ((← get).pool.frameAt index)
        if false then writeFrame frame 0 (List.replicate pageSize 0)
        return frame) (fun frame next => start.KeepsAway next ∧
          next.Lodged frames slots spaces [.resident frame]) (Machine.Crowds frames slots) := by
    refine .step (.look ((orStop_finds (FramePool.notExhausted_frameAt _ index)).otherThanExhausted.bind
      fun frame mid ⟨here, located⟩ => .ret ?_))
    rw [FramePool.frameAt_ok located, ← here]
    exact ⟨away, left⟩
  refine .look ?_
  dsimp only
  split
  · rename_i index rest taken
    have free := FramePool.free_of_takeFree? taken
    obtain ⟨returned, fresh, rfl⟩ := FramePool.takeFree?_eq taken
    refine .step (assigned (fun found _ => found) ?_)
    exact (lodged.mono (List.nil_subset _)).assign { start.pool with returned, fresh } rfl rfl (.inr free)
      (fun _ _ => rfl) List.mem_cons_self owner
  · rename_i none_left
    have spent := FramePool.free_of_takeFree?_none none_left
    exact (evict_lodges lodged spent).bind fun _ _ ⟨away, left⟩ => assigned away (left owner)

/-! Pages are loaded. -/

/-- A page that is in no frame settles in one, and its old place is to spare. -/
theorem settle_lodges {page : Page} {pin : Bool} (lodged : start.Lodged frames slots spaces [.resident frame])
    (found : (start.registry space).pages.get? page.addr = some page) (away : page.isResident = false) :
    Machine.Lodged frames slots spaces [page.state]
      (start.setRegistry space ((start.registry space).settle page frame pin)) := by
  have here := start.registry_setRegistry_self ((start.registry space).settle page frame pin)
    (start.space_present found)
  have moved : Machine.Lodged frames slots spaces [.resident frame, page.state]
      (start.setRegistry space ((start.registry space).settle page frame pin)) := by
    refine (lodged.mono (List.cons_subset_cons _ (List.nil_subset _))).rehouse
      ((lodged.orderly space).settle found away) fun {addr other} there _ => ?_
    by_cases same : page.addr = addr
    · subst same
      cases found.symm.trans there
      exact .inl (List.mem_cons_of_mem _ List.mem_cons_self)
    · exact .inr ⟨other, (SortedMap.get?_insert_of_ne _ _ same).trans there, rfl⟩
  refine moved.occupy fun _ => ⟨space, page.addr,
    { page with state := .resident frame, pinned := pin, generation := page.generation + 1 }, ?_, rfl⟩
  rw [here, Registry.settle]
  exact SortedMap.get?_insert_self ..

theorem attach_lodges {page : Page} {pin : Bool} (lodged : start.Lodged frames slots spaces [.resident frame])
    (found : (start.registry space).pages.get? page.addr = some page) (away : page.isResident = false) :
    Outcome start (attach space page frame pin) (fun result next => next.Lodged frames slots spaces
      [if result = .ok true then page.state else .resident frame]) OtherThanExhausted := by
  have current : (start.registry space).current? page = some page := by
    rw [Registry.current?, found]
    simp
  refine .look ?_
  rw [current]
  refine (orStop_finds frame.notExhausted_start).bind fun place _ finds => ?_
  obtain ⟨rfl, _⟩ := finds
  have installed : Outcome start (install space page.addr place page.writable)
      (fun _ next => ∃ directory, next = start.setDirectory space directory) Never := .changeGet ⟨_, rfl⟩
  refine installed.always.bind fun result _ changed => ?_
  obtain ⟨directory, rfl⟩ := changed
  cases result with
  | error error => exact .ret (lodged.of_places rfl)
  | ok => exact .step (.ret ((settle_lodges lodged found away).of_places rfl))

theorem welcome_lodges {page : Page} {pin : Bool} (lodged : start.Lodged frames slots spaces [page.state])
    (away : page.isResident = false) : Outcome start (welcome space page frame pin).run
      (fun _ => Machine.Lodged frames slots spaces []) OtherThanExhausted := by
  have last : ∀ {now : Machine}, now.Lodged frames slots spaces [] → Outcome now
      (do if !pin then unpin frame space
          emit (.loaded space page.addr frame page.state)
          return some frame : Faulting (Option FrameNumber)).run
      (fun _ => Machine.Lodged frames slots spaces []) OtherThanExhausted := by
    intro now lodged
    split
    · exact .run_lift (unpin_lodges lodged) fun _ _ kept => .run_step (.ret (kept.of_places rfl))
    · exact .run_step (.ret (lodged.of_places rfl))
  unfold welcome
  dsimp only at last ⊢
  cases state : page.state with
  | resident => simp [Page.isResident, Page.frame?, state] at away
  | unloaded =>
    rw [state] at lodged last
    exact last (lodged.drop id)
  | swapped slot =>
    rw [state] at lodged last
    exact .run_lift (freeSlot_lodges lodged) fun _ _ kept => .run_step (last (kept.1.of_places rfl))

/-- However a load ends, its frame is in use for the page or free. -/
theorem conclude_lodges {load : Load} {pin : Bool} {outcome : Except FaultError Unit}
    (lodged : start.Lodged frames slots spaces [.resident load.frame])
    (found : (start.registry load.space).pages.get? load.page.addr = some load.page)
    (away : load.page.isResident = false) : Outcome start (conclude load pin outcome).run
      (fun _ => Machine.Lodged frames slots spaces []) OtherThanExhausted := by
  cases outcome with
  | error error =>
    refine .run_lift (free_lodges lodged) fun _ next ⟨kept, _⟩ => .run_look ?_
    split
    · exact .ret kept
    · exact .ret kept
  | ok =>
    refine .run_lift (attach_lodges lodged found away) fun result next kept => ?_
    split
    · exact .run_lift (free_lodges (by exact kept)) fun _ _ ⟨kept, _⟩ => .ret kept
    · exact .run_lift (free_lodges (by exact kept)) fun _ _ ⟨kept, _⟩ => .ret kept
    · exact welcome_lodges (by exact kept) away

theorem load_lodges {others : Interference} {page : Page} {pin : Bool}
    {pinned : List (VirtualAddress × FrameNumber)} (aloof : others.Aloof)
    (lodged : start.Lodged frames slots spaces [])
    (found : (start.registry space).pages.get? page.addr = some page) (away : page.isResident = false) :
    Outcome start (load others space page pin pinned).run (fun _ => Machine.Lodged frames slots spaces [])
      (Machine.Crowds frames slots) := by
  rw [load_eq]
  split
  · exact .ret lodged
  · refine .run_lift (allocate_lodges lodged) fun frame mid ⟨stays, left⟩ => ?_
    have reads : Outcome mid (populate others ⟨space, page, frame, pinned⟩).run
        (fun _ next => next.places = mid.places) OtherThanExhausted := populate_places aloof _ mid
    refine .run_lift reads.otherThanExhausted fun outcome next same =>
      (conclude_lodges (left.of_places same) ?_ away).otherThanExhausted
    have registry : next.registry = mid.registry := congrArg (·.2.2.2) same
    rw [registry]
    exact stays found away

end Kernel

end DemandPaging
