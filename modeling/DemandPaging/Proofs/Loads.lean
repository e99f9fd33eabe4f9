import DemandPaging.Kernel.Load
import DemandPaging.Proofs.Evictions

/-! Loads as moves: a frame is taken, the contents of the page arrive in it, and the load ends well or
is given up. Where a load reads, other parties have their turn. -/
namespace DemandPaging
open Architecture (Lawful)

theorem BackingFile.readAt_eq (file : BackingFile) (offset length : Nat) :
    (file.readAt offset length).2.contents = file.contents ∧
      ∀ bytes, (file.readAt offset length).1 = .ok bytes →
        bytes = file.contents.slice offset length := by
  unfold readAt
  split
  · exact ⟨rfl, fun bytes same => (Except.ok.inj same).symm⟩
  · exact ⟨rfl, fun _ ended => by cases ended⟩
  · exact ⟨rfl, fun _ ended => by cases ended⟩

variable [Architecture]

/-- A page that is not in swap is loaded as it was the first time. -/
theorem Machine.supply_of_unsaved {machine : Machine} {page : Page}
    (unsaved : ∀ slot, page.state ≠ .swapped slot) : machine.supply page = machine.initial page := by
  unfold supply
  split
  · rename_i slot state
    exact absurd state (unsaved slot)
  · rfl

variable [Lawful]

/-- What other parties do in their turns are moves as well while `loads` are under way, and the two
accounts of it agree wherever a computation can be. -/
structure Mannered (scope : Scope) (loads : List Load) (others variant : Interference) : Prop where
  file : ∀ {now : Moment} {load} (file : FileId), now.ledger.loads = load :: loads →
    now.ledger.Balanced → Follows scope now (others.beforeFileRead load file) (variant.beforeFileRead load file)
      fun _ next => next.ledger = now.ledger
  sector : ∀ {now : Moment} {load : Option Load}, now.ledger.loads = load.toList ++ loads →
    now.ledger.Balanced → Follows scope now (others.beforeSectorRead load) (variant.beforeSectorRead load)
      fun _ next => next.ledger = now.ledger

/-- The moves that a call makes while `loads` are under way are allowed, those of other parties
included. -/
structure Tame (scope : Scope) (loads : List Load) (others variant : Interference) : Prop extends
    Mannered scope loads others variant where
  patience : others.patience = variant.patience
  grow : ∀ space addr, scope.may (.grow loads space addr)
  settle : scope.may (.settle loads)

variable {scope : Scope}

/-- The frame at `index` is found for someone: it was free, or the clock has reclaimed it. -/
inductive Machine.Finds (start : Machine) (index : Nat) : Machine → Prop
  | free {rest} (taken : start.pool.takeFree? = some (index, rest)) :
      start.Finds index { start with pool := rest }
  | evicted {mid} (ended : Kernel.evict start = .ok index mid) (spent : start.pool.takeFree? = none) :
      start.Finds index mid

namespace Kernel

/-- A load takes the frame that was freed for it. -/
theorem take_moves {start : Moment} (load : Load) {index : Nat} {mid : Machine}
    (frees : Frees scope start index mid) (present : load.space < mid.spaces.length)
    (current : (start.machine.registry load.space).pages.get? load.page.addr = some load.page)
    (away : load.page.isResident = false) (classified : load.page.backing ≠ .unclassified)
    (located : (mid.pool.assign index load.space).frameAt index = .ok load.frame) :
    Path scope.may start ⟨{ start.ledger with flights := ⟨load, 0⟩ :: start.ledger.flights },
      { mid with pool := mid.pool.assign index load.space }⟩ := by
  obtain ⟨pool, path, taken⟩ := frees.moves
  have base : mid.pool.base = pool.base := by
    obtain ⟨_, _, same⟩ := FramePool.takeFree?_eq taken
    rw [same]
  have named : load.frame = pool.number index := by
    rw [FramePool.frameAt_ok located, FramePool.number, FramePool.number, ← base]
    rfl
  have kept := frees.keeps current away
  have move : Move .quiet ⟨start.ledger, { mid with pool }⟩ _ :=
    .take present kept away classified taken named
  exact path.trans (.of_move scope.quiet move)

omit [Lawful] in
/-- Allocating assigns a frame that was found, and may clear it. -/
theorem allocate_ok {owner : SpaceId} {zeroed : Bool} {frame : FrameNumber} {start next : Machine}
    (ended : allocate owner zeroed start = .ok frame next) :
    ∃ index mid memory, start.Finds index mid ∧ (mid.pool.assign index owner).frameAt index = .ok frame ∧
      next = { mid with pool := mid.pool.assign index owner, memory } ∧
      (zeroed = false → memory = mid.memory) := by
  -- Clearing comes last.
  have last : ∀ {index mid there}, start.Finds index mid →
      (mid.pool.assign index owner).frameAt index = .ok there →
      (if zeroed = true then do
          writeFrame there 0 (List.replicate pageSize 0)
          return there
        else return there : Kernel FrameNumber) { mid with pool := mid.pool.assign index owner } =
        .ok frame next →
      ∃ index mid memory, start.Finds index mid ∧ (mid.pool.assign index owner).frameAt index = .ok frame ∧
        next = { mid with pool := mid.pool.assign index owner, memory } ∧
        (zeroed = false → memory = mid.memory) := by
    intro index mid there finds located ended
    cases zeroed with
    | false =>
      simp only [Bool.false_eq_true, if_false, pure_ok] at ended
      obtain ⟨rfl, rfl⟩ := ended
      exact ⟨index, mid, _, finds, located, rfl, fun _ => rfl⟩
    | true =>
      simp only [if_true, bind_ok, writeFrame_ok, pure_ok] at ended
      obtain ⟨_, _, ⟨memory, _, rfl⟩, rfl, rfl⟩ := ended
      exact ⟨index, mid, memory, finds, located, rfl, fun cleared => by cases cleared⟩
  simp only [allocate, bind_ok, get_ok] at ended
  obtain ⟨_, _, ⟨rfl, rfl⟩, ended⟩ := ended
  cases taken : start.pool.takeFree? with
  | none =>
    simp only [taken, bind_ok, modifyPool_ok, get_ok, orStop_ok] at ended
    obtain ⟨index, mid, evicted, _, _, rfl, _, _, ⟨rfl, rfl⟩, _, _, ⟨located, rfl⟩, ended⟩ := ended
    exact last (.evicted evicted taken) located ended
  | some free =>
    obtain ⟨index, rest⟩ := free
    simp only [taken, bind_ok, modifyPool_ok, get_ok, orStop_ok, pure_ok] at ended
    obtain ⟨_, _, rfl, _, _, ⟨rfl, rfl⟩, _, _, rfl, _, _, ⟨rfl, rfl⟩, _, _, ⟨located, rfl⟩, ended⟩ :=
      ended
    exact last (.free taken) located ended

theorem allocate_frees {start : Moment} {owner : SpaceId} {zeroed : Bool} {frame : FrameNumber}
    {next : Machine} (ready : scope.Ready start)
    (ended : allocate owner zeroed start.machine = .ok frame next) :
    ∃ index mid memory, Frees scope start index mid ∧
      (mid.pool.assign index owner).frameAt index = .ok frame ∧
      next = { mid with pool := mid.pool.assign index owner, memory } ∧
      (zeroed = false → memory = mid.memory) := by
  obtain ⟨index, mid, memory, finds, rest⟩ := allocate_ok ended
  refine ⟨index, mid, memory, ?_, rest⟩
  cases finds with
  | free taken => exact ⟨⟨start.machine.pool, .refl start, taken⟩, fun found _ => found⟩
  | evicted evicted => exact evict_frees ready evicted

/-- Allocating is one move, once a frame is free: a load takes its frame. -/
theorem allocate_follows {start : Moment} {owner : SpaceId} {page : Page}
    (present : owner < scope.spaces)
    (current : (start.machine.registry owner).pages.get? page.addr = some page)
    (away : page.isResident = false) (classified : page.backing ≠ .unclassified)
    (pinned : List (VirtualAddress × FrameNumber)) :
    Follows scope start (allocate owner false) (allocate owner false) fun frame now =>
      now.ledger = { start.ledger with
        flights := ⟨⟨owner, page, frame, pinned⟩, 0⟩ :: start.ledger.flights } ∧
      start.machine.KeepsAway now.machine := by
  refine .of_ok fun ready frame next ended => ?_
  obtain ⟨index, mid, memory, frees, located, rfl, kept⟩ := allocate_frees ready ended
  cases kept rfl
  obtain ⟨pool, path, _⟩ := frees.moves
  have known := Nat.lt_of_lt_of_le present (ready.path path).known
  exact ⟨_, take_moves ⟨owner, page, frame, pinned⟩ frees known current away classified located, rfl,
    frees.keeps⟩

variable {start : Moment} {flights : List Flight} {pins : Multiset Pin}
  {load : Load} {others variant : Interference}
  {loads : List Load}

/-- Bytes arrive in the frame of the load. -/
theorem fill_follows {arrived now offset : Nat} {bytes : Bytes}
    (ledger : start.ledger = ⟨⟨load, arrived⟩ :: flights, pins⟩)
    (progress : now = 0 ∨ (offset = arrived ∧ now = offset + bytes.length ∧
      bytes = (start.machine.supply load.page).slice offset bytes.length)) :
    Follows scope start (writeFrame load.frame offset bytes) (writeFrame load.frame offset bytes)
      fun _ next => next.ledger = ⟨⟨load, now⟩ :: flights, pins⟩ ∧
        next.machine.files = start.machine.files := by
  obtain ⟨_, machine⟩ := start
  cases ledger
  refine .of_ok fun _ _ _ ended => ?_
  obtain ⟨memory, written, rfl⟩ := writeFrame_ok.1 ended
  exact ⟨_, .of_move scope.quiet (.fill written progress), rfl, rfl⟩

theorem readSector_follows (mannered : Mannered scope loads others variant) {load : Option Load}
    {sector length : Nat} (under : start.ledger.loads = load.toList ++ loads)
    (balanced : start.ledger.Balanced) :
    Follows scope start (readSector others load sector length)
      (readSector variant load sector length) fun result now => now.ledger = start.ledger ∧
        ∀ bytes, result = .ok bytes → bytes = now.machine.swap.disk.part sector length := by
  refine (mannered.sector under balanced).bind fun _ now same => .of_ok fun _ result next ended => ?_
  obtain ⟨rfl, rfl⟩ := modifyGet_ok.1 ended
  obtain ⟨reads, readsLeft, writesLeft, disk, brought⟩ := now.machine.swap.disk.readPart_eq sector length
  have idle := now.machine.idle_disk reads readsLeft writesLeft
  rw [← disk] at idle
  refine ⟨now.ledger, .of_move scope.quiet (.idle idle), same, fun bytes read => ?_⟩
  rw [brought bytes read]
  change _ = Disk.part (now.machine.swap.disk.readPart sector length).2 sector length
  rw [disk]
  rfl

def loadChunk (others : Interference) (load : Load) (chunk : Chunk) :
    Kernel (Except BlockError Unit) := do
  match ← readSector others load chunk.sector chunk.length with
  | .error error => return .error error
  | .ok bytes =>
      writeFrame load.frame chunk.offset bytes
      return .ok ()

theorem loadChunk_follows (mannered : Mannered scope loads others variant) {slot : SwapSlot} {chunk : Chunk}
    {arrived : Nat} (state : load.page.state = .swapped slot)
    (ledger : start.ledger = ⟨⟨load, arrived⟩ :: flights, pins⟩)
    (under : flights.map (·.load) = loads)
    (balanced : pins = ((load :: loads).map Load.pins).sum) (listed : chunk ∈ start.machine.swap.layout slot)
    (next : chunk.offset = arrived) :
    Follows scope start (loadChunk others load chunk) (loadChunk variant load chunk)
      fun result now => ∃ progress, now.ledger = ⟨⟨load, progress⟩ :: flights, pins⟩ ∧
        (result = .ok () → progress = arrived + chunk.length) := by
  have loads_eq : start.ledger.loads = (some load).toList ++ loads := by
    rw [ledger, ← under]
    rfl
  have even : start.ledger.Balanced := by
    unfold Ledger.Balanced
    rw [loads_eq, ledger]
    exact balanced
  refine .of_ready fun ready => (readSector_follows mannered loads_eq even).along.bind
    fun result now ⟨⟨same, brought⟩, path⟩ => ?_
  cases result with
  | error error => exact .ret ⟨arrived, same.trans ledger, fun ended => by cases ended⟩
  | ok bytes =>
    have size := path.sectorSize
    have sectors := (ready.path path).sectors
    have listed : chunk ∈ now.machine.swap.layout slot := by
      rw [SwapStore.layout_congr size]
      exact listed
    have bytes_eq := brought bytes rfl
    have length : bytes.length = chunk.length := by
      rw [bytes_eq, Disk.length_part (SwapStore.layout_fits listed)]
    have supply : bytes = (now.machine.supply load.page).slice chunk.offset bytes.length := by
      rw [length, Machine.supply, state, bytes_eq]
      exact (SwapStore.slice_contents _ slot sectors listed).symm
    refine (fill_follows (same.trans ledger) (.inr ⟨next, rfl, supply⟩)).bind fun _ _ ⟨done, _⟩ => ?_
    exact .ret ⟨_, done, fun _ => by rw [next, length]⟩

theorem loadChunks_follows (mannered : Mannered scope loads others variant) {slot : SwapSlot}
    {chunks : List Chunk} {arrived stop : Nat} (state : load.page.state = .swapped slot)
    (ledger : start.ledger = ⟨⟨load, arrived⟩ :: flights, pins⟩)
    (under : flights.map (·.load) = loads)
    (balanced : pins = ((load :: loads).map Load.pins).sum)
    (listed : ∀ chunk ∈ chunks, chunk ∈ start.machine.swap.layout slot)
    (chain : Chain arrived chunks stop) :
    Follows scope start (transferChunks (loadChunk others load) chunks)
      (transferChunks (loadChunk variant load) chunks) fun result now =>
        ∃ progress, now.ledger = ⟨⟨load, progress⟩ :: flights, pins⟩ ∧
          (result = .ok () → progress = stop) := by
  induction chunks generalizing start arrived with
  | nil => exact .ret ⟨arrived, ledger, fun _ => chain⟩
  | cons chunk rest ih =>
    unfold transferChunks
    refine .of_ready fun ready => (loadChunk_follows mannered state ledger under balanced
      (listed chunk List.mem_cons_self) chain.1).along.bind fun result now loaded => ?_
    obtain ⟨⟨progress, same, done⟩, path⟩ := loaded
    cases result with
    | error error => exact .ret ⟨progress, same, fun ended => by cases ended⟩
    | ok =>
      have chain := chain.2
      rw [← done rfl] at chain
      refine ih same (fun chunk member => ?_) chain
      rw [SwapStore.layout_congr path.sectorSize]
      exact listed chunk (List.mem_cons_of_mem _ member)

theorem readSlot_follows (mannered : Mannered scope loads others variant) {slot : SwapSlot}
    (state : load.page.state = .swapped slot)
    (ledger : start.ledger = ⟨⟨load, 0⟩ :: flights, pins⟩)
    (under : flights.map (·.load) = loads)
    (balanced : pins = ((load :: loads).map Load.pins).sum) :
    Follows scope start
      (readSlot others (some load) slot pageSize (writeFrame load.frame) : Kernel _)
      (readSlot variant (some load) slot pageSize (writeFrame load.frame) : Kernel _) fun result now =>
        ∃ progress, now.ledger = ⟨⟨load, progress⟩ :: flights, pins⟩ ∧
          (result = .ok () → progress = pageSize) := by
  refine .of_ready fun ready => .look ?_
  dsimp only
  cases start.machine.swap.readable slot pageSize with
  | error error => exact .ret ⟨0, ledger, fun ended => by cases ended⟩
  | ok =>
    change Follows scope start (transferChunks (loadChunk others load) _ >>= _)
      (transferChunks (loadChunk variant load) _ >>= _) _
    refine (loadChunks_follows mannered state ledger under balanced (fun _ member => member)
      (start.machine.swap.chain_layout slot ready.sectors)).bind fun result now ⟨progress, same, done⟩ => ?_
    cases result with
    | error error => exact .ret ⟨progress, same, fun ended => by cases ended⟩
    | ok => exact .ret ⟨progress, same, fun _ => done rfl⟩

theorem fillZeros_follows {segment : FileSegment} (unsaved : ∀ slot, load.page.state ≠ .swapped slot)
    (backing : load.page.backing = .file segment) (fits : segment.readBytes ≤ pageSize)
    (ledger : start.ledger = ⟨⟨load, segment.readBytes⟩ :: flights, pins⟩)
    (whole : ((start.machine.file segment.file).contents.slice segment.offset
      segment.readBytes).length = segment.readBytes) :
    Follows scope start
      (writeFrame load.frame segment.readBytes (List.replicate segment.zeroBytes 0))
      (writeFrame load.frame segment.readBytes (List.replicate segment.zeroBytes 0))
      fun _ now => now.ledger = ⟨⟨load, pageSize⟩ :: flights, pins⟩ := by
  have all : segment.readBytes + segment.zeroBytes = pageSize := by
    unfold FileSegment.zeroBytes
    omega
  refine (fill_follows ledger (.inr ⟨rfl, ?_, ?_⟩)).imp fun _ _ done => done.1
  · rw [List.length_replicate, all]
  · rw [Machine.supply_of_unsaved unsaved, Machine.initial, backing]
    dsimp only
    rw [Bytes.slice, List.drop_left' whole, List.take_length]

theorem fillFromFile_follows (mannered : Mannered scope loads others variant) {segment : FileSegment}
    (unsaved : ∀ slot, load.page.state ≠ .swapped slot)
    (backing : load.page.backing = .file segment) (fits : segment.readBytes ≤ pageSize)
    (ledger : start.ledger = ⟨⟨load, 0⟩ :: flights, pins⟩)
    (under : flights.map (·.load) = loads)
    (balanced : pins = ((load :: loads).map Load.pins).sum) :
    Follows scope start (fillFromFile others load segment).run (fillFromFile variant load segment).run
      fun result now => ∃ progress, now.ledger = ⟨⟨load, progress⟩ :: flights, pins⟩ ∧
        (result = .ok () → progress = pageSize) := by
  have loads_eq : start.ledger.loads = load :: loads := by
    rw [ledger, ← under]
    rfl
  have even : start.ledger.Balanced := by
    unfold Ledger.Balanced
    rw [loads_eq, ledger]
    exact balanced
  unfold fillFromFile
  dsimp only
  split
  · refine .run_lift (mannered.file segment.file loads_eq even) fun _ now same => .run_look ?_
    obtain ⟨contents, brought⟩ := (now.machine.file segment.file).readAt_eq segment.offset segment.readBytes
    refine .run_lift (.idle (now.machine.idle_file contents)) fun _ _ moved => ?_
    subst moved
    split
    · exact .run_fail ⟨0, same.trans ledger, fun ended => by cases ended⟩
    · rename_i bytes read
      have bytes_eq := brought bytes read
      have kept := now.machine.contents_setFile contents segment.file
      have supply : bytes = (Machine.supply (now.machine.setFile segment.file
          ((now.machine.file segment.file).readAt segment.offset segment.readBytes).2)
            load.page).slice 0 bytes.length := by
        rw [Machine.supply_of_unsaved unsaved, Machine.initial, backing]
        dsimp only
        rw [kept, ← bytes_eq, Bytes.slice, List.drop_zero, List.take_left]
      refine .run_lift (fill_follows (same.trans ledger) (.inr ⟨rfl, rfl, supply⟩))
        fun _ filled arrived => ?_
      obtain ⟨done, files⟩ := arrived
      split
      · exact .run_fail ⟨_, done, fun ended => by cases ended⟩
      · rename_i enough
        have enough := Decidable.not_not.1 enough
        refine .run_lift (.idle (filled.machine.idle_stats (by rfl))) fun _ _ moved => ?_
        subst moved
        have here : filled.ledger = ⟨⟨load, segment.readBytes⟩ :: flights, pins⟩ := by
          rw [done, enough, Nat.zero_add]
        refine .run_last (fillZeros_follows unsaved backing fits here ?_)
          fun _ _ done => ⟨_, done, fun _ => rfl⟩
        change List.length (Bytes.slice (filled.machine.file segment.file).contents _ _) = _
        rw [Machine.file, files]
        change List.length (Bytes.slice (Machine.file (Machine.setFile _ _ _) _).contents _ _) = _
        rw [kept, ← bytes_eq, enough]
  · rename_i empty
    have none_read : segment.readBytes = 0 := Nat.eq_zero_of_not_pos empty
    refine .run_last (fillZeros_follows unsaved backing fits (by rw [none_read]; exact ledger) ?_)
      fun _ now done => ⟨_, done, fun _ => rfl⟩
    rw [none_read]
    rfl

/-- The whole page is in the frame of the load, if its contents can be had. -/
theorem populate_follows (mannered : Mannered scope loads others variant)
    (away : load.page.isResident = false) (fits : load.page.backing.Fits)
    (ledger : start.ledger = ⟨⟨load, 0⟩ :: flights, pins⟩)
    (under : flights.map (·.load) = loads)
    (balanced : pins = ((load :: loads).map Load.pins).sum) :
    Follows scope start (populate others load).run (populate variant load).run fun result now =>
      ∃ progress, now.ledger = ⟨⟨load, progress⟩ :: flights, pins⟩ ∧
        (result = .ok () → progress = pageSize) := by
  have looked : Follows scope start (readFrame load.frame) (readFrame load.frame)
      fun _ now => start = now := .of_ok fun _ _ _ ended => by
    obtain ⟨_, rfl⟩ := readFrame_ok.1 ended
    exact ⟨_, .refl _, rfl⟩
  refine .run_lift looked fun _ _ unmoved => ?_
  subst unmoved
  cases state : load.page.state with
  | resident frame =>
    rw [Page.isResident, Page.frame?, state] at away
    cases away
  | swapped slot =>
    refine .run_lift (readSlot_follows mannered state ledger under balanced) fun result now read => ?_
    obtain ⟨progress, same, done⟩ := read
    cases result with
    | error error => exact .ret ⟨progress, same, fun ended => by cases ended⟩
    | ok =>
      refine .run_last (.idle (now.machine.idle_stats (by rfl))) fun _ _ moved => ?_
      subst moved
      exact ⟨progress, same, fun _ => done rfl⟩
  | unloaded =>
    have unsaved : ∀ slot, load.page.state ≠ .swapped slot := fun slot saved => by
      rw [state] at saved
      cases saved
    cases backing : load.page.backing with
    | unclassified => exact .ret ⟨0, ledger, fun ended => by cases ended⟩
    | zero =>
      have supply : List.replicate pageSize 0 = (start.machine.supply load.page).slice 0
          (List.replicate pageSize (0 : UInt8)).length := by
        rw [Machine.supply_of_unsaved unsaved, Machine.initial, backing, Bytes.slice, List.drop_zero,
          List.take_length]
      refine .run_last (fill_follows ledger (.inr ⟨rfl, rfl, supply⟩)) fun _ _ filled =>
        ⟨_, filled.1, fun _ => by rw [List.length_replicate, Nat.zero_add]⟩
    | file segment =>
      rw [backing] at fits
      exact fillFromFile_follows mannered unsaved backing fits ledger under balanced

end Kernel

end DemandPaging
