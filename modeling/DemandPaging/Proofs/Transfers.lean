import DemandPaging.Proofs.Populating
import DemandPaging.Proofs.Resolutions
import DemandPaging.Proofs.Unregistering
import DemandPaging.Proofs.Watches
import Mathlib.Algebra.BigOperators.Group.List.Basic
import Mathlib.Algebra.GroupWithZero.Nat

/-! What the swap device has transferred, as told by the counters of the memory manager. Every page that went
to swap is in its slot, was read back once, or was given up there. -/
namespace DemandPaging
open Architecture (Lawful AccessedBits)

/-! What writing a page counts. -/

namespace SwapStore
variable {swap after : SwapStore} {slot : SwapSlot}

theorem write_counted [Geometry] {page : Bytes} (done : swap.write page = (.ok slot, after)) :
    after.disk.writes = swap.disk.writes + sectorsPerSlot swap.disk.sectorSize ∧
      after.disk.reads = swap.disk.reads := by
  have writing := swap.writing_write page
  rw [done] at writing
  cases writing with
  | stored _ _ _ _ sent =>
    refine ⟨?_, sent.reads⟩
    rw [sent.counted rfl, swap.length_layout]

theorem used_succ (vacant : swap.isOccupied slot = false) (marks : ∀ other,
    after.isOccupied other = if other = slot then true else swap.isOccupied other) :
    after.used = swap.used + 1 := by
  have perm : after.inUse.Perm (slot :: swap.inUse) := by
    refine (List.perm_ext_iff_of_nodup after.nodup_inUse ?_).2 fun other => ?_
    · refine List.nodup_cons.2 ⟨fun member => ?_, swap.nodup_inUse⟩
      rw [mem_inUse, vacant] at member
      cases member
    · rw [mem_inUse, List.mem_cons, mem_inUse, marks]
      by_cases same : other = slot <;> simp [same]
  rw [used_eq, perm.length_eq, List.length_cons, ← used_eq]

theorem used_free (used : swap.isOccupied slot = true) : swap.used = (swap.free slot).2.used + 1 := by
  refine used_succ (by rw [isOccupied_free, if_pos rfl]) fun other => ?_
  rw [isOccupied_free]
  split
  · rename_i same
    rw [same, used]
  · rfl

end SwapStore

section
variable [Architecture]

/-! Making room. -/

/-- What making room does to the books: nothing where a frame was free; else a page was dropped, or written
to a slot. -/
inductive Machine.MakesRoom (start next : Machine) : Prop
  | spare (books : next.books = start.books)
  | dropped (books : next.books = (start.swap, start.books.2.reclaimed .unloaded))
  | saved {bytes : Bytes} {slot : SwapSlot} {swap : SwapStore}
      (written : start.swap.write bytes = (.ok slot, swap))
      (books : next.books = (swap, start.books.2.reclaimed (.swapped slot)))

/-- What was done before and after has left the books alone. -/
theorem Machine.MakesRoom.amid {start mid last next : Machine} (room : mid.MakesRoom last)
    (before : mid.books = start.books) (after : next.books = last.books) : start.MakesRoom next := by
  have swap : mid.swap = start.swap := congrArg Prod.fst before
  have stats : mid.books.2 = start.books.2 := congrArg Prod.snd before
  cases room with
  | spare same => exact .spare (after.trans (same.trans before))
  | dropped books =>
    rw [swap, stats] at books
    exact .dropped (after.trans books)
  | saved written books =>
    rw [swap] at written
    rw [stats] at books
    exact .saved written (after.trans books)

namespace Kernel
variable {start next : Machine}

theorem evict_room {index : Nat} (sound : ∀ space, (start.registry space).Sound)
    (ended : evict start = .ok index next) : start.MakesRoom next := by
  obtain ⟨_, _, _, state, reclaims⟩ := reclaims_of_evict sound ended
  obtain ⟨now, same, _, saves⟩ := reclaims.saves
  have books : next.books = (next.swap, start.books.2.reclaimed state) := by
    rw [Machine.books, reclaims.stats]
    cases state <;> rfl
  generalize next.swap = swap at saves books
  cases saves with
  | discard =>
    rw [same] at books
    exact .dropped books
  | save read written =>
    rw [same] at written
    exact .saved written books

theorem allocate_room {owner : SpaceId} {zeroed : Bool} {frame : FrameNumber}
    (sound : ∀ space, (start.registry space).Sound)
    (ended : allocate owner zeroed start = .ok frame next) : start.MakesRoom next := by
  obtain ⟨index, mid, memory, finds, _, rfl, _⟩ := allocate_ok ended
  cases finds with
  | free => exact .spare rfl
  | evicted evicted => exact (evict_room sound evicted).amid rfl rfl

end Kernel

/-! The accounts. -/

/-- The transfers of the device since `first`, and the slots in use, as they should be if `gone` pages were
unregistered while they were in swap. -/
structure Machine.Accounts (first : Machine) (gone : Nat) (machine : Machine) : Prop where
  sectorSize : machine.swap.disk.sectorSize = first.swap.disk.sectorSize
  writes : machine.swap.disk.writes = first.swap.disk.writes +
    SwapStore.sectorsPerSlot first.swap.disk.sectorSize * machine.stats.swapWrites
  reads : machine.swap.disk.reads = first.swap.disk.reads +
    SwapStore.sectorsPerSlot first.swap.disk.sectorSize * machine.stats.swapReads
  slots : machine.stats.swapWrites = machine.swap.used + machine.stats.swapReads + gone

namespace Machine.Accounts
variable {first machine after : Machine} {gone : Nat}

theorem of_books (accounts : first.Accounts gone machine) (same : after.books = machine.books) :
    first.Accounts gone after := by
  have swap : after.swap = machine.swap := congrArg Prod.fst same
  have writes : after.stats.swapWrites = machine.stats.swapWrites := congrArg (·.2.swapWrites) same
  have reads : after.stats.swapReads = machine.stats.swapReads := congrArg (·.2.swapReads) same
  exact ⟨by rw [swap, accounts.sectorSize], by rw [swap, writes, accounts.writes],
    by rw [swap, reads, accounts.reads], by rw [swap, writes, reads, accounts.slots]⟩

/-- Making room adds a slot where it adds a page that was written to swap. -/
theorem room (accounts : first.Accounts gone machine) (positive : 0 < machine.swap.disk.sectorSize)
    (room : machine.MakesRoom after) : first.Accounts gone after := by
  cases room with
  | spare same => exact accounts.of_books same
  | dropped books =>
    have swap : after.swap = machine.swap := congrArg Prod.fst books
    have writes : after.stats.swapWrites = machine.stats.swapWrites := congrArg (·.2.swapWrites) books
    have reads : after.stats.swapReads = machine.stats.swapReads := congrArg (·.2.swapReads) books
    exact ⟨by rw [swap, accounts.sectorSize], by rw [swap, writes, accounts.writes],
      by rw [swap, reads, accounts.reads], by rw [swap, writes, reads, accounts.slots]⟩
  | @saved bytes slot swap written books =>
    have swap : after.swap = swap := congrArg Prod.fst books
    have writes : after.stats.swapWrites = machine.stats.swapWrites + 1 :=
      congrArg (·.2.swapWrites) books
    have reads : after.stats.swapReads = machine.stats.swapReads := congrArg (·.2.swapReads) books
    have wrote := SwapStore.write_wrote positive written
    have used := SwapStore.used_succ wrote.vacant wrote.occupied
    obtain ⟨counted, unread⟩ := SwapStore.write_counted written
    subst swap
    constructor
    · rw [wrote.size, accounts.sectorSize]
    · rw [counted, accounts.writes, accounts.sectorSize, writes, Nat.mul_add, Nat.mul_one, Nat.add_assoc]
    · rw [unread, accounts.reads, reads]
    · rw [used, writes, reads, accounts.slots]
      omega

end Machine.Accounts

/-! What is given up in swap. -/

/-- How many pages of a registry were in swap and are not registered in another. -/
def Registry.forsaken (before after : Registry) : Nat :=
  before.pages.values.countP fun page => page.slot?.isSome && (after.pages.get? page.addr).isNone

/-- How many pages of a machine were in swap and are registered no more. -/
def Machine.forsaken (machine after : Machine) : Nat :=
  ((List.range machine.spaces.length).map fun space =>
    (machine.registry space).forsaken (after.registry space)).sum

/-- The pages that are left and those that were given up are all that were in swap. -/
theorem Registry.Sound.saved_forsaken {before after : Registry} (sound : before.Sound)
    (kept : after.Sound) (left : ∀ addr page, after.pages.get? addr = some page →
      before.pages.get? addr = some page) :
    (after.pages.values.filter (·.slot?.isSome)).length + before.forsaken after =
      (before.pages.values.filter (·.slot?.isSome)).length := by
  have perm : (after.pages.values.filter (·.slot?.isSome)).Perm
      ((before.pages.values.filter (·.slot?.isSome)).filter fun page =>
        (after.pages.get? page.addr).isSome) := by
    refine (List.perm_ext_iff_of_nodup (kept.nodup_values.of_map.filter _)
      ((sound.nodup_values.of_map.filter _).filter _)).2 fun page => ?_
    simp only [List.mem_filter, kept.mem_values, sound.mem_values]
    constructor
    · rintro ⟨found, saved⟩
      exact ⟨⟨left _ _ found, saved⟩, by rw [found]; rfl⟩
    · rintro ⟨⟨found, saved⟩, still⟩
      obtain ⟨other, here⟩ := Option.isSome_iff_exists.1 still
      have same := left _ _ here
      rw [found] at same
      cases same
      exact ⟨here, saved⟩
  have rest : before.forsaken after = (before.pages.values.filter (·.slot?.isSome)).countP
      fun page => ¬(after.pages.get? page.addr).isSome := by
    rw [forsaken, List.countP_filter]
    exact List.countP_congr fun page _ => by simp [and_comm]
  rw [perm.length_eq, rest, ← List.countP_eq_length_filter]
  exact (List.length_eq_countP_add_countP _).symm

theorem Machine.forsaken_eq_zero {machine after : Machine}
    (sound : ∀ space, (machine.registry space).Sound)
    (stays : ∀ {space addr slot}, machine.Swapped space addr slot →
      ((after.registry space).pages.get? addr).isSome = true) : machine.forsaken after = 0 := by
  refine List.sum_eq_zero fun count listed => ?_
  obtain ⟨space, _, rfl⟩ := List.mem_map.1 listed
  refine List.countP_eq_zero.2 fun page member => ?_
  have found := (sound space).mem_values.1 member
  cases saved : page.slot? with
  | none => simp
  | some slot =>
    have still := stays ⟨page, found, Page.slot?_eq_some.1 saved⟩
    rw [Option.isSome_iff_ne_none] at still
    simp [still]

variable [Lawful]

theorem LeftToManager.used_forsaken {machine next : Machine} {ledger last : Ledger}
    (trusted : LeftToManager ⟨ledger, machine⟩) (tidied : LeftToManager ⟨last, next⟩)
    (spaces : next.spaces.length = machine.spaces.length)
    (left : ∀ space addr page, (next.registry space).pages.get? addr = some page →
      (machine.registry space).pages.get? addr = some page) :
    next.swap.used + machine.forsaken next = machine.swap.used := by
  rw [tidied.owned.used, trusted.owned.used, Machine.swappedPages, Machine.swappedPages, Machine.forsaken,
    List.length_flatMap, List.length_flatMap, spaces, ← List.sum_map_add]
  refine congrArg List.sum (List.map_congr_left fun space _ => ?_)
  exact (trusted.sound space).saved_forsaken (tidied.sound space) (left space)

/-- Pages that were in swap and are registered no more are accounted for. -/
theorem Machine.Accounts.forsake {first machine next : Machine} {gone : Nat}
    (accounts : first.Accounts gone machine) (trusted : LeftToManager ⟨{}, machine⟩)
    (tidied : LeftToManager ⟨{}, next⟩) (disk : next.swap.disk = machine.swap.disk)
    (stats : next.stats = machine.stats) (spaces : next.spaces.length = machine.spaces.length)
    (left : ∀ space addr page, (next.registry space).pages.get? addr = some page →
      (machine.registry space).pages.get? addr = some page) :
    first.Accounts (gone + machine.forsaken next) next := by
  have used := trusted.used_forsaken tidied spaces left
  refine ⟨by rw [disk, accounts.sectorSize], by rw [disk, stats, accounts.writes],
    by rw [disk, stats, accounts.reads], ?_⟩
  rw [stats, accounts.slots]
  omega

omit [Lawful] in
/-- What is left of the pages when some were unregistered was there before. -/
theorem Machine.Unregistered.left {machine next : Machine} {space : SpaceId} {gone : List Page}
    (unregistered : machine.Unregistered space gone next) :
    next.spaces.length = machine.spaces.length ∧ ∀ other addr page,
      (next.registry other).pages.get? addr = some page →
        (machine.registry other).pages.get? addr = some page := by
  obtain ⟨pool, swap, directories, log, same⟩ := unregistered.vacated.others
  have spaces : next.spaces = (machine.setRegistry space (next.registry space)).spaces := by
    rw [congrArg Machine.spaces same]
  refine ⟨by rw [spaces, Machine.length_setRegistry], fun other addr page found => ?_⟩
  by_cases here : space = other
  · subst here
    rw [unregistered.pages] at found
    split at found
    · cases found
    · exact found
  · have elsewhere : next.registry other = machine.registry other := by
      rw [Machine.registry, Machine.space, spaces]
      exact Machine.registry_setRegistry_of_ne _ _ here
    rwa [elsewhere] at found

end

end DemandPaging
