import DemandPaging.Swap
import Mathlib.Data.List.Basic

/-! Sectors of a disk as they are read and written in parts. A part shorter than a sector goes by way of a
buffer that takes the sector, so the disk never sees a buffer of another size. -/
namespace DemandPaging

namespace Disk
variable {disk after : Disk} {sector : Nat} {bytes : Bytes}

theorem length_contents (disk : Disk) (sector : Nat) : (disk.contents sector).length = disk.sectorSize := by
  simp only [contents, List.length_append, List.length_take, List.length_replicate]
  omega

def part (disk : Disk) (sector length : Nat) : Bytes := (disk.contents sector).take length

theorem length_part {length : Nat} (fits : length ≤ disk.sectorSize) (sector : Nat) :
    (disk.part sector length).length = length := by
  rw [part, List.length_take, length_contents, Nat.min_eq_left fits]

theorem part_congr (size : after.sectorSize = disk.sectorSize)
    (same : after.written.get? sector = disk.written.get? sector) (length : Nat) :
    after.part sector length = disk.part sector length := by
  rw [part, part, contents, contents, same, size]

theorem check_sectorSize (disk : Disk) (sector : Nat) : disk.check sector disk.sectorSize =
    if sector < disk.count then .ok () else .error (.outOfRange sector) := by
  rw [check, if_neg fun differ => differ rfl]

/-- Fetching a sector counts at most. -/
theorem fetch_eq (disk : Disk) (sector length : Nat) :
    ∃ reads, (disk.fetch sector length).2 = { disk with reads } := by
  unfold fetch
  split <;> exact ⟨_, rfl⟩

/-- How a sector is read: it comes through, the controller fails it, or the disk has no such sector. -/
inductive Reads (disk : Disk) (sector length : Nat) : Except BlockError Bytes → Disk → Prop
  | through (inside : sector < disk.count) {readsLeft : Option Nat}
      (unlimited : disk.readsLeft = none → readsLeft = none) :
      Reads disk sector length (.ok (disk.part sector length))
        { disk with reads := disk.reads + 1, readsLeft }
  | failed (spent : disk.readsLeft = some 0) : Reads disk sector length (.error .device) disk
  | beyond (outside : ¬sector < disk.count) (readsLeft : Option Nat) :
      Reads disk sector length (.error (.outOfRange sector)) { disk with readsLeft }

/-- A buffer of the size of a sector is refused only where there is no sector. -/
theorem fetch_sectorSize (disk : Disk) (sector : Nat) : disk.fetch sector disk.sectorSize =
    if sector < disk.count then (.ok (disk.contents sector), { disk with reads := disk.reads + 1 })
    else (.error (.outOfRange sector), disk) := by
  rw [fetch, check_sectorSize]
  by_cases inside : sector < disk.count
  · rw [if_pos inside, if_pos inside]
  · rw [if_neg inside, if_neg inside]

theorem reads_read (disk : Disk) (sector : Nat) :
    Reads disk sector disk.sectorSize (disk.read sector disk.sectorSize).1
      (disk.read sector disk.sectorSize).2 := by
  have whole : disk.contents sector = disk.part sector disk.sectorSize := by
    rw [part, List.take_of_length_le (Nat.le_of_eq (disk.length_contents sector))]
  unfold read
  split
  · rw [fetch_sectorSize]
    split
    · rename_i inside
      rw [whole]
      exact .through inside id
    · rename_i outside
      exact .beyond outside disk.readsLeft
  · rename_i spent
    exact .failed spent
  · rename_i left limited
    rw [fetch_sectorSize { disk with readsLeft := some left }]
    dsimp only
    split
    · rename_i inside
      have same : contents { disk with readsLeft := some left } sector = disk.contents sector := rfl
      rw [same, whole]
      exact .through inside fun unlimited => by
        rw [limited] at unlimited
        cases unlimited
    · rename_i outside
      exact .beyond outside _

/-- Whichever buffer it goes through, the first bytes of a sector arrive. -/
theorem reads_readPart (disk : Disk) (sector length : Nat) :
    Reads disk sector length (disk.readPart sector length).1 (disk.readPart sector length).2 := by
  have reads := disk.reads_read sector
  unfold readPart
  split
  · rename_i whole
    rw [whole]
    exact reads
  · generalize disk.read sector disk.sectorSize = step at reads ⊢
    obtain ⟨outcome, after⟩ := step
    cases reads with
    | through inside unlimited =>
      have bytes : (disk.part sector disk.sectorSize).take length = disk.part sector length := by
        rw [part, part, List.take_of_length_le (Nat.le_of_eq (disk.length_contents sector))]
      have through := @Reads.through disk sector length inside _ unlimited
      rw [← bytes] at through
      exact through
    | failed spent => exact .failed spent
    | beyond outside readsLeft => exact .beyond outside readsLeft

/-- Reading a part of a sector counts, and brings what the sector holds. -/
theorem readPart_eq (disk : Disk) (sector length : Nat) :
    ∃ reads readsLeft writesLeft,
      (disk.readPart sector length).2 = { disk with reads, readsLeft, writesLeft } ∧
      ∀ bytes, (disk.readPart sector length).1 = .ok bytes → bytes = disk.part sector length := by
  have reads := disk.reads_readPart sector length
  generalize disk.readPart sector length = step at reads
  obtain ⟨outcome, after⟩ := step
  cases reads with
  | through => exact ⟨_, _, _, rfl, fun bytes same => (Except.ok.inj same).symm⟩
  | failed => exact ⟨_, _, _, rfl, nofun⟩
  | beyond => exact ⟨_, _, _, rfl, nofun⟩

theorem store_shape {result} (done : disk.store sector bytes = (result, after)) :
    after.sectorSize = disk.sectorSize ∧ after.count = disk.count := by
  unfold store at done
  split at done <;> (cases done; exact ⟨rfl, rfl⟩)

/-- What a buffer holds that fills a sector and starts with `bytes`. -/
theorem padded_eq (disk : Disk) (bytes : Bytes) :
    disk.padded bytes = bytes ++ List.replicate (disk.sectorSize - bytes.length) 0 := by
  unfold padded
  split
  · rename_i whole
    rw [whole, Nat.sub_self, List.replicate_zero, List.append_nil]
  · rw [Bytes.patch, List.take_zero, List.nil_append, List.drop_replicate, Nat.zero_add]

theorem length_padded (fits : bytes.length ≤ disk.sectorSize) :
    (disk.padded bytes).length = disk.sectorSize := by
  rw [padded_eq, List.length_append, List.length_replicate]
  omega

/-- A sector that was sent bytes starts with them. -/
theorem part_of_padded {length : Nat} (fits : bytes.length ≤ disk.sectorSize)
    (size : after.sectorSize = disk.sectorSize)
    (written : after.written.get? sector = some (disk.padded bytes)) (exactly : bytes.length = length) :
    after.part sector length = bytes := by
  have full := length_padded fits
  rw [part, contents, written, Option.getD_some, size, full, Nat.sub_self, List.replicate_zero,
    List.append_nil, List.take_of_length_le (Nat.le_of_eq full), padded_eq, ← exactly, List.take_left]

/-- How bytes are sent to a sector: they reach it, the controller fails them, or the disk has no such
sector. What is written elsewhere stays in any case. -/
inductive Writes (disk : Disk) (sector : Nat) (bytes : Bytes) : Except BlockError Unit → Disk → Prop
  | through (inside : sector < disk.count) {writesLeft : Option Nat}
      (unlimited : disk.writesLeft = none → writesLeft = none) :
      Writes disk sector bytes (.ok ()) { disk with
        written := disk.written.insert sector (disk.padded bytes), writes := disk.writes + 1, writesLeft }
  | failed (spent : disk.writesLeft = some 0) : Writes disk sector bytes (.error .device) disk
  | beyond (outside : ¬sector < disk.count) (writesLeft : Option Nat) :
      Writes disk sector bytes (.error (.outOfRange sector)) { disk with writesLeft }

theorem store_sectorSize (full : bytes.length = disk.sectorSize) : disk.store sector bytes =
    if sector < disk.count then
      (.ok (), { disk with written := disk.written.insert sector bytes, writes := disk.writes + 1 })
    else (.error (.outOfRange sector), disk) := by
  rw [store, full, check_sectorSize]
  by_cases inside : sector < disk.count
  · rw [if_pos inside, if_pos inside]
  · rw [if_neg inside, if_neg inside]

theorem writes_writePart (fits : bytes.length ≤ disk.sectorSize) (sector : Nat) :
    Writes disk sector bytes (disk.writePart sector bytes).1 (disk.writePart sector bytes).2 := by
  have full := length_padded fits
  unfold writePart write
  split
  · rw [store_sectorSize full]
    split
    · rename_i inside
      exact .through inside id
    · rename_i outside
      exact .beyond outside disk.writesLeft
  · rename_i spent
    exact .failed spent
  · rename_i left limited
    rw [@store_sectorSize { disk with writesLeft := some left } sector _ full]
    dsimp only
    split
    · rename_i inside
      exact .through inside fun unlimited => by
        rw [limited] at unlimited
        cases unlimited
    · rename_i outside
      exact .beyond outside _

def writeChunk (page : Bytes) (chunk : Chunk) : StateM Disk (Except BlockError Unit) :=
  fun disk => disk.writePart chunk.sector (page.slice chunk.offset chunk.length)

theorem length_slice_le (page : Bytes) {chunk : Chunk} {size : Nat} (fits : chunk.length ≤ size) :
    (page.slice chunk.offset chunk.length).length ≤ size := by
  rw [Bytes.slice, List.length_take]
  exact Nat.le_trans (Nat.min_le_left _ _) fits

structure Sent (disk : Disk) (page : Bytes) (chunks : List Chunk) (result : Except BlockError Unit)
    (after : Disk) : Prop where
  size : after.sectorSize = disk.sectorSize
  count : after.count = disk.count
  written : result = .ok () → ∀ chunk ∈ chunks,
    after.written.get? chunk.sector = some (disk.padded (page.slice chunk.offset chunk.length))
  others : ∀ sector, (∀ chunk ∈ chunks, chunk.sector ≠ sector) →
    after.written.get? sector = disk.written.get? sector
  counted : result = .ok () → after.writes = disk.writes + chunks.length
  reads : after.reads = disk.reads
  readsLeft : after.readsLeft = disk.readsLeft
  /-- On sectors that there are, only the controller can fail. -/
  fails : ∀ error, result = .error error → (∀ chunk ∈ chunks, chunk.sector < disk.count) →
    error = .device ∧ disk.writesLeft ≠ none

/-- Chunks that share no sector reach the disk as they are, and no other sector is touched. -/
theorem transferChunks_write {page : Bytes} {chunks : List Chunk} {result}
    (apart : chunks.Pairwise fun a b => a.sector ≠ b.sector)
    (fit : ∀ chunk ∈ chunks, chunk.length ≤ disk.sectorSize)
    (done : transferChunks (writeChunk page) chunks disk = (result, after)) :
    Sent disk page chunks result after := by
  induction chunks generalizing disk with
  | nil =>
    cases done
    exact ⟨rfl, rfl, fun _ _ member => absurd member List.not_mem_nil, fun _ _ => rfl, fun _ => rfl, rfl, rfl,
      nofun⟩
  | cons chunk rest ih =>
    obtain ⟨differ, apart⟩ := List.pairwise_cons.1 apart
    have first := writes_writePart (length_slice_le page (fit chunk List.mem_cons_self)) chunk.sector
    simp only [transferChunks, bind, StateT.bind, writeChunk] at done
    generalize disk.writePart chunk.sector (page.slice chunk.offset chunk.length) = step at first done
    obtain ⟨outcome, mid⟩ := step
    cases first with
    | through inside unlimited =>
      have later := ih apart (by exact fun other member => fit other (List.mem_cons_of_mem _ member)) done
      refine ⟨later.size, later.count, fun success other member => ?_, fun sector outside => ?_,
        fun success => ?_, later.reads, later.readsLeft, fun error failed there => ?_⟩
      · rcases List.mem_cons.1 member with rfl | member
        · rw [later.others _ fun other member => (differ other member).symm]
          exact SortedMap.get?_insert_self _ _ _
        · exact later.written success other member
      · rw [later.others sector fun other member => outside other (List.mem_cons_of_mem _ member)]
        exact SortedMap.get?_insert_of_ne _ _ (outside chunk List.mem_cons_self)
      · rw [later.counted success, List.length_cons]
        dsimp only
        omega
      · obtain ⟨device, limited⟩ := later.fails error failed fun other member =>
          there other (List.mem_cons_of_mem _ member)
        exact ⟨device, fun none => limited (unlimited none)⟩
    | failed spent =>
      cases done
      refine ⟨rfl, rfl, nofun, fun _ _ => rfl, nofun, rfl, rfl, fun error failed _ => ?_⟩
      cases failed
      rw [spent]
      exact ⟨rfl, nofun⟩
    | beyond outside writesLeft =>
      cases done
      refine ⟨rfl, rfl, nofun, fun _ _ => rfl, nofun, rfl, rfl, fun error failed there => ?_⟩
      exact absurd (there chunk List.mem_cons_self) outside

end Disk

end DemandPaging
