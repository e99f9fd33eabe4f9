import DemandPaging.Memory
import DemandPaging.Proofs.Running

/-! The bytes of frames. What is written into one frame is read from it again, and from no other. -/
namespace DemandPaging

theorem Bytes.length_patch {buffer bytes : Bytes} {offset : Nat}
    (inside : offset + bytes.length ≤ buffer.length) :
    (buffer.patch offset bytes).length = buffer.length := by
  rw [patch, List.length_append, List.length_append, List.length_take, List.length_drop]
  omega

/-- Bytes that are written where others end lengthen those. -/
theorem Bytes.take_patch {buffer bytes : Bytes} {offset : Nat} (inside : offset ≤ buffer.length) :
    (buffer.patch offset bytes).take (offset + bytes.length) = buffer.take offset ++ bytes := by
  have before : (buffer.take offset).length = offset := List.length_take_of_le inside
  have both : (buffer.take offset ++ bytes).length = offset + bytes.length := by
    rw [List.length_append, before]
  rw [patch, ← List.append_assoc, List.take_left' both]

/-- A byte that is written over is a new one, and any other stays. -/
theorem Bytes.getElem?_patch {buffer bytes : Bytes} {offset : Nat} (inside : offset ≤ buffer.length)
    (place : Nat) : (buffer.patch offset bytes)[place]? =
      if offset ≤ place ∧ place < offset + bytes.length then bytes[place - offset]?
      else buffer[place]? := by
  have before : (buffer.take offset).length = offset := List.length_take_of_le inside
  unfold patch
  by_cases early : place < offset
  · rw [if_neg fun within => by omega, List.getElem?_append_left (by omega),
      List.getElem?_take_of_lt early]
  · rw [List.getElem?_append_right (by omega), before]
    by_cases within : place < offset + bytes.length
    · rw [if_pos ⟨by omega, within⟩, List.getElem?_append_left (by omega)]
    · rw [if_neg fun inside => within inside.2, List.getElem?_append_right (by omega),
        List.getElem?_drop]
      exact congrArg (buffer[·]?) (by omega)

theorem Bytes.length_le_patch (buffer : Bytes) (offset : Nat) (bytes : Bytes) :
    buffer.length ≤ (buffer.patch offset bytes).length := by
  rw [patch, List.length_append, List.length_append, List.length_take, List.length_drop]
  omega

/-- Bytes that are written where others end are written in one with those. -/
theorem Bytes.patch_patch {buffer bytes more : Bytes} {offset : Nat}
    (inside : offset + bytes.length ≤ buffer.length) :
    (buffer.patch offset bytes).patch (offset + bytes.length) more = buffer.patch offset (bytes ++ more) := by
  have long : offset + bytes.length ≤ (buffer.patch offset bytes).length := by
    rw [Bytes.length_patch inside]
    exact inside
  refine List.ext_getElem? fun place => ?_
  rw [Bytes.getElem?_patch long, Bytes.getElem?_patch (by omega), Bytes.getElem?_patch (by omega),
    List.length_append, List.getElem?_append]
  grind

theorem Bytes.take_append_slice (bytes : Bytes) (offset length : Nat) :
    bytes.take offset ++ bytes.slice offset length = bytes.take (offset + length) :=
  List.take_add.symm

variable [Geometry]

theorem FrameNumber.start_ok {frame : FrameNumber} {start : PhysicalAddress}
    (begins : frame.start = .ok start) : start = ⟨frame.value * pageSize⟩ := by
  unfold FrameNumber.start Word.mul PhysicalAddress.ofWord at begins
  split at begins
  · change (if _ then _ else _) = _ at begins
    split at begins
    · cases begins
      rfl
    · cases begins
  · cases begins

namespace Memory
variable {memory after : Memory} {frame other : FrameNumber}

theorem place_ok {place : Nat} (found : memory.place frame = .ok place) :
    frame.value = memory.first + place := by
  obtain ⟨start, begins, found⟩ := Fatal.bind_ok.1 found
  obtain ⟨_, located, found⟩ := Fatal.bind_ok.1 found
  cases found
  cases FrameNumber.start_ok begins
  unfold locate at located
  dsimp only at located
  split at located
  · rename_i inside
    cases located
    have page := pageSize_pos
    have less : memory.first ≤ frame.value := Nat.le_of_mul_le_mul_right inside.1 page
    dsimp only
    rw [← Nat.sub_mul, Nat.mul_div_cancel _ page]
    omega
  · cases located

theorem place_congr (first : after.first = memory.first) (size : after.size = memory.size)
    (frame : FrameNumber) : after.place frame = memory.place frame := by
  unfold place locate
  rw [first, size]

theorem read_ok {bytes : Bytes} :
    memory.read frame = .ok bytes ↔ ∃ place, memory.place frame = .ok place ∧
      bytes = memory.frame place := by
  constructor
  · intro read
    obtain ⟨place, found, read⟩ := Fatal.bind_ok.1 read
    cases read
    exact ⟨place, found, rfl⟩
  · rintro ⟨place, found, rfl⟩
    exact Fatal.bind_ok.2 ⟨place, found, rfl⟩

theorem write_ok {offset : Nat} {bytes : Bytes} :
    memory.write frame offset bytes = .ok after ↔ ∃ place, memory.place frame = .ok place ∧
      after = { memory with
        written := memory.written.insert place ((memory.frame place).patch offset bytes) } := by
  constructor
  · intro written
    obtain ⟨place, found, written⟩ := Fatal.bind_ok.1 written
    cases written
    exact ⟨place, found, rfl⟩
  · rintro ⟨place, found, rfl⟩
    exact Fatal.bind_ok.2 ⟨place, found, rfl⟩

/-- A frame holds what was written into it, and around that what it held before. -/
theorem read_write_self {offset : Nat} {bytes : Bytes}
    (written : memory.write frame offset bytes = .ok after) :
    ∃ held, memory.read frame = .ok held ∧ after.read frame = .ok (held.patch offset bytes) := by
  obtain ⟨place, found, rfl⟩ := write_ok.1 written
  refine ⟨memory.frame place, read_ok.2 ⟨place, found, rfl⟩, read_ok.2 ⟨place, found, ?_⟩⟩
  simp [Memory.frame]

/-- What is written into a frame leaves the others. -/
theorem read_write_of_ne {offset : Nat} {bytes : Bytes}
    (written : memory.write frame offset bytes = .ok after) (differ : other ≠ frame) :
    after.read other = memory.read other := by
  obtain ⟨place, found, rfl⟩ := write_ok.1 written
  have kept : Memory.place { memory with
      written := memory.written.insert place ((memory.frame place).patch offset bytes) } other =
        memory.place other := place_congr rfl rfl other
  unfold Memory.read
  rw [kept]
  cases there : memory.place other with
  | error => rfl
  | ok elsewhere =>
    have apart : place ≠ elsewhere := by
      rintro rfl
      have here := place_ok found
      have same := place_ok there
      exact differ (congrArg FrameNumber.mk (same.trans here.symm))
    refine congrArg Except.ok ?_
    unfold Memory.frame
    rw [SortedMap.get?_insert_of_ne _ _ apart]

end Memory

end DemandPaging
