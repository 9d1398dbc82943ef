import BthEmul.Foundation.Buffer

/-!
# Memory without bounds

A memory gives a value for every offset from some address on. Copies into it
and out of it always have a result, also where they leave the block they are
meant for, so that a program that leaves its block can be followed further. A
block inside a memory is changed by a copy that stays inside as the block
itself is.
-/

namespace Foundation
namespace FlatMemory

/-- Copy a list into the memory from `start` on. -/
def write (memory : Nat → α) (start : Nat) (source : List α) : Nat → α :=
  fun offset =>
    if offset < start then memory offset
    else (source[offset - start]?).getD (memory offset)

/-- Copy `count` values out of the memory from `start` on. -/
def read (memory : Nat → α) (start count : Nat) : List α :=
  (List.range' start count).map memory

@[simp] theorem length_read (memory : Nat → α) (start count : Nat) :
    (read memory start count).length = count := by
  rw [read, List.length_map, List.length_range']

@[simp] theorem write_nil (memory : Nat → α) (start : Nat) :
    write memory start [] = memory := by
  funext offset
  simp [write]

/-- A copy out of a memory depends on what is copied only. -/
theorem read_congr
    {memory other : Nat → α}
    (agree : ∀ offset, start ≤ offset → offset < start + count →
      memory offset = other offset) :
    read memory start count = read other start count := by
  apply List.map_congr_left
  intro offset member
  obtain ⟨low, high⟩ := List.mem_range'_1.mp member
  exact agree offset low high

/-- What was copied to the start of a memory does not depend on what was there
before. -/
theorem write_zero_congr
    (memory other : Nat → α)
    (inside : offset < source.length) :
    write memory 0 source offset = write other 0 source offset := by
  simp only [write, Nat.not_lt_zero, if_false, Nat.sub_zero,
    List.getElem?_eq_getElem inside, Option.getD_some]

/-- A block in a memory: the cells of the block, and what lies behind it. -/
def ofBuffer (buffer : Buffer α size) (beyond : Nat → α) : Nat → α :=
  fun offset => (buffer.cells[offset]?).getD (beyond offset)

/-- A copy into the block is the same copy into the memory. -/
theorem ofBuffer_store
    {buffer result : Buffer α size}
    {start : Nat}
    {source : List α}
    (beyond : Nat → α)
    (stored : buffer.store start source = some result) :
    ofBuffer result beyond = write (ofBuffer buffer beyond) start source := by
  have fits := Buffer.fits_of_store stored
  have startLength := Buffer.length_take_of_store stored
  funext offset
  rw [ofBuffer, Buffer.cells_of_store stored, write]
  by_cases before : offset < start
  · rw [if_pos before, List.append_assoc,
      List.getElem?_append_left (by rwa [startLength]),
      List.getElem?_take_of_lt before, ofBuffer]
  · rw [if_neg before]
    by_cases inside : offset < start + source.length
    · rw [List.append_assoc,
        List.getElem?_append_right (by rw [startLength]; omega), startLength,
        List.getElem?_append_left (by omega),
        List.getElem?_eq_getElem (by omega)]
      rfl
    · have length : (buffer.cells.take start ++ source).length =
          start + source.length := by
        rw [List.length_append, startLength]
      have behind : source[offset - start]? = none :=
        List.getElem?_eq_none (by omega)
      have place : start + source.length +
          (offset - (start + source.length)) = offset := by
        omega
      rw [List.getElem?_append_right (by rw [length]; omega), length,
        List.getElem?_drop, place, behind, ofBuffer]
      rfl

/-- A copy out of the block is the same copy out of the memory. -/
theorem read_ofBuffer
    {buffer : Buffer α size}
    {start count : Nat}
    {values : List α}
    (beyond : Nat → α)
    (loaded : buffer.load start count = some values) :
    read (ofBuffer buffer beyond) start count = values := by
  unfold Buffer.load at loaded
  split at loaded
  · rename_i fits
    cases loaded
    apply List.ext_getElem
    · simp only [length_read, List.length_take, List.length_drop,
        buffer.length_eq]
      omega
    · intro index inRead inValues
      rw [length_read] at inRead
      have present : start + index < buffer.cells.length := by
        rw [buffer.length_eq]
        omega
      simp [read, ofBuffer, List.getElem?_eq_getElem present]
  · contradiction

end FlatMemory
end Foundation
