import Mathlib.Data.List.Basic

/-!
# Blocks of memory of a fixed size

A buffer is a block whose size never changes. Block copies into and out of it
are checked against that size: a copy that leaves the block has no result, so
a total result of a program built from them is also a proof that it stays in
bounds.
-/

namespace Foundation

/-- A block of exactly `size` cells. -/
structure Buffer (α : Type) (size : Nat) where
  /-- The cells, first address first. -/
  cells : List α
  /-- The block has its declared size. -/
  length_eq : cells.length = size
  deriving DecidableEq

namespace Buffer

attribute [simp] Buffer.length_eq

@[ext] theorem ext
    {left right : Buffer α size}
    (sameCells : left.cells = right.cells) :
    left = right := by
  cases left
  cases right
  cases sameCells
  rfl

/-- The block all of whose cells hold one value. -/
def fill (size : Nat) (value : α) : Buffer α size where
  cells := List.replicate size value
  length_eq := List.length_replicate

@[simp] theorem cells_fill (size : Nat) (value : α) :
    (fill size value).cells = List.replicate size value := rfl

/-- Copy a list into the block from `start` on. -/
def store
    (buffer : Buffer α size)
    (start : Nat)
    (source : List α) : Option (Buffer α size) :=
  if fits : start + source.length ≤ size then
    some {
      cells := buffer.cells.take start ++ source ++
        buffer.cells.drop (start + source.length)
      length_eq := by
        simp only [List.length_append, List.length_take, List.length_drop,
          buffer.length_eq]
        omega }
  else none

/-- Copy `count` cells out of the block from `start` on. -/
def load
    (buffer : Buffer α size)
    (start count : Nat) : Option (List α) :=
  if start + count ≤ size then
    some ((buffer.cells.drop start).take count)
  else none

/-- A copy out of the block succeeds inside it. -/
theorem load_eq_some
    (buffer : Buffer α size)
    {start count : Nat}
    (fits : start + count ≤ size) :
    buffer.load start count =
      some ((buffer.cells.drop start).take count) :=
  if_pos fits

/-- What the front of the block ends with can be copied out of it. -/
theorem load_of_take
    {buffer other : Buffer α size}
    (front : buffer.cells.take (start + values.length) =
      other.cells.take start ++ values)
    (fits : start + values.length ≤ size) :
    buffer.load start values.length = some values := by
  have startLength : (other.cells.take start).length = start := by
    simp only [List.length_take, other.length_eq]
    omega
  rw [load_eq_some buffer fits, List.take_drop, front,
    List.drop_left' startLength]

/-- A copy out of the block has the requested length. -/
theorem length_of_load
    {buffer : Buffer α size}
    (loaded : buffer.load start count = some values) :
    values.length = count := by
  unfold load at loaded
  split at loaded
  · cases loaded
    simp only [List.length_take, List.length_drop, buffer.length_eq]
    omega
  · contradiction

/-- A copy into the block succeeds exactly when it stays inside. -/
theorem isSome_store_iff
    (buffer : Buffer α size)
    (start : Nat)
    (source : List α) :
    (buffer.store start source).isSome ↔ start + source.length ≤ size := by
  unfold store
  split <;> simp_all

/-- A copy that stays inside the block has a result. -/
theorem exists_store
    (buffer : Buffer α size)
    (start : Nat)
    (source : List α)
    (fits : start + source.length ≤ size) :
    ∃ result, buffer.store start source = some result :=
  Option.isSome_iff_exists.mp ((buffer.isSome_store_iff start source).mpr fits)

/-- A copy that has a result stayed inside the block. -/
theorem fits_of_store
    {buffer result : Buffer α size}
    (stored : buffer.store start source = some result) :
    start + source.length ≤ size :=
  (buffer.isSome_store_iff start source).mp (by simp [stored])

/-- The cells of the block after a copy into it. -/
theorem cells_of_store
    {buffer result : Buffer α size}
    (stored : buffer.store start source = some result) :
    result.cells =
      buffer.cells.take start ++ source ++
        buffer.cells.drop (start + source.length) := by
  rw [store, dif_pos (fits_of_store stored), Option.some.injEq] at stored
  rw [← stored]

/-- The cells before a copy that stays inside the block. -/
theorem length_take_of_store
    {buffer result : Buffer α size}
    (stored : buffer.store start source = some result) :
    (buffer.cells.take start).length = start := by
  have fits := fits_of_store stored
  simp only [List.length_take, buffer.length_eq]
  omega

/-- The front of the block up to the end of a copy into it. -/
theorem take_of_store
    {buffer result : Buffer α size}
    (stored : buffer.store start source = some result) :
    result.cells.take (start + source.length) =
      buffer.cells.take start ++ source := by
  rw [cells_of_store stored]
  exact List.take_left' (by
    rw [List.length_append, length_take_of_store stored])

/-- What was copied into the block can be copied out again. -/
theorem load_of_store
    {buffer result : Buffer α size}
    (stored : buffer.store start source = some result) :
    result.load start source.length = some source :=
  load_of_take (take_of_store stored) (fits_of_store stored)

/-- Copying nothing changes nothing. -/
theorem store_nil
    (buffer : Buffer α size)
    {start : Nat}
    (inside : start ≤ size) :
    buffer.store start [] = some buffer := by
  obtain ⟨result, stored⟩ := buffer.exists_store start [] inside
  rw [stored, Option.some.injEq]
  apply Buffer.ext
  rw [cells_of_store stored, List.append_nil, List.length_nil, Nat.add_zero,
    List.take_append_drop]

/-- Copying two lists one behind the other is copying their concatenation. -/
theorem store_append
    {buffer middle result : Buffer α size}
    (first : buffer.store start early = some middle)
    (second : middle.store (start + early.length) late = some result) :
    buffer.store start (early ++ late) = some result := by
  have fits := fits_of_store second
  have frontLength := length_take_of_store first
  obtain ⟨whole, stored⟩ := buffer.exists_store start (early ++ late)
    (by rw [List.length_append]; omega)
  have behind : middle.cells.drop (start + early.length + late.length) =
      buffer.cells.drop (start + (early ++ late).length) := by
    rw [cells_of_store first, ← List.drop_drop,
      List.drop_left' (by rw [List.length_append, frontLength]),
      List.drop_drop, List.length_append, Nat.add_assoc]
  rw [stored, Option.some.injEq]
  apply Buffer.ext
  rw [cells_of_store stored, cells_of_store second, take_of_store first,
    behind, List.append_assoc _ early late]

/-- Copying two parts out of the block one behind the other is copying both at
once. -/
theorem load_append
    {buffer : Buffer α size}
    (first : buffer.load start early.length = some early)
    (second : buffer.load (start + early.length) count = some late) :
    buffer.load start (early.length + count) = some (early ++ late) := by
  unfold load at first second ⊢
  split at second
  · rename_i fits
    rw [if_pos (by omega), Option.some.injEq] at first
    rw [Option.some.injEq] at second
    rw [if_pos (by omega), Option.some.injEq, List.take_add, first,
      List.drop_drop, second]
  · contradiction

/-- A copy into the block leaves what is behind it. -/
theorem load_behind_of_store
    {buffer result : Buffer α size}
    (stored : buffer.store start source = some result)
    (count : Nat) :
    result.load (start + source.length) count =
      buffer.load (start + source.length) count := by
  have front : (buffer.cells.take start ++ source).length =
      start + source.length := by
    rw [List.length_append, length_take_of_store stored]
  have behind : result.cells.drop (start + source.length) =
      buffer.cells.drop (start + source.length) := by
    rw [cells_of_store stored]
    exact List.drop_left' front
  rw [load, load, behind]

end Buffer
end Foundation
