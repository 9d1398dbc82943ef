import BthEmul.Foundation.Buffer
import Mathlib.Algebra.GroupWithZero.Nat

/-!
# Packed records

A packed record lies in memory as its fields, one behind the other. Its type is
the list of the widths of the fields; a field is assigned by a copy to its
offset. Assigning all fields in the order of their declaration leaves exactly
their values, whatever the memory held before.
-/

namespace Foundation

/-- The type of a packed record: the widths of its fields, in the order of
their declaration. -/
abbrev PackedType := List Nat

namespace PackedType

/-- `sizeof` of the record. -/
def size (type : PackedType) : Nat := type.sum

/-- Where a field starts. -/
def offset (type : PackedType) (field : Nat) : Nat := (type.take field).sum

@[simp] theorem offset_zero (type : PackedType) : type.offset 0 = 0 := rfl

/-- A field starts where the one before it ends. -/
theorem offset_add
    {type : PackedType}
    {first : Nat}
    (widths : width :: rest <+: type.drop first) :
    type.offset (first + 1) = type.offset first + width := by
  obtain ⟨later, split⟩ := widths
  have inside : first < type.length := by
    by_contra outside
    rw [List.drop_eq_nil_of_le (Nat.le_of_not_lt outside)] at split
    simp at split
  have here : type[first] = width := by
    have drop := List.drop_eq_getElem_cons inside
    rw [← split] at drop
    exact (List.cons.inj drop).1.symm
  rw [offset, offset, List.take_succ_eq_append_getElem inside,
    List.sum_append, here, List.sum_singleton]

/-- The fields behind a field start behind it. -/
theorem prefix_drop
    {type : PackedType}
    {first : Nat}
    (widths : width :: rest <+: type.drop first) :
    rest <+: type.drop (first + 1) := by
  obtain ⟨later, split⟩ := widths
  refine ⟨later, ?_⟩
  rw [← List.drop_drop, ← split]
  rfl

/-- No field starts behind the end of the record. -/
theorem offset_le_size (type : PackedType) (field : Nat) :
    type.offset field ≤ type.size := by
  have split := congrArg List.sum (List.take_append_drop field type)
  rw [List.sum_append] at split
  rw [offset, size]
  omega

end PackedType

/-! ## Assignments -/

/-- A record in memory. -/
abbrev PackedRecord (type : PackedType) := Buffer UInt8 type.size

namespace PackedRecord

variable {type : PackedType}

/-- A record that is not initialised holds what the memory held. -/
def uninitialised (type : PackedType) (memory : Nat → UInt8) :
    PackedRecord type where
  cells := (List.range type.size).map memory
  length_eq := by simp

/-- Assign to a field. -/
def assign
    (record : PackedRecord type)
    (field : Nat)
    (value : List UInt8) : Option (PackedRecord type) :=
  record.store (type.offset field) value

/-- Assign to successive fields. -/
def assignAll
    (record : PackedRecord type)
    (first : Nat) : List (List UInt8) → Option (PackedRecord type)
  | [] => some record
  | value :: rest => do
      let record ← record.assign first value
      record.assignAll (first + 1) rest

/-- Assigning successive fields leaves the memory in front of them and their
values. -/
theorem exists_assignAll
    (record : PackedRecord type)
    (first : Nat)
    (values : List (List UInt8))
    (widths : values.map List.length <+: type.drop first) :
    ∃ result : PackedRecord type,
      record.assignAll first values = some result ∧
        result.cells.take (type.offset (first + values.length)) =
          record.cells.take (type.offset first) ++ values.flatten := by
  induction values generalizing record first with
  | nil => exact ⟨record, rfl, by simp⟩
  | cons value rest inductionHypothesis =>
      rw [List.map_cons] at widths
      have next := PackedType.offset_add widths
      have inside := type.offset_le_size (first + 1)
      obtain ⟨middle, stored⟩ := record.exists_store (type.offset first) value
        (by omega)
      have front := Buffer.take_of_store stored
      rw [← next] at front
      obtain ⟨result, assigned, content⟩ :=
        inductionHypothesis middle (first + 1) (PackedType.prefix_drop widths)
      refine ⟨result, ?_, ?_⟩
      · rw [assignAll, assign, stored]
        exact assigned
      · rw [List.length_cons, Nat.add_comm rest.length, ← Nat.add_assoc,
          content, front, List.append_assoc, List.flatten_cons]

/-- Assigning all fields in the order of their declaration leaves exactly
their values. -/
theorem assignAll_eq
    (record : PackedRecord type)
    (values : List (List UInt8))
    (widths : values.map List.length = type) :
    ∃ result : PackedRecord type,
      record.assignAll 0 values = some result ∧
        result.cells = values.flatten := by
  obtain ⟨result, assigned, content⟩ :=
    record.exists_assignAll 0 values (by rw [widths]; exact List.prefix_rfl)
  have all : type.offset (0 + values.length) = result.cells.length := by
    rw [Nat.zero_add, ← List.length_map List.length, widths,
      PackedType.offset, List.take_length, result.length_eq, PackedType.size]
  refine ⟨result, assigned, ?_⟩
  rw [all, List.take_length] at content
  rw [content, PackedType.offset_zero, List.take_zero, List.nil_append]

end PackedRecord
end Foundation
