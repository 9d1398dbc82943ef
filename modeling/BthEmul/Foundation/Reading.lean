import BthEmul.Foundation.LittleEndian

/-!
# Computations that read a memory

A reading computes a value from a memory and records the offsets it reads, in
order. Which offsets these are may depend on the bytes read before, so whether
a reading stays below a limit is a property of the reading and of the memory.
-/

namespace Foundation

/-- A computation on a memory: its value, and the offsets it reads. -/
def Reading (α : Type) : Type := (Nat → UInt8) → α × List Nat

namespace Reading

/-- The value of a reading. -/
def result (reading : Reading α) (memory : Nat → UInt8) : α :=
  (reading memory).1

/-- The offsets a reading reads. -/
def offsets (reading : Reading α) (memory : Nat → UInt8) : List Nat :=
  (reading memory).2

instance : Monad Reading where
  pure value := fun _ => (value, [])
  bind reading next := fun memory =>
    ((next (reading.result memory)).result memory,
      reading.offsets memory ++ (next (reading.result memory)).offsets memory)

@[simp] theorem result_pure (value : α) (memory : Nat → UInt8) :
    (pure value : Reading α).result memory = value := rfl

@[simp] theorem result_bind
    (reading : Reading α)
    (next : α → Reading β)
    (memory : Nat → UInt8) :
    (reading >>= next).result memory =
      (next (reading.result memory)).result memory := rfl

@[simp] theorem offsets_pure (value : α) (memory : Nat → UInt8) :
    (pure value : Reading α).offsets memory = [] := rfl

@[simp] theorem offsets_bind
    (reading : Reading α)
    (next : α → Reading β)
    (memory : Nat → UInt8) :
    (reading >>= next).offsets memory =
      reading.offsets memory ++
        (next (reading.result memory)).offsets memory := rfl

/-! ## Readings of memory -/

/-- Read a byte. -/
def byte (offset : Nat) : Reading UInt8 :=
  fun memory => (memory offset, [offset])

@[simp] theorem result_byte (offset : Nat) (memory : Nat → UInt8) :
    (byte offset).result memory = memory offset := rfl

@[simp] theorem offsets_byte (offset : Nat) (memory : Nat → UInt8) :
    (byte offset).offsets memory = [offset] := rfl

/-- The 16-bit value at an offset of a memory. -/
def wordAt (memory : Nat → UInt8) (offset : Nat) : UInt16 :=
  UInt16.ofNat (LittleEndian.decode [memory offset, memory (offset + 1)])

/-- Read a 16-bit value. -/
def word (offset : Nat) : Reading UInt16 := do
  let low ← byte offset
  let high ← byte (offset + 1)
  return UInt16.ofNat (LittleEndian.decode [low, high])

@[simp] theorem result_word (offset : Nat) (memory : Nat → UInt8) :
    (word offset).result memory = wordAt memory offset := rfl

@[simp] theorem offsets_word (offset : Nat) (memory : Nat → UInt8) :
    (word offset).offsets memory = [offset, offset + 1] := rfl

/-- Read successive bytes. -/
def block (start : Nat) : Nat → Reading (List UInt8)
  | 0 => return []
  | count + 1 => do
      let first ← byte start
      let rest ← block (start + 1) count
      return first :: rest

/-- The offsets of successive bytes. -/
theorem offsets_block
    (start count : Nat)
    (memory : Nat → UInt8) :
    (block start count).offsets memory = List.range' start count := by
  induction count generalizing start with
  | zero => rfl
  | succ count inductionHypothesis =>
      rw [block, offsets_bind, offsets_bind, inductionHypothesis,
        offsets_byte, offsets_pure, List.append_nil, List.range'_succ,
        List.singleton_append]

/-- Read for each element of a list. -/
def each (action : ι → Reading Unit) : List ι → Reading Unit
  | [] => return ()
  | index :: rest => do
      action index
      each action rest

/-- The offsets of a loop are those of its iterations, one after the other. -/
theorem offsets_each
    (action : ι → Reading Unit)
    (indices : List ι)
    (memory : Nat → UInt8) :
    (each action indices).offsets memory =
      indices.flatMap fun index => (action index).offsets memory := by
  induction indices with
  | nil => rfl
  | cons index rest inductionHypothesis =>
      rw [each, offsets_bind, inductionHypothesis, List.flatMap_cons]

/-- Read 16-bit values up to the first that is zero, no more than a number of
them. -/
def terminated (start : Nat) : Nat → Reading Unit
  | 0 => return ()
  | fuel + 1 => do
      let unit ← word start
      if unit = 0 then return () else terminated (start + 2) fuel

/-! ## Readings below a limit -/

/-- All offsets that are read lie below a limit. -/
def StaysBelow
    (limit : Nat)
    (memory : Nat → UInt8)
    (reading : Reading α) : Prop :=
  ∀ offset ∈ reading.offsets memory, offset < limit

instance decidableStaysBelow
    (limit : Nat)
    (memory : Nat → UInt8)
    (reading : Reading α) :
    Decidable (StaysBelow limit memory reading) :=
  inferInstanceAs (Decidable (∀ offset ∈ reading.offsets memory, offset < limit))

@[simp] theorem staysBelow_pure
    (limit : Nat)
    (memory : Nat → UInt8)
    (value : α) :
    StaysBelow limit memory (pure value : Reading α) := by
  intro offset member
  contradiction

@[simp] theorem staysBelow_bind
    {limit : Nat}
    {memory : Nat → UInt8}
    {reading : Reading α}
    {next : α → Reading β} :
    StaysBelow limit memory (reading >>= next) ↔
      StaysBelow limit memory reading ∧
        StaysBelow limit memory (next (reading.result memory)) := by
  simp only [StaysBelow, offsets_bind, List.mem_append, or_imp, forall_and]

@[simp] theorem staysBelow_byte
    {limit offset : Nat}
    {memory : Nat → UInt8} :
    StaysBelow limit memory (byte offset) ↔ offset < limit := by
  simp only [StaysBelow, offsets_byte, List.mem_singleton, forall_eq]

@[simp] theorem staysBelow_word
    {limit offset : Nat}
    {memory : Nat → UInt8} :
    StaysBelow limit memory (word offset) ↔ offset + 1 < limit := by
  simp only [StaysBelow, offsets_word, List.mem_cons, List.not_mem_nil,
    or_false, forall_eq_or_imp, forall_eq]
  omega

@[simp] theorem staysBelow_block
    {limit start count : Nat}
    {memory : Nat → UInt8} :
    StaysBelow limit memory (block start count) ↔
      (0 < count → start + count ≤ limit) := by
  rw [StaysBelow, offsets_block]
  simp only [List.mem_range'_1]
  constructor
  · intro below nonempty
    have last := below (start + count - 1) (by omega)
    omega
  · intro fits offset member
    have room := fits (by omega)
    omega

@[simp] theorem staysBelow_each
    {limit : Nat}
    {memory : Nat → UInt8}
    {action : ι → Reading Unit}
    {indices : List ι} :
    StaysBelow limit memory (each action indices) ↔
      ∀ index ∈ indices, StaysBelow limit memory (action index) := by
  simp only [StaysBelow, offsets_each, List.mem_flatMap]
  constructor
  · intro below index member offset read
    exact below offset ⟨index, member, read⟩
  · rintro below offset ⟨index, member, read⟩
    exact below index member offset read

/-- Reading up to the first zero stays below a limit exactly when there is a
zero below it, given that the reading could go beyond the limit. -/
theorem staysBelow_terminated_iff
    {limit start fuel : Nat}
    {memory : Nat → UInt8}
    (long : limit < start + 2 * (fuel + 1)) :
    StaysBelow limit memory (terminated start (fuel + 1)) ↔
      ∃ index, start + 2 * index + 2 ≤ limit ∧
        wordAt memory (start + 2 * index) = 0 := by
  induction fuel generalizing start with
  | zero =>
      rw [terminated, staysBelow_bind, staysBelow_word]
      constructor
      · rintro ⟨inside, -⟩
        omega
      · rintro ⟨index, inside, -⟩
        omega
  | succ fuel inductionHypothesis =>
      rw [terminated, staysBelow_bind, staysBelow_word, result_word]
      by_cases here : wordAt memory start = 0
      · rw [if_pos here]
        constructor
        · rintro ⟨inside, -⟩
          exact ⟨0, by omega, here⟩
        · rintro ⟨index, inside, -⟩
          exact ⟨by omega, staysBelow_pure limit memory ()⟩
      · rw [if_neg here, inductionHypothesis (by omega)]
        constructor
        · rintro ⟨-, index, inside, zero⟩
          refine ⟨index + 1, by omega, ?_⟩
          rw [← zero]
          congr 1
          omega
        · rintro ⟨index, inside, zero⟩
          cases index with
          | zero => exact absurd zero here
          | succ index =>
              refine ⟨by omega, index, by omega, ?_⟩
              rw [← zero]
              congr 1
              omega

end Reading
end Foundation
