import Mathlib.Data.Bool.Basic

/-!
# Counting the work in progress

A counter starts at one, the bias, and goes up and down with the work in
progress. One event says that only the bias is left, another one that the bias
has been given up as well and nothing is left. While the bias is there the
first event is set only when no work is in progress; afterwards the counter
passes one with work in progress, and the event says less.
-/

namespace Foundation

/-- A counter with its two events. -/
structure Rundown where
  /-- The counter. -/
  count : Int
  /-- Only the bias is left. -/
  idle : Bool
  /-- Nothing is left. -/
  drained : Bool
  deriving DecidableEq

namespace Rundown

/-- Count up. Leaving one clears the first event. -/
def increment (rundown : Rundown) : Rundown :=
  let result := rundown.count + 1
  { rundown with
    count := result
    idle := if result = 2 then false else rundown.idle }

/-- Count down. Reaching one sets the first event, reaching zero the second. -/
def decrement (rundown : Rundown) : Rundown :=
  let result := rundown.count - 1
  { count := result
    idle := if result = 1 then true else rundown.idle
    drained := if result = 0 then true else rundown.drained }

@[simp] theorem count_increment (rundown : Rundown) :
    rundown.increment.count = rundown.count + 1 := rfl

@[simp] theorem count_decrement (rundown : Rundown) :
    rundown.decrement.count = rundown.count - 1 := rfl

/-- The counter is the bias and the work, and the first event is set only
without work. -/
structure Counts
    (rundown : Rundown)
    (biased : Bool)
    (work : Nat) : Prop where
  /-- The counter is the bias and the work. -/
  count : rundown.count = biased.toNat + work
  /-- The first event is set only without work. -/
  idle : rundown.idle = true → work = 0

/-- More work leaves the count right, with the bias or where the first event is
not set. -/
theorem Counts.increment_iff
    {rundown : Rundown}
    (counts : rundown.Counts biased work) :
    rundown.increment.Counts biased (work + 1) ↔
      biased = true ∨ rundown.idle = false := by
  obtain ⟨count, idle⟩ := counts
  constructor
  · intro later
    have unset := later.idle
    cases biased with
    | true => exact .inl rfl
    | false =>
        right
        by_contra set
        rw [Bool.not_eq_false] at set
        have none_ := idle set
        have stays : rundown.increment.idle = true := by
          rw [increment, count, none_]
          exact set
        exact absurd (unset stays) (Nat.succ_ne_zero work)
  · intro allowed
    refine ⟨by rw [count_increment, count]; push_cast; omega, ?_⟩
    intro set
    rw [increment] at set
    dsimp only at set
    split at set
    · cases set
    · rename_i notTwo
      have none_ := idle set
      rcases allowed with rfl | unset
      · rw [count, none_] at notTwo
        exact absurd rfl notTwo
      · rw [unset] at set
        cases set

/-- Less work leaves the count right, unless the counter passes one without
the bias. -/
theorem Counts.decrement_iff
    {rundown : Rundown}
    (counts : rundown.Counts biased (work + 1)) :
    rundown.decrement.Counts biased work ↔
      biased = true ∨ rundown.count ≠ 2 := by
  obtain ⟨count, idle⟩ := counts
  have unset : rundown.idle = false := by
    by_contra set
    rw [Bool.not_eq_false] at set
    exact absurd (idle set) (Nat.succ_ne_zero work)
  constructor
  · intro later
    cases biased with
    | true => exact .inl rfl
    | false =>
        right
        intro two
        have set : rundown.decrement.idle = true := by
          rw [decrement, two]
          rfl
        have none_ := later.idle set
        rw [two, none_] at count
        exact absurd count (by decide)
  · intro allowed
    refine ⟨by rw [count_decrement, count]; push_cast; omega, ?_⟩
    intro set
    rw [decrement] at set
    dsimp only at set
    split at set
    · rename_i one
      rcases allowed with rfl | notTwo
      · rw [count] at one
        simp only [Bool.toNat_true] at one
        omega
      · omega
    · rw [unset] at set
      cases set

/-- Giving up the bias leaves the count right, unless the counter passes
one. -/
theorem Counts.release_iff
    {rundown : Rundown}
    (counts : rundown.Counts true work) :
    rundown.decrement.Counts false work ↔ rundown.count ≠ 2 := by
  obtain ⟨count, idle⟩ := counts
  simp only [Bool.toNat_true] at count
  constructor
  · intro later two
    have set : rundown.decrement.idle = true := by
      rw [decrement, two]
      rfl
    have none_ := later.idle set
    rw [two, none_] at count
    exact absurd count (by decide)
  · intro notTwo
    refine ⟨?_, ?_⟩
    · rw [count_decrement, count]
      simp only [Bool.toNat_false]
      omega
    intro set
    rw [decrement] at set
    dsimp only at set
    split at set
    · omega
    · exact idle set

/-- The counter reaches zero only without bias and without work. -/
theorem Counts.eq_zero
    {rundown : Rundown}
    (counts : rundown.Counts biased work)
    (zero : rundown.count = 0) : biased = false ∧ work = 0 := by
  have count := counts.count
  cases biased with
  | true =>
      simp only [Bool.toNat_true] at count
      omega
  | false =>
      simp only [Bool.toNat_false] at count
      exact ⟨rfl, by omega⟩

/-- A wait for the first event resets it. -/
theorem Counts.reset
    {rundown : Rundown}
    (counts : rundown.Counts biased work) :
    Counts { rundown with idle := false } biased work :=
  { counts with idle := fun set => nomatch set }

end Rundown
end Foundation
