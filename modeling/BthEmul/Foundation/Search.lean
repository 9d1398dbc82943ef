import Mathlib.Data.List.Nodup
import Mathlib.Data.List.Range

/-!
# Searching until enough was found

A search probes one number after the other and collects what it finds, until it
has found as many values as are wanted. It ends as soon as that many of the
numbers probed so far are hits, and not before; where there are fewer hits it
never ends.
-/

namespace Foundation

/-- A search that is under way. -/
structure Search (α : Type) where
  /-- The number to probe next. -/
  index : Nat
  /-- What was found so far. -/
  found : List α

namespace Search

variable {α : Type}

/-- Before the first probe. -/
def start : Search α where
  index := 0
  found := []

/-- One probe, unless enough was found. -/
def step (probe : Nat → Option α) (wanted : Nat) (search : Search α) :
    Search α :=
  if search.found.length < wanted then
    { index := search.index + 1
      found := search.found ++ (probe search.index).toList }
  else search

/-- The search after some iterations. -/
def after (probe : Nat → Option α) (wanted : Nat) : Nat → Search α
  | 0 => start
  | count + 1 => (after probe wanted count).step probe wanted

/-- What the first numbers hit. -/
def hits (probe : Nat → Option α) (count : Nat) : List α :=
  (List.range count).filterMap probe

/-- The next number adds what it hits. -/
theorem hits_succ (probe : Nat → Option α) (count : Nat) :
    hits probe (count + 1) = hits probe count ++ (probe count).toList := by
  rw [hits, List.range_succ, List.filterMap_append]
  cases hit : probe count <;> simp [hits, hit]

/-- More numbers have at least as many hits. -/
theorem length_hits_mono
    (probe : Nat → Option α)
    (less : count ≤ later) :
    (hits probe count).length ≤ (hits probe later).length := by
  induction less with
  | refl => exact Nat.le_refl _
  | step _ inductionHypothesis =>
      rw [hits_succ, List.length_append]
      exact Nat.le_add_right_of_le inductionHypothesis

/-- A search has found the hits of the numbers it has probed, no more than
wanted, and has probed every number for which there was an iteration unless it
has found enough. -/
theorem after_eq
    (probe : Nat → Option α)
    (wanted count : Nat) :
    ∃ index ≤ count,
      after probe wanted count =
          { index := index, found := hits probe index } ∧
        (hits probe index).length ≤ wanted ∧
        (index = count ∨ wanted ≤ (hits probe index).length) := by
  induction count with
  | zero => exact ⟨0, Nat.le_refl 0, rfl, Nat.zero_le _, .inl rfl⟩
  | succ count inductionHypothesis =>
      obtain ⟨index, probed, state, bounded, progress⟩ := inductionHypothesis
      rw [after, state, step]
      by_cases missing : (hits probe index).length < wanted
      · have current : index = count := by omega
        subst current
        rw [if_pos missing, ← hits_succ]
        refine ⟨index + 1, Nat.le_refl _, rfl, ?_, .inl rfl⟩
        have single : (probe index).toList.length ≤ 1 := by
          cases probe index <;> simp
        rw [hits_succ, List.length_append]
        omega
      · rw [if_neg missing]
        exact ⟨index, Nat.le_succ_of_le probed, rfl, bounded,
          .inr (Nat.le_of_not_lt missing)⟩

/-- A search never finds more than wanted. -/
theorem length_found_le
    (probe : Nat → Option α)
    (wanted count : Nat) :
    (after probe wanted count).found.length ≤ wanted := by
  obtain ⟨index, -, state, bounded, -⟩ := after_eq probe wanted count
  rw [state]
  exact bounded

/-- After some iterations a search has found enough exactly when as many
numbers have enough hits. -/
theorem wanted_le_found_iff
    (probe : Nat → Option α)
    (wanted count : Nat) :
    wanted ≤ (after probe wanted count).found.length ↔
      wanted ≤ (hits probe count).length := by
  obtain ⟨index, probed, state, -, progress⟩ := after_eq probe wanted count
  rw [state]
  constructor
  · intro enough
    exact Nat.le_trans enough (length_hits_mono probe probed)
  · intro enough
    rcases progress with rfl | done
    · exact enough
    · exact done

/-- Where some numbers have enough hits, no later one is probed. -/
theorem index_le
    {probe : Nat → Option α}
    (enough : wanted ≤ (hits probe bound).length)
    (count : Nat) :
    (after probe wanted count).index ≤ bound := by
  induction count with
  | zero => exact Nat.zero_le bound
  | succ count inductionHypothesis =>
      obtain ⟨index, -, state, -, -⟩ := after_eq probe wanted count
      rw [after, step]
      split
      · rename_i missing
        rw [state] at missing ⊢
        change index + 1 ≤ bound
        by_contra behind
        have less : (hits probe bound).length ≤ (hits probe index).length :=
          length_hits_mono probe (by omega)
        exact absurd missing (Nat.not_lt_of_le (Nat.le_trans enough less))
      · exact inductionHypothesis

/-- What the first numbers hit was probed at one of them. -/
theorem mem_hits_iff
    {probe : Nat → Option α} :
    value ∈ hits probe count ↔ ∃ index < count, probe index = some value := by
  simp only [hits, List.mem_filterMap, List.mem_range]

/-- Where a value says which number it was found at, no value is found twice. -/
theorem nodup_hits
    {probe : Nat → Option α}
    (key : α → Nat)
    (found : ∀ index < count, ∀ value,
      probe index = some value → key value = index) :
    ((hits probe count).map key).Nodup := by
  induction count with
  | zero => exact List.nodup_nil
  | succ count inductionHypothesis =>
      have earlier := inductionHypothesis fun index below =>
        found index (Nat.lt_succ_of_lt below)
      rw [hits_succ]
      cases hit : probe count with
      | none => simpa using earlier
      | some value =>
          rw [Option.toList_some, List.map_append, List.map_singleton,
            ← List.concat_eq_append, List.nodup_concat]
          refine ⟨?_, earlier⟩
          rw [found count (Nat.lt_succ_self count) value hit]
          intro again
          obtain ⟨other, member, same⟩ := List.mem_map.mp again
          obtain ⟨index, below, probed⟩ := mem_hits_iff.mp member
          have place := found index (Nat.lt_succ_of_lt below) other probed
          omega

end Search
end Foundation
