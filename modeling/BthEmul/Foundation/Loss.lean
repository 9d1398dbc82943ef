import BthEmul.Foundation.Ownership

/-!
# Routines that lose resources

A routine loses a resource when nobody points to it any more and it was not
given back. What is said of a routine is what is pointed to afterwards and how
many resources it loses; what two routines lose adds up.
-/

namespace Foundation
namespace Routine

variable {Value Next : Type}

/-- A routine that holds some resources ends, whoever holds the others, and
then some of what it holds is said to be pointed to, and a number of resources
is lost. -/
def Spends
    (held : List Nat)
    (routine : Routine Value)
    (post : Value → List Nat → Nat → Prop) : Prop :=
  Owns held routine fun value kept =>
    ∃ own lost, post value own lost.length ∧ kept.Perm (own ++ lost)

/-- A routine that loses nothing. -/
theorem Owns.spends
    {routine : Routine Value}
    {post : Value → List Nat → Nat → Prop}
    (owns : Owns held routine fun value kept => post value kept 0) :
    Spends held routine post := by
  refine owns.mono ?_
  intro value kept holds
  exact ⟨kept, [], holds, (List.append_nil kept).symm ▸ List.Perm.refl kept⟩

/-- Some resources are pointed to no more. -/
theorem spends_pure
    {post : Value → List Nat → Nat → Prop}
    (perm : held.Perm (own ++ lost))
    (holds : post value own lost.length) : Spends held (pure value) post :=
  owns_pure ⟨own, lost, holds, perm⟩

/-- Less is said afterwards. -/
theorem Spends.mono
    {routine : Routine Value}
    {post weaker : Value → List Nat → Nat → Prop}
    (spends : Spends held routine post)
    (implies : ∀ value own loses, post value own loses → weaker value own loses) :
    Spends held routine weaker := by
  refine Owns.mono spends ?_
  rintro value kept ⟨own, lost, holds, perm⟩
  exact ⟨own, lost, implies value own lost.length holds, perm⟩

/-- It does not matter in which order the resources are held. -/
theorem Spends.of_perm
    {routine : Routine Value}
    {post : Value → List Nat → Nat → Prop}
    (spends : Spends held routine post)
    (perm : other.Perm held) : Spends other routine post :=
  Owns.of_perm spends perm

/-- What one routine loses and what the next one loses adds up. -/
theorem Spends.bind
    {first : Routine Value}
    {second : Value → Routine Next}
    {middle : Value → List Nat → Nat → Prop}
    {post : Next → List Nat → Nat → Prop}
    (begins : Spends held first middle)
    (goesOn : ∀ value own loses, middle value own loses →
      Spends own (second value) fun result kept more =>
        post result kept (loses + more)) :
    Spends held (first >>= second) post := by
  refine Owns.bind begins ?_
  rintro value kept ⟨own, lost, holds, perm⟩
  have framed := (Owns.frame (goesOn value own lost.length holds) lost)
  refine (framed.of_perm perm).mono ?_
  rintro result left ⟨mine, ⟨after, more, ends, split⟩, rfl⟩
  refine ⟨after, lost ++ more, ?_, ?_⟩
  · rwa [List.length_append]
  · refine (split.append_right lost).trans ?_
    rw [List.append_assoc]
    exact List.perm_append_comm.append_left after

/-- One routine after another, the first of which loses nothing. -/
theorem Spends.bind_of_keeps
    {first : Routine Value}
    {second : Value → Routine Next}
    {middle : Value → List Nat → Prop}
    {post : Next → List Nat → Nat → Prop}
    (begins : Owns held first middle)
    (goesOn : ∀ value own, middle value own → Spends own (second value) post) :
    Spends held (first >>= second) post :=
  Owns.bind begins goesOn

/-- What nobody points to when a routine begins is lost. -/
theorem Spends.lose
    {routine : Routine Value}
    {post : Value → List Nat → Nat → Prop}
    (spends : Spends held routine post)
    (perm : other.Perm (held ++ dropped)) :
    Spends other routine fun value own loses =>
      ∃ fewer, post value own fewer ∧ loses = fewer + dropped.length := by
  refine ((Owns.frame spends dropped).of_perm perm).mono ?_
  rintro value left ⟨mine, ⟨own, lost, holds, split⟩, rfl⟩
  refine ⟨own, lost ++ dropped, ⟨_, holds, List.length_append⟩, ?_⟩
  refine (split.append_right dropped).trans ?_
  rw [List.append_assoc]

/-- Some resources are given back. -/
theorem spends_freeAll
    (perm : held.Perm (resources ++ kept)) :
    Spends held (freeAll resources) fun _ own loses =>
      own = kept ∧ loses = 0 := by
  refine (owns_freeAll perm).mono ?_
  intro _ left same
  exact ⟨kept, [], ⟨rfl, rfl⟩, by rwa [List.append_nil]⟩

/-! ## Resources that are asked for in turn -/

/-- Ask for some resources and keep those that there are. -/
def acquireAll : List Bool → Routine (List Nat)
  | [] => pure []
  | succeeds :: rest => do
      let resource ← acquire succeeds
      let others ← acquireAll rest
      return resource.toList ++ others

theorem owns_acquireAll (held : List Nat) (answers : List Bool) :
    Owns held (acquireAll answers) fun resources kept =>
      kept.Perm (resources ++ held) := by
  induction answers generalizing held with
  | nil => exact owns_pure (List.Perm.refl held)
  | cons succeeds rest inductionHypothesis =>
      refine (owns_acquire held succeeds).bind ?_
      rintro resource _ ⟨-, rfl⟩
      refine (inductionHypothesis _).bind ?_
      intro others kept perm
      refine owns_pure (perm.trans ?_)
      rw [List.append_assoc]
      exact List.perm_append_comm_assoc others resource.toList held

/-! ## What holds of the value -/

/-- What holds of the value of a routine, if it ends. -/
def Yields (routine : Routine Value) (post : Value → Prop) : Prop :=
  ∀ ledger value final, routine ledger = some (value, final) → post value

theorem yields_pure
    {post : Value → Prop}
    (holds : post value) : Yields (pure value) post := by
  intro ledger other final ran
  cases ran
  exact holds

/-- One routine after another. -/
theorem Yields.bind
    {first : Routine Value}
    {second : Value → Routine Next}
    {middle : Value → Prop}
    {post : Next → Prop}
    (begins : Yields first middle)
    (goesOn : ∀ value, middle value → Yields (second value) post) :
    Yields (first >>= second) post := by
  intro ledger result final ran
  rw [bind_apply, Option.bind_eq_some_iff] at ran
  obtain ⟨⟨value, between⟩, early, late⟩ := ran
  have holds := begins ledger value between early
  exact goesOn value holds between result final late

/-- What is said does not depend on the value of the first routine. -/
theorem yields_bind_any
    {first : Routine Value}
    {second : Value → Routine Next}
    {post : Next → Prop}
    (goesOn : ∀ value, Yields (second value) post) :
    Yields (first >>= second) post :=
  Yields.bind (fun _ _ _ _ => trivial) fun value (_ : True) => goesOn value

/-! ## What stays given back -/

/-- What was given back before a routine is given back behind it. -/
def Grows (routine : Routine Value) : Prop :=
  ∀ ledger value final, routine ledger = some (value, final) →
    ledger.released ⊆ final.released

/-- Behind the routine a resource is given back. -/
def Frees (routine : Routine Value) (resource : Nat) : Prop :=
  ∀ ledger value final, routine ledger = some (value, final) →
    resource ∈ final.released

theorem grows_pure (value : Value) : Grows (pure value) := by
  intro ledger other final ran
  cases ran
  exact List.Subset.refl _

theorem grows_bind
    {first : Routine Value}
    {second : Value → Routine Next}
    (begins : Grows first)
    (goesOn : ∀ value, Grows (second value)) : Grows (first >>= second) := by
  intro ledger result final ran
  rw [bind_apply, Option.bind_eq_some_iff] at ran
  obtain ⟨⟨value, between⟩, early, late⟩ := ran
  exact List.Subset.trans (begins _ _ _ early) (goesOn value _ _ _ late)

theorem grows_acquire (succeeds : Bool) : Grows (acquire succeeds) := by
  intro ledger value final ran
  cases succeeds <;> cases ran <;> exact List.Subset.refl _

theorem grows_touch (resource : Nat) : Grows (touch resource) := by
  intro ledger value final ran
  rw [touch] at ran
  split at ran <;> cases ran
  exact List.Subset.refl _

theorem grows_touchAll (resources : List Nat) : Grows (touchAll resources) := by
  induction resources with
  | nil => exact grows_pure ()
  | cons resource rest inductionHypothesis =>
      exact grows_bind (grows_touch resource) fun _ => inductionHypothesis

theorem grows_free (resource : Nat) : Grows (free resource) := by
  intro ledger value final ran
  rw [free] at ran
  split at ran <;> cases ran
  exact List.subset_append_left _ _

theorem grows_freeAll (resources : List Nat) : Grows (freeAll resources) := by
  induction resources with
  | nil => exact grows_pure ()
  | cons resource rest inductionHypothesis =>
      exact grows_bind (grows_free resource) fun _ => inductionHypothesis

theorem grows_acquireAll (answers : List Bool) : Grows (acquireAll answers) := by
  induction answers with
  | nil => exact grows_pure []
  | cons succeeds rest inductionHypothesis =>
      refine grows_bind (grows_acquire succeeds) fun resource => ?_
      exact grows_bind inductionHypothesis fun others => grows_pure _

theorem frees_free (resource : Nat) : Frees (free resource) resource := by
  intro ledger value final ran
  rw [free] at ran
  split at ran <;> cases ran
  exact List.mem_append_right _ (List.mem_singleton_self _)

/-- What the first routine gives back stays given back. -/
theorem Frees.bind
    {first : Routine Value}
    {second : Value → Routine Next}
    (frees : Frees first resource)
    (goesOn : ∀ value, Grows (second value)) :
    Frees (first >>= second) resource := by
  intro ledger result final ran
  rw [bind_apply, Option.bind_eq_some_iff] at ran
  obtain ⟨⟨value, between⟩, early, late⟩ := ran
  exact goesOn value _ _ _ late (frees _ _ _ early)

/-- The second routine gives the resource back. -/
theorem Yields.frees
    {first : Routine Value}
    {second : Value → Routine Next}
    {middle : Value → Prop}
    (begins : Yields first middle)
    (goesOn : ∀ value, middle value → Frees (second value) resource) :
    Frees (first >>= second) resource := by
  intro ledger result final ran
  rw [bind_apply, Option.bind_eq_some_iff] at ran
  obtain ⟨⟨value, between⟩, early, late⟩ := ran
  exact goesOn value (begins _ _ _ early) _ _ _ late

/-- The second routine gives the resource back, whatever the first one gives. -/
theorem frees_bind
    {first : Routine Value}
    {second : Value → Routine Next}
    (frees : ∀ value, Frees (second value) resource) :
    Frees (first >>= second) resource :=
  Yields.frees (fun _ _ _ _ => trivial) fun value (_ : True) => frees value

/-- A resource that was given back is not looked at. -/
theorem touch_of_released
    {ledger : Ledger}
    (released : resource ∈ ledger.released)
    (next : Unit → Routine Value) :
    (touch resource >>= next) ledger = none := by
  rw [bind_apply, touch, if_neg fun isOpen => isOpen.2 released]
  rfl

/-! ## Holders in slots -/

/-- What stands at one place of a table can be set apart from the rest. -/
theorem exists_perm_flatMap
    [DecidableEq Index]
    {items : List Index}
    (distinct : items.Nodup)
    (member : item ∈ items)
    (value : Index → List Entry) :
    ∃ rest, ∀ other : Index → List Entry,
      (∀ place, place ≠ item → other place = value place) →
        (items.flatMap other).Perm (other item ++ rest) := by
  refine ⟨(items.erase item).flatMap value, ?_⟩
  intro other agrees
  have first := (List.perm_cons_erase member).flatMap_right other
  rw [List.flatMap_cons] at first
  refine first.trans (List.Perm.of_eq ?_)
  congr 1
  apply List.flatMap_congr
  intro place behind
  exact agrees place (distinct.mem_erase_iff.mp behind).1

end Routine
end Foundation
