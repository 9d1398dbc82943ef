import BthEmul.Foundation.Ledger

/-!
# Routines that own resources

A routine asks for resources, looks at them and gives them back. It has no
result where it looks at or gives back a resource that is not open. What a
routine does is said by what it holds before and afterwards, whoever holds the
other resources, so that what is said of its parts can be put together.
-/

namespace Foundation

/-- A computation on a ledger, which may fault. -/
abbrev Routine (Value : Type) := StateT Ledger Option Value

namespace Routine

variable {Value Next : Type}

/-- Be given a resource. -/
def allocate : Routine Nat :=
  fun ledger => some (ledger.issued, ledger.issue)

/-- Ask for a resource. -/
def acquire (succeeds : Bool) : Routine (Option Nat) :=
  fun ledger => some (ledger.request succeeds)

/-- Look at a resource. -/
def touch (resource : Nat) : Routine Unit :=
  fun ledger => if ledger.IsOpen resource then some ((), ledger) else none

/-- Look at some resources. -/
def touchAll : List Nat → Routine Unit
  | [] => pure ()
  | resource :: rest => do
      touch resource
      touchAll rest

/-- Give a resource back. -/
def free (resource : Nat) : Routine Unit :=
  fun ledger =>
    if ledger.IsOpen resource then some ((), ledger.release resource)
    else none

/-- Give some resources back, in order. -/
def freeAll : List Nat → Routine Unit
  | [] => pure ()
  | resource :: rest => do
      free resource
      freeAll rest

/-- A routine that holds some resources ends, whoever holds the others, and
then holds what is said of its value. -/
def Owns
    (held : List Nat)
    (routine : Routine Value)
    (post : Value → List Nat → Prop) : Prop :=
  ∀ ledger rest, ledger.Accounts (held ++ rest) →
    ∃ value final kept,
      routine ledger = some (value, final) ∧
        post value kept ∧ final.Accounts (kept ++ rest)

/-- One routine runs on what another one leaves. -/
theorem bind_apply
    (first : Routine Value)
    (second : Value → Routine Next)
    (ledger : Ledger) :
    (first >>= second) ledger =
      (first ledger).bind fun result => second result.1 result.2 :=
  rfl

/-! ## Rules -/

/-- A routine that does nothing. -/
theorem owns_pure
    {post : Value → List Nat → Prop}
    (holds : post value held) : Owns held (pure value) post :=
  fun ledger _ accounts => ⟨value, ledger, held, rfl, holds, accounts⟩

/-- One routine after another. -/
theorem Owns.bind
    {first : Routine Value}
    {second : Value → Routine Next}
    {middle : Value → List Nat → Prop}
    {post : Next → List Nat → Prop}
    (begins : Owns held first middle)
    (goesOn : ∀ value kept, middle value kept → Owns kept (second value) post) :
    Owns held (first >>= second) post := by
  intro ledger rest accounts
  obtain ⟨value, between, kept, ran, holds, accountsBetween⟩ :=
    begins ledger rest accounts
  obtain ⟨result, final, left, ended, holdsAfter, accountsAfter⟩ :=
    goesOn value kept holds between rest accountsBetween
  refine ⟨result, final, left, ?_, holdsAfter, accountsAfter⟩
  rw [bind_apply, ran]
  exact ended

/-- Less is said afterwards. -/
theorem Owns.mono
    {routine : Routine Value}
    {post weaker : Value → List Nat → Prop}
    (owns : Owns held routine post)
    (implies : ∀ value kept, post value kept → weaker value kept) :
    Owns held routine weaker := by
  intro ledger rest accounts
  obtain ⟨value, final, kept, ran, holds, after⟩ := owns ledger rest accounts
  exact ⟨value, final, kept, ran, implies value kept holds, after⟩

/-- It does not matter in which order the resources are held. -/
theorem Owns.of_perm
    {routine : Routine Value}
    {post : Value → List Nat → Prop}
    (owns : Owns held routine post)
    (perm : other.Perm held) : Owns other routine post :=
  fun ledger rest accounts =>
    owns ledger rest (accounts.of_perm (perm.append_right rest))

/-- Other resources stay as they are. -/
theorem Owns.frame
    {routine : Routine Value}
    {post : Value → List Nat → Prop}
    (owns : Owns held routine post)
    (others : List Nat) :
    Owns (held ++ others) routine fun value kept =>
      ∃ own, post value own ∧ kept = own ++ others := by
  intro ledger rest accounts
  rw [List.append_assoc] at accounts
  obtain ⟨value, final, kept, ran, holds, after⟩ := owns ledger _ accounts
  refine ⟨value, final, kept ++ others, ran, ⟨kept, holds, rfl⟩, ?_⟩
  rwa [List.append_assoc]

/-- A resource that is given is held. -/
theorem owns_allocate (held : List Nat) :
    Owns held allocate fun resource kept => kept = resource :: held := by
  intro ledger rest accounts
  refine ⟨ledger.issued, ledger.issue, _, rfl, rfl, ?_⟩
  exact accounts.issue.of_perm List.perm_append_comm

/-- A resource that is asked for is held if there is one. -/
theorem owns_acquire
    (held : List Nat)
    (succeeds : Bool) :
    Owns held (acquire succeeds) fun resource kept =>
      resource.isSome = succeeds ∧ kept = resource.toList ++ held := by
  intro ledger rest accounts
  cases succeeds with
  | false => exact ⟨none, ledger, held, rfl, ⟨rfl, rfl⟩, accounts⟩
  | true =>
      obtain ⟨_, final, _, ⟨⟩, rfl, after⟩ :=
        owns_allocate held ledger rest accounts
      exact ⟨some ledger.issued, ledger.issue, _, rfl, ⟨rfl, rfl⟩, after⟩

/-- A resource that is held is open. -/
theorem owns_touch
    (member : resource ∈ held) :
    Owns held (touch resource) fun _ kept => kept = held := by
  intro ledger rest accounts
  refine ⟨(), ledger, held, ?_, rfl, accounts⟩
  exact if_pos (accounts.isOpen (List.mem_append_left rest member))

theorem owns_touchAll
    (members : ∀ resource ∈ resources, resource ∈ held) :
    Owns held (touchAll resources) fun _ kept => kept = held := by
  induction resources with
  | nil => exact owns_pure rfl
  | cons resource rest inductionHypothesis =>
      obtain ⟨first, others⟩ := List.forall_mem_cons.mp members
      refine (owns_touch first).bind ?_
      rintro _ _ rfl
      exact inductionHypothesis others

/-- A resource that is given back is held no more. -/
theorem owns_free
    (perm : held.Perm (resource :: kept)) :
    Owns held (free resource) fun _ left => left = kept := by
  intro ledger rest accounts
  have first := accounts.of_perm (perm.append_right rest)
  refine ⟨(), ledger.release resource, kept, ?_, rfl, first.release⟩
  exact if_pos (first.isOpen List.mem_cons_self)

theorem owns_freeAll
    (perm : held.Perm (resources ++ kept)) :
    Owns held (freeAll resources) fun _ left => left.Perm kept := by
  induction resources generalizing held with
  | nil => exact owns_pure perm
  | cons resource rest inductionHypothesis =>
      refine (owns_free perm).bind ?_
      rintro _ _ rfl
      exact inductionHypothesis (List.Perm.refl _)

/-- Looking at a resource that was given back faults. -/
theorem touch_of_freed
    (resource : Nat)
    (next : Unit → Routine Value)
    (ledger : Ledger) :
    (free resource >>= fun _ => touch resource >>= next) ledger = none := by
  rw [bind_apply, free]
  split
  · have gone : ¬ (ledger.release resource).IsOpen resource := by
      intro isOpen
      exact isOpen.2 (List.mem_append_right _ (List.mem_singleton_self _))
    rw [Option.bind_some, bind_apply, touch, if_neg gone]
    rfl
  · rfl

end Routine
end Foundation
