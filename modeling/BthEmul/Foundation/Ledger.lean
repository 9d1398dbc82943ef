import Mathlib.Data.List.Nodup
import Mathlib.Data.List.Perm.Basic
import Mathlib.Data.List.Range

/-!
# Ledgers of numbered resources

Resources are numbered in the order in which they are issued. A ledger keeps
how many were issued and which were released. It accounts for the resources
that some holders hold when every resource issued is either held or was
released, and that exactly once.
-/

namespace Foundation

/-- How many resources were issued, and which were released. -/
structure Ledger where
  /-- The number of resources issued. -/
  issued : Nat
  /-- The resources released, in the order in which they were. -/
  released : List Nat
  deriving DecidableEq

namespace Ledger

/-- Nothing was issued. -/
def fresh : Ledger where
  issued := 0
  released := []

/-- Issue the next resource. -/
def issue (ledger : Ledger) : Ledger :=
  { ledger with issued := ledger.issued + 1 }

/-- Release a resource. -/
def release (ledger : Ledger) (resource : Nat) : Ledger :=
  { ledger with released := ledger.released ++ [resource] }

/-- Issue the next resource if the request succeeds. -/
def request (ledger : Ledger) (succeeds : Bool) : Option Nat × Ledger :=
  if succeeds then (some ledger.issued, ledger.issue) else (none, ledger)

/-- A request that succeeds issues the next resource. -/
theorem eq_of_request
    {ledger after : Ledger}
    {succeeds : Bool}
    (granted : ledger.request succeeds = (some resource, after)) :
    resource = ledger.issued ∧ after = ledger.issue := by
  cases succeeds with
  | false => cases granted
  | true =>
      cases granted
      exact ⟨rfl, rfl⟩

/-- Release a resource, if there is one and the release succeeds. -/
def giveBack
    (ledger : Ledger)
    (resource : Option Nat)
    (succeeds : Bool) : Ledger :=
  match resource with
  | some resource => if succeeds then ledger.release resource else ledger
  | none => ledger

/-- The resource was issued and not released. -/
def IsOpen (ledger : Ledger) (resource : Nat) : Prop :=
  resource < ledger.issued ∧ resource ∉ ledger.released

instance (ledger : Ledger) (resource : Nat) :
    Decidable (ledger.IsOpen resource) :=
  inferInstanceAs (Decidable (_ ∧ _))

/-- The resources that were issued and not released. -/
def openResources (ledger : Ledger) : List Nat :=
  (List.range ledger.issued).filter (· ∉ ledger.released)

/-- Every resource issued is held or was released, exactly once. -/
def Accounts (ledger : Ledger) (held : List Nat) : Prop :=
  (held ++ ledger.released).Perm (List.range ledger.issued)

instance (ledger : Ledger) (held : List Nat) :
    Decidable (ledger.Accounts held) :=
  inferInstanceAs (Decidable (List.Perm _ _))

theorem accounts_fresh : fresh.Accounts [] :=
  List.Perm.refl _

/-- A resource that is held is open. -/
theorem Accounts.isOpen
    {ledger : Ledger}
    (accounts : ledger.Accounts held)
    (member : resource ∈ held) : ledger.IsOpen resource := by
  constructor
  · apply List.mem_range.mp
    exact accounts.mem_iff.mp (List.mem_append_left _ member)
  · have distinct := accounts.nodup_iff.mpr List.nodup_range
    exact List.disjoint_of_nodup_append distinct member

/-- A resource that is open is held. -/
theorem Accounts.mem_of_isOpen
    {ledger : Ledger}
    (accounts : ledger.Accounts held)
    (isOpen : ledger.IsOpen resource) : resource ∈ held := by
  have issued := accounts.mem_iff.mpr (List.mem_range.mpr isOpen.1)
  rcases List.mem_append.mp issued with member | released
  · exact member
  · exact absurd released isOpen.2

/-- The resources that are held are the open ones. -/
theorem Accounts.perm_openResources
    {ledger : Ledger}
    (accounts : ledger.Accounts held) :
    held.Perm ledger.openResources := by
  have distinct := accounts.nodup_iff.mpr List.nodup_range
  have apart := List.disjoint_of_nodup_append distinct
  have inUse : held.filter (· ∉ ledger.released) = held := by
    apply List.filter_eq_self.mpr
    intro resource member
    exact decide_eq_true (apart member)
  have gone :
      ledger.released.filter (· ∉ ledger.released) = [] := by
    apply List.filter_eq_nil_iff.mpr
    intro resource member
    simpa using member
  have parts := List.Perm.filter (· ∉ ledger.released) accounts
  rwa [List.filter_append, inUse, gone, List.append_nil] at parts

/-- No resource was released twice. -/
theorem Accounts.nodup_released
    {ledger : Ledger}
    (accounts : ledger.Accounts held) : ledger.released.Nodup := by
  have distinct := accounts.nodup_iff.mpr List.nodup_range
  exact (List.nodup_append.mp distinct).2.1

/-- It does not matter in which order the resources are held. -/
theorem Accounts.of_perm
    {ledger : Ledger}
    (accounts : ledger.Accounts first)
    (perm : first.Perm second) : ledger.Accounts second :=
  (perm.symm.append_right _).trans accounts

/-- The resource issued last is held. -/
theorem Accounts.issue
    {ledger : Ledger}
    (accounts : ledger.Accounts held) :
    ledger.issue.Accounts (held ++ [ledger.issued]) := by
  rw [Accounts, Ledger.issue, List.range_succ, List.append_assoc]
  refine (List.perm_append_comm_assoc _ _ _).trans ?_
  refine (List.Perm.append_left _ accounts).trans ?_
  exact List.perm_append_comm

/-- The resource released is held no more. -/
theorem Accounts.release
    {ledger : Ledger}
    (accounts : ledger.Accounts (resource :: held)) :
    (ledger.release resource).Accounts held := by
  rw [Accounts, Ledger.release, ← List.append_assoc]
  exact List.perm_append_comm.trans accounts

/-- A resource that is given back is held no more. -/
theorem Accounts.giveBack
    {ledger : Ledger}
    (resource : Option Nat)
    (accounts : ledger.Accounts (resource.toList ++ held)) :
    (ledger.giveBack resource true).Accounts held := by
  cases resource with
  | none => exact accounts
  | some resource => exact accounts.release

/-! ## What a holder does -/

/-- A holder of some resources goes on with others, whoever holds the rest. -/
def Moves (before after : Ledger) (first second : List Nat) : Prop :=
  ∀ rest, before.Accounts (first ++ rest) → after.Accounts (second ++ rest)

/-- Nothing is issued or released. -/
theorem Moves.refl (ledger : Ledger) (held : List Nat) :
    ledger.Moves ledger held held :=
  fun _ => id

theorem Moves.trans
    {before between after : Ledger}
    (first : before.Moves between start middle)
    (second : between.Moves after middle finish) :
    before.Moves after start finish :=
  fun rest accounts => second rest (first rest accounts)

/-- The holder is given the next resource. -/
theorem moves_issue (ledger : Ledger) (held : List Nat) :
    ledger.Moves ledger.issue held (ledger.issued :: held) := by
  intro rest accounts
  apply accounts.issue.of_perm
  exact List.perm_append_comm

/-- The holder releases a resource. -/
theorem moves_release (ledger : Ledger) (resource : Nat) (held : List Nat) :
    ledger.Moves (ledger.release resource) (resource :: held) held :=
  fun _ accounts => accounts.release

end Ledger
end Foundation
