import Mathlib.Data.Fin.Tuple.Basic

/-!
# Dispatch to the first slot with a key

A request is given to the first slot of a table that has its key, and to none
if there is no such slot. Acting on a request leaves the key of a slot as it
is, so a list of requests is distributed over the table as the table was at
the beginning.
-/

namespace Foundation

/-- How requests act on the slots of a table. -/
structure Dispatcher (Slot Request Key : Type) where
  /-- The key of a slot. -/
  key : Slot → Key
  /-- The key a request asks for. -/
  target : Request → Key
  /-- The action of a request on the slot it is given to. -/
  act : Request → Slot → Slot
  /-- The key of a slot never changes. -/
  key_act : ∀ request slot, key (act request slot) = key slot

namespace Dispatcher

variable {Slot Request Key : Type} [DecidableEq Key]

/-- The first slot with a key. -/
def find
    (dispatcher : Dispatcher Slot Request Key)
    (table : Fin size → Slot)
    (key : Key) : Option (Fin size) :=
  Fin.find? fun index => dispatcher.key (table index) = key

/-- The table after a request. -/
def dispatch
    (dispatcher : Dispatcher Slot Request Key)
    (table : Fin size → Slot)
    (request : Request) : Fin size → Slot :=
  match dispatcher.find table (dispatcher.target request) with
  | none => table
  | some index =>
      Function.update table index (dispatcher.act request (table index))

/-- The requests given to a slot. -/
def given
    (dispatcher : Dispatcher Slot Request Key)
    (table : Fin size → Slot)
    (requests : List Request)
    (index : Fin size) : List Request :=
  requests.filter fun request =>
    dispatcher.find table (dispatcher.target request) = some index

variable
  {dispatcher : Dispatcher Slot Request Key}
  {table : Fin size → Slot}

/-- The slot found has the key, and no slot before it does. -/
theorem find_eq_some_iff {key : Key} :
    dispatcher.find table key = some index ↔
      dispatcher.key (table index) = key ∧
        ∀ earlier < index, dispatcher.key (table earlier) ≠ key := by
  rw [find, Fin.find?_eq_some_iff]
  simp

/-- No slot is found when none has the key. -/
theorem find_eq_none_iff {key : Key} :
    dispatcher.find table key = none ↔
      ∀ index, dispatcher.key (table index) ≠ key := by
  rw [find, Fin.find?_eq_none_iff]
  simp

/-- A slot that shares its key with no other one is found. -/
theorem find_key
    (unique : ∀ other,
      dispatcher.key (table other) = dispatcher.key (table index) →
        other = index) :
    dispatcher.find table (dispatcher.key (table index)) = some index := by
  rw [find_eq_some_iff]
  refine ⟨rfl, fun earlier before same => ?_⟩
  rw [unique earlier same] at before
  exact absurd before (Nat.lt_irrefl _)

/-- A request for a key that no slot has does nothing. -/
theorem dispatch_of_none
    (request : Request)
    (missing : dispatcher.find table (dispatcher.target request) = none) :
    dispatcher.dispatch table request = table := by
  rw [dispatch, missing]

/-- A request acts on the slot found. -/
theorem dispatch_of_some
    (request : Request)
    (found : dispatcher.find table (dispatcher.target request) = some index) :
    dispatcher.dispatch table request =
      Function.update table index (dispatcher.act request (table index)) := by
  rw [dispatch, found]

/-- A request leaves the slots alone that it is not given to. -/
theorem dispatch_of_ne
    (request : Request)
    (notMine :
      dispatcher.find table (dispatcher.target request) ≠ some index) :
    dispatcher.dispatch table request index = table index := by
  cases found : dispatcher.find table (dispatcher.target request) with
  | none => rw [dispatch_of_none _ found]
  | some other =>
      have differs : index ≠ other := by
        intro same
        rw [same] at notMine
        exact notMine found
      rw [dispatch_of_some _ found, Function.update_of_ne differs]

/-- A request changes no key. -/
@[simp] theorem key_dispatch
    (request : Request)
    (index : Fin size) :
    dispatcher.key (dispatcher.dispatch table request index) =
      dispatcher.key (table index) := by
  by_cases mine :
      dispatcher.find table (dispatcher.target request) = some index
  · rw [dispatch_of_some _ mine, Function.update_self, dispatcher.key_act]
  · rw [dispatch_of_ne _ mine]

/-- A request does not change which slot is found. -/
@[simp] theorem find_dispatch (request : Request) (key : Key) :
    dispatcher.find (dispatcher.dispatch table request) key =
      dispatcher.find table key := by
  simp only [find, key_dispatch]

/-- A list of requests acts on each slot by those given to it. -/
theorem foldl_dispatch
    (requests : List Request)
    (index : Fin size) :
    requests.foldl dispatcher.dispatch table index =
      (dispatcher.given table requests index).foldl
        (fun slot request => dispatcher.act request slot) (table index) := by
  induction requests generalizing table with
  | nil => rfl
  | cons request requests inductionHypothesis =>
      have same : dispatcher.given (dispatcher.dispatch table request)
          requests index = dispatcher.given table requests index := by
        simp only [given, find_dispatch]
      rw [List.foldl_cons, inductionHypothesis, same]
      by_cases mine :
          dispatcher.find table (dispatcher.target request) = some index
      · have front : dispatcher.given table (request :: requests) index =
            request :: dispatcher.given table requests index := by
          simp [given, mine]
        rw [front, List.foldl_cons, dispatch_of_some _ mine,
          Function.update_self]
      · have front : dispatcher.given table (request :: requests) index =
            dispatcher.given table requests index := by
          simp [given, mine]
        rw [front, dispatch_of_ne _ mine]

/-- A slot behind one with the same key is given nothing. -/
theorem given_eq_nil
    (before : earlier < index)
    (same : dispatcher.key (table earlier) = dispatcher.key (table index))
    (requests : List Request) :
    dispatcher.given table requests index = [] := by
  rw [given, List.filter_eq_nil_iff]
  intro request _ found
  obtain ⟨key, first⟩ := find_eq_some_iff.mp (of_decide_eq_true found)
  exact first earlier before (same.trans key)

/-- A slot that shares its key with no other one is given every request for
it. -/
theorem given_of_unique
    (unique : ∀ other,
      dispatcher.key (table other) = dispatcher.key (table index) →
        other = index)
    (requests : List Request) :
    dispatcher.given table requests index =
      requests.filter fun request =>
        dispatcher.target request = dispatcher.key (table index) := by
  unfold given
  congr 1
  funext request
  rw [decide_eq_decide]
  constructor
  · intro found
    exact (find_eq_some_iff.mp found).1.symm
  · intro same
    rw [same]
    exact find_key unique

end Dispatcher

/-- Requests that leave a slot alone have no effect on it. -/
theorem foldl_eq_self
    {act : Request → Slot → Slot}
    {requests : List Request}
    (fixed : ∀ request ∈ requests, act request slot = slot) :
    requests.foldl (fun slot request => act request slot) slot = slot := by
  induction requests with
  | nil => rfl
  | cons request requests inductionHypothesis =>
      rw [List.foldl_cons, fixed request List.mem_cons_self]
      apply inductionHypothesis
      intro later member
      exact fixed later (List.mem_cons_of_mem _ member)

end Foundation
