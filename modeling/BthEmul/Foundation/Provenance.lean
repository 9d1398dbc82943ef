import Mathlib.Data.List.Perm.Basic

/-!
# Items with an origin

Parties that pass work on to each other hold items in queues and lists. An item
may remember the request it goes back to. Taking an item out of one place and
putting what was made of it into another leaves the number of items of every
origin as it was.
-/

namespace Foundation

/-- An item with the request it goes back to, if there is one. -/
structure Tagged (Origin Content : Type) where
  /-- The item. -/
  content : Content
  /-- The request. -/
  origin : Option Origin
  deriving DecidableEq

namespace Tagged

variable {Origin Content : Type}

/-- The requests that some items go back to. -/
def origins (items : List (Tagged Origin Content)) : List Origin :=
  items.filterMap Tagged.origin

@[simp] theorem origins_nil :
    origins ([] : List (Tagged Origin Content)) = [] := rfl

@[simp] theorem origins_cons
    (item : Tagged Origin Content)
    (items : List (Tagged Origin Content)) :
    origins (item :: items) = item.origin.toList ++ origins items := by
  rw [origins, origins, List.filterMap_cons]
  cases item.origin <;> rfl

@[simp] theorem origins_append
    (front back : List (Tagged Origin Content)) :
    origins (front ++ back) = origins front ++ origins back :=
  List.filterMap_append

end Tagged

/-- Take out the item at an index. -/
def pick (items : List Item) (index : Nat) : Option (Item × List Item) := do
  let item ← items[index]?
  some (item, items.eraseIdx index)

/-- An item is taken out where it stands. -/
theorem pick_eq_some_iff :
    pick items index = some (item, rest) ↔
      items[index]? = some item ∧ items.eraseIdx index = rest := by
  simp only [pick, Option.bind_eq_bind, Option.bind_eq_some_iff,
    Option.some.injEq, Prod.mk.injEq]
  constructor
  · rintro ⟨found, present, rfl, rfl⟩
    exact ⟨present, rfl⟩
  · rintro ⟨present, rfl⟩
    exact ⟨item, present, rfl, rfl⟩

/-- Taking an item out leaves the others. -/
theorem perm_of_pick
    (picked : pick items index = some (item, rest)) :
    items.Perm (item :: rest) := by
  obtain ⟨present, rfl⟩ := pick_eq_some_iff.mp picked
  obtain ⟨inRange, rfl⟩ := List.getElem?_eq_some_iff.mp present
  exact (List.getElem_cons_eraseIdx_perm inRange).symm

/-- An item is taken out from between the items before and behind it. -/
theorem eq_append_of_pick
    (picked : pick items index = some (item, rest)) :
    items = items.take index ++ item :: items.drop (index + 1) ∧
      rest = items.take index ++ items.drop (index + 1) := by
  obtain ⟨present, rfl⟩ := pick_eq_some_iff.mp picked
  obtain ⟨inRange, rfl⟩ := List.getElem?_eq_some_iff.mp present
  refine ⟨?_, List.eraseIdx_eq_take_drop_succ ..⟩
  rw [List.getElem_cons_drop, List.take_append_drop]

/-- Taking out the first item of a kind takes it out from the front of the
items of its kind. -/
theorem filter_of_pick_first
    (kind : Item → Bool)
    (picked : pick items index = some (item, rest))
    (holds : kind item)
    (first : ∀ earlier ∈ items.take index, ¬ kind earlier) :
    items.filter kind = item :: rest.filter kind := by
  obtain ⟨whole, remaining⟩ := eq_append_of_pick picked
  have front : (items.take index).filter kind = [] :=
    List.filter_eq_nil_iff.mpr first
  rw [whole, remaining, List.filter_append, List.filter_append, front,
    List.filter_cons_of_pos holds]
  rfl

/-- Taking out an item of another kind leaves the items of a kind. -/
theorem filter_of_pick_other
    (kind : Item → Bool)
    (picked : pick items index = some (item, rest))
    (other : ¬ kind item) :
    items.filter kind = rest.filter kind := by
  obtain ⟨whole, remaining⟩ := eq_append_of_pick picked
  rw [whole, remaining, List.filter_append, List.filter_append,
    List.filter_cons_of_neg other]

/-- What the items contribute splits into what those before the item taken out
contribute, what it does, and what those behind it do. -/
theorem filterMap_of_pick
    (value : Item → Option Value)
    (picked : pick items index = some (item, rest)) :
    items.filterMap value =
        (items.take index).filterMap value ++ ((value item).toList ++
          (items.drop (index + 1)).filterMap value) ∧
      rest.filterMap value =
        (items.take index).filterMap value ++
          (items.drop (index + 1)).filterMap value := by
  obtain ⟨whole, remaining⟩ := eq_append_of_pick picked
  constructor
  · conv_lhs => rw [whole]
    rw [List.filterMap_append, List.filterMap_cons]
    cases value item <;> rfl
  · rw [remaining, List.filterMap_append]

/-- What holds of all items holds of the one taken out and of the others. -/
theorem forall_of_pick
    {property : Item → Prop}
    (picked : pick items index = some (item, rest))
    (all : ∀ each ∈ items, property each) :
    property item ∧ ∀ each ∈ rest, property each := by
  have same := perm_of_pick picked
  constructor
  · exact all item (same.mem_iff.mpr List.mem_cons_self)
  · intro each remains
    exact all each (same.mem_iff.mpr (List.mem_cons_of_mem _ remains))

/-- What holds of all items holds of them after one more with it is put
behind them. -/
theorem forall_mem_concat
    {property : Item → Prop}
    {items : List Item}
    (all : ∀ each ∈ items, property each)
    (last : property item) :
    ∀ each ∈ items ++ [item], property each := by
  intro each member
  rcases List.mem_append.mp member with earlier | new
  · exact all each earlier
  · rw [List.mem_singleton.mp new]
    exact last

/-- The requests of the items are those of the item taken out and of the
others. -/
theorem Tagged.perm_origins_of_pick
    {items : List (Tagged Origin Content)}
    (picked : pick items index = some (item, rest)) :
    (origins items).Perm (item.origin.toList ++ origins rest) := by
  have same := (perm_of_pick picked).filterMap Tagged.origin
  rw [← origins_cons]
  exact same

end Foundation
