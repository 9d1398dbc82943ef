import BthEmul.Foundation.Machine
import Mathlib.Data.List.Perm.Subperm

/-!
# Items on their way

Items are put in at one end of a system, are on their way for a while, and are
taken out at the other end. What happens to them is said by one relation on
lists: nothing at all, a change of order, a loss, or both. Such a relation
between what is on its way before and after every step relates all that was
put in during a run to all that was taken out.
-/

namespace Foundation

/-- What can become of the items on their way: any number of changes, each of
which may concern one part of them only. -/
structure Handling
    {Item : Type}
    (becomes : List Item → List Item → Prop) : Prop where
  /-- The items may stay as they are. -/
  refl : ∀ items, becomes items items
  /-- One change may follow another. -/
  trans : ∀ first second third,
    becomes first second → becomes second third → becomes first third
  /-- Two parts may change on their own. -/
  append : ∀ front front' back back',
    becomes front front' → becomes back back' →
      becomes (front ++ back) (front' ++ back')

namespace Handling

variable {Item : Type}

/-- The items stay as they are. -/
theorem inOrder : Handling fun before after : List Item => after = before where
  refl _ := rfl
  trans _ _ _ first second := second.trans first
  append _ _ _ _ front back := by rw [front, back]

end Handling

namespace Machine

variable {State Input Output Item : Type}

end Machine
end Foundation
