import BthEmul.Foundation.Machine

/-!
# What a machine can reach

A state can reach a goal when some run from it ends in one. An invariant that
every step keeps, and that no goal has, shows that a state cannot.
-/

namespace Foundation
namespace Machine

variable {State Input Output : Type}

/-- Some run from the state ends in a goal. -/
def CanReach
    (machine : Machine State Input Output)
    (goal : State → Prop)
    (state : State) : Prop :=
  ∃ inputs outputs final,
    machine.run state inputs = some (outputs, final) ∧ goal final

variable {machine : Machine State Input Output} {goal : State → Prop}

/-- A goal is reached without a step. -/
theorem CanReach.of_goal (here : goal state) : machine.CanReach goal state :=
  ⟨[], [], state, rfl, here⟩

/-- What a step leads to can be reached before it. -/
theorem CanReach.of_step
    (stepped : machine.step state input = some (output, next))
    (later : machine.CanReach goal next) : machine.CanReach goal state := by
  obtain ⟨inputs, outputs, final, ran, reached⟩ := later
  refine ⟨input :: inputs, output :: outputs, final, ?_, reached⟩
  exact run_cons_eq_some_iff.mpr ⟨_, _, _, stepped, ran, rfl⟩

/-- What can be reached from every state in the middle can be reached. -/
theorem CanReach.trans
    {middle : State → Prop}
    (first : machine.CanReach middle state)
    (second : ∀ state, middle state → machine.CanReach goal state) :
    machine.CanReach goal state := by
  obtain ⟨inputs, outputs, between, ran, reached⟩ := first
  obtain ⟨inputs', outputs', final, ran', reached'⟩ := second between reached
  refine ⟨inputs ++ inputs', outputs ++ outputs', final, ?_, reached'⟩
  exact run_append_eq_some_iff.mpr ⟨_, _, _, ran, ran', rfl⟩

/-- A weaker goal can be reached as well. -/
theorem CanReach.mono
    {other : State → Prop}
    (reachable : machine.CanReach goal state)
    (weaker : ∀ state, goal state → other state) :
    machine.CanReach other state :=
  reachable.trans fun state here => .of_goal (weaker state here)

/-- A goal that an invariant of every step excludes cannot be reached. -/
theorem not_canReach_of_invariant
    (invariant : State → Prop)
    (preserved : ∀ state input output next, invariant state →
      machine.step state input = some (output, next) → invariant next)
    (excludes : ∀ state, invariant state → ¬ goal state)
    (holds : invariant state) : ¬ machine.CanReach goal state := by
  rintro ⟨inputs, outputs, final, ran, reached⟩
  have kept : invariant final :=
    holds_of_run (fun _ state => invariant state)
      (fun _ _ _ _ _ holds _ => preserved _ _ _ _ holds) [] holds
      (admits_of_forall (fun _ _ => trivial) _ _) ran
  exact excludes final kept reached

end Machine
end Foundation
