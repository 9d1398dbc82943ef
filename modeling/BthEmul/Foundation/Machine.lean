import Mathlib.Data.List.Basic

/-!
# Deterministic machines

A machine answers each input with an output and a next state, or has no result
at all. An invariant of its runs may relate the state to everything consumed
and produced so far; showing that each step keeps it shows that every run has
a result and ends in a related state.
-/

namespace Foundation

/-- A machine given by the result of one step. -/
structure Machine (State Input Output : Type) where
  /-- The output and the next state, if the step has a result. -/
  step : State → Input → Option (Output × State)

namespace Machine

variable {State Input Output : Type}

/-- The outputs and the final state of a run. -/
def run
    (machine : Machine State Input Output) :
    State → List Input → Option (List Output × State)
  | state, [] => some ([], state)
  | state, input :: rest => do
      let (output, next) ← machine.step state input
      let (outputs, final) ← machine.run next rest
      some (output :: outputs, final)

@[simp] theorem run_nil
    (machine : Machine State Input Output)
    (state : State) :
    machine.run state [] = some ([], state) := rfl

/-- A run on a nonempty list of inputs begins with a step. -/
theorem run_cons_eq_some_iff
    {machine : Machine State Input Output} :
    machine.run state (input :: rest) = some (outputs, final) ↔
      ∃ output next later,
        machine.step state input = some (output, next) ∧
          machine.run next rest = some (later, final) ∧
          outputs = output :: later := by
  simp only [run, Option.bind_eq_bind, Option.bind_eq_some_iff,
    Option.some.injEq, Prod.mk.injEq, Prod.exists]
  constructor
  · rintro ⟨output, next, stepped, later, last, ran, rfl, rfl⟩
    exact ⟨output, next, later, stepped, ran, rfl⟩
  · rintro ⟨output, next, later, stepped, ran, rfl⟩
    exact ⟨output, next, stepped, later, final, ran, rfl, rfl⟩

/-- A run on a concatenation consists of a run on each part. -/
theorem run_append_eq_some_iff
    {machine : Machine State Input Output} :
    machine.run state (first ++ second) = some (outputs, final) ↔
      ∃ early middle late,
        machine.run state first = some (early, middle) ∧
          machine.run middle second = some (late, final) ∧
          outputs = early ++ late := by
  induction first generalizing state outputs with
  | nil =>
      simp only [List.nil_append, run_nil, Option.some.injEq, Prod.mk.injEq]
      constructor
      · intro ran
        exact ⟨[], state, outputs, ⟨rfl, rfl⟩, ran, rfl⟩
      · rintro ⟨early, middle, late, ⟨rfl, rfl⟩, ran, rfl⟩
        exact ran
  | cons input rest inductionHypothesis =>
      rw [List.cons_append, run_cons_eq_some_iff]
      constructor
      · rintro ⟨output, next, later, stepped, ran, rfl⟩
        obtain ⟨early, middle, late, ranRest, ranSecond, rfl⟩ :=
          inductionHypothesis.mp ran
        exact ⟨output :: early, middle, late,
          run_cons_eq_some_iff.mpr ⟨_, _, _, stepped, ranRest, rfl⟩,
          ranSecond, rfl⟩
      · rintro ⟨early, middle, late, ranFirst, ranSecond, rfl⟩
        obtain ⟨output, next, later, stepped, ranRest, rfl⟩ :=
          run_cons_eq_some_iff.mp ranFirst
        exact ⟨output, next, later ++ late, stepped,
          inductionHypothesis.mpr ⟨_, _, _, ranRest, ranSecond, rfl⟩, rfl⟩

/-- A run splits where its outputs do. -/
theorem exists_run_of_outputs_append
    {machine : Machine State Input Output}
    (ran : machine.run state inputs = some (first ++ second, final)) :
    ∃ early late middle,
      inputs = early ++ late ∧
        machine.run state early = some (first, middle) ∧
        machine.run middle late = some (second, final) := by
  induction first generalizing state inputs with
  | nil => exact ⟨[], inputs, state, rfl, rfl, ran⟩
  | cons output first inductionHypothesis =>
      cases inputs with
      | nil => cases ran
      | cons input rest =>
          obtain ⟨_, next, _, stepped, ranRest, same⟩ :=
            run_cons_eq_some_iff.mp ran
          cases same
          obtain ⟨early, late, middle, rfl, ranEarly, ranLate⟩ :=
            inductionHypothesis ranRest
          refine ⟨input :: early, late, middle, rfl, ?_, ranLate⟩
          exact run_cons_eq_some_iff.mpr ⟨_, _, _, stepped, ranEarly, rfl⟩

/-- Every output of a run is that of a step behind a run of its own. -/
theorem exists_step_of_outputs_append
    {machine : Machine State Input Output}
    (ran : machine.run state inputs = some (first ++ output :: second, final)) :
    ∃ early middle input next,
      machine.run state early = some (first, middle) ∧
        machine.step middle input = some (output, next) := by
  obtain ⟨early, late, middle, -, ranEarly, ranLate⟩ :=
    exists_run_of_outputs_append ran
  cases late with
  | nil => cases ranLate
  | cons input rest =>
      obtain ⟨_, next, _, stepped, -, same⟩ :=
        run_cons_eq_some_iff.mp ranLate
      cases same
      exact ⟨early, middle, input, next, ranEarly, stepped⟩

/-- A run that has a result answers every input. -/
theorem length_of_run
    {machine : Machine State Input Output}
    (ran : machine.run state inputs = some (outputs, final)) :
    outputs.length = inputs.length := by
  induction inputs generalizing state outputs with
  | nil =>
      cases ran
      rfl
  | cons input rest inductionHypothesis =>
      obtain ⟨output, next, later, -, ranRest, rfl⟩ :=
        run_cons_eq_some_iff.mp ran
      rw [List.length_cons, List.length_cons, inductionHypothesis ranRest]

/-- Whether a run has a result with a property can be computed. -/
instance decidableExistsRun
    (machine : Machine State Input Output)
    (state : State)
    (inputs : List Input)
    (property : List Output → State → Prop)
    [∀ outputs final, Decidable (property outputs final)] :
    Decidable (∃ outputs final,
      machine.run state inputs = some (outputs, final) ∧
        property outputs final) :=
  match ran : machine.run state inputs with
  | none => isFalse (by simp)
  | some (outputs, final) =>
      decidable_of_iff (property outputs final) (by simp)

/-- Every input of a run satisfies the guard in the state that consumes it. -/
def Admits
    (machine : Machine State Input Output)
    (guard : State → Input → Prop) :
    State → List Input → Prop
  | _, [] => True
  | state, input :: rest =>
      guard state input ∧
        ∀ output next, machine.step state input = some (output, next) →
          machine.Admits guard next rest

/-- The inputs behind a step are admitted in the state it leads to. -/
theorem admits_cons_iff_of_step
    {machine : Machine State Input Output}
    {guard : State → Input → Prop}
    (stepped : machine.step state input = some (output, next)) :
    machine.Admits guard state (input :: rest) ↔
      guard state input ∧ machine.Admits guard next rest := by
  simp [Admits, stepped]

instance decidableAdmits
    (machine : Machine State Input Output)
    (guard : State → Input → Prop)
    [∀ state input, Decidable (guard state input)] :
    (state : State) → (inputs : List Input) →
      Decidable (machine.Admits guard state inputs)
  | _, [] => isTrue trivial
  | state, input :: rest =>
      match stepped : machine.step state input with
      | none =>
          decidable_of_iff (guard state input) (by simp [Admits, stepped])
      | some (_, next) =>
          have := decidableAdmits machine guard next rest
          decidable_of_iff _ (admits_cons_iff_of_step stepped).symm

/-- A guard that always holds admits every run. -/
theorem admits_of_forall
    {machine : Machine State Input Output}
    {guard : State → Input → Prop}
    (always : ∀ state input, guard state input)
    (state : State)
    (inputs : List Input) :
    machine.Admits guard state inputs := by
  induction inputs generalizing state with
  | nil => trivial
  | cons input rest inductionHypothesis =>
      exact ⟨always state input, fun _ next _ => inductionHypothesis next⟩

/-- A guard that holds of all inputs in any state admits their run. -/
theorem admits_of_forall_mem
    {machine : Machine State Input Output}
    {guard : State → Input → Prop}
    (state : State)
    {inputs : List Input}
    (each : ∀ input ∈ inputs, ∀ state, guard state input) :
    machine.Admits guard state inputs := by
  induction inputs generalizing state with
  | nil => trivial
  | cons input rest inductionHypothesis =>
      refine ⟨each input List.mem_cons_self state, ?_⟩
      intro output next stepped
      exact inductionHypothesis next
        fun other member => each other (List.mem_cons_of_mem _ member)

/-- Two guards that admit a run admit it together. -/
theorem Admits.and
    {machine : Machine State Input Output}
    {guard other : State → Input → Prop}
    {state : State}
    {inputs : List Input}
    (admits : machine.Admits guard state inputs)
    (admitsOther : machine.Admits other state inputs) :
    machine.Admits (fun state input => guard state input ∧ other state input)
      state inputs := by
  induction inputs generalizing state with
  | nil => trivial
  | cons input rest inductionHypothesis =>
      refine ⟨⟨admits.1, admitsOther.1⟩, ?_⟩
      intro output next stepped
      exact inductionHypothesis (admits.2 output next stepped)
        (admitsOther.2 output next stepped)

/-- Where an invariant makes one guard stronger than another, and every guarded
step keeps the invariant, runs that the first admits are admitted by the
second. -/
theorem Admits.mono
    {machine : Machine State Input Output}
    {guard weaker : State → Input → Prop}
    (invariant : State → Prop)
    (implies : ∀ state input,
      invariant state → guard state input → weaker state input)
    (preserved : ∀ state input output next,
      invariant state → guard state input →
        machine.step state input = some (output, next) → invariant next)
    {state : State}
    (holds : invariant state)
    {inputs : List Input}
    (admits : machine.Admits guard state inputs) :
    machine.Admits weaker state inputs := by
  induction inputs generalizing state with
  | nil => trivial
  | cons input rest inductionHypothesis =>
      obtain ⟨guarded, later⟩ := admits
      refine ⟨implies state input holds guarded, ?_⟩
      intro output next stepped
      exact inductionHypothesis
        (preserved state input output next holds guarded stepped)
        (later output next stepped)

/-- A relation between the history of a run and its state that every guarded
step extends gives every guarded run a result related to its history. -/
theorem exists_run_of_history
    (machine : Machine State Input Output)
    {guard : State → Input → Prop}
    (invariant : List (Input × Output) → State → Prop)
    (preserved : ∀ history state input,
      invariant history state → guard state input →
        ∃ output next,
          machine.step state input = some (output, next) ∧
            invariant (history ++ [(input, output)]) next)
    (history : List (Input × Output))
    {state : State}
    (holds : invariant history state)
    {inputs : List Input}
    (admits : machine.Admits guard state inputs) :
    ∃ outputs final,
      machine.run state inputs = some (outputs, final) ∧
        invariant (history ++ inputs.zip outputs) final := by
  induction inputs generalizing state history with
  | nil =>
      refine ⟨[], state, rfl, ?_⟩
      rwa [List.zip_nil_left, List.append_nil]
  | cons input rest inductionHypothesis =>
      obtain ⟨guarded, later⟩ := admits
      obtain ⟨output, next, stepped, extended⟩ :=
        preserved history state input holds guarded
      obtain ⟨outputs, final, ran, related⟩ :=
        inductionHypothesis _ extended (later output next stepped)
      refine ⟨output :: outputs, final,
        run_cons_eq_some_iff.mpr ⟨_, _, _, stepped, ran, rfl⟩, ?_⟩
      rwa [List.zip_cons_cons, ← List.singleton_append, ← List.append_assoc]

/-- A relation between the history of a run and its state that every guarded
step extends holds at the end of every guarded run that has a result. -/
theorem holds_of_run
    {machine : Machine State Input Output}
    {guard : State → Input → Prop}
    (invariant : List (Input × Output) → State → Prop)
    (preserved : ∀ history state input output next,
      invariant history state → guard state input →
        machine.step state input = some (output, next) →
          invariant (history ++ [(input, output)]) next)
    (history : List (Input × Output))
    {state : State}
    (holds : invariant history state)
    {inputs : List Input}
    (admits : machine.Admits guard state inputs)
    (ran : machine.run state inputs = some (outputs, final)) :
    invariant (history ++ inputs.zip outputs) final := by
  induction inputs generalizing state history outputs with
  | nil =>
      cases ran
      rwa [List.zip_nil_left, List.append_nil]
  | cons input rest inductionHypothesis =>
      obtain ⟨guarded, later⟩ := admits
      obtain ⟨output, next, outputs, stepped, ranRest, rfl⟩ :=
        run_cons_eq_some_iff.mp ran
      have extended :=
        preserved history state input output next holds guarded stepped
      have related :=
        inductionHypothesis _ extended (later output next stepped) ranRest
      rwa [List.zip_cons_cons, ← List.singleton_append, ← List.append_assoc]

/-- A property holds of every step of a run: of the state it starts from, the
input, the output and the state it leads to. -/
def Always
    (machine : Machine State Input Output)
    (property : State → Input → Output → State → Prop) :
    State → List Input → Prop
  | _, [] => True
  | state, input :: rest =>
      ∀ output next, machine.step state input = some (output, next) →
        property state input output next ∧ machine.Always property next rest

/-- The steps behind a step have the property where all steps of the run from
the state it leads to do. -/
theorem always_cons_iff_of_step
    {machine : Machine State Input Output}
    {property : State → Input → Output → State → Prop}
    (stepped : machine.step state input = some (output, next)) :
    machine.Always property state (input :: rest) ↔
      property state input output next ∧ machine.Always property next rest := by
  simp [Always, stepped]

instance decidableAlways
    (machine : Machine State Input Output)
    (property : State → Input → Output → State → Prop)
    [∀ state input output next,
      Decidable (property state input output next)] :
    (state : State) → (inputs : List Input) →
      Decidable (machine.Always property state inputs)
  | _, [] => isTrue trivial
  | state, input :: rest =>
      match stepped : machine.step state input with
      | none => isTrue (by simp [Always, stepped])
      | some (_, next) =>
          have := decidableAlways machine property next rest
          decidable_of_iff _ (always_cons_iff_of_step stepped).symm

/-- Where every guarded step from a state with the invariant has the property
and keeps the invariant, every step of a guarded run has the property. -/
theorem always_of_admits
    {machine : Machine State Input Output}
    {property : State → Input → Output → State → Prop}
    {guard : State → Input → Prop}
    (invariant : State → Prop)
    (sound : ∀ state input output next,
      invariant state → guard state input →
        machine.step state input = some (output, next) →
          property state input output next ∧ invariant next)
    {state : State}
    (holds : invariant state)
    {inputs : List Input}
    (admits : machine.Admits guard state inputs) :
    machine.Always property state inputs := by
  induction inputs generalizing state with
  | nil => trivial
  | cons input rest inductionHypothesis =>
      intro output next stepped
      obtain ⟨guarded, later⟩ := admits
      obtain ⟨proper, kept⟩ := sound _ _ _ _ holds guarded stepped
      exact ⟨proper, inductionHypothesis kept (later output next stepped)⟩

/-- Where an invariant makes the property of a step equivalent to the guard of
its input, and every guarded step keeps the invariant, the property holds of
every step of a run exactly where the guard admits the run. -/
theorem always_iff_admits
    {machine : Machine State Input Output}
    {property : State → Input → Output → State → Prop}
    {guard : State → Input → Prop}
    (invariant : State → Prop)
    (exact : ∀ state input output next,
      invariant state → machine.step state input = some (output, next) →
        (property state input output next ↔ guard state input))
    (stuck : ∀ state input,
      invariant state → machine.step state input = none → guard state input)
    (preserved : ∀ state input output next,
      invariant state → guard state input →
        machine.step state input = some (output, next) → invariant next)
    {state : State}
    (holds : invariant state)
    (inputs : List Input) :
    machine.Always property state inputs ↔
      machine.Admits guard state inputs := by
  induction inputs generalizing state with
  | nil => exact Iff.rfl
  | cons input rest inductionHypothesis =>
      cases stepped : machine.step state input with
      | none =>
          have guarded := stuck state input holds stepped
          simp [Always, Admits, stepped, guarded]
      | some result =>
          obtain ⟨output, next⟩ := result
          rw [always_cons_iff_of_step stepped, admits_cons_iff_of_step stepped,
            ← exact state input output next holds stepped]
          apply and_congr_right
          intro proper
          have guarded := (exact _ _ _ _ holds stepped).mp proper
          exact inductionHypothesis (preserved _ _ _ _ holds guarded stepped)

/-- The same where every step has a result. -/
theorem always_iff_admits_of_total
    {machine : Machine State Input Output}
    {property : State → Input → Output → State → Prop}
    {guard : State → Input → Prop}
    {answer : State → Input → Output × State}
    (total : ∀ state input, machine.step state input = some (answer state input))
    (invariant : State → Prop)
    (exact : ∀ state input, invariant state →
      (property state input (answer state input).1 (answer state input).2 ↔
        guard state input))
    (preserved : ∀ state input,
      invariant state → guard state input → invariant (answer state input).2)
    {state : State}
    (holds : invariant state)
    (inputs : List Input) :
    machine.Always property state inputs ↔
      machine.Admits guard state inputs := by
  apply always_iff_admits invariant ?_ ?_ ?_ holds
  · intro state input output next kept stepped
    have same := exact state input kept
    rwa [Option.some.inj ((total state input).symm.trans stepped)] at same
  · intro state input kept stuck
    rw [total] at stuck
    cases stuck
  · intro state input output next kept guarded stepped
    have later := preserved state input kept guarded
    rwa [Option.some.inj ((total state input).symm.trans stepped)] at later

end Machine
end Foundation
