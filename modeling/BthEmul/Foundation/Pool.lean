import Mathlib.Algebra.GroupWithZero.Nat
import BthEmul.Foundation.Machine
import BthEmul.Foundation.Provenance

/-!
# Strands that share a state

Any number of strands, each at some point of a program, take turns on a shared
state. A strand begins at any time; one of those in progress takes its next
step, which changes the shared state and leaves strands at the points behind
it. What the strands are does not depend on their order, so an invariant of the
shared state and the strands is kept when every step of the first strand keeps
it.
-/

namespace Foundation

/-- What the strands of a program do. -/
structure Program (Shared Point Entry Choice Output : Type) where
  /-- A strand begins, where it may. -/
  enter : Shared → Entry → Option (Shared × Point)
  /-- A strand takes its next step. -/
  advance : Shared → Point → Choice → Option (Output × Shared × List Point)

/-- A shared state and the points that the strands are at. -/
structure Pool (Shared Point : Type) where
  /-- The shared state. -/
  shared : Shared
  /-- Where the strands are. -/
  strands : List Point
  deriving DecidableEq

/-- A strand begins, or one of those in progress takes a step. -/
inductive Turn (Entry Choice : Type)
  | start (entry : Entry)
  | advance (index : Nat) (choice : Choice)
  deriving DecidableEq

namespace Program

variable {Shared Point Entry Choice Output : Type}

/-- The strands under successive turns. -/
def machine
    (program : Program Shared Point Entry Choice Output) :
    Machine (Pool Shared Point) (Turn Entry Choice) (Option Output) where
  step pool
    | .start entry => do
        let (shared, point) ← program.enter pool.shared entry
        some (none, { shared := shared, strands := pool.strands ++ [point] })
    | .advance index choice => do
        let (point, rest) ← pick pool.strands index
        let (output, shared, later) ← program.advance pool.shared point choice
        some (some output, { shared := shared, strands := rest ++ later })

/-- A turn begins a strand, or is a step of one of them. -/
theorem cases_of_step
    {program : Program Shared Point Entry Choice Output}
    (stepped : program.machine.step pool turn = some (output, next)) :
    (∃ entry shared point,
        turn = .start entry ∧
          program.enter pool.shared entry = some (shared, point) ∧
          output = none ∧
          next = { shared := shared, strands := pool.strands ++ [point] }) ∨
      ∃ index choice point rest result shared later,
        turn = .advance index choice ∧
          pick pool.strands index = some (point, rest) ∧
          program.advance pool.shared point choice =
            some (result, shared, later) ∧
          output = some result ∧
          next = { shared := shared, strands := rest ++ later } := by
  cases turn with
  | start entry =>
      simp only [machine, Option.bind_eq_bind, Option.bind_eq_some_iff]
        at stepped
      obtain ⟨⟨shared, point⟩, entered, same⟩ := stepped
      cases same
      exact .inl ⟨entry, shared, point, rfl, entered, rfl, rfl⟩
  | advance index choice =>
      simp only [machine, Option.bind_eq_bind, Option.bind_eq_some_iff]
        at stepped
      obtain ⟨⟨point, rest⟩, picked, ⟨result, shared, later⟩, advanced,
        same⟩ := stepped
      cases same
      exact .inr ⟨index, choice, point, rest, result, shared, later, rfl,
        picked, advanced, rfl, rfl⟩

/-- The step that a strand takes obeys a rule about the shared state, the
strand and the other strands. -/
def Obeys
    (rule : Shared → Point → List Point → Choice → Prop)
    (pool : Pool Shared Point) : Turn Entry Choice → Prop
  | .start _ => True
  | .advance index choice =>
      ∀ picked ∈ pick pool.strands index,
        rule pool.shared picked.1 picked.2 choice

instance
    (rule : Shared → Point → List Point → Choice → Prop)
    [∀ shared point rest choice, Decidable (rule shared point rest choice)]
    (pool : Pool Shared Point) :
    (turn : Turn Entry Choice) → Decidable (Obeys rule pool turn)
  | .start _ => isTrue trivial
  | .advance index choice =>
      inferInstanceAs (Decidable (∀ picked ∈ pick pool.strands index,
        rule pool.shared picked.1 picked.2 choice))

/-- A rule that always holds is obeyed. -/
theorem obeys_of_forall
    {rule : Shared → Point → List Point → Choice → Prop}
    (always : ∀ shared point rest choice, rule shared point rest choice)
    (pool : Pool Shared Point)
    (turn : Turn Entry Choice) : Obeys rule pool turn := by
  cases turn with
  | start entry => trivial
  | advance index choice =>
      intro picked _
      exact always pool.shared picked.1 picked.2 choice

/-- A strand that takes a step obeys a rule where the rule holds of it and the
others. -/
theorem obeys_advance_iff
    {rule : Shared → Point → List Point → Choice → Prop}
    {pool : Pool Shared Point}
    (picked : pick pool.strands index = some (point, rest))
    (choice : Choice) :
    Obeys rule pool (.advance index choice : Turn Entry Choice) ↔
      rule pool.shared point rest choice := by
  simp only [Obeys, picked, Option.mem_def, Option.some.injEq, forall_eq']

/-- A turn without a result obeys a rule that holds of every strand that has no
step. -/
theorem obeys_of_stuck
    {program : Program Shared Point Entry Choice Output}
    {rule : Shared → Point → List Point → Choice → Prop}
    {pool : Pool Shared Point}
    {turn : Turn Entry Choice}
    (stuck : ∀ point rest choice, pool.strands.Perm (point :: rest) →
      program.advance pool.shared point choice = none →
        rule pool.shared point rest choice)
    (missing : program.machine.step pool turn = none) : Obeys rule pool turn := by
  cases turn with
  | start entry => trivial
  | advance index choice =>
      rintro ⟨point, rest⟩ picked
      apply stuck _ _ _ (perm_of_pick picked)
      rw [Option.mem_def] at picked
      simp only [machine, picked, Option.bind_eq_bind, Option.bind_some]
        at missing
      cases advanced : program.advance pool.shared point choice with
      | none => rfl
      | some result =>
          rw [advanced] at missing
          cases missing

/-- Where no strand gets a step with a choice, none of them has one. -/
theorem advance_eq_none_of_stuck
    {program : Program Shared Point Entry Choice Output}
    {pool : Pool Shared Point}
    (stuck : ∀ index,
      program.machine.step pool (.advance index choice) = none)
    (member : point ∈ pool.strands) :
    program.advance pool.shared point choice = none := by
  obtain ⟨index, present⟩ := List.getElem?_of_mem member
  have picked : pick pool.strands index =
      some (point, pool.strands.eraseIdx index) :=
    pick_eq_some_iff.mpr ⟨present, rfl⟩
  have missing := stuck index
  simp only [machine, picked, Option.bind_eq_bind, Option.bind_some] at missing
  cases advanced : program.advance pool.shared point choice with
  | none => rfl
  | some result =>
      rw [advanced] at missing
      cases missing

/-- An invariant that does not depend on the order of the strands is kept by
every turn when a strand that begins keeps it and the first strand keeps it in
every step that obeys the rule. -/
theorem invariant_of_step
    {program : Program Shared Point Entry Choice Output}
    {rule : Shared → Point → List Point → Choice → Prop}
    (invariant : Shared → List Point → Prop)
    (perm : ∀ shared first second,
      first.Perm second → invariant shared first → invariant shared second)
    (enters : ∀ shared strands entry behind point,
      invariant shared strands →
        program.enter shared entry = some (behind, point) →
          invariant behind (point :: strands))
    (advances : ∀ shared point rest choice output behind later,
      invariant shared (point :: rest) →
        rule shared point rest choice →
          program.advance shared point choice = some (output, behind, later) →
            invariant behind (later ++ rest))
    (holds : invariant pool.shared pool.strands)
    (obeys : Obeys rule pool turn)
    (stepped : program.machine.step pool turn = some (output, next)) :
    invariant next.shared next.strands := by
  rcases cases_of_step stepped with
    ⟨entry, shared, point, rfl, entered, rfl, rfl⟩ |
    ⟨index, choice, point, rest, result, shared, later, rfl, picked, advanced,
      rfl, rfl⟩
  · apply perm _ _ _ (List.perm_append_singleton point pool.strands).symm
    exact enters _ _ _ _ _ holds entered
  · apply perm _ _ _ List.perm_append_comm
    apply advances _ _ _ _ _ _ _ _ (obeys _ picked) advanced
    exact perm _ _ _ (perm_of_pick picked) holds

/-- Where a turn that begins a strand has the property, and a step of a strand
has it exactly where it obeys the rule, the property holds of every turn of a
run exactly where all of them obey the rule. -/
theorem always_iff_obeys
    {program : Program Shared Point Entry Choice Output}
    (rule : Shared → Point → List Point → Choice → Prop)
    (property : Shared → Option Output → Shared → List Point → Prop)
    (invariant : Shared → List Point → Prop)
    (perm : ∀ shared first second,
      first.Perm second → invariant shared first → invariant shared second)
    (property_perm : ∀ shared output behind first second,
      first.Perm second → property shared output behind first →
        property shared output behind second)
    (enters : ∀ shared strands entry behind point,
      invariant shared strands →
        program.enter shared entry = some (behind, point) →
          invariant behind (point :: strands) ∧
            property shared none behind (point :: strands))
    (exact : ∀ shared point rest choice output behind later,
      invariant shared (point :: rest) →
        program.advance shared point choice = some (output, behind, later) →
          (property shared (some output) behind (later ++ rest) ↔
              rule shared point rest choice) ∧
            (rule shared point rest choice → invariant behind (later ++ rest)))
    (stuck : ∀ shared point rest choice,
      invariant shared (point :: rest) →
        program.advance shared point choice = none →
          rule shared point rest choice)
    (holds : invariant pool.shared pool.strands)
    (turns : List (Turn Entry Choice)) :
    program.machine.Always
        (fun pool _ output next =>
          property pool.shared output next.shared next.strands)
        pool turns ↔
      program.machine.Admits (Obeys rule) pool turns := by
  refine Machine.always_iff_admits
    (fun pool => invariant pool.shared pool.strands) ?_ ?_ ?_ holds turns
  · intro pool turn output next kept stepped
    rcases cases_of_step stepped with
      ⟨entry, shared, point, rfl, entered, rfl, rfl⟩ |
      ⟨index, choice, point, rest, result, shared, later, rfl, picked,
        advanced, rfl, rfl⟩
    · refine iff_of_true ?_ trivial
      apply property_perm _ _ _ _ _
        (List.perm_append_singleton point pool.strands).symm
      exact (enters _ _ _ _ _ kept entered).2
    · have here := perm _ _ _ (perm_of_pick picked) kept
      rw [obeys_advance_iff picked, ← (exact _ _ _ _ _ _ _ here advanced).1]
      constructor
      · intro proper
        exact property_perm _ _ _ _ _ List.perm_append_comm proper
      · intro proper
        exact property_perm _ _ _ _ _ List.perm_append_comm proper
  · intro pool turn kept missing
    apply obeys_of_stuck ?_ missing
    intro point rest choice order advanced
    exact stuck _ _ _ _ (perm _ _ _ order kept) advanced
  · intro pool turn output next kept obeys stepped
    apply invariant_of_step invariant perm ?_ ?_ kept obeys stepped
    · intro shared strands entry behind point kept entered
      exact (enters _ _ _ _ _ kept entered).1
    · intro shared point rest choice output behind later kept obeyed advanced
      exact (exact _ _ _ _ _ _ _ kept advanced).2 obeyed

end Program

/-! ## Work -/

/-- A strand begins. -/
def Turn.begins : Turn Entry Choice → Bool
  | .start _ => true
  | .advance _ _ => false

/-- The work that some strands have left, where `work` says how much one has. -/
def workLeft (work : Point → Nat) (strands : List Point) : Nat :=
  (strands.map work).sum

theorem workLeft_cons (work : Point → Nat) (point : Point) (rest : List Point) :
    workLeft work (point :: rest) = work point + workLeft work rest := rfl

theorem workLeft_append (work : Point → Nat) (first second : List Point) :
    workLeft work (first ++ second) =
      workLeft work first + workLeft work second := by
  rw [workLeft, List.map_append, List.sum_append_nat]
  rfl

theorem workLeft_perm
    (work : Point → Nat)
    (perm : first.Perm second) : workLeft work first = workLeft work second :=
  (perm.map work).sum_nat

/-- Where every step leaves less work than there was, a run has no more steps
than the strands that begin bring work. -/
theorem Program.steps_add_workLeft_le_of_run
    {program : Program Shared Point Entry Choice Output}
    (work : Point → Nat)
    (cost : Nat)
    (enters : ∀ shared entry behind point,
      program.enter shared entry = some (behind, point) → work point ≤ cost)
    (advances : ∀ shared point choice output behind later,
      program.advance shared point choice = some (output, behind, later) →
        workLeft work later < work point)
    (ran : program.machine.run pool turns = some (outputs, final)) :
    turns.countP (!·.begins) + workLeft work final.strands ≤
      workLeft work pool.strands + cost * turns.countP (·.begins) := by
  induction turns generalizing pool outputs with
  | nil =>
      cases ran
      simp
  | cons turn rest inductionHypothesis =>
      obtain ⟨output, next, later, stepped, ranRest, rfl⟩ :=
        Machine.run_cons_eq_some_iff.mp ran
      have bound := inductionHypothesis ranRest
      rcases Program.cases_of_step stepped with
        ⟨entry, shared, point, rfl, entered, rfl, rfl⟩ |
        ⟨index, choice, point, others, result, shared, later, rfl, picked,
          advanced, rfl, rfl⟩
      · have brought := enters _ _ _ _ entered
        have one : workLeft work [point] = work point := Nat.add_zero _
        rw [workLeft_append, one] at bound
        rw [List.countP_cons_of_neg Bool.false_ne_true,
          List.countP_cons_of_pos rfl, Nat.mul_succ]
        omega
      · have less := advances _ _ _ _ _ _ advanced
        have order := workLeft_perm work (perm_of_pick picked)
        rw [workLeft_cons] at order
        rw [workLeft_append] at bound
        rw [List.countP_cons_of_pos rfl,
          List.countP_cons_of_neg Bool.false_ne_true]
        omega

end Foundation
