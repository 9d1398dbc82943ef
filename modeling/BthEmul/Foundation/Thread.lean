import Mathlib.Data.List.Basic

/-!
# Threads that fork

A thread performs actions and may fork other threads, which run beside the rest
of it. A log of a thread has the actions of all of them in one order: each
thread's own actions in its order, those of different threads in any order. A
thread that does nothing more once it has forked another one has the logs of
the two run in line.
-/

namespace Foundation

variable {Action : Type}

/-- A list has the items of two others, each in its own order. -/
inductive Interleaving : List Action → List Action → List Action → Prop
  | nil : Interleaving [] [] []
  | left
      (action : Action)
      (behind : Interleaving first second whole) :
      Interleaving (action :: first) second (action :: whole)
  | right
      (action : Action)
      (behind : Interleaving first second whole) :
      Interleaving first (action :: second) (action :: whole)

/-- With nothing beside it a list stays as it is. -/
theorem interleaving_nil_iff
    {first whole : List Action} :
    Interleaving first [] whole ↔ whole = first := by
  constructor
  · intro interleaving
    induction first generalizing whole with
    | nil =>
        cases interleaving
        rfl
    | cons action first inductionHypothesis =>
        cases interleaving with
        | left _ behind => rw [inductionHypothesis behind]
  · rintro rfl
    induction whole with
    | nil => exact .nil
    | cons action whole inductionHypothesis =>
        exact .left action inductionHypothesis

/-- A thread. -/
inductive Thread (Action : Type)
  | done
  | act (action : Action) (rest : Thread Action)
  /-- The child runs beside the rest. -/
  | fork (child rest : Thread Action)

namespace Thread

/-- A thread that begins with some actions. -/
def perform (actions : List Action) (rest : Thread Action) : Thread Action :=
  actions.foldr act rest

/-- One thread and then another one. The children of the first one run beside
the second one. -/
def seq : Thread Action → Thread Action → Thread Action
  | done, later => later
  | act action rest, later => act action (rest.seq later)
  | fork child rest, later => fork child (rest.seq later)

/-- The logs of a thread. -/
def Logs : Thread Action → List Action → Prop
  | done, log => log = []
  | act action rest, log => ∃ later, rest.Logs later ∧ log = action :: later
  | fork child rest, log =>
      ∃ beside later,
        child.Logs beside ∧ rest.Logs later ∧ Interleaving beside later log

/-- Every log of a thread begins with its first action. -/
theorem logs_act_iff
    {rest : Thread Action} :
    (act action rest).Logs log ↔
      ∃ later, rest.Logs later ∧ log = action :: later := Iff.rfl

@[simp] theorem seq_done (thread : Thread Action) :
    thread.seq done = thread := by
  induction thread with
  | done => rfl
  | act action rest inductionHypothesis =>
      exact congrArg (act action) inductionHypothesis
  | fork child rest _ inductionHypothesis =>
      exact congrArg (fork child) inductionHypothesis

/-- Actions before and behind another one. -/
theorem perform_act_perform
    (front : List Action)
    (action : Action)
    (behind : List Action)
    (rest : Thread Action) :
    perform front (act action (perform behind rest)) =
      perform (front ++ action :: behind) rest := by
  rw [perform, perform, perform, List.foldr_append, List.foldr_cons]

/-- What comes behind a thread comes behind its last actions. -/
theorem seq_perform
    (actions : List Action)
    (rest later : Thread Action) :
    (perform actions rest).seq later = perform actions (rest.seq later) := by
  induction actions with
  | nil => rfl
  | cons action actions inductionHypothesis =>
      exact congrArg (act action) inductionHypothesis

/-- Every log begins with the actions that the thread begins with. -/
theorem logs_perform_iff
    {actions : List Action}
    {rest : Thread Action} :
    (perform actions rest).Logs log ↔
      ∃ later, rest.Logs later ∧ log = actions ++ later := by
  induction actions generalizing log with
  | nil =>
      constructor
      · intro logs
        exact ⟨log, logs, rfl⟩
      · rintro ⟨later, logs, rfl⟩
        exact logs
  | cons action actions inductionHypothesis =>
      constructor
      · rintro ⟨later, logs, rfl⟩
        obtain ⟨behind, restLogs, rfl⟩ := inductionHypothesis.mp logs
        exact ⟨behind, restLogs, rfl⟩
      · rintro ⟨later, logs, rfl⟩
        exact ⟨_, inductionHypothesis.mpr ⟨later, logs, rfl⟩, rfl⟩

/-- A thread that only performs actions has a single log. -/
theorem logs_perform_done_iff
    {actions : List Action} :
    (perform actions done).Logs log ↔ log = actions := by
  rw [logs_perform_iff]
  constructor
  · rintro ⟨later, ended, rfl⟩
    rw [show later = [] from ended, List.append_nil]
  · intro same
    exact ⟨[], rfl, same.trans (List.append_nil actions).symm⟩

/-- A thread with nothing left to do leaves the log to the other one. -/
theorem logs_fork_done_iff
    {child : Thread Action} :
    (fork child done).Logs log ↔ child.Logs log := by
  constructor
  · rintro ⟨beside, later, logs, ended, interleaving⟩
    rw [show later = [] from ended] at interleaving
    rwa [interleaving_nil_iff.mp interleaving]
  · intro logs
    exact ⟨log, [], logs, rfl, interleaving_nil_iff.mpr rfl⟩

end Thread
end Foundation
