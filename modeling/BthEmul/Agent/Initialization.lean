import BthEmul.Agent.Lifecycle
import Mathlib.Tactic.MkIffOfInductiveProp
import Mathlib.Tactic.SplitIfs

/-!
# Failing initializations

Initializing takes seven steps, each of which can fail. Nothing that was done
before a failure is undone, and the callback answers the desktop in the same
way whatever `Initialize` returns.
-/

namespace BthEmul

open Foundation

namespace Agent

/-- All steps of an initialization succeed. -/
@[mk_iff]
structure InitializeAnswers.Succeeds (answers : InitializeAnswers) : Prop where
  /-- The write queue is created. -/
  createsWriteQueue : answers.createsWriteQueue = true
  /-- The read queue is created. -/
  createsReadQueue : answers.createsReadQueue = true
  /-- The error queue is created. -/
  createsErrorQueue : answers.createsErrorQueue = true
  /-- The device is provisioned. -/
  provisions : answers.provisions = true
  /-- The transport driver is copied. -/
  copiesTransport : answers.copiesTransport = true
  /-- The communication driver is copied. -/
  copiesCommunication : answers.copiesCommunication = true
  /-- The driver is registered with some index. -/
  registers : .registered ∈ answers.registrations.toList
  /-- The working thread is created. -/
  createsThread : answers.createsThread = true

namespace AgentState

/-! ## The property -/

/-- The queues, the registrations of the driver and the working threads are the
same. -/
structure SameResources (before after : AgentState) : Prop where
  /-- `g_hWriteQueue`. -/
  writeQueue : after.gHWriteQueue = before.gHWriteQueue
  /-- `g_hReadQueue`. -/
  readQueue : after.gHReadQueue = before.gHReadQueue
  /-- `g_hErrorQueue`. -/
  errorQueue : after.gHErrorQueue = before.gHErrorQueue
  /-- `g_hDevice`. -/
  device : after.gHDevice = before.gHDevice
  /-- `g_hWorkingThread`. -/
  workingThread : after.gHWorkingThread = before.gHWorkingThread
  /-- The threads. -/
  threads : after.threads = before.threads
  /-- The same queue handles are open. -/
  queues : ∀ handle,
    after.queues.IsOpen handle ↔ before.queues.IsOpen handle
  /-- The same instances of the driver are registered. -/
  devices : ∀ instance_,
    after.devices.IsOpen instance_ ↔ before.devices.IsOpen instance_

/-- An initialization that fails leaves the resources, and the desktop is told
only of one that succeeds. -/
def Atomic
    (agent : AgentState) : Action → Option Command → AgentState → Prop
  | .initializeMsg answers _, output, next =>
      ((agent.initializeAgent answers).1 ≠ 0 → SameResources agent next) ∧
        (output.isSome → (agent.initializeAgent answers).1 = 0)
  | _, _, _ => True

/-! ## The condition -/

/-- No initialization fails. -/
def Action.Succeeds : Action → Prop
  | .initializeMsg answers _ => answers.Succeeds
  | _ => True

/-! ## The steps of an initialization -/

/-- Activating succeeds when some index does, and leaves everything but the
driver. -/
theorem activateDriver_eq
    (agent : AgentState)
    (registrations : List Registration) :
    ∃ device devices,
      agent.activateDriver registrations =
        (decide (.registered ∈ registrations), {
          agent with gHDevice := device, devices := devices }) := by
  induction registrations generalizing agent with
  | nil => exact ⟨agent.gHDevice, agent.devices, rfl⟩
  | cons registration rest inductionHypothesis =>
      cases registration with
      | noName =>
          obtain ⟨device, devices, same⟩ := inductionHypothesis agent
          exact ⟨device, devices, by simp [activateDriver, same]⟩
      | refused =>
          obtain ⟨device, devices, same⟩ :=
            inductionHypothesis { agent with gHDevice := none }
          exact ⟨device, devices, by simp [activateDriver, same]⟩
      | registered =>
          exact ⟨some agent.devices.issued, agent.devices.issue,
            by simp [activateDriver]⟩

/-- An initialization returns zero exactly when all its steps succeed. -/
theorem initializeAgent_eq_zero_iff
    (agent : AgentState)
    (answers : InitializeAnswers) :
    (agent.initializeAgent answers).1 = 0 ↔ answers.Succeeds := by
  obtain ⟨device, devices, activated⟩ :=
    (agent.createMsgQueues answers).2.activateDriver_eq
      answers.registrations.toList
  have queues : (agent.createMsgQueues answers).1 =
      (answers.createsWriteQueue && answers.createsReadQueue &&
        answers.createsErrorQueue) := by
    obtain ⟨write, read, error, -, -, -, -, -⟩ := answers
    cases write <;> cases read <;> cases error <;> rfl
  rw [InitializeAnswers.succeeds_iff]
  simp only [initializeAgent, activated, queues, decide_eq_true_eq,
    Bool.and_eq_true]
  split_ifs <;> simp_all [errorCreateMsgQueues, errorPrivisionDevice,
    errorCopyDrivers, errorActivateDriver, errorCreateWorkingThread]

/-! ## Every run -/

/-- With the command object a message is answered, and the object stays. -/
theorem sendMessage_of_isSome
    {agent : AgentState}
    (object : agent.pCmd.isSome)
    (dwMsgId : MessageId)
    (accepted : Bool) :
    (agent.sendMessage dwMsgId accepted).1.isSome ∧
      (agent.sendMessage dwMsgId accepted).2.pCmd.isSome := by
  obtain ⟨command, present⟩ := Option.isSome_iff_exists.mp object
  simp [sendMessage, present, sendCommandMessage, pushCommand]

/-- Initializing leaves the command object. -/
theorem pCmd_initializeAgent
    (agent : AgentState)
    (answers : InitializeAnswers) :
    (agent.initializeAgent answers).2.pCmd = agent.pCmd := by
  obtain ⟨device, devices, activated⟩ :=
    (agent.createMsgQueues answers).2.activateDriver_eq
      answers.registrations.toList
  simp only [initializeAgent, activated]
  split_ifs <;> rfl

/-- Every step keeps the command object. -/
theorem isSome_pCmd_of_step
    {agent next : AgentState}
    (object : agent.pCmd.isSome)
    (stepped : agent.step action = some (output, next)) :
    next.pCmd.isSome := by
  cases action with
  | initializeMsg answers accepted =>
      have sent : (agent.initializeAgent answers).2.sendMessage
          .agentInitializeMsg accepted = (output, next) :=
        Option.some.inj stepped
      rw [← pCmd_initializeAgent agent answers] at object
      have kept := (sendMessage_of_isSome object .agentInitializeMsg accepted).2
      rwa [sent] at kept
  | uninitializeMsg answers accepted =>
      have sent : (agent.uninitializeAgent answers).2.sendMessage
          .agentUninitializeMsg accepted = (output, next) :=
        Option.some.inj stepped
      change (agent.uninitializeAgent answers).2.pCmd.isSome at object
      have kept :=
        (sendMessage_of_isSome object .agentUninitializeMsg accepted).2
      rwa [sent] at kept
  | startThread index =>
      simp only [step] at stepped
      split at stepped
      · cases stepped
        exact object
      · cases stepped

/-- A step is atomic exactly when it is no initialization that fails. -/
theorem atomic_iff
    {agent next : AgentState}
    (object : agent.pCmd.isSome)
    (stepped : agent.step action = some (output, next)) :
    agent.Atomic action output next ↔ action.Succeeds := by
  cases action with
  | initializeMsg answers accepted =>
      have sent : (agent.initializeAgent answers).2.sendMessage
          .agentInitializeMsg accepted = (output, next) :=
        Option.some.inj stepped
      rw [← pCmd_initializeAgent agent answers] at object
      have told := (sendMessage_of_isSome object .agentInitializeMsg accepted).1
      rw [sent] at told
      rw [Action.Succeeds, ← agent.initializeAgent_eq_zero_iff answers]
      constructor
      · intro atomic
        exact atomic.2 told
      · intro succeeded
        exact ⟨fun failed => absurd succeeded failed, fun _ => succeeded⟩
  | uninitializeMsg answers accepted => exact Iff.rfl
  | startThread index => exact Iff.rfl

/-- Initialization is atomic in every state reached exactly when it never
fails: after a failure the desktop is told of an initialization as well. -/
theorem atomic_iff_succeeds (actions : List Action) :
    agentMachine.Always Atomic start actions ↔
      agentMachine.Admits (fun _ action => action.Succeeds) start actions := by
  apply Machine.always_iff_admits (fun agent => agent.pCmd.isSome) ?_ ?_ ?_
    (by rfl)
  · intro agent action output next object stepped
    exact atomic_iff object stepped
  · intro agent action object stuck
    cases action with
    | initializeMsg answers accepted => cases stuck
    | uninitializeMsg answers accepted => trivial
    | startThread index => trivial
  · intro agent action output next object _ stepped
    exact isSome_pCmd_of_step object stepped

/-- An initialization on a device where the working thread is not created. -/
def threadless : InitializeAnswers :=
  { InitializeAnswers.succeed with createsThread := false }

/-- The queues stay open and the driver registered, and the desktop is told
that the agent is initialized. -/
theorem not_atomic_threadless :
    ¬ agentMachine.Always Atomic start [.initializeMsg threadless true] := by
  intro always
  obtain ⟨⟨unchanged, told⟩, -⟩ := always _ _ rfl
  have result := told rfl
  exact absurd result (by decide)

end AgentState
end Agent
end BthEmul
