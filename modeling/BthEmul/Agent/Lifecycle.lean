import BthEmul.Agent.Forwarding
import BthEmul.Foundation.Ledger
import BthEmul.Foundation.Machine

/-!
# The life of an agent session

The desktop lets the agent initialize and uninitialize itself. Initializing
creates the message queues, registers the driver and starts a working thread,
which waits on the read queue it finds when it begins. Uninitializing closes
the queues and deregisters the driver, but leaves the thread.

The handles live in global variables, which initializing overwrites.
-/

namespace BthEmul

open Foundation

namespace Agent

/-- `ERROR_CREATE_WORKING_THREAD`. -/
def errorCreateWorkingThread : Int := -2

/-- `ERROR_CREATE_MSG_QUEUES`. -/
def errorCreateMsgQueues : Int := -3

/-- `ERROR_COPY_DRIVERS`. -/
def errorCopyDrivers : Int := -4

/-- `ERROR_ACTIVATE_DRIVER`. -/
def errorActivateDriver : Int := -5

/-- `ERROR_PRIVISION_DEVICE`. -/
def errorPrivisionDevice : Int := -6

/-- A working thread: before it looks at `g_hReadQueue`, or in its loop with
the handle it found there. -/
inductive WorkingThread
  | created
  | waiting (hReadQueue : Option Nat)
  deriving DecidableEq

/-- What the attempt to register the driver with an index comes to. -/
inductive Registration
  /-- The name cannot be stored in the registry. -/
  | noName
  /-- `RegisterDevice` fails. -/
  | refused
  | registered
  deriving DecidableEq

/-- What the operating system answers while the agent initializes. -/
structure InitializeAnswers where
  /-- `CreateMsgQueue` of the write queue. -/
  createsWriteQueue : Bool
  /-- `CreateMsgQueue` of the read queue. -/
  createsReadQueue : Bool
  /-- `CreateMsgQueue` of the error queue. -/
  createsErrorQueue : Bool
  /-- `ProvisionDevice`. -/
  provisions : Bool
  /-- `CopyFile` of the transport driver. -/
  copiesTransport : Bool
  /-- `CopyFile` of the communication driver. -/
  copiesCommunication : Bool
  /-- The attempts for the indices from 1 to 9. -/
  registrations : Vector Registration 9
  /-- `CreateThread`. -/
  createsThread : Bool
  deriving DecidableEq

/-- All calls succeed. -/
def InitializeAnswers.succeed : InitializeAnswers where
  createsWriteQueue := true
  createsReadQueue := true
  createsErrorQueue := true
  provisions := true
  copiesTransport := true
  copiesCommunication := true
  registrations := Vector.replicate 9 .registered
  createsThread := true

/-- What the operating system answers while the agent uninitializes. -/
structure UninitializeAnswers where
  /-- `CloseMsgQueue` of the write queue. -/
  closesWriteQueue : Bool
  /-- `CloseMsgQueue` of the read queue. -/
  closesReadQueue : Bool
  /-- `CloseMsgQueue` of the error queue. -/
  closesErrorQueue : Bool
  /-- `DeregisterDevice`. -/
  deregisters : Bool
  deriving DecidableEq

/-- All calls succeed. -/
def UninitializeAnswers.succeed : UninitializeAnswers where
  closesWriteQueue := true
  closesReadQueue := true
  closesErrorQueue := true
  deregisters := true

/-- The agent. Queue handles, device instances and threads are numbered in the
order in which they are made. -/
structure AgentState where
  /-- `g_pCmd`. -/
  pCmd : Option CommandPacket
  /-- `g_hWriteQueue`. -/
  gHWriteQueue : Option Nat
  /-- `g_hReadQueue`. -/
  gHReadQueue : Option Nat
  /-- `g_hErrorQueue`. -/
  gHErrorQueue : Option Nat
  /-- `g_hDevice`. -/
  gHDevice : Option Nat
  /-- `g_hWorkingThread`. -/
  gHWorkingThread : Option Nat
  /-- The working threads. -/
  threads : List WorkingThread
  /-- The queue handles. -/
  queues : Ledger
  /-- The instances of the driver. -/
  devices : Ledger
  deriving DecidableEq

namespace AgentState

/-- The agent before the first command: the command object was created. -/
def start : AgentState where
  pCmd := some []
  gHWriteQueue := none
  gHReadQueue := none
  gHErrorQueue := none
  gHDevice := none
  gHWorkingThread := none
  threads := []
  queues := .fresh
  devices := .fresh

/-- `CreateMsgQueues`. All three queues are tried. -/
def createMsgQueues
    (agent : AgentState)
    (answers : InitializeAnswers) : Bool × AgentState :=
  let (write, queues) := agent.queues.request answers.createsWriteQueue
  let (read, queues) := queues.request answers.createsReadQueue
  let (error, queues) := queues.request answers.createsErrorQueue
  (write.isSome && read.isSome && error.isSome, {
    agent with
    gHWriteQueue := write
    gHReadQueue := read
    gHErrorQueue := error
    queues := queues })

/-- The loop of `ActivateDriver` over the indices left. -/
def activateDriver
    (agent : AgentState) : List Registration → Bool × AgentState
  | [] => (false, agent)
  | .noName :: rest => agent.activateDriver rest
  | .refused :: rest => activateDriver { agent with gHDevice := none } rest
  | .registered :: _ =>
      (true, {
        agent with
        gHDevice := some agent.devices.issued
        devices := agent.devices.issue })

/-- `Initialize`. -/
def initializeAgent
    (agent : AgentState)
    (answers : InitializeAnswers) : Int × AgentState :=
  let (bRet, agent) := agent.createMsgQueues answers
  if bRet then
    if answers.provisions then
      if answers.copiesTransport && answers.copiesCommunication then
        let (bRet, agent) := agent.activateDriver answers.registrations.toList
        if bRet then
          if answers.createsThread then
            (0, {
              agent with
              gHWorkingThread := some agent.threads.length
              threads := agent.threads ++ [.created] })
          else
            (errorCreateWorkingThread, { agent with gHWorkingThread := none })
        else (errorActivateDriver, agent)
      else (errorCopyDrivers, agent)
    else (errorPrivisionDevice, agent)
  else (errorCreateMsgQueues, agent)

/-- `Uninitialize`. Closing a queue that was not created fails. -/
def uninitializeAgent
    (agent : AgentState)
    (answers : UninitializeAnswers) : Bool × AgentState :=
  (agent.gHDevice.isSome && answers.deregisters, {
    agent with
    gHWriteQueue := none
    gHReadQueue := none
    gHErrorQueue := none
    gHDevice := none
    queues :=
      ((agent.queues.giveBack agent.gHWriteQueue
          answers.closesWriteQueue).giveBack agent.gHReadQueue
            answers.closesReadQueue).giveBack agent.gHErrorQueue
              answers.closesErrorQueue
    devices := agent.devices.giveBack agent.gHDevice answers.deregisters })

/-- Answer a message of the desktop with a message id. -/
def sendMessage
    (agent : AgentState)
    (dwMsgId : MessageId)
    (accepted : Bool) : Option Command × AgentState :=
  let sent := sendCommandMessage PacketType.message.code dwMsgId.code accepted
    agent.pCmd
  (sent.pushed, { agent with pCmd := sent.command })

/-- A message of the desktop, or the start of a working thread. -/
inductive Action
  | initializeMsg (answers : InitializeAnswers) (accepted : Bool)
  | uninitializeMsg (answers : UninitializeAnswers) (accepted : Bool)
  | startThread (index : Nat)
  deriving DecidableEq

/-- `CommandCallback` for the two messages, and the start of a thread. What
`Initialize` and `Uninitialize` return is dropped. -/
def step
    (agent : AgentState) : Action → Option (Option Command × AgentState)
  | .initializeMsg answers accepted =>
      let (_, agent) := agent.initializeAgent answers
      some (agent.sendMessage .agentInitializeMsg accepted)
  | .uninitializeMsg answers accepted =>
      let (_, agent) := agent.uninitializeAgent answers
      some (agent.sendMessage .agentUninitializeMsg accepted)
  | .startThread index =>
      match agent.threads[index]? with
      | some .created =>
          some (none, {
            agent with
            threads := agent.threads.set index (.waiting agent.gHReadQueue) })
      | _ => none

end AgentState

/-- The agent under successive steps. -/
def agentMachine : Machine AgentState AgentState.Action (Option Command) where
  step := AgentState.step

namespace AgentState

/-! ## The property -/

/-- A step in which all calls of the operating system succeed. -/
inductive SucceedingAction
  | initializeMsg
  | uninitializeMsg
  | startThread (index : Nat)
  deriving DecidableEq

/-- The step with the answers it gets. -/
def SucceedingAction.toAction : SucceedingAction → Action
  | .initializeMsg => .initializeMsg .succeed true
  | .uninitializeMsg => .uninitializeMsg .succeed true
  | .startThread index => .startThread index

/-- The queue handles in the global variables. -/
def heldQueues (agent : AgentState) : List Nat :=
  agent.gHWriteQueue.toList ++
    (agent.gHReadQueue.toList ++ (agent.gHErrorQueue.toList ++ []))

/-- At most one working thread is alive, it waits on the read queue that the
agent reads, which is open, and every handle and instance made is still held by
its variable or was released, exactly once. -/
structure LifecycleSound (agent : AgentState) : Prop where
  /-- At most one working thread is alive. -/
  single : agent.threads.length ≤ 1
  /-- A thread waits on the open read queue. -/
  current : ∀ handle, .waiting handle ∈ agent.threads →
    ∃ queue, handle = some queue ∧ agent.gHReadQueue = some queue ∧
      agent.queues.IsOpen queue
  /-- Every queue handle is held or was released, exactly once. -/
  queues : agent.queues.Accounts agent.heldQueues
  /-- Every instance of the driver is held or was released, exactly once. -/
  devices : agent.devices.Accounts (agent.gHDevice.toList ++ [])

/-! ## The condition -/

/-- The agent is initialized only before there is a working thread, is
uninitialized only while no thread waits, and a thread begins only while the
read queue is open. -/
def LifecycleConforms (agent : AgentState) : SucceedingAction → Prop
  | .initializeMsg => agent.threads = []
  | .uninitializeMsg => ∀ thread ∈ agent.threads, thread = .created
  | .startThread index =>
      agent.threads[index]? = some .created → agent.gHReadQueue.isSome

instance decidableLifecycleConforms (agent : AgentState) :
    (action : SucceedingAction) → Decidable (agent.LifecycleConforms action)
  | .initializeMsg => inferInstanceAs (Decidable (_ = _))
  | .uninitializeMsg => inferInstanceAs (Decidable (∀ _ ∈ _, _))
  | .startThread _ => inferInstanceAs (Decidable (_ → _))

/-! ## The invariant -/

/-- The agent is sound, and before there is a working thread the variables are
empty. -/
structure LifecycleKept (agent : AgentState) : Prop
    extends LifecycleSound agent where
  /-- Before there is a thread no queue is open. -/
  noQueues : agent.threads = [] → agent.heldQueues = []
  /-- Before there is a thread no driver is registered. -/
  noDevice : agent.threads = [] → agent.gHDevice = none

theorem lifecycleKept_start : start.LifecycleKept where
  single := Nat.zero_le _
  current := by simp [start]
  queues := Ledger.accounts_fresh
  devices := Ledger.accounts_fresh
  noQueues _ := rfl
  noDevice _ := rfl

/-- An initialization that succeeds makes new handles. -/
theorem initializeAgent_succeed (agent : AgentState) :
    agent.initializeAgent .succeed =
      (0, {
        agent with
        gHWriteQueue := some agent.queues.issued
        gHReadQueue := some (agent.queues.issued + 1)
        gHErrorQueue := some (agent.queues.issued + 2)
        gHDevice := some agent.devices.issued
        gHWorkingThread := some agent.threads.length
        threads := agent.threads ++ [.created]
        queues := agent.queues.issue.issue.issue
        devices := agent.devices.issue }) := rfl

/-- The first initialization keeps the agent. -/
theorem LifecycleKept.initializeAgent
    {agent : AgentState}
    (kept : agent.LifecycleKept)
    (first : agent.threads = []) :
    (agent.initializeAgent .succeed).2.LifecycleKept := by
  rw [initializeAgent_succeed, first]
  have queues := kept.queues
  rw [kept.noQueues first] at queues
  have devices := kept.devices
  rw [kept.noDevice first] at devices
  exact {
    single := Nat.le_refl 1
    current := by simp
    queues := queues.issue.issue.issue
    devices := devices.issue
    noQueues := by simp
    noDevice := by simp }

/-- Uninitializing keeps the agent while no thread waits. -/
theorem LifecycleKept.uninitializeAgent
    {agent : AgentState}
    (kept : agent.LifecycleKept)
    (idle : ∀ thread ∈ agent.threads, thread = .created) :
    (agent.uninitializeAgent .succeed).2.LifecycleKept where
  single := kept.single
  current handle member := by cases idle _ member
  queues :=
    ((kept.queues.giveBack _).giveBack _).giveBack _
  devices := kept.devices.giveBack _
  noQueues _ := rfl
  noDevice _ := rfl

/-- Answering the desktop leaves everything but the command object. -/
theorem lifecycleKept_sendMessage_iff
    {agent : AgentState} :
    (agent.sendMessage dwMsgId accepted).2.LifecycleKept ↔
      agent.LifecycleKept :=
  ⟨fun kept => { kept with }, fun kept => { kept with }⟩

/-- A thread that begins is the only one. -/
theorem LifecycleKept.threads_eq
    {agent : AgentState}
    (kept : agent.LifecycleKept)
    (present : agent.threads[index]? = some thread) :
    index = 0 ∧ agent.threads = [thread] := by
  have single := kept.single
  cases threads : agent.threads with
  | nil => simp [threads] at present
  | cons first rest =>
      rw [threads, List.length_cons] at single
      have none_ : rest = [] := List.eq_nil_of_length_eq_zero (by omega)
      subst none_
      rw [threads] at present
      cases index with
      | zero => exact ⟨rfl, by simpa using present⟩
      | succ index => simp at present

/-- A thread that begins while the read queue is open keeps the agent. -/
theorem LifecycleKept.startThread
    {agent : AgentState}
    (kept : agent.LifecycleKept)
    (threads : agent.threads = [.created])
    (open_ : agent.gHReadQueue = some queue) :
    LifecycleKept {
      agent with threads := agent.threads.set 0 (.waiting agent.gHReadQueue)
    } where
  single := by simp [threads]
  current handle member := by
    rw [threads, open_] at member
    simp only [List.set_cons_zero, List.mem_singleton,
      WorkingThread.waiting.injEq] at member
    refine ⟨queue, member, open_, kept.queues.isOpen ?_⟩
    simp [heldQueues, open_]
  queues := kept.queues
  devices := kept.devices
  noQueues empty := by simp [threads] at empty
  noDevice empty := by simp [threads] at empty

/-- Every step that conforms keeps the agent. -/
theorem LifecycleKept.step
    {agent next : AgentState}
    (kept : agent.LifecycleKept)
    (conforms : agent.LifecycleConforms action)
    (stepped : agent.step action.toAction = some (output, next)) :
    next.LifecycleKept := by
  cases action with
  | initializeMsg =>
      cases stepped
      exact lifecycleKept_sendMessage_iff.mpr (kept.initializeAgent conforms)
  | uninitializeMsg =>
      cases stepped
      exact lifecycleKept_sendMessage_iff.mpr (kept.uninitializeAgent conforms)
  | startThread index =>
      simp only [SucceedingAction.toAction, AgentState.step] at stepped
      split at stepped
      · rename_i present
        obtain ⟨rfl, threads⟩ := kept.threads_eq present
        obtain ⟨queue, open_⟩ :=
          Option.isSome_iff_exists.mp (conforms present)
        cases stepped
        exact kept.startThread threads open_
      · cases stepped

/-- The agent behind a step is sound exactly when the step conforms. -/
theorem LifecycleKept.sound_iff
    {agent next : AgentState}
    (kept : agent.LifecycleKept)
    (stepped : agent.step action.toAction = some (output, next)) :
    next.LifecycleSound ↔ agent.LifecycleConforms action := by
  constructor
  · intro sound
    cases action with
    | initializeMsg =>
        cases stepped
        have single : (agent.threads ++ [WorkingThread.created]).length ≤ 1 :=
          sound.single
        rw [List.length_append, List.length_singleton] at single
        exact List.eq_nil_of_length_eq_zero (by omega)
    | uninitializeMsg =>
        intro thread member
        cases stepped
        cases thread with
        | created => rfl
        | waiting handle =>
            obtain ⟨queue, -, none_, -⟩ := sound.current handle member
            cases none_
    | startThread index =>
        intro present
        obtain ⟨rfl, threads⟩ := kept.threads_eq present
        simp only [SucceedingAction.toAction, AgentState.step,
          present] at stepped
        cases stepped
        obtain ⟨queue, same, -⟩ := sound.current agent.gHReadQueue (by
          simp [threads])
        exact Option.isSome_of_eq_some same
  · intro conforms
    exact (kept.step conforms stepped).toLifecycleSound

end AgentState

/-- The agent while all calls of the operating system succeed. -/
def lifecycleMachine :
    Machine AgentState AgentState.SucceedingAction (Option Command) where
  step agent action := agent.step action.toAction

namespace AgentState

/-- From a kept agent on, every agent reached is sound exactly when the steps
conform. -/
theorem LifecycleKept.always_iff
    {agent : AgentState}
    (kept : agent.LifecycleKept)
    (actions : List SucceedingAction) :
    lifecycleMachine.Always (fun _ _ _ next => next.LifecycleSound) agent
        actions ↔
      lifecycleMachine.Admits LifecycleConforms agent actions := by
  apply Machine.always_iff_admits LifecycleKept ?_ ?_ ?_ kept
  · intro agent action output next kept stepped
    exact kept.sound_iff stepped
  · intro agent action kept stuck
    cases action with
    | initializeMsg => cases stuck
    | uninitializeMsg => cases stuck
    | startThread index =>
        intro present
        change agent.step (.startThread index) = none at stuck
        simp [AgentState.step, present] at stuck
  · intro agent action output next kept conforms stepped
    exact kept.step conforms stepped

/-- Every agent reached is sound exactly when it is initialized only before
there is a working thread, is uninitialized only while no thread waits, and a
thread begins only while the read queue is open. -/
theorem lifecycleSound_iff_conforms (actions : List SucceedingAction) :
    lifecycleMachine.Always (fun _ _ _ next => next.LifecycleSound) start
        actions ↔
      lifecycleMachine.Admits LifecycleConforms start actions :=
  lifecycleKept_start.always_iff actions

/-- The session that the closing of the port ends. -/
def closedSession : List SucceedingAction :=
  [.initializeMsg, .startThread 0, .uninitializeMsg]

/-- The working thread is left waiting on a queue that was closed. -/
theorem not_lifecycleSound_closedSession :
    ¬ lifecycleMachine.Always (fun _ _ _ next => next.LifecycleSound) start
      closedSession := by
  rw [lifecycleKept_start.always_iff]
  decide

end AgentState
end Agent
end BthEmul
