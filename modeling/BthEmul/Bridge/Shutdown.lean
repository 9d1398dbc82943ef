import BthEmul.Bridge.Acknowledgement

/-!
# Closing the port

Nobody takes a message off the queue to the driver once the port is closed and
no read is left. The command callback, which handles the commands of the
desktop one at a time and in order, then waits forever on a second data packet,
and the command that would have the agent close its queues stays behind it.
-/

namespace BthEmul

open Foundation Agent SerialPort

namespace Bridge

/-- How far the port is. -/
inductive Port
  | unopened
  | opened
  | closed
  deriving DecidableEq

/-- The bridge together with the port and the calls of `BTE_Read` that wait for
a message. -/
structure PortState where
  /-- The bridge. -/
  bridge : State
  /-- The port. -/
  port : Port
  /-- The number of waiting calls of `BTE_Read`. -/
  reads : Nat
  deriving DecidableEq

/-- The bridge before the port was opened. -/
def startPort (devId : Bool) : PortState where
  bridge := start devId
  port := .unopened
  reads := 0

/-- A call of `BTE_Read`, its failure where the handle has been closed, or an
action of the bridge. -/
inductive PortAction
  | startRead
  | failRead
  | act (action : Action)
  deriving DecidableEq

/-- Writes go to the open port, reads that wait may get a message, and the
commands of the desktop are handled one at a time and in order. -/
def Permits (state : PortState) : Action → Prop
  | .callWrite _ => state.port = .opened
  | .callOpen => state.port ≠ .opened
  | .callClose => state.port = .opened
  | .readPort => 0 < state.reads
  | .runCallback index => index = 0 ∧ state.bridge.callbacks = []
  | _ => True

instance decidablePermits (state : PortState) :
    (action : Action) → Decidable (Permits state action)
  | .callWrite _ => inferInstanceAs (Decidable (_ = _))
  | .callOpen => inferInstanceAs (Decidable (_ ≠ _))
  | .callClose => inferInstanceAs (Decidable (_ = _))
  | .readPort => inferInstanceAs (Decidable (_ < _))
  | .runCallback _ => inferInstanceAs (Decidable (_ ∧ _))
  | .queueMessage _ | .returnWrite _ | .takeMessage | .forwardMessage _ _
  | .resumeCallback _ _ _ | .receiveCommand _ | .performTask _ _ _
  | .replyTask _ | .sendAck | .sendPing | .setDeviceLogging _ | .hciEvent _
  | .setConnected _ => isTrue trivial

/-- The port behind an action. -/
def portAfter (port : Port) : Action → Port
  | .callOpen => .opened
  | .callClose => .closed
  | _ => port

/-- The waiting reads behind an action. -/
def readsAfter (reads : Nat) : Action → Nat
  | .readPort => reads - 1
  | _ => reads

/-- What an action shows and leaves behind. -/
def portStep (state : PortState) : PortAction → Option (Event × PortState)
  | .startRead =>
      if state.port = .opened then
        some (.silent, { state with reads := state.reads + 1 })
      else none
  | .failRead =>
      if state.bridge.driverOpen = false ∧ 0 < state.reads then
        some (.silent, { state with reads := state.reads - 1 })
      else none
  | .act action =>
      if Permits state action then do
        let (event, bridge) ← step state.bridge action
        some (event, {
          bridge := bridge
          port := portAfter state.port action
          reads := readsAfter state.reads action })
      else none

end Bridge

/-- The bridge and the port under successive actions. -/
def portMachine : Machine Bridge.PortState Bridge.PortAction Bridge.Event where
  step := Bridge.portStep

namespace Bridge

/-! ## The property -/

/-- A queue that the command callback writes to. -/
inductive Channel
  | device
  | error
  deriving DecidableEq

/-- The id of the commands written to a queue. -/
def Channel.code : Channel → UInt32
  | .device => PacketType.hciData.code
  | .error => PacketType.hciDataError.code

/-- The number of messages on a queue. -/
def queued (state : State) : Channel → Nat
  | .device => state.toDevice.toList.length
  | .error => state.errorQueue.toList.length

/-- The callback of the next command waits in `WriteMsgQueue` for a queue that
is full. -/
def Blocked (state : State) (channel : Channel) : Prop :=
  state.callbacks = [] ∧ 0 < queued state channel ∧
    ∃ command ∈ state.toAgent.head?,
      command.content.id = channel.code ∧
        commandCallback { state with toAgent := state.toAgent.tail }
          command = none

instance (state : State) (channel : Channel) :
    Decidable (Blocked state channel) :=
  inferInstanceAs (Decidable (_ ∧ _ ∧ ∃ command ∈ (_ : Option _), _))

/-- The port is closed and the callback is blocked. -/
def Deadlocked (state : PortState) : Prop :=
  state.port = .closed ∧ ∃ channel, Blocked state.bridge channel

/-! ## The condition -/

/-- The commands for a queue and the messages on it. -/
def inFlight (state : State) (channel : Channel) : Nat :=
  state.toAgent.countP (fun command => command.content.id = channel.code) +
    queued state channel

/-- The port is closed while at most one packet and at most one report are in
flight, and the desktop sends one through a closed port only when none is. -/
def PortConforms (state : PortState) : PortAction → Prop
  | .act .callClose => ∀ channel, inFlight state.bridge channel ≤ 1
  | .act (.hciEvent _) =>
      state.port = .closed → inFlight state.bridge .device = 0
  | .act (.replyTask _) =>
      state.port = .closed → inFlight state.bridge .error = 0
  | _ => True

/-- What an action of the desktop adds to what is in flight. -/
def sent : Action → Channel → Nat
  | .hciEvent _, .device => 1
  | .replyTask _, .error => 1
  | _, _ => 0

/-! ## Commands and messages in flight -/

/-- Where no command and no message is new, nothing more is in flight. -/
theorem inFlight_le_of_sublist
    (commands : next.toAgent.Sublist state.toAgent)
    (messages : queued next channel ≤ queued state channel) :
    inFlight next channel ≤ inFlight state channel :=
  Nat.add_le_add commands.countP_le messages

/-- Where the commands and the queues to the driver stay, the same is in
flight. -/
theorem inFlight_eq_of_same
    (toAgent : next.toAgent = state.toAgent)
    (toDevice : next.toDevice = state.toDevice)
    (errorQueue : next.errorQueue = state.errorQueue) :
    inFlight next channel = inFlight state channel := by
  cases channel <;> simp only [inFlight, queued, toAgent, toDevice, errorQueue]

/-- A command sent to the agent adds to what is in flight for its queue. -/
theorem inFlight_sendCommand_le
    (state : State)
    (command : Tagged WriteCall DesktopCommand)
    (channel : Channel) :
    inFlight (sendCommand state command) channel ≤
      inFlight state channel +
        (if command.content.id = channel.code then 1 else 0) := by
  unfold sendCommand
  split
  · simp only [inFlight, queued, List.countP_append, List.countP_singleton,
      decide_eq_true_eq]
    cases channel <;> omega
  · exact Nat.le_add_right _ _

/-- A command with a message id is for neither queue. -/
theorem inFlight_sendCommand_messageCommand_le
    (state : State)
    (id : MessageId)
    (channel : Channel) :
    inFlight (sendCommand state (messageCommand id)) channel ≤
      inFlight state channel := by
  have other : (messageCommand id).content.id ≠ channel.code := by
    cases channel <;> simp only [messageCommand, Channel.code] <;> decide
  have sent := inFlight_sendCommand_le state (messageCommand id) channel
  rwa [if_neg other] at sent

/-- Closing the queues takes what is on them. -/
theorem inFlight_closeMsgQueues_le
    (state : State)
    (channel : Channel) :
    inFlight (closeMsgQueues state) channel ≤ inFlight state channel := by
  unfold closeMsgQueues
  split
  · refine inFlight_le_of_sublist (List.Sublist.refl state.toAgent) ?_
    cases channel <;> exact Nat.zero_le _
  · exact Nat.le_refl _

/-- A message id is not put on a queue. -/
theorem inFlight_messageCallback_le
    (state : State)
    (id : MessageId)
    (channel : Channel) :
    inFlight (messageCallback state id) channel ≤ inFlight state channel := by
  cases id with
  | agentUninitializeMsg =>
      have same : inFlight (messageCallback state .agentUninitializeMsg)
          channel = inFlight
            (if state.agentOpen then closeMsgQueues state else state)
            channel :=
        inFlight_eq_of_same rfl rfl rfl
      rw [same]
      split
      · exact inFlight_closeMsgQueues_le state channel
      · exact Nat.le_refl _
  | agentInitializeMsg => exact Nat.le_of_eq (inFlight_eq_of_same rfl rfl rfl)
  | agentAckMsg | agentPingMsg | agentLoggingOnMsg | agentLoggingOffMsg
  | comOpenMsg | comCloseMsg => exact Nat.le_of_eq (inFlight_eq_of_same rfl rfl rfl)

/-- A command that was handled is a message on its queue, or gone. -/
theorem inFlight_le_of_commandCallback
    (handled : commandCallback state command = some next)
    (channel : Channel) :
    inFlight next channel ≤
      inFlight state channel +
        (if command.content.id = channel.code then 1 else 0) := by
  by_cases isMessage : command.content.id = PacketType.message.code
  · simp only [commandCallback, if_pos isMessage] at handled
    refine Nat.le_trans ?_ (Nat.le_add_right _ _)
    split at handled
    · cases handled
      exact Nat.le_refl _
    · cases handled
      exact inFlight_messageCallback_le _ _ _
  by_cases isData : command.content.id = PacketType.hciData.code
  · simp only [commandCallback, if_neg isMessage, if_pos isData,
      Option.bind_eq_bind, Option.bind_eq_some_iff] at handled
    obtain ⟨written, -, handled⟩ := handled
    cases written with
    | none =>
        cases handled
        exact Nat.le_add_right _ _
    | some message =>
        by_cases empty : state.toDevice = none
        · simp only [if_pos empty] at handled
          cases handled
          cases channel with
          | device =>
              have forDevice : command.content.id = Channel.device.code := isData
              rw [if_pos forDevice]
              simp only [inFlight, queued, empty]
              exact Nat.le_refl _
          | error => exact Nat.le_add_right _ _
        · simp only [if_neg empty] at handled
          cases handled
  by_cases isError : command.content.id = PacketType.hciDataError.code
  · simp only [commandCallback, if_neg isMessage, if_neg isData,
      if_pos isError] at handled
    cases parameter : command.content.parameter.toDword? with
    | none =>
        simp only [parameter] at handled
        cases handled
        exact Nat.le_add_right _ _
    | some dwLastError =>
        simp only [parameter] at handled
        by_cases agentOpen : state.agentOpen
        · by_cases empty : state.errorQueue = none
          · simp only [if_pos agentOpen, if_pos empty] at handled
            cases handled
            cases channel with
            | device => exact Nat.le_add_right _ _
            | error =>
                have forError : command.content.id = Channel.error.code :=
                  isError
                rw [if_pos forError]
                simp only [inFlight, queued, empty]
                exact Nat.le_refl _
          · simp only [if_pos agentOpen, if_neg empty] at handled
            cases handled
        · simp only [if_neg agentOpen] at handled
          cases handled
          exact Nat.le_add_right _ _
  · simp only [commandCallback, if_neg isMessage, if_neg isData,
      if_neg isError] at handled
    cases handled
    exact Nat.le_add_right _ _

/-- A command taken out was in flight for its queue. -/
theorem inFlight_of_pick
    (picked : pick state.toAgent index = some (command, toAgent))
    (channel : Channel) :
    inFlight state channel =
      inFlight { state with toAgent := toAgent } channel +
        (if command.content.id = channel.code then 1 else 0) := by
  have counted := (perm_of_pick picked).countP_eq
    (fun each => decide (each.content.id = channel.code))
  rw [List.countP_cons] at counted
  simp only [decide_eq_true_eq] at counted
  simp only [inFlight, counted]
  cases channel <;> simp only [queued] <;> omega

/-- The callback leaves no more in flight. -/
theorem inFlight_le_of_runCallback
    (stepped : runCallback state index = some (event, next))
    (channel : Channel) :
    inFlight next channel ≤ inFlight state channel := by
  simp only [runCallback, Option.bind_eq_bind, Option.bind_eq_some_iff,
    Prod.exists] at stepped
  obtain ⟨command, toAgent, picked, after, handled, stepped⟩ := stepped
  cases stepped
  rw [inFlight_of_pick picked]
  exact inFlight_le_of_commandCallback handled channel

/-- The rest of a callback adds nothing to the queues to the driver. -/
theorem inFlight_le_of_resumeCallback
    (stepped : resumeCallback state index activation accepted =
      some (event, next))
    (channel : Channel) :
    inFlight next channel ≤ inFlight state channel := by
  simp only [resumeCallback, Option.bind_eq_bind, Option.bind_eq_some_iff,
    Prod.exists] at stepped
  obtain ⟨callback, callbacks, -, stepped⟩ := stepped
  cases callback with
  | activate =>
      cases stepped
      cases activation <;> exact Nat.le_of_eq (inFlight_eq_of_same rfl rfl rfl)
  | deactivate =>
      cases stepped
      unfold deactivateDriver
      split
      · apply Nat.le_trans (Nat.le_of_eq (inFlight_eq_of_same rfl rfl rfl))
        split
        · exact inFlight_closeMsgQueues_le _ _
        · exact Nat.le_refl _
      · exact Nat.le_of_eq (inFlight_eq_of_same rfl rfl rfl)
  | send id =>
      cases stepped
      exact Nat.le_of_eq (inFlight_eq_of_same rfl rfl rfl)

/-- A message id makes the plugin send message ids only. -/
theorem inFlight_messageReceived_le
    (state : State)
    (id : MessageId)
    (channel : Channel) :
    inFlight (messageReceived state id) channel ≤ inFlight state channel := by
  cases id with
  | agentAckMsg | agentUninitializeMsg | comCloseMsg | agentInitializeMsg =>
      exact inFlight_sendCommand_messageCommand_le _ _ _
  | agentLoggingOnMsg | agentLoggingOffMsg | comOpenMsg | agentPingMsg =>
      exact Nat.le_refl _

/-- A command of the agent makes the plugin send message ids only. -/
theorem inFlight_commandPacketReceived_le
    (state : State)
    (command : Tagged WriteCall Command)
    (channel : Channel) :
    inFlight (commandPacketReceived state command) channel ≤
      inFlight state channel := by
  unfold commandPacketReceived
  split
  · split
    · split
      · exact inFlight_messageReceived_le _ _ _
      · exact Nat.le_refl _
    · exact Nat.le_refl _
  · split
    · exact Nat.le_of_eq (inFlight_eq_of_same rfl rfl rfl)
    · exact Nat.le_refl _

/-- The only report a task adds is the result of its own call. -/
theorem inFlight_le_of_replyTask
    (stepped : replyTask state index = some (event, next))
    (channel : Channel) :
    inFlight next channel ≤
      inFlight state channel + sent (.replyTask index) channel := by
  simp only [replyTask, Option.bind_eq_bind, Option.bind_eq_some_iff,
    Prod.exists] at stepped
  obtain ⟨⟨content, origin⟩, tasks, -, stepped⟩ := stepped
  cases content with
  | sending bytes rest => cases stepped
  | replying performance rest =>
      cases stepped
      have added := inFlight_sendCommand_le { state with tasks := tasks }
        (errorCommand performance origin) channel
      cases channel <;> exact added

/-- `BTE_Write` takes a message at most. -/
theorem inFlight_le_of_returnWrite
    (stepped : returnWrite state index = some (event, next))
    (channel : Channel) :
    inFlight next channel ≤ inFlight state channel := by
  simp only [returnWrite, Option.bind_eq_bind, Option.bind_eq_some_iff,
    Prod.exists] at stepped
  obtain ⟨call, waiting, -, stepped⟩ := stepped
  split at stepped
  · rw [Option.bind_eq_some_iff] at stepped
    obtain ⟨report, -, stepped⟩ := stepped
    rw [Option.bind_eq_some_iff] at stepped
    obtain ⟨outcome, -, stepped⟩ := stepped
    cases stepped
    refine inFlight_le_of_sublist (List.Sublist.refl state.toAgent) ?_
    cases channel with
    | device => exact Nat.le_refl _
    | error => exact Nat.zero_le _
  · cases stepped
    exact Nat.le_of_eq (inFlight_eq_of_same rfl rfl rfl)

/-- `BTE_Read` takes a message. -/
theorem inFlight_le_of_readPort
    (stepped : readPort state = some (event, next))
    (channel : Channel) :
    inFlight next channel ≤ inFlight state channel := by
  unfold readPort at stepped
  split at stepped
  · cases stepped
    refine inFlight_le_of_sublist (List.Sublist.refl state.toAgent) ?_
    cases channel with
    | device => exact Nat.zero_le _
    | error => exact Nat.le_refl _
  · cases stepped

/-- A message on its way to the desktop is not in flight to the driver. -/
theorem inFlight_eq_of_queueMessage
    (stepped : queueMessage state index = some (event, next))
    (channel : Channel) :
    inFlight next channel = inFlight state channel := by
  simp only [queueMessage, Option.bind_eq_bind, Option.bind_eq_some_iff,
    Prod.exists] at stepped
  obtain ⟨message, sending, -, stepped⟩ := stepped
  split at stepped
  · split at stepped
    · cases stepped
      exact inFlight_eq_of_same rfl rfl rfl
    · cases stepped
  · split at stepped
    · cases stepped
      exact inFlight_eq_of_same rfl rfl rfl
    · cases stepped
      exact inFlight_eq_of_same rfl rfl rfl

/-- The message of an open or close is not in flight to the driver. -/
theorem inFlight_eq_of_callPort
    {id : MessageId}
    (stepped : callPort state id = some (event, next))
    (channel : Channel) :
    inFlight next channel = inFlight state channel := by
  unfold callPort at stepped
  split at stepped
  · simp only [Option.bind_eq_bind, Option.bind_eq_some_iff] at stepped
    obtain ⟨message, -, stepped⟩ := stepped
    cases stepped
    exact inFlight_eq_of_same rfl rfl rfl
  · cases stepped

/-- The message of a write is not in flight to the driver. -/
theorem inFlight_eq_of_callWrite
    (stepped : callWrite state array = some (event, next))
    (channel : Channel) :
    inFlight next channel = inFlight state channel := by
  unfold callWrite at stepped
  split at stepped
  · simp only [Option.bind_eq_bind, Option.bind_eq_some_iff] at stepped
    obtain ⟨message, -, stepped⟩ := stepped
    cases stepped
    exact inFlight_eq_of_same rfl rfl rfl
  · cases stepped

/-- The working thread takes no message for the driver. -/
theorem inFlight_eq_of_takeMessage
    (stepped : takeMessage state = some (event, next))
    (channel : Channel) :
    inFlight next channel = inFlight state channel := by
  unfold takeMessage at stepped
  split at stepped
  · split at stepped
    · cases stepped
    · cases stepped
      exact inFlight_eq_of_same rfl rfl rfl
  · cases stepped

/-- An action leaves at most the command it sends more in flight. -/
theorem inFlight_le_of_step
    (stepped : step state action = some (event, next))
    (channel : Channel) :
    inFlight next channel ≤ inFlight state channel + sent action channel := by
  cases action with
  | callWrite array =>
      exact Nat.le_of_eq (inFlight_eq_of_callWrite stepped channel)
  | callOpen | callClose =>
      exact Nat.le_of_eq (inFlight_eq_of_callPort stepped channel)
  | queueMessage index =>
      exact Nat.le_of_eq (inFlight_eq_of_queueMessage stepped channel)
  | returnWrite index => exact inFlight_le_of_returnWrite stepped channel
  | readPort => exact inFlight_le_of_readPort stepped channel
  | takeMessage =>
      exact Nat.le_of_eq (inFlight_eq_of_takeMessage stepped channel)
  | forwardMessage index accepted =>
      simp only [step, forwardMessage, Option.bind_eq_bind,
        Option.bind_eq_some_iff, Prod.exists] at stepped
      obtain ⟨message, forwarding, -, pushed, command, -, stepped⟩ := stepped
      cases stepped
      exact Nat.le_of_eq (inFlight_eq_of_same rfl rfl rfl)
  | runCallback index => exact inFlight_le_of_runCallback stepped channel
  | resumeCallback index activation accepted =>
      exact inFlight_le_of_resumeCallback stepped channel
  | receiveCommand index =>
      simp only [step, receiveCommand, Option.bind_eq_bind,
        Option.bind_eq_some_iff, Prod.exists] at stepped
      obtain ⟨command, toDesktop, -, stepped⟩ := stepped
      cases stepped
      exact inFlight_commandPacketReceived_le _ _ _
  | performTask index ret lastWin32Error =>
      simp only [step, performTask, Option.bind_eq_bind,
        Option.bind_eq_some_iff, Prod.exists] at stepped
      obtain ⟨⟨content, origin⟩, tasks, -, stepped⟩ := stepped
      cases content with
      | sending bytes rest =>
          cases stepped
          exact Nat.le_of_eq (inFlight_eq_of_same rfl rfl rfl)
      | replying performance rest => cases stepped
  | replyTask index => exact inFlight_le_of_replyTask stepped channel
  | sendAck | sendPing | setDeviceLogging deviceLogging =>
      cases stepped
      exact inFlight_sendCommand_messageCommand_le _ _ _
  | hciEvent array =>
      cases stepped
      have added := inFlight_sendCommand_le state {
        content := {
          id := PacketType.hciData.code
          parameter := .ofBytes array
          performance := none }
        origin := none } channel
      cases channel <;> exact added
  | setConnected connected =>
      cases stepped
      exact Nat.le_of_eq (inFlight_eq_of_same rfl rfl rfl)

/-! ## The closed port -/

/-- A callback that waits has the next message of its queue in hand. -/
theorem Blocked.two_le_inFlight
    (blocked : Blocked state channel) :
    2 ≤ inFlight state channel := by
  obtain ⟨-, full, command, next, forChannel, -⟩ := blocked
  have inToAgent : command ∈ state.toAgent := List.mem_of_mem_head? next
  have counted : 0 < state.toAgent.countP
      (fun command => command.content.id = channel.code) := by
    rw [List.countP_pos_iff]
    exact ⟨command, inToAgent, decide_eq_true forChannel⟩
  exact Nat.add_le_add counted full

/-- At most one packet and one report are in flight to a closed port. -/
def Quiet (state : PortState) : Prop :=
  state.port = .closed → ∀ channel, inFlight state.bridge channel ≤ 1

theorem quiet_start (devId : Bool) : Quiet (startPort devId) := by
  intro closed
  cases closed

/-- No callback waits for a closed port. -/
theorem Quiet.not_deadlocked
    (quiet : Quiet state) :
    ¬ Deadlocked state := by
  rintro ⟨closed, channel, blocked⟩
  have two := blocked.two_le_inFlight
  have one := quiet closed channel
  omega

/-- The port is closed behind an action if it was before, or by a close. -/
theorem closed_of_portAfter
    (closed : portAfter port action = .closed) :
    action = .callClose ∨ port = .closed := by
  cases action with
  | callClose => exact .inl rfl
  | callOpen => cases closed
  | _ => exact .inr closed

/-- An action of the bridge that conforms keeps a closed port quiet. -/
theorem Quiet.act
    (quiet : Quiet state)
    (conforms : PortConforms state (.act action))
    (stepped : step state.bridge action = some (event, bridge)) :
    Quiet { bridge := bridge, port := portAfter state.port action,
            reads := reads } := by
  intro closed channel
  have added := inFlight_le_of_step stepped channel
  rcases closed_of_portAfter closed with rfl | before
  · exact Nat.le_trans added (conforms channel)
  · have few := quiet before channel
    cases action with
    | hciEvent array =>
        have none := conforms before
        cases channel with
        | device => exact Nat.le_trans added (by rw [none]; exact Nat.le_refl _)
        | error => exact Nat.le_trans added few
    | replyTask index =>
        have none := conforms before
        cases channel with
        | device => exact Nat.le_trans added few
        | error => exact Nat.le_trans added (by rw [none]; exact Nat.le_refl _)
    | _ => exact Nat.le_trans added few

/-- Every step that conforms keeps a closed port quiet. -/
theorem Quiet.step
    (quiet : Quiet state)
    (conforms : PortConforms state action)
    (stepped : portStep state action = some (event, next)) :
    Quiet next := by
  cases action with
  | startRead =>
      simp only [portStep] at stepped
      split at stepped
      · cases stepped
        exact quiet
      · cases stepped
  | failRead =>
      simp only [portStep] at stepped
      split at stepped
      · cases stepped
        exact quiet
      · cases stepped
  | act action =>
      simp only [portStep] at stepped
      split at stepped
      · simp only [Option.bind_eq_bind, Option.bind_eq_some_iff,
          Prod.exists] at stepped
        obtain ⟨shown, bridge, acted, stepped⟩ := stepped
        cases stepped
        exact quiet.act conforms acted
      · cases stepped

/-- In every run whose steps conform the callback never waits for a closed
port. -/
theorem not_deadlocked_of_run
    (devId : Bool)
    (actions : List PortAction)
    (events : List Event)
    (final : PortState)
    (conforms : portMachine.Admits PortConforms (startPort devId) actions)
    (ran : portMachine.run (startPort devId) actions = some (events, final)) :
    ¬ Deadlocked final := by
  have quiet := Machine.holds_of_run
    (fun _ state => Quiet state)
    (fun _ _ _ _ _ quiet conforms stepped => quiet.step conforms stepped)
    [] (quiet_start devId) conforms ran
  exact quiet.not_deadlocked

instance (state : State) (bound : Nat) :
    Decidable (∀ channel, inFlight state channel ≤ bound) :=
  decidable_of_iff
    (inFlight state .device ≤ bound ∧ inFlight state .error ≤ bound)
    ⟨fun both channel => match channel with
      | .device => both.1
      | .error => both.2,
      fun all => ⟨all .device, all .error⟩⟩

instance decidablePortConforms (state : PortState) :
    (action : PortAction) → Decidable (PortConforms state action)
  | .act .callClose =>
      inferInstanceAs (Decidable (∀ channel, inFlight _ channel ≤ 1))
  | .act (.hciEvent _) => inferInstanceAs (Decidable (_ = _ → _ = _))
  | .act (.replyTask _) => inferInstanceAs (Decidable (_ = _ → _ = _))
  | .startRead | .failRead => isTrue trivial
  | .act (.callWrite _) | .act .callOpen | .act (.queueMessage _)
  | .act (.returnWrite _) | .act .readPort | .act .takeMessage
  | .act (.forwardMessage _ _) | .act (.runCallback _)
  | .act (.resumeCallback _ _ _) | .act (.receiveCommand _)
  | .act (.performTask _ _ _) | .act .sendAck | .act .sendPing
  | .act (.setDeviceLogging _) | .act (.setConnected _) => isTrue trivial

/-- The bytes of an event. -/
def commandComplete : CArray where
  bytes := [14, 4, 1, 3, 12, 0]
  length_lt := by decide

/-- The actions from a message of the driver to the plugin. -/
def passing : List Action :=
  [.queueMessage 0, .takeMessage, .forwardMessage 0 true, .receiveCommand 0]

/-- The actions from the first message of the plugin to a closed port, with
events in between. -/
def closing (between : List Action) : List PortAction :=
  (opening ++ .callOpen :: passing ++ between ++
    .callClose :: passing).map .act

theorem not_deadlocked_one_event :
    ∃ events final,
      portMachine.run (startPort true)
          (closing [.hciEvent commandComplete, .runCallback 0]) =
        some (events, final) ∧
      final.port = .closed ∧ ¬ Deadlocked final := by
  obtain ⟨events, final, same, closed⟩ :
      ∃ events final,
        portMachine.run (startPort true)
            (closing [.hciEvent commandComplete, .runCallback 0]) =
          some (events, final) ∧
        final.port = .closed := by
    decide +kernel
  exact ⟨events, final, same, closed,
    not_deadlocked_of_run true _ events final (by decide +kernel) same⟩

/-- With two events behind an open port that nobody reads, the callback waits
for the closed port, and the command to close the queues stays behind. -/
theorem deadlocked_two_events :
    ∃ events final,
      portMachine.run (startPort true)
          (closing [.hciEvent commandComplete, .hciEvent commandComplete,
            .runCallback 0]) =
        some (events, final) ∧
      Deadlocked final ∧ final.reads = 0 ∧
      messageCommand .agentUninitializeMsg ∈ final.bridge.toAgent := by
  obtain ⟨events, final, same, closed, blocked, noReads, behind⟩ :
      ∃ events final,
        portMachine.run (startPort true)
            (closing [.hciEvent commandComplete, .hciEvent commandComplete,
              .runCallback 0]) =
          some (events, final) ∧
        final.port = .closed ∧ Blocked final.bridge .device ∧
        final.reads = 0 ∧
        messageCommand .agentUninitializeMsg ∈ final.bridge.toAgent := by
    decide +kernel
  exact ⟨events, final, same, ⟨closed, .device, blocked⟩, noReads, behind⟩

end Bridge
end BthEmul
