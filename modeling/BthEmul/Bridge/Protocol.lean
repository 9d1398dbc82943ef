import BthEmul.Agent.Forwarding
import BthEmul.Foundation.Machine
import BthEmul.Foundation.Provenance

/-!
# The bridge between the driver and the desktop

The driver, the agent on the device and the plugin on the desktop run
concurrently and exchange messages over three queues of one message each and
over the command transport. An action is the progress of one of them between
two points where it waits for another; any order of actions is a run.

Messages and commands carry the write call they go back to, and replies also
the call of `SendHCICommand` whose result they report. The code has neither:
they only serve to say what a reply is about.
-/

namespace BthEmul

open Foundation Agent SerialPort

namespace Bridge

/-- A call of `BTE_Write`. -/
structure WriteCall where
  /-- The number of calls before it. -/
  number : Nat
  /-- The bytes to write. -/
  array : CArray
  deriving DecidableEq

/-- A call of `SendHCICommand` that has returned. -/
structure Performance where
  /-- The bytes sent. -/
  bytes : List UInt8
  /-- The value returned. -/
  ret : Int32
  /-- The value of `GetLastWin32Error` afterwards. -/
  lastWin32Error : UInt32
  deriving DecidableEq

/-- `lastError` of `OnDeviceDataReceived`. -/
def Performance.lastError (performance : Performance) : UInt32 :=
  if performance.ret = 0 then performance.lastWin32Error else 0

/-- A command of the desktop. -/
structure DesktopCommand where
  /-- The command id. -/
  id : UInt32
  /-- The only parameter. -/
  parameter : InParameter
  /-- The call whose result the command reports. -/
  performance : Option Performance
  deriving DecidableEq

/-- A message on the error queue. -/
structure ErrorReport where
  /-- The error code. -/
  dwLastError : UInt32
  /-- The call whose result the code is. -/
  performance : Option Performance
  deriving DecidableEq

/-- What a command callback has left to do. -/
inductive Callback
  | activate
  | deactivate
  | send (id : MessageId)
  deriving DecidableEq

/-- How far the plugin is with a data command: before `SendHCICommand`, or
before its result is sent. The parameters behind are still to be looked at. -/
inductive Task
  | sending (bytes : List UInt8) (rest : List Parameter)
  | replying (performance : Performance) (rest : List Parameter)
  deriving DecidableEq

/-- The driver, the agent, the plugin and what is between them. -/
structure State where
  /-- The driver is active and its queue handles are valid. -/
  driverOpen : Bool
  /-- The number of calls of `BTE_Write` so far. -/
  calls : Nat
  /-- The messages of calls that wait in `WriteMsgQueue`. -/
  sending : List (Tagged WriteCall Message)
  /-- The calls that wait for a message on the error queue. -/
  waiting : List WriteCall
  /-- The number of open handles of each queue. -/
  handles : Nat
  /-- The queue from the driver to the agent. -/
  fromDevice : Option (Tagged WriteCall Message)
  /-- The queue from the agent to the driver. -/
  toDevice : Option Message
  /-- The error queue. -/
  errorQueue : Option (Tagged WriteCall ErrorReport)
  /-- The queue handles of the agent are not null. -/
  agentOpen : Bool
  /-- `g_hDevice` is not null. -/
  device : Bool
  /-- A working thread exists. -/
  working : Bool
  /-- The object behind `g_pCmd`. -/
  command : Option CommandPacket
  /-- The messages that working threads have received and not sent yet. -/
  forwarding : List (Tagged WriteCall Message)
  /-- The command callbacks in progress. -/
  callbacks : List Callback
  /-- The commands on the way to the desktop. -/
  toDesktop : List (Tagged WriteCall Command)
  /-- The commands on the way to the agent. -/
  toAgent : List (Tagged WriteCall DesktopCommand)
  /-- The command transport is connected. -/
  connected : Bool
  /-- `devId` is valid. -/
  devId : Bool
  /-- Device logging is on in the control panel. -/
  deviceLogging : Bool
  /-- The data commands the plugin works on. -/
  tasks : List (Tagged WriteCall Task)
  deriving DecidableEq

/-- The agent has been started and the plugin has been loaded. -/
def start (devId : Bool) : State where
  driverOpen := false
  calls := 0
  sending := []
  waiting := []
  handles := 0
  fromDevice := none
  toDevice := none
  errorQueue := none
  agentOpen := false
  device := false
  working := false
  command := some []
  forwarding := []
  callbacks := []
  toDesktop := []
  toAgent := []
  connected := true
  devId := devId
  deviceLogging := false
  tasks := []

/-- What an action shows. -/
inductive Event
  | silent
  | called (call : WriteCall)
  | failed (call : WriteCall)
  | returned
      (call : WriteCall)
      (report : Tagged WriteCall ErrorReport)
      (result : Except (Option UInt32) Nat)
  | answered (origin : Option WriteCall)
  deriving DecidableEq

/-! ## The driver -/

/-- The message a call of `BTE_Write` puts on the queue. -/
def writtenMessage (array : CArray) : Option Message := do
  let outcome ← bteWrite openContext array (some .lenient) none
  outcome.queued

/-- The message of `BTE_Open` and `BTE_Close`. -/
def portMessage (id : MessageId) : Option Message := do
  let (_, typed) ← Packet.fresh.writeInt PacketType.message.code.toInt32
  let (_, packet) ← typed.writeInt id.code.toInt32
  let written ← writePacket (some .lenient) packet
  written

/-- `BTE_Write` up to `WriteMsgQueue`. -/
def callWrite (state : State) (array : CArray) : Option (Event × State) := do
  if state.driverOpen then
    let message ← writtenMessage array
    let call := { number := state.calls, array := array }
    some (.called call, {
      state with
      calls := state.calls + 1
      sending := state.sending ++ [⟨message, some call⟩] })
  else none

/-- `BTE_Open` and `BTE_Close` up to `WriteMsgQueue`. -/
def callPort (state : State) (id : MessageId) : Option (Event × State) := do
  if state.driverOpen then
    let message ← portMessage id
    some (.silent, {
      state with sending := state.sending ++ [⟨message, none⟩] })
  else none

/-- `WriteMsgQueue` of the driver: it waits for the queue to be empty, and
fails where the handle has been closed. -/
def queueMessage (state : State) (index : Nat) : Option (Event × State) := do
  let (message, sending) ← pick state.sending index
  if state.driverOpen then
    if state.fromDevice = none then
      some (.silent, {
        state with
        sending := sending
        fromDevice := some message
        waiting := state.waiting ++ message.origin.toList })
    else none
  else
    match message.origin with
    | some call => some (.failed call, { state with sending := sending })
    | none => some (.silent, { state with sending := sending })

/-- `ReadMsgQueue` of `BTE_Write`: it waits for a message on the error queue,
and fails where the handle has been closed. -/
def returnWrite (state : State) (index : Nat) : Option (Event × State) := do
  let (call, waiting) ← pick state.waiting index
  if state.driverOpen then
    let report ← state.errorQueue
    let outcome ← bteWrite openContext call.array (some .lenient)
      (some report.content.dwLastError)
    some (.returned call report outcome.returned, {
      state with
      waiting := waiting
      errorQueue := none })
  else
    some (.failed call, { state with waiting := waiting })

/-- `ReadMsgQueue` of `BTE_Read`. -/
def readPort (state : State) : Option (Event × State) :=
  if state.driverOpen ∧ state.toDevice ≠ none then
    some (.silent, { state with toDevice := none })
  else none

/-! ## The queues -/

/-- `CreateMsgQueues`. -/
def createMsgQueues (state : State) : State :=
  { state with handles := state.handles + 1 }

/-- `CloseMsgQueue` of each queue: the queues go with their last handle. -/
def closeMsgQueues (state : State) : State :=
  if state.handles ≤ 1 then {
    state with
    handles := 0
    fromDevice := none
    toDevice := none
    errorQueue := none }
  else { state with handles := state.handles - 1 }

/-! ## The agent -/

/-- `ReadMsgQueue` of the working thread. -/
def takeMessage (state : State) : Option (Event × State) :=
  if state.working ∧ state.agentOpen then
    match state.fromDevice with
    | none => none
    | some message =>
        some (.silent, {
          state with
          fromDevice := none
          forwarding := state.forwarding ++ [message] })
  else none

/-- `ReadDeviceWriteDesktop` once the message has been received. -/
def forwardMessage
    (state : State)
    (index : Nat)
    (accepted : Bool) : Option (Event × State) := do
  let (message, forwarding) ← pick state.forwarding index
  let (pushed, command) ←
    readDeviceWriteDesktop (some message.content) accepted state.command
  let delivered := if accepted then pushed.toList else []
  some (.silent, {
    state with
    forwarding := forwarding
    command := command
    toDesktop := state.toDesktop ++
      delivered.map fun command => ⟨command, message.origin⟩ })

/-- The message ids the command callback reacts to. The agent is initialized
and uninitialized in two parts, before and after the driver is. -/
def messageCallback (state : State) (id : MessageId) : State :=
  match id with
  | .agentInitializeMsg =>
      { createMsgQueues state with
        agentOpen := true
        callbacks := state.callbacks ++ [.activate] }
  | .agentUninitializeMsg =>
      { (if state.agentOpen then closeMsgQueues state else state) with
        agentOpen := false
        callbacks := state.callbacks ++ [.deactivate] }
  | .agentAckMsg | .agentPingMsg | .agentLoggingOnMsg | .agentLoggingOffMsg =>
      { state with callbacks := state.callbacks ++ [.send id] }
  | .comOpenMsg | .comCloseMsg => state

/-- `CommandCallback`: it waits for the queue it writes to to be empty. -/
def commandCallback
    (state : State)
    (command : Tagged WriteCall DesktopCommand) : Option State :=
  let dwCmd := command.content.id
  let parameter := command.content.parameter
  if dwCmd = PacketType.message.code then
    match parameter.toDword?.bind MessageId.ofCode with
    | none => some state
    | some id => some (messageCallback state id)
  else if dwCmd = PacketType.hciData.code then do
    let queue := if state.agentOpen then some .lenient else none
    match ← readDesktopWriteDevicePacket dwCmd (some parameter) queue with
    | none => some state
    | some message =>
        if state.toDevice = none then
          some { state with toDevice := some message }
        else none
  else if dwCmd = PacketType.hciDataError.code then
    match parameter.toDword? with
    | none => some state
    | some dwLastError =>
        if state.agentOpen then
          if state.errorQueue = none then
            some {
              state with
              errorQueue := some {
                content := {
                  dwLastError := dwLastError
                  performance := command.content.performance }
                origin := command.origin } }
          else none
        else some state
  else some state

/-- A command of the desktop is given to the command callback. -/
def runCallback (state : State) (index : Nat) : Option (Event × State) := do
  let (command, toAgent) ← pick state.toAgent index
  let next ← commandCallback { state with toAgent := toAgent } command
  some (.silent, next)

/-- How the part of `Initialize` behind the queues can end: before
`RegisterDevice`, with `RegisterDevice` refusing every index, or with an active
driver and a new working thread. -/
inductive Activation
  | skipped
  | refused
  | registered
  deriving DecidableEq

/-- The rest of `Initialize`, in which the driver runs `BTE_Init`. -/
def activate (state : State) (activation : Activation) : State :=
  match activation with
  | .skipped => state
  | .refused => { state with device := false }
  | .registered =>
      { createMsgQueues state with
        driverOpen := true
        device := true
        working := true }

/-- `DeactivateDriver`, in which the driver runs `BTE_Deinit`. -/
def deactivateDriver (state : State) : State :=
  if state.device then
    { (if state.driverOpen then closeMsgQueues state else state) with
      driverOpen := false
      device := false }
  else state

/-- `SendCommand` of a message id. -/
def sendMessage (state : State) (id : MessageId) (accepted : Bool) : State :=
  let sent := sendCommandMessage PacketType.message.code id.code accepted
    state.command
  let delivered := if sent.returned then sent.pushed.toList else []
  { state with
    command := sent.command
    toDesktop := state.toDesktop ++
      delivered.map fun command => ⟨command, none⟩ }

/-- A command callback goes on. -/
def resumeCallback
    (state : State)
    (index : Nat)
    (activation : Activation)
    (accepted : Bool) : Option (Event × State) := do
  let (callback, callbacks) ← pick state.callbacks index
  match callback with
  | .activate =>
      some (.silent, activate {
        state with callbacks := callbacks ++ [.send .agentInitializeMsg] }
        activation)
  | .deactivate =>
      some (.silent, deactivateDriver {
        state with callbacks := callbacks ++ [.send .agentUninitializeMsg] })
  | .send id =>
      some (.silent,
        sendMessage { state with callbacks := callbacks } id accepted)

/-! ## The plugin -/

/-- `SendCommand` of the plugin. -/
def sendCommand
    (state : State)
    (command : Tagged WriteCall DesktopCommand) : State :=
  if state.connected ∧ state.devId then
    { state with toAgent := state.toAgent ++ [command] }
  else state

/-- A command with a message id. -/
def messageCommand (id : MessageId) : Tagged WriteCall DesktopCommand where
  content := {
    id := PacketType.message.code
    parameter := .ofDword id.code
    performance := none }
  origin := none

/-- `SendDeviceLogging`. -/
def sendDeviceLogging (state : State) : State :=
  sendCommand state (messageCommand
    (if state.deviceLogging then .agentLoggingOnMsg else .agentLoggingOffMsg))

/-- The parameters up to the next one `OnDeviceDataReceived` reacts to. -/
def nextTask : List Parameter → Option Task
  | [] => none
  | .bytes content :: rest =>
      if 0 < content.length then some (.sending content rest)
      else nextTask rest
  | .dword _ :: rest => nextTask rest

/-- Go on with the parameters of a data command. -/
def continueTask
    (state : State)
    (parameters : List Parameter)
    (origin : Option WriteCall) : State :=
  { state with
    tasks := state.tasks ++
      (nextTask parameters).toList.map fun task => ⟨task, origin⟩ }

/-- The plugin's reaction to a message id. -/
def messageReceived (state : State) (id : MessageId) : State :=
  match id with
  | .agentAckMsg => sendCommand state (messageCommand .agentInitializeMsg)
  | .agentInitializeMsg => sendDeviceLogging state
  | .agentUninitializeMsg => sendCommand state (messageCommand .agentInitializeMsg)
  | .comCloseMsg => sendCommand state (messageCommand .agentUninitializeMsg)
  | .agentLoggingOnMsg | .agentLoggingOffMsg | .comOpenMsg | .agentPingMsg => state

/-- `OnCommandPacketReceived`. -/
def commandPacketReceived
    (state : State)
    (command : Tagged WriteCall Command) : State :=
  if command.content.id = PacketType.message.code then
    match command.content.parameters with
    | .dword code :: _ =>
        match MessageId.ofCode code with
        | some id => messageReceived state id
        | none => state
    | _ => state
  else if command.content.id = PacketType.hciData.code then
    continueTask state command.content.parameters command.origin
  else state

/-- A command of the agent is given to the plugin. -/
def receiveCommand (state : State) (index : Nat) : Option (Event × State) := do
  let (command, toDesktop) ← pick state.toDesktop index
  some (.silent,
    commandPacketReceived { state with toDesktop := toDesktop } command)

/-- `SendHCICommand` of `OnDeviceDataReceived`, and what it returned. -/
def performTask
    (state : State)
    (index : Nat)
    (ret : Int32)
    (lastWin32Error : UInt32) : Option (Event × State) := do
  let (task, tasks) ← pick state.tasks index
  match task.content with
  | .sending bytes rest =>
      some (.silent, {
        state with
        tasks := tasks ++
          [⟨.replying { bytes, ret, lastWin32Error } rest, task.origin⟩] })
  | .replying _ _ => none

/-- The command that reports the result of `SendHCICommand`. -/
def errorCommand
    (performance : Performance)
    (origin : Option WriteCall) : Tagged WriteCall DesktopCommand where
  content := {
    id := PacketType.hciDataError.code
    parameter := .ofDword performance.lastError
    performance := some performance }
  origin := origin

/-- `SendCommand` of `OnDeviceDataReceived`. -/
def replyTask (state : State) (index : Nat) : Option (Event × State) := do
  let (task, tasks) ← pick state.tasks index
  match task.content with
  | .sending _ _ => none
  | .replying performance rest =>
      let replied := sendCommand { state with tasks := tasks }
        (errorCommand performance task.origin)
      let event :=
        if state.connected ∧ state.devId then Event.answered task.origin
        else .silent
      some (event, continueTask replied rest task.origin)

/-- `OnHciEvent`. -/
def hciEvent (state : State) (array : CArray) : State :=
  sendCommand state {
    content := {
      id := PacketType.hciData.code
      parameter := .ofBytes array
      performance := none }
    origin := none }

/-! ## The system -/

/-- The progress of one party, with what the system answers. -/
inductive Action
  | callWrite (array : CArray)
  | callOpen
  | callClose
  | queueMessage (index : Nat)
  | returnWrite (index : Nat)
  | readPort
  | takeMessage
  | forwardMessage (index : Nat) (accepted : Bool)
  | runCallback (index : Nat)
  | resumeCallback (index : Nat) (activation : Activation) (accepted : Bool)
  | receiveCommand (index : Nat)
  | performTask (index : Nat) (ret : Int32) (lastWin32Error : UInt32)
  | replyTask (index : Nat)
  | sendAck
  | sendPing
  | setDeviceLogging (deviceLogging : Bool)
  | hciEvent (array : CArray)
  | setConnected (connected : Bool)
  deriving DecidableEq

/-- What an action shows and leaves behind; an action that has to wait has no
result. -/
def step (state : State) : Action → Option (Event × State)
  | .callWrite array => callWrite state array
  | .callOpen => callPort state .comOpenMsg
  | .callClose => callPort state .comCloseMsg
  | .queueMessage index => queueMessage state index
  | .returnWrite index => returnWrite state index
  | .readPort => readPort state
  | .takeMessage => takeMessage state
  | .forwardMessage index accepted => forwardMessage state index accepted
  | .runCallback index => runCallback state index
  | .resumeCallback index activation accepted =>
      resumeCallback state index activation accepted
  | .receiveCommand index => receiveCommand state index
  | .performTask index ret lastWin32Error =>
      performTask state index ret lastWin32Error
  | .replyTask index => replyTask state index
  | .sendAck => some (.silent, sendCommand state (messageCommand .agentAckMsg))
  | .sendPing => some (.silent, sendCommand state (messageCommand .agentPingMsg))
  | .setDeviceLogging deviceLogging =>
      some (.silent, sendDeviceLogging {
        state with deviceLogging := deviceLogging })
  | .hciEvent array => some (.silent, hciEvent state array)
  | .setConnected connected =>
      some (.silent, { state with connected := connected })

end Bridge

/-- The bridge under successive actions. -/
def bridgeMachine : Machine Bridge.State Bridge.Action Bridge.Event where
  step := Bridge.step

end BthEmul
