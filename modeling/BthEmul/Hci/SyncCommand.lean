import BthEmul.Hci.Commands

/-!
# Commands that wait for their result

A wrapper queues a command, sends it, waits until the event thread signals the
slot and reads the status from the result buffer. What it waits for and where
it reads the status depend on the command only.
-/

namespace BthEmul

open Foundation

namespace Hci

/-! ## The event thread -/

/-- The event that a `CHciRoundTrip` waits for. -/
structure PendingEvent where
  /-- `m_PendingEvent`. -/
  eventCode : UInt8
  /-- The block behind `m_pEventParameters`. -/
  parameters : List UInt8
  /-- `m_dwEventParameterLength`. -/
  dwParameterLength : Nat
  /-- `m_hEventSignal` is signalled. -/
  hEventSignal : Bool

/-- A `CHciLocal`, or a `CHciRoundTrip` with its pending event. The constructor
leaves the pending event uninitialised, so it may be any. -/
structure Host where
  /-- `m_QueuedCommands`. -/
  queue : CommandQueue
  /-- The pending event, if there may be one. -/
  pending : Option PendingEvent

namespace Host

/-- `CHciRoundTrip::OnEvent`: the pending event does not reach the queue. -/
def onEventRoundTrip
    (host : Host)
    (pending : PendingEvent)
    (pEvent : List UInt8) : Option (UInt32 × Host) := do
  let eventCode ← pEvent[0]?
  if eventCode = pending.eventCode then
    if pending.dwParameterLength < pEvent.length then
      some (errorInternalError, {
        host with
        pending := some {
          pending with
          dwParameterLength := 0
          hEventSignal := true } })
    else if pEvent.length ≤ pending.parameters.length then
      some (errorSuccess, {
        host with
        pending := some {
          pending with
          parameters := pEvent ++ pending.parameters.drop pEvent.length
          dwParameterLength := pEvent.length
          hEventSignal := true } })
    else none
  else do
    let (_, queue) ← host.queue.onEvent pEvent
    some (errorSuccess, { host with queue := queue })

/-- `OnEvent`, which a `CHciRoundTrip` overrides. -/
def onEvent
    (host : Host)
    (pEvent : List UInt8) : Option (UInt32 × Host) :=
  match host.pending with
  | none => do
      let (result, queue) ← host.queue.onEvent pEvent
      some (result, { host with queue := queue })
  | some pending => host.onEventRoundTrip pending pEvent

end Host

/-! ## Waiting -/

/-- The wait for the event of a slot, which resets it. There is no result while
the event is not signalled. -/
def CommandQueue.wait
    (queue : CommandQueue)
    (nSlot : Fin maxQueuedCommands) : Option CommandQueue :=
  if (queue nSlot).hEvent then
    some (Function.update queue nSlot { queue nSlot with hEvent := false })
  else none

/-- What becomes of a wrapper. -/
inductive Outcome
  | returns (dwResult : UInt32) (result : List UInt8)
  | waits
  deriving DecidableEq

/-- A wrapper around a `CHci` function. -/
structure SyncCommand where
  /-- The opcode that is queued. -/
  nCommand : UInt16
  /-- The block that is queued as the result buffer. -/
  pResultBuffer : List UInt8
  /-- What is sent, if building it stays in bounds. -/
  command : Option HciCommand
  /-- The memory of the caller for the result. -/
  result : List UInt8
  /-- What is returned and left in the memory of the caller when the wait is
  over, from the block of the result buffer. -/
  conclude : List UInt8 → Option (UInt32 × List UInt8)

namespace SyncCommand

/-- A wrapper from its wait on. -/
def afterEvent
    (sync : SyncCommand)
    (host : Host)
    (nSlot : Fin maxQueuedCommands) : Option (Outcome × Host) :=
  match host.queue.wait nSlot with
  | none => some (.waits, host)
  | some queue => do
      let (dwResult, result) ← sync.conclude (queue nSlot).resultBuffer
      some (.returns dwResult result,
        { host with queue := queue.deQueueCommand nSlot })

/-- A wrapper while one event arrives. There is no result when no slot is free,
for the slot `-1` is used then. -/
def run
    (sync : SyncCommand)
    (sender : Sender)
    (host : Host)
    (pEvent : List UInt8) : Option (Outcome × Host) :=
  match host.queue.queueCommand sync.nCommand sync.pResultBuffer with
  | (none, _) => none
  | (some nSlot, queue) => do
      let command ← sync.command
      if command.send sender ≠ errorSuccess then
        some (.returns (command.send sender) sync.result,
          { host with queue := queue.deQueueCommand nSlot })
      else do
        let (_, next) ← { host with queue := queue : Host }.onEvent pEvent
        sync.afterEvent next nSlot

/-- A wrapper with a status byte of its own, which it returns. -/
def ofStatusByte
    (nCommand : UInt16)
    (command : Option HciCommand) : SyncCommand where
  nCommand := nCommand
  pResultBuffer := [0]
  command := command
  result := []
  conclude block := do
    let status ← block[0]?
    some (status.toUInt32, [])

/-- A wrapper that queues with `QueueCommandStatus` and returns what
`WaitForCommandStatus` reads. -/
def ofCommandStatus
    (nCommand : UInt16)
    (command : HciCommand) : SyncCommand where
  nCommand := nCommand
  pResultBuffer := List.replicate sizeOfCommandStatus 0
  command := some command
  result := []
  conclude block := do
    let status ← block[statusOffset]?
    some (status.toUInt32, [])

/-- A wrapper with a structure of the caller that begins with the status. -/
def ofResult
    (nCommand : UInt16)
    (command : HciCommand)
    (commandComplete : List UInt8) : SyncCommand where
  nCommand := nCommand
  pResultBuffer := commandComplete
  command := some command
  result := commandComplete
  conclude block := do
    let status ← block[0]?
    some (status.toUInt32, block)

end SyncCommand

/-! ## The wrappers of `CHciLocal` -/

namespace CHciLocal

/-- `sizeof( FBT_HCI_READ_LOCAL_VERSION_INFORMATION_COMPLETE )`. -/
def sizeOfReadLocalVersionInformationComplete : Nat := 9

/-- `sizeof( FBT_HCI_READ_BD_ADDR_COMPLETE )`. -/
def sizeOfReadBDADDRComplete : Nat := 7

/-- `sizeof( FBT_HCI_READ_BUFFER_SIZE_COMPLETE )`. -/
def sizeOfReadBufferSizeComplete : Nat := 8

/-- `SendSetEventFilter`. -/
def sendSetEventFilter
    (filterType filterConditionType : UInt8)
    (condition : List UInt8)
    (conditionBytes : UInt8) : SyncCommand :=
  .ofStatusByte cmdSetEventFilter
    (CHci.sendSetEventFilter filterType filterConditionType condition
      conditionBytes)

/-- `SendInquiry`. -/
def sendInquiry
    (lap : UInt32)
    (inquiryLength numResponses : UInt8) : SyncCommand :=
  .ofCommandStatus cmdInquiry
    (CHci.sendInquiry lap inquiryLength numResponses)

/-- `SendInquiryCancel`. -/
def sendInquiryCancel : SyncCommand :=
  .ofStatusByte cmdInquiryCancel (some CHci.sendInquiryCancel)

/-- `SendCreateConnection`. -/
def sendCreateConnection
    (bdAddr : Buffer UInt8 bdAddrSize)
    (packetType : UInt16)
    (pageScanRepetitionMode pageScanMode : UInt8)
    (clockOffset : UInt16)
    (allowRoleSwitch : UInt8) : SyncCommand :=
  .ofCommandStatus cmdCreateConnection
    (CHci.sendCreateConnection bdAddr packetType pageScanRepetitionMode
      pageScanMode clockOffset allowRoleSwitch)

/-- `SendDisconnect`. -/
def sendDisconnect
    (connectionHandle : UInt16)
    (reason : UInt8) : SyncCommand :=
  .ofCommandStatus cmdDisconnect
    (CHci.sendDisconnect connectionHandle reason)

/-- `SendSwitchRole`. -/
def sendSwitchRole
    (bdAddr : Buffer UInt8 bdAddrSize)
    (role : UInt8) : SyncCommand :=
  .ofCommandStatus cmdSwitchRole (CHci.sendSwitchRole bdAddr role)

/-- `SendRemoteNameRequest`. -/
def sendRemoteNameRequest
    (bdAddr : Buffer UInt8 bdAddrSize)
    (pageScanRepetitionMode pageScanMode : UInt8)
    (clockOffset : UInt16) : SyncCommand :=
  .ofCommandStatus cmdRemoteNameRequest
    (CHci.sendRemoteNameRequest bdAddr pageScanRepetitionMode pageScanMode
      clockOffset)

/-- `SendReset`. -/
def sendReset : SyncCommand :=
  .ofStatusByte cmdReset (some CHci.sendReset)

/-- `SendWriteClassOfDevice`. -/
def sendWriteClassOfDevice
    (classOfDevice : Buffer UInt8 deviceClassSize) : SyncCommand :=
  .ofStatusByte cmdWriteClassOfDevice
    (some (CHci.sendWriteClassOfDevice classOfDevice))

/-- `SendReadLocalVersionInformation`. -/
def sendReadLocalVersionInformation
    (commandComplete :
      Buffer UInt8 sizeOfReadLocalVersionInformationComplete) : SyncCommand :=
  .ofResult cmdReadLocalVersionInformation
    CHci.sendReadLocalVersionInformation commandComplete.cells

/-- `SendReadBDADDR`. -/
def sendReadBDADDR
    (commandComplete : Buffer UInt8 sizeOfReadBDADDRComplete) : SyncCommand :=
  .ofResult cmdReadBDADDR CHci.sendReadBDADDR commandComplete.cells

/-- `SendReadBufferSize`. -/
def sendReadBufferSize
    (commandComplete : Buffer UInt8 sizeOfReadBufferSizeComplete) :
    SyncCommand :=
  .ofResult cmdReadBufferSize CHci.sendReadBufferSize commandComplete.cells

end CHciLocal

/-! ## The wrappers of `CHciRoundTrip` -/

namespace CHciRoundTrip

/-- `ReadClassOfDevice`, which queues the opcode of an inquiry and copies the
class from behind its status byte. -/
def readClassOfDevice
    (classOfDevice : Buffer UInt8 deviceClassSize) : SyncCommand where
  nCommand := cmdInquiry
  pResultBuffer := [0]
  command := some CHci.sendReadClassOfDevice
  result := classOfDevice.cells
  conclude block := do
    let nStatus ← block[0]?
    if nStatus ≠ 0 then some (nStatus.toUInt32, classOfDevice.cells)
    else if 1 + deviceClassSize ≤ block.length then
      some (errorSuccess, (block.drop 1).take deviceClassSize)
    else none

/-- `ReadLocalName` with what the memory of its result holds before. -/
def readLocalName
    (name : Buffer UInt8 nameSize)
    (result : Buffer UInt8 (1 + nameSize)) : SyncCommand where
  nCommand := cmdReadLocalName
  pResultBuffer := result.cells
  command := some CHci.sendReadLocalName
  result := name.cells
  conclude block := do
    let nStatus ← block[0]?
    if nStatus ≠ 0 then some (nStatus.toUInt32, name.cells)
    else some (errorSuccess, (block.drop 1).take nameSize)

end CHciRoundTrip
end Hci
end BthEmul
