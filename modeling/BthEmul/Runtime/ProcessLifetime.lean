import BthEmul.Foundation.Machine
import BthEmul.Foundation.Provenance
import BthEmul.Hci.Commands
import BthEmul.Runtime.RuntimeObjects

/-!
# The runtime and its event handlers

The calls of the runtime that look at the devices follow one another, since
they hold a critical section; the handlers of events run beside them. Opening
asks the hardware through a `CHciLocal` of its own, and closing stops the
threads of an object before it deletes it, so both are told in parts, between
which handlers go on.

A handler has a pointer to the object whose listener or reader began it. Neither
of these waits for its handlers. A handler looks at the object in `OnEvent`,
any number of times, and frees the event and its parameters when it is through.
-/

namespace BthEmul

open Foundation Routine Hci

namespace Runtime
namespace Lifetime

/-! ## The state of the process -/

/-- An entry of `g_bthDevInfo`. -/
structure InfoBlock where
  /-- The memory of the block. -/
  block : Nat
  /-- The information. -/
  devInfo : DeviceInfo
  deriving DecidableEq

/-- `Export_OpenDevice` while it asks the hardware. -/
structure Opening where
  /-- The slot that it has found. -/
  index : Slot
  /-- `bthHw`. -/
  bthHw : HwObject
  /-- `bthHci`. -/
  bthHci : EmulHciObject
  /-- `devInfo`. -/
  devInfo : Nat
  /-- The object of `CBthEmulHci::GetDeviceInfo`. -/
  hciLocal : HciLocalObject
  deriving DecidableEq

/-- The call that holds `g_hciCritSection`. -/
inductive ClientCall
  | idle
  /-- `Export_OpenDevice` asks the hardware. -/
  | asking (opening : Opening)
  /-- `Export_OpenDevice` could not start the listener and the reader. -/
  | failing (bthHw : HwObject) (bthHci : EmulHciObject)
  /-- `Export_CloseDevice` has stopped the threads and detached. -/
  | closing (index : Slot)
  deriving DecidableEq

/-- A thread that handles an event. -/
structure Handler where
  /-- `pThis`. -/
  object : Nat
  /-- How often it is still going to look at the object. -/
  looks : Nat
  /-- `pEvent`. -/
  parameters : Nat
  /-- `pEvent->pEvent`. -/
  event : Nat
  deriving DecidableEq

/-- The memory of a handler. -/
def Handler.blocks (handler : Handler) : List Nat :=
  [handler.event, handler.parameters]

/-- What the runtime points to. -/
structure Process where
  /-- `g_bthHw`. -/
  gBthHw : Slot → Option HwObject
  /-- `g_bthHci`. -/
  gBthHci : Slot → Option EmulHciObject
  /-- `g_bthDevInfo`. -/
  gBthDevInfo : Slot → Option InfoBlock
  /-- The driver devices that the process has open. -/
  busy : List Nat
  /-- The call in progress. -/
  call : ClientCall
  /-- The handlers in progress. -/
  handlers : List Handler

/-- `InitDevicesArray`. -/
def initDevicesArray : Process where
  gBthHw _ := none
  gBthHci _ := none
  gBthDevInfo _ := none
  busy := []
  call := .idle
  handlers := []

/-! ## Opening a device -/

/-- What `Export_OpenDevice` is answered until it asks the hardware. -/
structure OpenAnswers where
  /-- The devices that `CreateFile` finds when a slot is tried. -/
  present : Slot → Nat → Bool
  /-- The events of `bthHci`. -/
  bthHci : EmulAnswers
  /-- The events of the object that asks. -/
  hciLocal : LocalAnswers
  /-- What starting its listener is answered. -/
  listener : ListenerAnswers

/-- The loop of `Export_OpenDevice`. Hardware that does not attach is not
deleted. -/
def tryOpen
    (process : Process)
    (present : Slot → Nat → Bool) : List Slot → Routine (Option (Slot × HwObject))
  | [] => return none
  | index :: rest =>
      if (process.gBthHw index).isSome then tryOpen process present rest
      else do
        let object ← allocate
        match attachHardware process.busy (present index) with
        | none => tryOpen process present rest
        | some device =>
            let handle ← allocate
            return some (index, { object, hDriver := some { device, handle } })

/-- What a call returns, or that it goes on. -/
inductive RuntimeAnswer
  | goesOn
  | opened (devId : Int)
  | closed (result : Except UInt32 Unit)
  | sent (answer : ApiAnswer)
  | told (result : Except UInt32 LocalDeviceInfo)

/-- `Export_OpenDevice` until it asks the hardware. -/
def openDevice
    (process : Process)
    (answers : OpenAnswers) : Routine (RuntimeAnswer × Process) := do
  match ← tryOpen process answers.present (List.finRange maxDevices) with
  | none => return (.opened invalidDeviceId, process)
  | some (index, bthHw) =>
      let object ← allocate
      let bthHci ← EmulHciObject.construct bthHw.object answers.bthHci object
      let devInfo ← allocate
      touch devInfo
      let stack ← allocate
      let hciLocal ←
        HciLocalObject.construct bthHw.object answers.hciLocal stack
      let hciLocal ← hciLocal.startEventListener bthHw answers.listener
      return (.goesOn, {
        process with
        busy := bthHw.devices ++ process.busy
        call := .asking { index, bthHw, bthHci, devInfo, hciLocal } })

/-- What `Export_OpenDevice` is answered from the commands on. -/
structure AskAnswers where
  /-- How the driver answers the commands. -/
  driver : Driver
  /-- There is an event for `SendReadBDADDR`. -/
  bdAddrEvent : Bool
  /-- There is an event for `SendReadLocalVersionInformation`. -/
  versionEvent : Bool
  /-- There is an event for `SendReadBufferSize`. -/
  bufferSizeEvent : Bool
  /-- What the three commands give. -/
  answers : Answers
  /-- What `StartEventListener` is answered. -/
  start : StartAnswers

/-- The request of a command. -/
def requestOf (command : HciCommand) : DriverRequest :=
  .deviceIoControl ioctlFreebtHciSendCmd command.commandBuffer

/-- The information that `CBthEmulHci::GetDeviceInfo` gives, if any. -/
def AskAnswers.devInfo (answers : AskAnswers) : Option DeviceInfo :=
  BthEmulHci.getDeviceInfo {
    btHw := { opening := 0, attached := true, answers := answers.answers } }

/-- `g_bthDevInfo` behind `GetDeviceInfo`. -/
def AskAnswers.record
    (answers : AskAnswers)
    (process : Process)
    (opening : Opening) : Slot → Option InfoBlock :=
  match answers.devInfo with
  | some devInfo =>
      Function.update process.gBthDevInfo opening.index
        (some { block := opening.devInfo, devInfo })
  | none => process.gBthDevInfo

/-- `Export_OpenDevice` from the commands on. -/
def askDevice
    (process : Process)
    (opening : Opening)
    (answers : AskAnswers) : Routine (RuntimeAnswer × Process) := do
  let _ ← opening.bthHw.send answers.driver answers.bdAddrEvent
    (requestOf CHci.sendReadBDADDR)
  let _ ← opening.bthHw.send answers.driver answers.versionEvent
    (requestOf CHci.sendReadLocalVersionInformation)
  let _ ← opening.bthHw.send answers.driver answers.bufferSizeEvent
    (requestOf CHci.sendReadBufferSize)
  let hciLocal ← opening.hciLocal.stopEventListener
  hciLocal.destroy
  touchAll [opening.bthHci.object, opening.devInfo]
  let gBthDevInfo := answers.record process opening
  let (started, bthHci) ←
    opening.bthHci.startEventListener opening.bthHw answers.start
  if started then
    return (.opened opening.index, {
      process with
      gBthHw := Function.update process.gBthHw opening.index
        (some opening.bthHw)
      gBthHci := Function.update process.gBthHci opening.index (some bthHci)
      gBthDevInfo
      call := .idle })
  else
    return (.goesOn, {
      process with
      gBthDevInfo
      call := .failing opening.bthHw bthHci })

/-- The objects of a device are deleted. -/
def deleteObjects (bthHw : HwObject) (bthHci : EmulHciObject) : Routine Unit := do
  bthHci.destroy
  bthHw.delete

/-- `Export_OpenDevice` where the listener and the reader do not start. The
hardware stays attached. -/
def abandonDevice
    (process : Process)
    (bthHw : HwObject)
    (bthHci : EmulHciObject) : Routine (RuntimeAnswer × Process) := do
  deleteObjects bthHw bthHci
  return (.opened invalidDeviceId, { process with call := .idle })

/-! ## Closing and using a device -/

/-- `Export_CloseDevice` until the objects are deleted. -/
def closeDevice
    (process : Process)
    (devId : Int)
    (inTime : Bool) : Routine (RuntimeAnswer × Process) :=
  match slot devId with
  | none => return (.closed (.error errorInvalidParameter), process)
  | some index =>
      match process.gBthHw index, process.gBthHci index with
      | some bthHw, some bthHci => do
          touchAll [bthHci.object, bthHci.btHw]
          if bthHw.hDriver.isSome then
            let bthHci ← bthHci.stopEventListener inTime
            let detached ← bthHw.detach
            return (.goesOn, {
              process with
              gBthHw := Function.update process.gBthHw index (some detached)
              gBthHci := Function.update process.gBthHci index (some bthHci)
              busy := process.busy.filter (· ∉ bthHw.devices)
              call := .closing index })
          else return (.closed (.error errorDeviceNotAvailable), process)
      | _, _ => return (.closed (.error errorInvalidParameter), process)

/-- The end of `Export_CloseDevice`. -/
def deleteDevice
    (process : Process)
    (index : Slot)
    (bthHw : HwObject)
    (bthHci : EmulHciObject) : Routine (RuntimeAnswer × Process) := do
  deleteObjects bthHw bthHci
  return (.closed (.ok ()), {
    process with
    gBthHw := Function.update process.gBthHw index none
    gBthHci := Function.update process.gBthHci index none
    call := .idle })

/-- `Export_SendHCICommand`. -/
def sendHCICommand
    (process : Process)
    (devId : Int)
    (driver : Driver)
    (event : Bool)
    (pCmdBuffer : Option CArray) : Routine (RuntimeAnswer × Process) :=
  match slot devId with
  | none =>
      return (.sent {
        bRet := false
        lastError := errorInvalidParameter
        submitted := [] }, process)
  | some index =>
      match process.gBthHw index, process.gBthHci index with
      | some bthHw, some bthHci => do
          let result ← bthHci.sendHCICommand bthHw driver event pCmdBuffer
          return (.sent (.of result), process)
      | _, _ =>
          return (.sent {
            bRet := false
            lastError := errorInvalidParameter
            submitted := [] }, process)

/-- `Export_GetDeviceInfo`. -/
def getDeviceInfo
    (process : Process)
    (devId : Int)
    (writable : Bool) : Routine (RuntimeAnswer × Process) :=
  match slot devId with
  | none => return (.told (.error errorInvalidParameter), process)
  | some index =>
      match process.gBthDevInfo index with
      | none => return (.told (.error errorNoData), process)
      | some bthDevInfo => do
          touch bthDevInfo.block
          if writable then
            return (.told (.ok bthDevInfo.devInfo.toLocalDeviceInfo), process)
          else return (.told (.error errorInvalidParameter), process)

/-! ## Handlers -/

/-- The thread that begins a handler. -/
inductive Source
  /-- `Listener` of an open device. -/
  | listener (index : Slot)
  /-- `DataReader` of an open device. -/
  | dataReader (index : Slot)
  /-- `Listener` of the object that `Export_OpenDevice` has started. -/
  | opening
  deriving DecidableEq

/-- What a listener or a reader works with. -/
structure SourceThread where
  /-- `pThis`. -/
  object : Nat
  /-- `m_btHw`. -/
  bthHw : HwObject
  /-- The events that it waits on. -/
  events : List Nat

/-- What the thread uses. -/
def SourceThread.resources (thread : SourceThread) : List Nat :=
  thread.object :: (thread.bthHw.resources ++ thread.events)

/-- `Listener`, where it has been started. -/
def HciObject.listener (hci : HciObject) (bthHw : HwObject) : Option SourceThread :=
  if hci.hListenerThread.isSome then
    some {
      object := hci.object
      bthHw
      events := hci.hStopListeningEvent.toList ++ hci.overlappeds }
  else none

/-- `DataReader`, where it has been started. -/
def EmulHciObject.dataReader
    (hci : EmulHciObject)
    (bthHw : HwObject) : Option SourceThread :=
  hci.reader.map fun reader => {
    object := hci.object
    bthHw
    events := hci.hStopReadingEvent.toList ++ reader.overlapped.toList }

/-- The thread that there is. -/
def Process.sourceThread (process : Process) : Source → Option SourceThread
  | .listener index => do
      let bthHw ← process.gBthHw index
      let bthHci ← process.gBthHci index
      bthHci.listener bthHw
  | .dataReader index => do
      let bthHw ← process.gBthHw index
      let bthHci ← process.gBthHci index
      bthHci.dataReader bthHw
  | .opening =>
      match process.call with
      | .asking opening => opening.hciLocal.listener opening.bthHw
      | .failing bthHw bthHci => bthHci.listener bthHw
      | .idle | .closing _ => none

/-- What `Listener` and `DataReader` do with an event: take its length from the
hardware, copy it and begin a thread, which looks at the object a number of
times. Without a thread the copy is not freed. -/
def spawnHandler
    (process : Process)
    (source : SourceThread)
    (looks : Nat)
    (thread : Bool) : Routine (RuntimeAnswer × Process) := do
  touchAll source.resources
  let parameters ← allocate
  let event ← allocate
  match ← acquire thread with
  | none => return (.goesOn, process)
  | some hThread =>
      free hThread
      -- The hardware is asked again.
      touchAll source.resources
      return (.goesOn, {
        process with
        handlers := process.handlers ++
          [{ object := source.object, looks, parameters, event }] })

/-- `EventHandler` and `DataEventHandler` look at the object, or free the event
and its parameters. -/
def runHandler
    (process : Process)
    (handler : Handler)
    (others : List Handler) : Routine (RuntimeAnswer × Process) :=
  match handler.looks with
  | looks + 1 => do
      touch handler.object
      return (.goesOn, {
        process with handlers := others ++ [{ handler with looks }] })
  | 0 => do
      touchAll handler.blocks
      freeAll handler.blocks
      return (.goesOn, { process with handlers := others })

/-! ## Runs -/

/-- What happens next. -/
inductive RuntimeAction
  | openDevice (answers : OpenAnswers)
  | askDevice (answers : AskAnswers)
  | abandonDevice
  | closeDevice (devId : Int) (inTime : Bool)
  | deleteDevice
  | sendHCICommand
      (devId : Int)
      (driver : Driver)
      (event : Bool)
      (pCmdBuffer : Option CArray)
  | getDeviceInfo (devId : Int) (writable : Bool)
  | spawn (source : Source) (looks : Nat) (thread : Bool)
  | handle (index : Nat)

/-- What an action does, where it can happen. -/
def RuntimeAction.routine
    (process : Process) :
    RuntimeAction → Option (Routine (RuntimeAnswer × Process))
  | .openDevice answers =>
      match process.call with
      | .idle => some (Lifetime.openDevice process answers)
      | .asking _ | .failing _ _ | .closing _ => none
  | .askDevice answers =>
      match process.call with
      | .asking opening => some (Lifetime.askDevice process opening answers)
      | .idle | .failing _ _ | .closing _ => none
  | .abandonDevice =>
      match process.call with
      | .failing bthHw bthHci =>
          some (Lifetime.abandonDevice process bthHw bthHci)
      | .idle | .asking _ | .closing _ => none
  | .closeDevice devId inTime =>
      match process.call with
      | .idle => some (Lifetime.closeDevice process devId inTime)
      | .asking _ | .failing _ _ | .closing _ => none
  | .deleteDevice =>
      match process.call with
      | .closing index =>
          match process.gBthHw index, process.gBthHci index with
          | some bthHw, some bthHci =>
              some (Lifetime.deleteDevice process index bthHw bthHci)
          | _, _ => none
      | .idle | .asking _ | .failing _ _ => none
  | .sendHCICommand devId driver event pCmdBuffer =>
      match process.call with
      | .idle =>
          some (Lifetime.sendHCICommand process devId driver event pCmdBuffer)
      | .asking _ | .failing _ _ | .closing _ => none
  | .getDeviceInfo devId writable =>
      some (Lifetime.getDeviceInfo process devId writable)
  | .spawn source looks thread => do
      let source ← process.sourceThread source
      some (spawnHandler process source looks thread)
  | .handle index => do
      let (handler, others) ← pick process.handlers index
      some (runHandler process handler others)

/-- The resources, what points to them, and whether one was used that was not
open. -/
structure RuntimeState where
  /-- The memory and the handles. -/
  ledger : Ledger
  /-- What the runtime points to. -/
  process : Process
  /-- Something was used that was not open. -/
  crashed : Bool

/-- What happened. -/
inductive RuntimeEvent
  | fault
  | answered (answer : RuntimeAnswer)

/-- The library has been loaded. -/
def startRuntime : RuntimeState where
  ledger := .fresh
  process := initDevicesArray
  crashed := false

/-- One action. -/
def runtimeStep
    (state : RuntimeState)
    (action : RuntimeAction) : Option (RuntimeEvent × RuntimeState) := do
  if state.crashed then none
  else
    let routine ← action.routine state.process
    match routine state.ledger with
    | none => some (.fault, { state with crashed := true })
    | some ((answer, process), ledger) =>
        some (.answered answer, { ledger, process, crashed := false })

/-- The runtime and its handlers under successive actions. -/
def runtimeMachine : Machine RuntimeState RuntimeAction RuntimeEvent where
  step := runtimeStep

end Lifetime
end Runtime
end BthEmul
