import BthEmul.Foundation.Machine
import BthEmul.Foundation.Provenance
import BthEmul.Foundation.Rundown
import BthEmul.Usb.Device
import Mathlib.Algebra.GroupWithZero.Nat

/-!
# The requests of the USB driver

The driver counts the requests that use the device, and waits on two events for
them to end: before the device stops or changes its power, and before it is
deleted. A request is a strand of points between which the code can be
interrupted. The lower driver runs the completion routine of a request once,
possibly before `IoCallDriver` returns, so a request that has been handed to it
is a strand of its own. At most one step of a strand touches the count.

The queue of held requests is left out: nothing is ever put into it. The plug
and play manager sends one request at a time.
-/

namespace BthEmul

open Foundation

namespace Usb

/-! ## The device -/

/-- `DEVICE_POWER_STATE` of a device. -/
inductive DevicePowerState
  | d0
  | d1
  | d2
  | d3
  deriving DecidableEq

/-- How deep a power state is. -/
def DevicePowerState.depth : DevicePowerState → Nat
  | .d0 => 1
  | .d1 => 2
  | .d2 => 3
  | .d3 => 4

/-- The part of `DEVICE_EXTENSION` that the requests share. -/
structure DeviceExtension where
  /-- `DeviceState`. -/
  deviceState : DevState
  /-- `PrevDevState`. -/
  prevDevState : DevState
  /-- `DevPower`. -/
  devPower : DevicePowerState
  /-- `OutStandingIO`, with `StopEvent` as its first and `RemoveEvent` as its
  second event. -/
  outStandingIO : Rundown
  deriving DecidableEq

/-- An event of the device. -/
inductive KEvent
  | stopEvent
  | removeEvent
  deriving DecidableEq

namespace DeviceExtension

/-- `StopEvent` is signalled. -/
def stopEvent (device : DeviceExtension) : Bool :=
  device.outStandingIO.idle

/-- `RemoveEvent` is signalled. -/
def removeEvent (device : DeviceExtension) : Bool :=
  device.outStandingIO.drained

/-- `FreeBT_AddDevice`. -/
def addDevice : DeviceExtension where
  deviceState := .notStarted
  prevDevState := .notStarted
  devPower := .d0
  outStandingIO := { count := 1, idle := true, drained := false }

/-- `FreeBT_IoIncrement`. -/
def ioIncrement (device : DeviceExtension) : DeviceExtension :=
  { device with outStandingIO := device.outStandingIO.increment }

/-- `FreeBT_IoDecrement`, with the event it sets. -/
def ioDecrement (device : DeviceExtension) :
    Option KEvent × DeviceExtension :=
  let next := { device with outStandingIO := device.outStandingIO.decrement }
  if next.outStandingIO.count = 1 then (some .stopEvent, next)
  else if next.outStandingIO.count = 0 then (some .removeEvent, next)
  else (none, next)

/-- `SET_NEW_PNP_STATE`. -/
def setNewPnpState
    (device : DeviceExtension)
    (state : DevState) : DeviceExtension :=
  { device with
    prevDevState := device.deviceState
    deviceState := state }

/-- `RESTORE_PREVIOUS_PNP_STATE`. -/
def restorePreviousPnpState (device : DeviceExtension) : DeviceExtension :=
  { device with deviceState := device.prevDevState }

end DeviceExtension

/-- What a step does to the device. -/
inductive Effect
  | skip
  | increment
  | decrement
  /-- The decrement that matches the bias. -/
  | giveUpBias
  | waitStopEvent
  | waitRemoveEvent
  | setNewPnpState (state : DevState)
  | restorePreviousPnpState
  | setDevPower (state : DevicePowerState)
  deriving DecidableEq

/-- The event a step sets and the device behind it. A wait has no result while
the event is not signalled, and resets it. -/
def DeviceExtension.perform
    (device : DeviceExtension) :
    Effect → Option (Option KEvent × DeviceExtension)
  | .skip => some (none, device)
  | .increment => some (none, device.ioIncrement)
  | .decrement | .giveUpBias => some device.ioDecrement
  | .waitStopEvent =>
      if device.stopEvent then
        some (none, { device with
          outStandingIO := { device.outStandingIO with idle := false } })
      else none
  | .waitRemoveEvent =>
      if device.removeEvent then
        some (none, { device with
          outStandingIO := { device.outStandingIO with drained := false } })
      else none
  | .setNewPnpState state => some (none, device.setNewPnpState state)
  | .restorePreviousPnpState => some (none, device.restorePreviousPnpState)
  | .setDevPower state => some (none, { device with devPower := state })

/-! ## Plug and play requests -/

/-- How a step ends: the checks, allocations and lower drivers behind it
succeed or fail, or there is one more call to make. -/
inductive Outcome
  | success
  | failure
  | more
  deriving DecidableEq

/-- How far `CallUSBD` is. -/
inductive CallUsbd
  | entered
  | pending
  deriving DecidableEq

/-- `CallUSBD`: building the request may fail; otherwise it is counted until
the lower driver has completed it. -/
def callUsbd : CallUsbd → Outcome → Option (Effect × Option CallUsbd)
  | .entered, .success => some (.increment, some .pending)
  | .entered, .failure => some (.skip, none)
  | .pending, .success | .pending, .failure => some (.decrement, none)
  | _, .more => none

/-- The minor functions that `FreeBT_DispatchPnP` knows. -/
inductive PnpMinor
  | startDevice
  | queryStopDevice
  | cancelStopDevice
  | stopDevice
  | queryRemoveDevice
  | cancelRemoveDevice
  | surpriseRemoval
  | removeDevice
  | queryCapabilities
  | other
  deriving DecidableEq

/-- How far a plug and play request is. -/
inductive PnpPoint
  /-- Before the check of `DeviceState`. -/
  | dispatch (minor : PnpMinor)
  /-- Before `FreeBT_IoIncrement`. -/
  | count (minor : PnpMinor)
  /-- In the handler of the minor function. -/
  | handle (minor : PnpMinor)
  /-- In `FreeBT_AbortPipes`. -/
  | abortPipes (next : PnpPoint)
  /-- In `CallUSBD`. -/
  | usbd (call : CallUsbd) (next : PnpPoint)
  /-- Before the decrement ahead of the wait for `StopEvent`. -/
  | release
  /-- Waiting for `StopEvent`. -/
  | waitStop
  /-- Before the device state becomes `Removed`. -/
  | setRemoved
  /-- Before the first decrement of `HandleRemoveDevice`. -/
  | removeOnce
  /-- Before the second decrement of `HandleRemoveDevice`. -/
  | removeTwice
  /-- Waiting for `RemoveEvent`. -/
  | waitRemove
  /-- Before the last decrement. -/
  | finish
  deriving DecidableEq

/-- The handlers of the minor functions. -/
def handlePnp
    (device : DeviceExtension) :
    PnpMinor → Outcome → Option (Effect × Option PnpPoint)
  -- the descriptors are read with any number of calls of `CallUSBD`
  | .startDevice, .more =>
      some (.skip, some (.usbd .entered (.handle .startDevice)))
  | .startDevice, .success => some (.setNewPnpState .working, some .finish)
  | .startDevice, .failure => some (.skip, some .finish)
  | .queryStopDevice, .success =>
      some (.setNewPnpState .pendingStop, some .release)
  | .cancelStopDevice, .success =>
      if device.deviceState = .pendingStop then
        some (.restorePreviousPnpState, some .finish)
      else some (.skip, some .finish)
  | .cancelStopDevice, .failure =>
      if device.deviceState = .pendingStop then some (.skip, some .finish)
      else none
  -- `DeconfigureDevice` calls `CallUSBD` if it gets an urb
  | .stopDevice, .more =>
      some (.setNewPnpState .stopped, some (.usbd .entered .finish))
  | .stopDevice, .success => some (.setNewPnpState .stopped, some .finish)
  | .queryRemoveDevice, .success =>
      some (.setNewPnpState .pendingRemove, some .release)
  | .cancelRemoveDevice, .success =>
      if device.deviceState = .pendingRemove then
        some (.restorePreviousPnpState, some .finish)
      else some (.skip, some .finish)
  | .cancelRemoveDevice, .failure =>
      if device.deviceState = .pendingRemove then some (.skip, some .finish)
      else none
  | .surpriseRemoval, .success =>
      some (.setNewPnpState .surpriseRemoved, some (.abortPipes .finish))
  | .removeDevice, .success =>
      if device.deviceState = .surpriseRemoved then
        some (.skip, some .setRemoved)
      else some (.skip, some (.abortPipes .setRemoved))
  | .queryCapabilities, .success | .queryCapabilities, .failure
  | .other, .success | .other, .failure => some (.skip, some .finish)
  | _, _ => none

/-- What a step of a plug and play request does, and how far the request is
behind it. -/
def progressPnp
    (device : DeviceExtension) :
    PnpPoint → Outcome → Option (Effect × Option PnpPoint)
  | .dispatch minor, .success =>
      if device.deviceState ≠ .removed then some (.skip, some (.count minor))
      else none
  | .dispatch _, .failure =>
      if device.deviceState = .removed then some (.skip, none) else none
  | .count minor, .success => some (.increment, some (.handle minor))
  | .handle minor, outcome => handlePnp device minor outcome
  | .abortPipes next, .more =>
      some (.skip, some (.usbd .entered (.abortPipes next)))
  | .abortPipes next, .success => some (.skip, some next)
  | .usbd call next, outcome => do
      let (effect, later) ← callUsbd call outcome
      match later with
      | some call => some (effect, some (.usbd call next))
      | none => some (effect, some next)
  | .release, .success => some (.decrement, some .waitStop)
  | .waitStop, .success => some (.waitStopEvent, none)
  | .setRemoved, .success => some (.setNewPnpState .removed, some .removeOnce)
  | .removeOnce, .success => some (.decrement, some .removeTwice)
  | .removeTwice, .success => some (.giveUpBias, some .waitRemove)
  | .waitRemove, .success => some (.waitRemoveEvent, none)
  | .finish, .success => some (.decrement, none)
  | _, _ => none

/-! ## The other requests -/

/-- Reads and writes. -/
inductive Transfer
  | read
  | write
  deriving DecidableEq

/-- The requests of `FreeBT_DispatchDevCtrl`. -/
inductive HciRequest
  | sendHciCommand
  | getHciEvent
  deriving DecidableEq

/-- The minor functions with a power state. -/
inductive PowerMinor
  | setPower
  | queryPower
  deriving DecidableEq

/-- A power request for the device. -/
structure DeviceIrp where
  /-- `MinorFunction`. -/
  minor : PowerMinor
  /-- `Parameters.Power.State.DeviceState`. -/
  deviceState : DevicePowerState
  deriving DecidableEq

/-- A power request of the power manager: for a system state, with the device
state that `DeviceCapabilities` gives for it, or another one. -/
inductive PowerIrp
  | system (irp : DeviceIrp)
  | other
  deriving DecidableEq

/-- Who calls `PoRequestPowerIrp`. -/
inductive PowerRequester
  | sendDeviceIrp
  | idleNotificationCallback
  | idleNotificationRequestComplete
  | waitWakeCallback
  deriving DecidableEq

/-- How far a request is. -/
inductive Point
  /-- Before the checks of `FreeBT_DispatchRead` and `FreeBT_DispatchWrite`. -/
  | dispatchTransfer (transfer : Transfer)
  /-- Before `IoCallDriver`. -/
  | submitTransfer (transfer : Transfer)
  /-- Behind `IoCallDriver`. -/
  | transferSubmitted
  /-- In `FreeBT_ResetPipe`. -/
  | resetTransfer (call : CallUsbd)
  /-- Before `FreeBT_IoIncrement`. -/
  | countTransfer
  /-- With the lower driver. -/
  | transferPending (transfer : Transfer)
  /-- Before the checks of `FreeBT_DispatchDevCtrl`. -/
  | dispatchHci (request : HciRequest)
  /-- Before `FreeBT_IoIncrement`. -/
  | countHci (request : HciRequest)
  /-- Before `IoCallDriver`. -/
  | submitHci (request : HciRequest)
  /-- Behind `IoCallDriver`. -/
  | hciSubmitted (request : HciRequest)
  /-- In `FreeBT_ResetPipe`. -/
  | resetHci (call : CallUsbd)
  /-- With the lower driver. -/
  | hciPending
  /-- In `FreeBT_DispatchClean`. -/
  | dispatchClean
  /-- Before the check of `FreeBT_DispatchSysCtrl`. -/
  | dispatchSysCtrl
  /-- Before `FreeBT_IoIncrement`. -/
  | countSysCtrl
  /-- Before the checks of `FreeBT_DispatchPower`. -/
  | dispatchPower (irp : PowerIrp)
  /-- Before `FreeBT_IoIncrement`. -/
  | countPower (irp : PowerIrp)
  /-- In the handler of the minor function. -/
  | handlePower (irp : PowerIrp)
  /-- Before `SysPoCompletionRoutine`. -/
  | systemPending (irp : DeviceIrp)
  /-- In one of the three callbacks that power the device. -/
  | callback (requester : PowerRequester) (irp : DeviceIrp)
  /-- Before the increment of a callback. -/
  | countCallback (requester : PowerRequester) (irp : DeviceIrp)
  /-- Before `PoRequestPowerIrp`. -/
  | requestPowerIrp (requester : PowerRequester) (irp : DeviceIrp)
  /-- The request for the device, before `FreeBT_DispatchPower`. -/
  | dispatchDevice (irp : DeviceIrp)
  /-- Before `FreeBT_IoIncrement`. -/
  | countDevice (irp : DeviceIrp)
  /-- In `HandleDeviceSetPower` or `HandleDeviceQueryPower`. -/
  | handleDevice (irp : DeviceIrp)
  /-- Before `FinishDevPoUpIrp`. -/
  | powerUpPending (irp : DeviceIrp)
  /-- Before `FinishDevPoDnIrp`. -/
  | powerDownPending (irp : DeviceIrp)
  /-- Before the first decrement of `HoldIoRequestsWorkerRoutine`. -/
  | holdOnce (irp : DeviceIrp)
  /-- Before its second decrement. -/
  | holdTwice (irp : DeviceIrp)
  /-- Waiting for `StopEvent`. -/
  | holdWait (irp : DeviceIrp)
  /-- Before its first increment. -/
  | restoreOnce (irp : DeviceIrp)
  /-- Before its second increment. -/
  | restoreTwice (irp : DeviceIrp)
  /-- Before the last decrement of the request for the device, which then ends
  the request behind it. -/
  | finishDevice
  /-- Before the last decrement. -/
  | finish
  deriving DecidableEq

/-- A step of `FreeBT_DispatchRead`, `FreeBT_DispatchWrite` and their completion
routines. -/
def progressTransfer
    (device : DeviceExtension) :
    Point → Outcome → Option (Effect × List Point)
  | .dispatchTransfer transfer, .success =>
      if device.deviceState = .working then
        some (.skip, [.submitTransfer transfer])
      else none
  | .dispatchTransfer _, .failure => some (.skip, [])
  | .submitTransfer transfer, .success =>
      some (.skip, [.transferSubmitted, .transferPending transfer])
  | .transferSubmitted, .success => some (.skip, [.countTransfer])
  | .transferSubmitted, .failure => some (.skip, [.resetTransfer .entered])
  | .resetTransfer call, outcome => do
      let (effect, later) ← callUsbd call outcome
      match later with
      | some call => some (effect, [.resetTransfer call])
      | none => some (effect, [.countTransfer])
  | .countTransfer, .success => some (.increment, [])
  -- the second stage of a write is completed as a read
  | .transferPending .write, .more => some (.skip, [.transferPending .read])
  | .transferPending _, .success | .transferPending _, .failure =>
      some (.decrement, [])
  | _, _ => none

/-- A step of `FreeBT_SendHCICommand`, `FreeBT_GetHCIEvent` and their completion
routines. -/
def progressHci
    (device : DeviceExtension) :
    Point → Outcome → Option (Effect × List Point)
  | .dispatchHci request, .success =>
      if device.deviceState = .working then some (.skip, [.countHci request])
      else none
  | .dispatchHci _, .failure => some (.skip, [])
  | .countHci request, .success => some (.increment, [.submitHci request])
  | .submitHci request, .success =>
      some (.skip, [.hciSubmitted request, .hciPending])
  | .hciSubmitted _, .success => some (.skip, [])
  -- the completion routine decrements as well
  | .hciSubmitted .sendHciCommand, .failure => some (.decrement, [])
  | .hciSubmitted .getHciEvent, .failure =>
      some (.decrement, [.resetHci .entered])
  | .resetHci call, outcome => do
      let (effect, later) ← callUsbd call outcome
      match later with
      | some call => some (effect, [.resetHci call])
      | none => some (effect, [])
  | .hciPending, .success | .hciPending, .failure => some (.decrement, [])
  | _, _ => none

/-- A step of `FreeBT_DispatchClean` and `FreeBT_DispatchSysCtrl`. -/
def progressControl
    (device : DeviceExtension) :
    Point → Outcome → Option (Effect × List Point)
  | .dispatchClean, .success => some (.increment, [.finish])
  | .dispatchSysCtrl, .success =>
      if device.deviceState ≠ .removed then some (.skip, [.countSysCtrl])
      else none
  | .dispatchSysCtrl, .failure =>
      if device.deviceState = .removed then some (.skip, []) else none
  | .countSysCtrl, .success => some (.increment, [.finish])
  | _, _ => none

/-- The device takes power requests. -/
def DeviceExtension.TakesPower (device : DeviceExtension) : Prop :=
  device.deviceState ≠ .removed ∧ device.deviceState ≠ .notStarted

instance (device : DeviceExtension) : Decidable device.TakesPower :=
  inferInstanceAs (Decidable (_ ∧ _))

/-- A step of the requests of the power manager and of the callbacks. -/
def progressPower
    (device : DeviceExtension) :
    Point → Outcome → Option (Effect × List Point)
  | .dispatchPower irp, .success =>
      if device.TakesPower then some (.skip, [.countPower irp]) else none
  | .dispatchPower _, .failure =>
      if device.TakesPower then none else some (.skip, [])
  | .countPower irp, .success => some (.increment, [.handlePower irp])
  | .handlePower .other, .success => some (.skip, [.finish])
  | .handlePower (.system irp), .success => some (.skip, [.systemPending irp])
  -- only a query can be for an incompatible state
  | .handlePower (.system irp), .failure =>
      if irp.minor = .queryPower then some (.skip, [.finish]) else none
  | .systemPending irp, .success =>
      some (.skip, [.requestPowerIrp .sendDeviceIrp irp])
  | .systemPending _, .failure => some (.skip, [.finish])
  | .callback .idleNotificationCallback irp, .success =>
      if device.deviceState = .working then
        some (.skip, [.countCallback .idleNotificationCallback irp])
      else none
  | .callback .waitWakeCallback irp, .success =>
      if device.devPower ≠ .d0 then
        some (.skip, [.countCallback .waitWakeCallback irp])
      else none
  | .callback requester irp, .success =>
      some (.skip, [.countCallback requester irp])
  | .callback _ _, .failure => some (.skip, [])
  | .countCallback requester irp, .success =>
      some (.increment, [.requestPowerIrp requester irp])
  | .requestPowerIrp _ irp, .success => some (.skip, [.dispatchDevice irp])
  -- only `SendDeviceIrp` decrements when the request fails
  | .requestPowerIrp .sendDeviceIrp _, .failure => some (.skip, [.finish])
  | .requestPowerIrp _ _, .failure => some (.skip, [])
  | _, _ => none

/-- `HandleDeviceSetPower` and `HandleDeviceQueryPower`. -/
def handleDevice
    (device : DeviceExtension)
    (irp : DeviceIrp)
    (outcome : Outcome) : Option (Effect × List Point) :=
  let deeper := device.devPower.depth ≤ irp.deviceState.depth
  match irp.minor, outcome with
  | .setPower, .success =>
      if ¬ deeper then some (.skip, [.powerUpPending irp])
      else if device.devPower = .d0 ∧ irp.deviceState ≠ .d0 then
        some (.skip, [.holdOnce irp])
      else some (.skip, [.powerDownPending irp])
  | .setPower, .failure =>
      if device.devPower = .d0 ∧ irp.deviceState ≠ .d0 then
        some (.skip, [.finish, .finish])
      else none
  | .queryPower, .success =>
      if ¬ deeper then some (.skip, [.finish, .finish])
      else some (.skip, [.holdOnce irp])
  | .queryPower, .failure => some (.skip, [.finish, .finish])
  | _, .more => none

/-- A step of a power request for the device. Its end is also the end of the
request that `PoRequestPowerIrp` was called for. -/
def progressDevice
    (device : DeviceExtension) :
    Point → Outcome → Option (Effect × List Point)
  | .dispatchDevice irp, .success =>
      if device.TakesPower then some (.skip, [.countDevice irp]) else none
  | .dispatchDevice _, .failure =>
      if device.TakesPower then none else some (.skip, [.finish])
  | .countDevice irp, .success => some (.increment, [.handleDevice irp])
  | .handleDevice irp, outcome => Usb.handleDevice device irp outcome
  | .powerUpPending irp, .success =>
      some (.setDevPower irp.deviceState, [.finish, .finish])
  | .powerUpPending _, .failure => some (.skip, [.finishDevice])
  | .powerDownPending irp, .success =>
      match irp.minor with
      | .setPower => some (.setDevPower irp.deviceState, [.finishDevice])
      | .queryPower => some (.skip, [.finishDevice])
  | .powerDownPending _, .failure => some (.skip, [.finishDevice])
  | .holdOnce irp, .success => some (.decrement, [.holdTwice irp])
  | .holdTwice irp, .success => some (.decrement, [.holdWait irp])
  | .holdWait irp, .success => some (.waitStopEvent, [.restoreOnce irp])
  | .restoreOnce irp, .success => some (.increment, [.restoreTwice irp])
  | .restoreTwice irp, .success => some (.increment, [.powerDownPending irp])
  | .finishDevice, .success => some (.decrement, [.finish])
  | .finish, .success => some (.decrement, [])
  | _, _ => none

/-- What a step of a request does, and the strands of the request behind it. -/
def progress
    (device : DeviceExtension)
    (point : Point)
    (outcome : Outcome) : Option (Effect × List Point) :=
  match point with
  | .dispatchTransfer _ | .submitTransfer _ | .transferSubmitted
  | .resetTransfer _ | .countTransfer | .transferPending _ =>
      progressTransfer device point outcome
  | .dispatchHci _ | .countHci _ | .submitHci _ | .hciSubmitted _
  | .resetHci _ | .hciPending => progressHci device point outcome
  | .dispatchClean | .dispatchSysCtrl | .countSysCtrl =>
      progressControl device point outcome
  | .dispatchPower _ | .countPower _ | .handlePower _ | .systemPending _
  | .callback _ _ | .countCallback _ _ | .requestPowerIrp _ _ =>
      progressPower device point outcome
  | .dispatchDevice _ | .countDevice _ | .handleDevice _
  | .powerUpPending _ | .powerDownPending _ | .holdOnce _ | .holdTwice _
  | .holdWait _ | .restoreOnce _ | .restoreTwice _ | .finishDevice
  | .finish => progressDevice device point outcome

/-! ## The driver -/

/-- A strand of a request. -/
structure Strand (At : Type) where
  /-- The number of requests before it. -/
  request : Nat
  /-- How far it is. -/
  point : At
  deriving DecidableEq

/-- A request or callback from outside. -/
inductive Request
  | transfer (direction : Transfer)
  | hci (request : HciRequest)
  | clean
  | sysCtrl
  | power (irp : PowerIrp)
  | idleNotificationCallback (powerDownLevel : DevicePowerState)
  | idleNotificationRequestComplete
  | waitWakeCallback
  deriving DecidableEq

/-- Where a request begins. The callbacks at the end of a suspension want the
device fully powered. -/
def Request.entry : Request → Point
  | .transfer direction => .dispatchTransfer direction
  | .hci request => .dispatchHci request
  | .clean => .dispatchClean
  | .sysCtrl => .dispatchSysCtrl
  | .power irp => .dispatchPower irp
  | .idleNotificationCallback powerDownLevel =>
      .callback .idleNotificationCallback
        { minor := .setPower, deviceState := powerDownLevel }
  | .idleNotificationRequestComplete =>
      .callback .idleNotificationRequestComplete
        { minor := .setPower, deviceState := .d0 }
  | .waitWakeCallback =>
      .callback .waitWakeCallback
        { minor := .setPower, deviceState := .d0 }

/-- The device, the requests, and who has counted up and down so far. -/
structure Driver where
  /-- The device. -/
  device : DeviceExtension
  /-- `HandleRemoveDevice` has not given up the bias. -/
  biased : Bool
  /-- The plug and play request. -/
  pnp : Option (Strand PnpPoint)
  /-- The strands of the other requests. -/
  strands : List (Strand Point)
  /-- The number of requests so far. -/
  requests : Nat
  /-- The requests that called `FreeBT_IoIncrement`. -/
  increments : List Nat
  /-- The requests that called `FreeBT_IoDecrement`. -/
  decrements : List Nat
  deriving DecidableEq

/-- A device that has been added. -/
def Driver.start : Driver where
  device := .addDevice
  biased := true
  pnp := none
  strands := []
  requests := 0
  increments := []
  decrements := []

/-- A request begins, or one of those in progress takes a step. -/
inductive DriverAction
  | startPnp (minor : PnpMinor)
  | start (request : Request)
  | advancePnp (outcome : Outcome)
  | advance (index : Nat) (outcome : Outcome)
  deriving DecidableEq

namespace Driver

/-- The step of a request is done to the device, and noted. -/
def perform
    (driver : Driver)
    (request : Nat)
    (effect : Effect) : Option (Option KEvent × Driver) := do
  let (event, device) ← driver.device.perform effect
  some (event, {
    driver with
    device := device
    biased := driver.biased && decide (effect ≠ .giveUpBias)
    increments :=
      if effect = .increment then driver.increments ++ [request]
      else driver.increments
    decrements :=
      if effect = .decrement then driver.decrements ++ [request]
      else driver.decrements })

/-- The event an action sets, and the driver behind it. -/
def step (driver : Driver) : DriverAction → Option (Option KEvent × Driver)
  | .startPnp minor =>
      if driver.pnp = none then
        some (none, { driver with
          pnp := some ⟨driver.requests, .dispatch minor⟩
          requests := driver.requests + 1 })
      else none
  | .start request =>
      some (none, { driver with
        strands := driver.strands ++ [⟨driver.requests, request.entry⟩]
        requests := driver.requests + 1 })
  | .advancePnp outcome => do
      let strand ← driver.pnp
      let (effect, point) ← progressPnp driver.device strand.point outcome
      let (event, next) ← driver.perform strand.request effect
      some (event, { next with pnp := point.map (⟨strand.request, ·⟩) })
  | .advance index outcome => do
      let (strand, strands) ← pick driver.strands index
      let (effect, points) ← progress driver.device strand.point outcome
      let (event, next) ← driver.perform strand.request effect
      some (event, { next with
        strands := strands ++ points.map (⟨strand.request, ·⟩) })

end Driver

/-- The driver under successive actions. -/
def driverMachine : Machine Driver DriverAction (Option KEvent) where
  step := Driver.step

end Usb
end BthEmul
