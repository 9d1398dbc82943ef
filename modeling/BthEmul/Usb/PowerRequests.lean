import BthEmul.Foundation.Ledger
import BthEmul.Foundation.Pool
import BthEmul.Usb.Device

/-!
# Power requests

The power manager changes the state of the system and of the device with irps
of their own. The driver passes an irp for the system down, and then has the
power manager send one for the device, whose end is the end of the first. Every
irp has to be completed, and before that the power manager has to be told that
the next one may come.

The device state, `WaitWakeEnable` and `StopEvent` may change between any two
steps, so their values are taken from outside wherever they are looked at. The
count of the requests is left to others. So is what becomes of an irp that waits
for the device to wake the system: it ends in its completion routine or in the
routine that cancels it.
-/

namespace BthEmul

open Foundation

namespace Usb

/-- `STATUS_DELETE_PENDING`. -/
def statusDeletePending : NtStatus := (0xC0000056 : UInt32).toInt32

namespace Power

/-! ## Irps -/

/-- `SYSTEM_POWER_STATE`. -/
inductive SystemState
  | unspecified
  | working
  | sleeping1
  | sleeping2
  | sleeping3
  | hibernate
  | shutdown
  deriving DecidableEq

/-- The value of a system state. -/
def SystemState.value : SystemState → Nat
  | unspecified => 0
  | working => 1
  | sleeping1 => 2
  | sleeping2 => 3
  | sleeping3 => 4
  | hibernate => 5
  | shutdown => 6

/-- `DEVICE_POWER_STATE`. -/
inductive DeviceState
  | unspecified
  | d0
  | d1
  | d2
  | d3
  deriving DecidableEq

/-- The value of a device state. -/
def DeviceState.value : DeviceState → Nat
  | unspecified => 0
  | d0 => 1
  | d1 => 2
  | d2 => 3
  | d3 => 4

/-- The part of `DEVICE_CAPABILITIES` that power requests use. -/
structure Capabilities where
  /-- `DeviceState`. -/
  deviceState : SystemState → DeviceState
  /-- `SystemWake`. -/
  systemWake : SystemState
  /-- `DeviceWake`. -/
  deviceWake : DeviceState

/-- The minor functions with a power state. -/
inductive Minor
  | setPower
  | queryPower
  deriving DecidableEq

/-- An irp for the system. -/
structure SystemIrp where
  /-- The number of irps before it. -/
  number : Nat
  /-- `MinorFunction`. -/
  minor : Minor
  /-- `Parameters.Power.State.SystemState`. -/
  state : SystemState
  deriving DecidableEq

/-- An irp for the device. -/
structure DeviceIrp where
  /-- The number of irps before it. -/
  number : Nat
  /-- `MinorFunction`. -/
  minor : Minor
  /-- `Parameters.Power.State.DeviceState`. -/
  state : DeviceState
  deriving DecidableEq

/-- `POWER_COMPLETION_CONTEXT`, in a block of memory. -/
structure Context where
  /-- The block. -/
  block : Nat
  /-- `SIrp`. -/
  sIrp : SystemIrp
  deriving DecidableEq

/-- An irp, and the context that `SendDeviceIrp` asked for it with. -/
inductive Irp
  | system (irp : SystemIrp)
  | device (irp : DeviceIrp) (context : Option Context)
  /-- `IRP_MN_WAIT_WAKE`. -/
  | waitWake (number : Nat)
  /-- With another minor function. -/
  | other (number : Nat)
  deriving DecidableEq

/-- The number of irps before an irp. -/
def Irp.number : Irp → Nat
  | system irp => irp.number
  | device irp _ => irp.number
  | waitWake number | other number => number

/-- The context an irp was asked for with. -/
def Irp.context : Irp → Option Context
  | device _ context => context
  | system _ | waitWake _ | other _ => none

/-! ## The driver -/

/-- `WORKER_THREAD_CONTEXT` and the work item in it. -/
structure Worker where
  /-- The block. -/
  block : Nat
  /-- `WorkItem`. -/
  workItem : Nat
  deriving DecidableEq

/-- The power states, and what was requested and given back so far. -/
structure Shared where
  /-- `SysPower`. -/
  sysPower : SystemState
  /-- `DevPower`. -/
  devPower : DeviceState
  /-- The state last given to `PoSetPowerState`. -/
  reported : DeviceState
  /-- The irps, and those completed. -/
  irps : Ledger
  /-- The irps, and those `PoStartNextPowerIrp` was called for. -/
  nextStarted : Ledger
  /-- The irps it was called for once more. -/
  startedAgain : List Nat
  /-- The blocks for `POWER_COMPLETION_CONTEXT`. -/
  contexts : Ledger
  /-- The blocks for `WORKER_THREAD_CONTEXT`. -/
  workers : Ledger
  /-- The work items. -/
  workItems : Ledger
  /-- The irps completed, with their status. -/
  finished : List (Irp × NtStatus)
  /-- The irps passed down without a completion routine. -/
  skipped : List Nat
  deriving DecidableEq

/-- The device has been added. -/
def Shared.start : Shared where
  sysPower := .working
  devPower := .d0
  reported := .d0
  irps := .fresh
  nextStarted := .fresh
  startedAgain := []
  contexts := .fresh
  workers := .fresh
  workItems := .fresh
  finished := []
  skipped := []

/-- How far an irp is. -/
inductive Point
  /-- Before the checks of `FreeBT_DispatchPower`. -/
  | dispatch (irp : Irp)
  /-- In the handler of the minor function. -/
  | handle (irp : Irp)
  /-- With the lower driver, without a completion routine. -/
  | skip (irp : Irp)
  /-- With the lower driver, before `SysPoCompletionRoutine`. -/
  | systemPending (irp : SystemIrp)
  /-- Before `ExAllocatePool` in `SendDeviceIrp`. -/
  | sendDeviceIrp (irp : SystemIrp)
  /-- Before `PoRequestPowerIrp`. -/
  | requestPowerIrp (irp : SystemIrp) (block : Nat)
  /-- With the lower driver, before `FinishDevPoUpIrp`. -/
  | powerUp (irp : DeviceIrp) (context : Option Context)
  /-- With the lower driver, before `FinishDevPoDnIrp`. -/
  | powerDown (irp : DeviceIrp) (context : Option Context)
  /-- In `HoldIoRequestsWorkerRoutine`, before `KeWaitForSingleObject`. -/
  | hold (irp : DeviceIrp) (context : Option Context) (worker : Worker)
  /-- Behind `PoCallDriver`. -/
  | freeWorker (worker : Worker)
  /-- Before `DevPoCompletionRoutine`. -/
  | devPoCompletion (context : Context) (status : NtStatus)
  /-- With the lower driver, before `WaitWakeCompletionRoutine`. -/
  | waitWake (number : Nat)
  /-- In `CancelWaitWake`, before `PoStartNextPowerIrp`. -/
  | cancelWaitWake (number : Nat)
  deriving DecidableEq

/-- What does not depend on the driver. -/
structure Chance where
  /-- `DeviceState`, where it is looked at. -/
  deviceState : DevState
  /-- `WaitWakeEnable`, where it is looked at. -/
  waitWakeEnable : Bool
  /-- The memory asked for is there. -/
  allocated : Bool
  /-- `IoAllocateWorkItem` succeeds. -/
  workItem : Bool
  /-- `StopEvent` is set, where it is waited for. -/
  stopEvent : Bool
  /-- `WaitWakeCompletionRoutine` leaves the irp to `CancelWaitWake`. -/
  cancelled : Bool
  /-- What the lower driver or `PoRequestPowerIrp` returns. -/
  status : NtStatus
  deriving DecidableEq

namespace Shared

/-- `PoStartNextPowerIrp`. -/
def startNext (shared : Shared) (irp : Irp) : Shared :=
  { shared with nextStarted := shared.nextStarted.release irp.number }

/-- An irp is completed, and the power manager calls the routine that was given
to `PoRequestPowerIrp`. -/
def complete
    (shared : Shared)
    (irp : Irp)
    (status : NtStatus) : Shared × List Point :=
  ({ shared with
      irps := shared.irps.release irp.number
      finished := shared.finished ++ [(irp, status)] },
    irp.context.toList.map (.devPoCompletion · status))

/-- `PoStartNextPowerIrp` and `IoCompleteRequest`. -/
def finish
    (shared : Shared)
    (irp : Irp)
    (status : NtStatus) : Shared × List Point :=
  (shared.startNext irp).complete irp status

/-- `PoStartNextPowerIrp`, `IoSkipCurrentIrpStackLocation` and
`PoCallDriver`. -/
def passDown (shared : Shared) (irp : Irp) : Shared × List Point :=
  ({ shared.startNext irp with skipped := shared.skipped ++ [irp.number] },
    [.skip irp])

/-- `PoStartNextPowerIrp` for an irp that it was called for when the irp was sent
down, and the completion of the irp. -/
def finishWaitWake
    (shared : Shared)
    (number : Nat)
    (status : NtStatus) : Shared × List Point :=
  { shared with startedAgain := shared.startedAgain ++ [number] }.complete
    (.waitWake number) status

/-- The device takes the state of an irp. -/
def setDevPower (shared : Shared) (state : DeviceState) : Shared :=
  { shared with
    devPower := state
    reported := state }

/-- `HoldIoRequests`, with the completion of the irp where it fails. -/
def holdIoRequests
    (shared : Shared)
    (irp : DeviceIrp)
    (context : Option Context)
    (chance : Chance) : Shared × List Point :=
  match shared.workers.request chance.allocated with
  | (none, _) =>
      shared.finish (.device irp context) statusInsufficientResources
  | (some block, workers) =>
      match shared.workItems.request chance.workItem with
      | (none, _) =>
          { shared with workers := workers.release block }.finish
            (.device irp context) statusInsufficientResources
      | (some workItem, workItems) =>
          ({ shared with workers := workers, workItems := workItems },
            [.hold irp context { block, workItem }])

/-- `HandleSystemQueryPower` and `HandleSystemSetPower`. -/
def handleSystem
    (shared : Shared)
    (capabilities : Capabilities)
    (irp : SystemIrp)
    (chance : Chance) : Shared × List Point :=
  if irp.minor = .queryPower ∧ chance.waitWakeEnable ∧
      capabilities.systemWake.value < irp.state.value then
    shared.finish (.system irp) statusInvalidDeviceState
  else (shared, [.systemPending irp])

/-- `HandleDeviceSetPower`. -/
def handleDeviceSetPower
    (shared : Shared)
    (irp : DeviceIrp)
    (context : Option Context)
    (chance : Chance) : Shared × List Point :=
  if irp.state.value < shared.devPower.value then
    (shared, [.powerUp irp context])
  else if shared.devPower = .d0 ∧
      shared.devPower.value < irp.state.value then
    shared.holdIoRequests irp context chance
  else (shared, [.powerDown irp context])

/-- `HandleDeviceQueryPower`. -/
def handleDeviceQueryPower
    (shared : Shared)
    (capabilities : Capabilities)
    (irp : DeviceIrp)
    (context : Option Context)
    (chance : Chance) : Shared × List Point :=
  if chance.waitWakeEnable ∧
      capabilities.deviceWake.value < irp.state.value then
    shared.finish (.device irp context) statusInvalidDeviceState
  else if irp.state.value < shared.devPower.value then
    shared.passDown (.device irp context)
  else shared.holdIoRequests irp context chance

/-- `SysPoCompletionRoutine`, before `SendDeviceIrp`. -/
def sysPoCompletion (shared : Shared) (irp : SystemIrp) : Shared :=
  if irp.minor = .setPower then { shared with sysPower := irp.state }
  else shared

/-- `PoRequestPowerIrp` for the device. -/
def requestDevice
    (shared : Shared)
    (capabilities : Capabilities)
    (irp : SystemIrp)
    (block : Nat) : Shared × List Point :=
  let device : DeviceIrp := {
    number := shared.irps.issued
    minor := irp.minor
    state := capabilities.deviceState irp.state }
  ({ shared with
      irps := shared.irps.issue
      nextStarted := shared.nextStarted.issue },
    [.dispatch (.device device (some { block, sIrp := irp }))])

/-- What is done for an irp next. -/
def advance
    (capabilities : Capabilities)
    (shared : Shared)
    (chance : Chance) : Point → Shared × List Point
  | .dispatch irp =>
      if chance.deviceState = .removed then
        shared.finish irp statusDeletePending
      else if chance.deviceState = .notStarted then shared.passDown irp
      else (shared, [.handle irp])
  | .handle (.system irp) => shared.handleSystem capabilities irp chance
  | .handle (.device irp context) =>
      match irp.minor with
      | .setPower => shared.handleDeviceSetPower irp context chance
      | .queryPower =>
          shared.handleDeviceQueryPower capabilities irp context chance
  | .handle (.waitWake number) =>
      (shared.startNext (.waitWake number), [.waitWake number])
  | .handle (.other number) => shared.passDown (.other number)
  | .skip irp => shared.complete irp chance.status
  | .systemPending irp =>
      if NtSuccess chance.status then
        (shared.sysPoCompletion irp, [.sendDeviceIrp irp])
      else shared.finish (.system irp) chance.status
  | .sendDeviceIrp irp =>
      match shared.contexts.request chance.allocated with
      | (none, _) => shared.finish (.system irp) statusInsufficientResources
      | (some block, contexts) =>
          ({ shared with contexts := contexts },
            [.requestPowerIrp irp block])
  | .requestPowerIrp irp block =>
      if NtSuccess chance.status then
        shared.requestDevice capabilities irp block
      else
        { shared with contexts := shared.contexts.release block }.finish
          (.system irp) chance.status
  | .powerUp irp context =>
      -- `SetDeviceFunctional`
      if NtSuccess chance.status then
        (shared.setDevPower irp.state).finish (.device irp context)
          statusSuccess
      else shared.finish (.device irp context) chance.status
  | .powerDown irp context =>
      if NtSuccess chance.status ∧ irp.minor = .setPower then
        (shared.setDevPower irp.state).finish (.device irp context)
          chance.status
      else shared.finish (.device irp context) chance.status
  | .hold irp context worker =>
      (shared, [.powerDown irp context, .freeWorker worker])
  | .freeWorker worker =>
      ({ shared with
          workers := shared.workers.release worker.block
          workItems := shared.workItems.release worker.workItem }, [])
  | .devPoCompletion context status =>
      { shared with contexts := shared.contexts.release context.block }.finish
        (.system context.sIrp) status
  | .waitWake number =>
      -- `STATUS_MORE_PROCESSING_REQUIRED`
      if chance.cancelled then (shared, [.cancelWaitWake number])
      else shared.finishWaitWake number chance.status
  | .cancelWaitWake number => shared.finishWaitWake number statusCancelled

/-- The power manager or another routine sends an irp. -/
def arrive (shared : Shared) (irp : Irp) : Shared × Point :=
  ({ shared with
      irps := shared.irps.issue
      nextStarted := shared.nextStarted.issue }, .dispatch irp)

end Shared

/-- The irps that come from outside. -/
inductive Arrival
  | system (minor : Minor) (state : SystemState)
  | device (minor : Minor) (state : DeviceState)
  | waitWake
  | other
  deriving DecidableEq

/-- The irp that arrives. -/
def Arrival.irp (number : Nat) : Arrival → Irp
  | system minor state => .system { number, minor, state }
  | device minor state => .device { number, minor, state } none
  | waitWake => .waitWake number
  | other => .other number

/-- A worker waits for `StopEvent`. -/
def Point.waits (chance : Chance) : Point → Bool
  | hold _ _ _ => !chance.stopEvent
  | _ => false

/-- The power requests of a device. -/
def program (capabilities : Capabilities) :
    Program Shared Point Arrival Chance Unit where
  enter shared arrival :=
    some (shared.arrive (arrival.irp shared.irps.issued))
  advance shared point chance :=
    if point.waits chance then none
    else some ((), shared.advance capabilities chance point)

/-- A step that a routine takes. -/
theorem advance_of_eq_some
    (advanced : (program capabilities).advance shared point chance =
      some (output, behind, later)) :
    shared.advance capabilities chance point = (behind, later) := by
  simp only [program, Option.ite_none_left_eq_some, Option.some.injEq,
    Prod.mk.injEq] at advanced
  exact advanced.2.2

/-- A device without power requests. -/
def idle : Pool Shared Point where
  shared := .start
  strands := []

/-! ## The property -/

/-- The irp for the device has the minor function of the irp for the system,
and the state that the capabilities give for its state. -/
def Context.Asks
    (capabilities : Capabilities)
    (context : Context)
    (irp : DeviceIrp) : Prop :=
  irp.minor = context.sIrp.minor ∧
    irp.state = capabilities.deviceState context.sIrp.state

/-- An irp for the system was passed down without a completion routine, or
asked for an irp for the device that ended in the same way. -/
def Granted
    (capabilities : Capabilities)
    (shared : Shared)
    (irp : SystemIrp)
    (status : NtStatus) : Prop :=
  irp.number ∈ shared.skipped ∨
    ∃ device context,
      (.device device (some context), status) ∈ shared.finished ∧
        context.sIrp = irp ∧ context.Asks capabilities device

/-- Every irp is completed once, after the power manager was told that the next
one may come, and an irp for the system ends as the irp for the device that it
asked for. For an irp that waits for the device to wake the system it is told
again when the irp ends. -/
structure Settled
    (capabilities : Capabilities)
    (pool : Pool Shared Point) : Prop where
  /-- No irp is completed twice. -/
  once : pool.shared.irps.released.Nodup
  /-- `PoStartNextPowerIrp` is called at most once for an irp. -/
  startedOnce : pool.shared.nextStarted.released.Nodup
  /-- It is called once more at most, and only for an irp that waited for the
  device to wake the system and was completed. -/
  startedAgain : pool.shared.startedAgain.Nodup ∧
    ∀ irp ∈ pool.shared.startedAgain, ∃ status,
      (.waitWake irp, status) ∈ pool.shared.finished
  /-- It has been called for every irp that was completed. -/
  started : ∀ irp ∈ pool.shared.irps.released,
    irp ∈ pool.shared.nextStarted.released
  /-- The irps completed are those with a status. -/
  statuses : pool.shared.finished.map (fun entry => entry.1.number) =
    pool.shared.irps.released
  /-- An irp for the system that succeeds was passed down without a completion
  routine, or asked for an irp for the device that succeeded. -/
  granted : ∀ irp status, (.system irp, status) ∈ pool.shared.finished →
    NtSuccess status → Granted capabilities pool.shared irp status
  /-- An irp for the system ends as the one for the device. -/
  agrees : ∀ device context status ended,
    (.device device (some context), status) ∈ pool.shared.finished →
      (.system context.sIrp, ended) ∈ pool.shared.finished →
        ended = status
  /-- The power manager knows the state of the device. -/
  reported : pool.shared.devPower = pool.shared.reported
  /-- No memory is given back twice. -/
  freedOnce : pool.shared.contexts.released.Nodup ∧
    pool.shared.workers.released.Nodup ∧
      pool.shared.workItems.released.Nodup
  /-- When nothing is going on, every irp was completed, and no memory is
  left. -/
  ended : pool.strands = [] →
    (∀ irp < pool.shared.irps.issued, irp ∈ pool.shared.irps.released) ∧
      pool.shared.contexts.openResources = [] ∧
        pool.shared.workers.openResources = [] ∧
          pool.shared.workItems.openResources = []

/-! ## What a step does with an irp -/

/-- The irps that are completed with an irp. -/
def Irp.numbers (irp : Irp) : List Nat :=
  irp.number :: irp.context.toList.map fun context => context.sIrp.number

/-- The irp that something is done for. -/
def Point.irp : Point → Option Irp
  | dispatch irp | handle irp | skip irp => some irp
  | systemPending irp | sendDeviceIrp irp | requestPowerIrp irp _ =>
      some (.system irp)
  | powerUp irp context | powerDown irp context | hold irp context _ =>
      some (.device irp context)
  | freeWorker _ => none
  | devPoCompletion context _ => some (.system context.sIrp)
  | waitWake number | cancelWaitWake number => some (.waitWake number)

/-- How the irp ends is still open, and `PoStartNextPowerIrp` was not called for
it. -/
def Point.Undecided : Point → Prop
  | skip _ | devPoCompletion _ _ | waitWake _ | cancelWaitWake _ => False
  | dispatch _ | handle _ | systemPending _ | sendDeviceIrp _
  | requestPowerIrp _ _ | powerUp _ _ | powerDown _ _ | hold _ _ _
  | freeWorker _ => True

/-- The irps are as before, and if the power manager knew the state of the
device, it still does. -/
structure SameIrps (before after : Shared) : Prop where
  irps : after.irps = before.irps
  nextStarted : after.nextStarted = before.nextStarted
  startedAgain : after.startedAgain = before.startedAgain
  finished : after.finished = before.finished
  skipped : after.skipped = before.skipped
  reported : before.devPower = before.reported →
    after.devPower = after.reported

theorem SameIrps.refl (shared : Shared) : SameIrps shared shared where
  irps := rfl
  nextStarted := rfl
  startedAgain := rfl
  finished := rfl
  skipped := rfl
  reported := id

/-- The device takes a state, and the power manager is told. -/
theorem sameIrps_setDevPower
    (shared : Shared)
    (state : DeviceState) : SameIrps shared (shared.setDevPower state) where
  irps := rfl
  nextStarted := rfl
  startedAgain := rfl
  finished := rfl
  skipped := rfl
  reported _ := rfl

/-- The system takes a state. -/
theorem sameIrps_sysPoCompletion
    (shared : Shared)
    (irp : SystemIrp) : SameIrps shared (shared.sysPoCompletion irp) := by
  fun_cases Shared.sysPoCompletion with
  | case1 set => exact ⟨rfl, rfl, rfl, rfl, rfl, id⟩
  | case2 query => exact .refl shared

/-- What a step does with the irp that it is for. -/
inductive Effect
    (capabilities : Capabilities)
    (shared : Shared) : Point → Shared × List Point → Prop
  /-- Something else is done for the irp. -/
  | move
      (undecided : point.Undecided)
      (same : SameIrps shared after)
      (stay : ∀ next ∈ later, next.Undecided)
      (irps : later.filterMap Point.irp = point.irp.toList) :
      Effect capabilities shared point (after, later)
  /-- The irp is completed; one for the system only where it failed. -/
  | finish
      (undecided : point.Undecided)
      (same : SameIrps shared after)
      (here : point.irp = some irp)
      (fails : ∀ system, irp = .system system → ¬ NtSuccess status) :
      Effect capabilities shared point (after.finish irp status)
  /-- The irp is passed down without a completion routine. -/
  | passDown
      (undecided : point.Undecided)
      (here : point.irp = some irp) :
      Effect capabilities shared point (shared.passDown irp)
  /-- The irp that was passed down is completed. -/
  | complete :
      Effect capabilities shared (.skip irp) (shared.complete irp status)
  /-- An irp for the device is asked for. -/
  | request :
      Effect capabilities shared (.requestPowerIrp irp block)
        (shared.requestDevice capabilities irp block)
  /-- The irp for the device that was asked for is completed. -/
  | follow (same : SameIrps shared after) :
      Effect capabilities shared (.devPoCompletion context status)
        (after.finish (.system context.sIrp) status)
  /-- The irp is sent down to wait for the device to wake the system. -/
  | sendDown :
      Effect capabilities shared (.handle (.waitWake number))
        (shared.startNext (.waitWake number), [.waitWake number])
  /-- The irp is left to the routine that cancels it. -/
  | leave :
      Effect capabilities shared (.waitWake number)
        (shared, [.cancelWaitWake number])
  /-- The irp that waited is completed. -/
  | finishWaitWake
      (here : point = .waitWake number ∨ point = .cancelWaitWake number) :
      Effect capabilities shared point (shared.finishWaitWake number status)

/-- The irp is with another routine. -/
theorem Effect.moveTo
    (undecided : point.Undecided)
    (same : SameIrps shared after)
    (stays : next.Undecided)
    (irp : next.irp = point.irp)
    (some : point.irp = some current) :
    Effect capabilities shared point (after, [next]) := by
  refine .move undecided same ?_ ?_
  · intro other member
    rwa [List.mem_singleton.mp member]
  · rw [List.filterMap_cons_some (irp.trans some), some]
    rfl

/-- The irp is completed with a status that is not a success. -/
theorem Effect.fail
    (undecided : point.Undecided)
    (same : SameIrps shared after)
    (here : point.irp = some irp)
    (fails : ¬ NtSuccess status) :
    Effect capabilities shared point (after.finish irp status) :=
  .finish undecided same here fun _ _ => fails

/-- An irp for the device is completed. -/
theorem Effect.finishDevice
    (undecided : point.Undecided)
    (same : SameIrps shared after)
    (here : point.irp = some (.device irp context)) :
    Effect capabilities shared point
      (after.finish (.device irp context) status) := by
  apply Effect.finish undecided same here
  intro system other
  cases other

/-- `HoldIoRequests` keeps the irp, or completes it where memory is short. -/
theorem effect_holdIoRequests
    (shared : Shared)
    (chance : Chance)
    (undecided : point.Undecided)
    (here : point.irp = some (.device irp context)) :
    Effect capabilities shared point
      (shared.holdIoRequests irp context chance) := by
  fun_cases Shared.holdIoRequests with
  | case1 workers requested => exact .finishDevice undecided (.refl shared) here
  | case2 block workers requested workItems failed =>
      exact .finishDevice undecided ⟨rfl, rfl, rfl, rfl, rfl, id⟩ here
  | case3 block workers requested workItem workItems granted =>
      exact .moveTo undecided ⟨rfl, rfl, rfl, rfl, rfl, id⟩ trivial here.symm here

/-- `HandleSystemQueryPower` and `HandleSystemSetPower`. -/
theorem effect_handleSystem
    (shared : Shared)
    (irp : SystemIrp)
    (chance : Chance) :
    Effect capabilities shared (.handle (.system irp))
      (shared.handleSystem capabilities irp chance) := by
  fun_cases Shared.handleSystem with
  | case1 incompatible => exact .fail trivial (.refl shared) rfl (by decide)
  | case2 compatible => exact .moveTo trivial (.refl shared) trivial rfl rfl

/-- `HandleDeviceSetPower`. -/
theorem effect_handleDeviceSetPower
    (shared : Shared)
    (irp : DeviceIrp)
    (context : Option Context)
    (chance : Chance) :
    Effect capabilities shared (.handle (.device irp context))
      (shared.handleDeviceSetPower irp context chance) := by
  fun_cases Shared.handleDeviceSetPower with
  | case1 up => exact .moveTo trivial (.refl shared) trivial rfl rfl
  | case2 notUp down => exact effect_holdIoRequests shared chance trivial rfl
  | case3 notUp notDown => exact .moveTo trivial (.refl shared) trivial rfl rfl

/-- `HandleDeviceQueryPower`. -/
theorem effect_handleDeviceQueryPower
    (shared : Shared)
    (irp : DeviceIrp)
    (context : Option Context)
    (chance : Chance) :
    Effect capabilities shared (.handle (.device irp context))
      (shared.handleDeviceQueryPower capabilities irp context chance) := by
  fun_cases Shared.handleDeviceQueryPower with
  | case1 incompatible => exact .fail trivial (.refl shared) rfl (by decide)
  | case2 compatible up => exact .passDown trivial rfl
  | case3 compatible notUp => exact effect_holdIoRequests shared chance trivial rfl

/-- What a step does with the irp. -/
theorem effect_advance
    (capabilities : Capabilities)
    (shared : Shared)
    (chance : Chance)
    (point : Point) :
    Effect capabilities shared point
      (shared.advance capabilities chance point) := by
  cases point with
  | dispatch irp =>
      rw [Shared.advance]
      by_cases removed : chance.deviceState = .removed
      · rw [if_pos removed]
        exact .fail trivial (.refl shared) rfl (by decide)
      rw [if_neg removed]
      by_cases notStarted : chance.deviceState = .notStarted
      · rw [if_pos notStarted]
        exact .passDown trivial rfl
      · rw [if_neg notStarted]
        exact .moveTo trivial (.refl shared) trivial rfl rfl
  | handle irp =>
      match irp with
      | .system irp => exact effect_handleSystem shared irp chance
      | .device irp context =>
          rw [Shared.advance]
          cases irp.minor with
          | setPower => exact effect_handleDeviceSetPower shared irp context chance
          | queryPower =>
              exact effect_handleDeviceQueryPower shared irp context chance
      | .waitWake number => exact .sendDown
      | .other number => exact .passDown trivial rfl
  | skip irp => exact .complete
  | systemPending irp =>
      rw [Shared.advance]
      by_cases succeeds : NtSuccess chance.status
      · rw [if_pos succeeds]
        exact .moveTo trivial (sameIrps_sysPoCompletion shared irp) trivial rfl rfl
      · rw [if_neg succeeds]
        exact .fail trivial (.refl shared) rfl succeeds
  | sendDeviceIrp irp =>
      rw [Shared.advance]
      match shared.contexts.request chance.allocated with
      | (none, contexts) => exact .fail trivial (.refl shared) rfl (by decide)
      | (some block, contexts) =>
          exact .moveTo trivial ⟨rfl, rfl, rfl, rfl, rfl, id⟩ trivial rfl rfl
  | requestPowerIrp irp block =>
      rw [Shared.advance]
      by_cases succeeds : NtSuccess chance.status
      · rw [if_pos succeeds]
        exact .request
      · rw [if_neg succeeds]
        exact .fail trivial ⟨rfl, rfl, rfl, rfl, rfl, id⟩ rfl succeeds
  | powerUp irp context =>
      rw [Shared.advance]
      by_cases succeeds : NtSuccess chance.status
      · rw [if_pos succeeds]
        exact .finishDevice trivial (sameIrps_setDevPower shared irp.state) rfl
      · rw [if_neg succeeds]
        exact .finishDevice trivial (.refl shared) rfl
  | powerDown irp context =>
      rw [Shared.advance]
      by_cases down : NtSuccess chance.status ∧ irp.minor = .setPower
      · rw [if_pos down]
        exact .finishDevice trivial (sameIrps_setDevPower shared irp.state) rfl
      · rw [if_neg down]
        exact .finishDevice trivial (.refl shared) rfl
  | hold irp context worker =>
      refine .move trivial (.refl shared) ?_ rfl
      intro next member
      rcases List.mem_pair.mp member with rfl | rfl
      · trivial
      · trivial
  | freeWorker worker =>
      refine .move trivial ⟨rfl, rfl, rfl, rfl, rfl, id⟩ ?_ rfl
      intro next member
      cases member
  | devPoCompletion context status => exact .follow ⟨rfl, rfl, rfl, rfl, rfl, id⟩
  | waitWake number =>
      rw [Shared.advance]
      cases chance.cancelled with
      | true => exact .leave
      | false => exact .finishWaitWake (.inl rfl)
  | cancelWaitWake number => exact .finishWaitWake (.inr rfl)

end Power
end Usb
end BthEmul
