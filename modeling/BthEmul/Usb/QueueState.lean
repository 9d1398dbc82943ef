import BthEmul.Usb.Counting

/-!
# The state of the request queue

Plug and play requests and power requests both write `QueueState`, and neither
looks at what the other has done. The queue state should allow requests only
for a device that is working, fail them for a device that is gone, and hold
them for a working device with full power only for a power request.

`HoldIoRequests` writes the queue state before it allocates anything, so the
queue is on hold also behind a request that then fails.

Which requests may follow each other is said without the queue state: by the
request that last bore on the queue, and by what the last query found.
-/

namespace BthEmul

open Foundation

namespace Usb

/-- `QUEUE_STATE`. -/
inductive QueueState
  | holdRequests
  | allowRequests
  | failRequests
  deriving DecidableEq

/-! ## What the requests write -/

/-- What the handlers of the plug and play requests write to `QueueState`. -/
def handlePnpQueue
    (device : DeviceExtension) :
    PnpMinor → Outcome → Option QueueState
  | .startDevice, .success => some .allowRequests
  | .queryStopDevice, .success => some .holdRequests
  | .cancelStopDevice, .success =>
      if device.deviceState = .pendingStop then some .allowRequests else none
  | .queryRemoveDevice, .success => some .holdRequests
  | .cancelRemoveDevice, .success =>
      if device.deviceState = .pendingRemove then some .allowRequests else none
  | .surpriseRemoval, .success => some .failRequests
  | .removeDevice, .success =>
      if device.deviceState = .surpriseRemoved then none
      else some .failRequests
  | _, _ => none

/-- What a step of a plug and play request writes to `QueueState`. -/
def pnpQueue
    (device : DeviceExtension) :
    PnpPoint → Outcome → Option QueueState
  | .handle minor, outcome => handlePnpQueue device minor outcome
  | _, _ => none

/-- What `HandleDeviceSetPower` and `HandleDeviceQueryPower` write to
`QueueState`, whether or not `HoldIoRequests` then fails. -/
def handleDeviceQueue
    (device : DeviceExtension)
    (irp : DeviceIrp) : Option QueueState :=
  match irp.minor with
  | .setPower =>
      if device.devPower = .d0 then
        if irp.deviceState = .d0 then some .allowRequests
        else some .holdRequests
      else none
  | .queryPower =>
      if irp.deviceState.depth < device.devPower.depth then none
      else some .holdRequests

/-- What a step of another request writes to `QueueState`. -/
def pointQueue
    (device : DeviceExtension) :
    Point → Outcome → Option QueueState
  | .handleDevice irp, _ => handleDeviceQueue device irp
  -- `SetDeviceFunctional`
  | .powerUpPending irp, .success =>
      if irp.deviceState = .d0 then some .allowRequests else none
  | _, _ => none

/-! ## What the requests are about -/

/-- What a request has to do with the queue. -/
inductive Bearing
  /-- The device was added. -/
  | added
  /-- A plug and play request was handled. -/
  | pnp (minor : PnpMinor)
  /-- A power request asked for a hold. -/
  | hold
  /-- A power request set full power. -/
  | fullPower
  deriving DecidableEq

/-- Requests go to the device behind it. -/
def Bearing.Lets : Bearing → Prop
  | pnp .startDevice | pnp .cancelStopDevice | pnp .cancelRemoveDevice
  | fullPower => True
  | _ => False

instance Bearing.decidableLets : (bearing : Bearing) → Decidable bearing.Lets
  | .pnp .startDevice | .pnp .cancelStopDevice | .pnp .cancelRemoveDevice
  | .fullPower => isTrue trivial
  | .pnp .queryStopDevice | .pnp .stopDevice | .pnp .queryRemoveDevice
  | .pnp .surpriseRemoval | .pnp .removeDevice | .pnp .queryCapabilities
  | .pnp .other | .added | .hold => isFalse id

/-- What a step of a plug and play request has to do with the queue. -/
def pnpBearing
    (device : DeviceExtension) :
    PnpPoint → Outcome → Option Bearing
  | .handle .startDevice, .success => some (.pnp .startDevice)
  | .handle .queryStopDevice, .success => some (.pnp .queryStopDevice)
  | .handle .cancelStopDevice, .success =>
      if device.deviceState = .pendingStop then some (.pnp .cancelStopDevice)
      else none
  | .handle .queryRemoveDevice, .success => some (.pnp .queryRemoveDevice)
  | .handle .cancelRemoveDevice, .success =>
      if device.deviceState = .pendingRemove then
        some (.pnp .cancelRemoveDevice)
      else none
  | .handle .surpriseRemoval, .success => some (.pnp .surpriseRemoval)
  | .handle .removeDevice, .success => some (.pnp .removeDevice)
  | _, _ => none

/-- What a power request for the device has to do with the queue: it sets full
power again, or calls `HoldIoRequests`. -/
def DeviceIrp.bearing
    (device : DeviceExtension)
    (irp : DeviceIrp) : Option Bearing :=
  match irp.minor with
  | .setPower =>
      if device.devPower = .d0 then
        if irp.deviceState = .d0 then some .fullPower else some .hold
      else none
  | .queryPower =>
      if irp.deviceState.depth < device.devPower.depth then none
      else some .hold

/-- What a step of another request has to do with the queue. -/
def pointBearing
    (device : DeviceExtension) :
    Point → Outcome → Option Bearing
  | .handleDevice irp, _ => irp.bearing device
  | .powerUpPending irp, .success =>
      if irp.deviceState = .d0 then some .fullPower else none
  | _, _ => none

/-! ## The driver with its queue state -/

/-- The driver, its queue state, the power requests behind a hold, and the order
of the requests so far. -/
structure QueueDriver where
  /-- The device and the requests. -/
  driver : Driver
  /-- `QueueState`. -/
  queueState : QueueState
  /-- The device has been `SurpriseRemoved` or `Removed`. -/
  gone : Bool
  /-- The requests that are pending behind `HoldIoRequests`. -/
  holding : List Nat
  /-- A query has been granted, and no request to set the power has followed. -/
  granted : Bool
  /-- What bore on the queue last. -/
  last : Bearing
  /-- The last query to stop or to remove found a device that was working. -/
  queriedWorking : Bool
  deriving DecidableEq

/-- A step of the driver, or the refusal of a query because of
`WaitWakeEnable`. -/
inductive QueueAction
  | take (action : DriverAction)
  | refuse (index : Nat)
  deriving DecidableEq

/-- The device has been removed. -/
def DevState.Gone (state : DevState) : Prop :=
  state = .surpriseRemoved ∨ state = .removed

instance (state : DevState) : Decidable state.Gone :=
  inferInstanceAs (Decidable (_ ∨ _))

/-- The point is in `HandleDeviceQueryPower`. -/
def Point.queries : Point → Bool
  | .handleDevice irp => decide (irp.minor = .queryPower)
  | _ => false

namespace QueueDriver

/-- A device that has been added. -/
def start : QueueDriver where
  driver := .start
  queueState := .holdRequests
  gone := false
  holding := []
  granted := false
  last := .added
  queriedWorking := false

/-- The device. -/
def device (state : QueueDriver) : DeviceExtension :=
  state.driver.device

/-- The requests behind a hold after a step of one of them. -/
def holdingBehind
    (state : QueueDriver)
    (request : Nat) : Point → Outcome → List Nat
  | .handleDevice irp, .success =>
      if handleDeviceQueue state.device irp = some .holdRequests then
        state.holding ++ [request]
      else state.holding
  | .powerDownPending _, _ => state.holding.erase request
  | _, _ => state.holding

/-- Whether a query is granted after a step of a request. -/
def grantedBehind (state : QueueDriver) : Point → Outcome → Bool
  | .handleDevice irp, _ =>
      state.granted && decide (irp.minor ≠ .setPower)
  | .powerDownPending irp, .success =>
      state.granted || decide (irp.minor = .queryPower)
  | _, _ => state.granted

/-- Whether the last query found the device working, after a step of a plug and
play request. -/
def queriedBehind (state : QueueDriver) : PnpPoint → Outcome → Bool
  | .handle .queryStopDevice, .success
  | .handle .queryRemoveDevice, .success =>
      decide (state.device.deviceState = .working)
  | _, _ => state.queriedWorking

/-- The plug and play request has taken a step. -/
def behindPnp
    (state : QueueDriver)
    (point : PnpPoint)
    (outcome : Outcome)
    (next : Driver) : QueueDriver :=
  { state with
    driver := next
    queueState := (pnpQueue state.device point outcome).getD state.queueState
    gone := state.gone || decide next.device.deviceState.Gone
    last := (pnpBearing state.device point outcome).getD state.last
    queriedWorking := state.queriedBehind point outcome }

/-- Another request has taken a step. -/
def behind
    (state : QueueDriver)
    (strand : Strand Point)
    (outcome : Outcome)
    (next : Driver) : QueueDriver :=
  { state with
    driver := next
    queueState :=
      (pointQueue state.device strand.point outcome).getD state.queueState
    holding := state.holdingBehind strand.request strand.point outcome
    granted := state.grantedBehind strand.point outcome
    last := (pointBearing state.device strand.point outcome).getD state.last }

/-- The event an action sets, and the driver behind it. -/
def step
    (state : QueueDriver) :
    QueueAction → Option (Option KEvent × QueueDriver)
  | .take (.startPnp minor) => do
      let (event, next) ← state.driver.step (.startPnp minor)
      some (event, { state with driver := next })
  | .take (.start request) => do
      let (event, next) ← state.driver.step (.start request)
      some (event, { state with driver := next })
  | .take (.advancePnp outcome) => do
      let strand ← state.driver.pnp
      let (event, next) ← state.driver.step (.advancePnp outcome)
      some (event, state.behindPnp strand.point outcome next)
  | .take (.advance index outcome) => do
      let (strand, _) ← pick state.driver.strands index
      let (event, next) ← state.driver.step (.advance index outcome)
      some (event, state.behind strand outcome next)
  | .refuse index => do
      let (strand, _) ← pick state.driver.strands index
      if strand.point.queries then
        let (event, next) ← state.driver.step (.advance index .failure)
        some (event, { state with driver := next })
      else none

/-! ## What should hold -/

/-- The queue allows requests only for a device that is working, fails them for
a device that is gone, and holds them for a working device with full power only
for a power request. -/
def Agrees (state : QueueDriver) : Prop :=
  (state.queueState = .allowRequests → state.device.deviceState = .working) ∧
    (state.gone = true → state.queueState = .failRequests) ∧
      (state.queueState = .holdRequests →
        state.device.deviceState = .working → state.device.devPower = .d0 →
          state.granted = true ∨ state.holding ≠ [])

instance (state : QueueDriver) : Decidable state.Agrees :=
  inferInstanceAs (Decidable (_ ∧ _))

/-- What a step of a plug and play request has to find for the queue state to
agree behind it. -/
def PnpConforms (state : QueueDriver) : PnpPoint → Outcome → Prop
  | .handle .startDevice, .success
  | .handle .queryStopDevice, .success
  | .handle .queryRemoveDevice, .success => state.gone = false
  | .handle .cancelStopDevice, .success =>
      state.device.deviceState = .pendingStop →
        state.device.prevDevState = .working
  | .handle .cancelRemoveDevice, .success =>
      state.device.deviceState = .pendingRemove →
        state.device.prevDevState = .working
  | .handle .stopDevice, .success
  | .handle .stopDevice, .more => state.queueState ≠ .allowRequests
  | .setRemoved, .success => state.queueState = .failRequests
  | _, _ => True

/-- A hold on a working device with full power has a request behind it. -/
def Asked (state : QueueDriver) (granted : Bool) (holding : List Nat) : Prop :=
  state.device.deviceState = .working → granted = true ∨ holding ≠ []

/-- What a step of another request has to find for the queue state to agree
behind it. -/
def PointConforms
    (state : QueueDriver)
    (request : Nat) : Point → Outcome → Prop
  | .handleDevice irp, .success =>
      (handleDeviceQueue state.device irp = some .holdRequests →
          state.gone = false) ∧
        (handleDeviceQueue state.device irp = some .allowRequests →
          state.device.deviceState = .working)
  -- an allocation in `HoldIoRequests` fails
  | .handleDevice irp, .failure =>
      handleDeviceQueue state.device irp = some .holdRequests →
        state.gone = false ∧
          (state.device.devPower = .d0 →
            state.Asked (state.granted && decide (irp.minor ≠ .setPower))
              state.holding)
  | .powerUpPending irp, .success =>
      irp.deviceState = .d0 → state.device.deviceState = .working
  | .powerDownPending irp, .success =>
      irp.minor = .setPower → irp.deviceState = .d0 →
        state.queueState = .holdRequests →
          state.Asked state.granted (state.holding.erase request)
  -- the lower driver fails the request
  | .powerDownPending _, .failure =>
      state.device.devPower = .d0 → state.queueState = .holdRequests →
        state.Asked state.granted (state.holding.erase request)
  | _, _ => True

/-- What an action has to find for the queue state to agree behind it. -/
def Conforms (state : QueueDriver) : QueueAction → Prop
  | .take (.advancePnp outcome) =>
      ∀ strand ∈ state.driver.pnp, state.PnpConforms strand.point outcome
  | .take (.advance index outcome) =>
      ∀ picked ∈ pick state.driver.strands index,
        state.PointConforms picked.1.request picked.1.point outcome
  | _ => True

/-! ## The order of the requests -/

/-- Where a plug and play request may come. -/
structure PnpScheduled
    (state : QueueDriver)
    (point : PnpPoint)
    (outcome : Outcome) : Prop where
  /-- Nothing starts or queries a device that was removed. -/
  present : pnpBearing state.device point outcome ∈
      [some (.pnp .startDevice), some (.pnp .queryStopDevice),
        some (.pnp .queryRemoveDevice)] → state.gone = false
  /-- What is cancelled is a query of a device that was working. -/
  queried : pnpBearing state.device point outcome ∈
      [some (.pnp .cancelStopDevice), some (.pnp .cancelRemoveDevice)] →
    state.queriedWorking = true
  /-- A device is not stopped while requests go to it. -/
  stopped : point = .handle .stopDevice → ¬ state.last.Lets
  /-- No power request comes between a removal and its end. -/
  removed : point = .setRemoved → state.last = .pnp .removeDevice

instance (state : QueueDriver) (point : PnpPoint) (outcome : Outcome) :
    Decidable (state.PnpScheduled point outcome) :=
  decidable_of_iff
    ((pnpBearing state.device point outcome ∈
          [some (.pnp .startDevice), some (.pnp .queryStopDevice),
            some (.pnp .queryRemoveDevice)] → state.gone = false) ∧
      (pnpBearing state.device point outcome ∈
          [some (.pnp .cancelStopDevice), some (.pnp .cancelRemoveDevice)] →
        state.queriedWorking = true) ∧
      (point = .handle .stopDevice → ¬ state.last.Lets) ∧
      (point = .setRemoved → state.last = .pnp .removeDevice))
    ⟨fun ⟨present, queried, stopped, removed⟩ =>
        ⟨present, queried, stopped, removed⟩,
      fun scheduled => ⟨scheduled.present, scheduled.queried,
        scheduled.stopped, scheduled.removed⟩⟩

end QueueDriver

/-- A request that held the device ends, and the device has full power: an
allocation or the lower driver fails, or full power is what the request set. -/
def endsWithPower (device : DeviceExtension) : Point → Outcome → Bool
  | .handleDevice _, .failure | .powerDownPending _, .failure =>
      decide (device.devPower = .d0)
  | .powerDownPending irp, .success =>
      decide (irp.minor = .setPower ∧ irp.deviceState = .d0)
  | _, _ => false

namespace QueueDriver

/-- Where another request may come. -/
structure PointScheduled
    (state : QueueDriver)
    (point : Point)
    (outcome : Outcome) : Prop where
  /-- Nothing holds a device that was removed. -/
  present : pointBearing state.device point outcome = some .hold →
    state.gone = false
  /-- Full power is set for a device that is working. -/
  working : pointBearing state.device point outcome = some .fullPower →
    state.device.deviceState = .working
  /-- No request that held a working device ends with full power while requests
  do not go to the device. -/
  ends : endsWithPower state.device point outcome = true →
    state.device.deviceState = .working →
      ((pointBearing state.device point outcome).getD state.last).Lets

instance (state : QueueDriver) (point : Point) (outcome : Outcome) :
    Decidable (state.PointScheduled point outcome) :=
  decidable_of_iff
    ((pointBearing state.device point outcome = some .hold →
        state.gone = false) ∧
      (pointBearing state.device point outcome = some .fullPower →
        state.device.deviceState = .working) ∧
      (endsWithPower state.device point outcome = true →
        state.device.deviceState = .working →
          ((pointBearing state.device point outcome).getD state.last).Lets))
    ⟨fun ⟨present, working, ends⟩ => ⟨present, working, ends⟩,
      fun scheduled =>
        ⟨scheduled.present, scheduled.working, scheduled.ends⟩⟩

/-- Where an action may come. -/
def Scheduled (state : QueueDriver) : QueueAction → Prop
  | .take (.advancePnp outcome) =>
      ∀ strand ∈ state.driver.pnp, state.PnpScheduled strand.point outcome
  | .take (.advance index outcome) =>
      ∀ picked ∈ pick state.driver.strands index,
        state.PointScheduled picked.1.point outcome
  | _ => True

instance (state : QueueDriver) :
    (action : QueueAction) → Decidable (state.Scheduled action)
  | .take (.advancePnp outcome) =>
      inferInstanceAs (Decidable (∀ strand ∈ state.driver.pnp,
        state.PnpScheduled strand.point outcome))
  | .take (.advance index outcome) =>
      inferInstanceAs (Decidable (∀ picked ∈ pick state.driver.strands index,
        state.PointScheduled picked.1.point outcome))
  | .take (.startPnp _) | .take (.start _) | .refuse _ => isTrue trivial

end QueueDriver

/-- The driver with its queue state under successive actions. -/
def queueMachine : Machine QueueDriver QueueAction (Option KEvent) where
  step := QueueDriver.step

/-! ## What a step does to the device -/

/-- The power state behind an effect. -/
def Effect.powerBehind (device : DeviceExtension) : Effect → DevicePowerState
  | .setDevPower state => state
  | _ => device.devPower

/-- Only an effect on the power state changes it. -/
theorem DeviceExtension.devPower_of_perform
    {device : DeviceExtension}
    (performed : device.perform effect = some (event, next)) :
    next.devPower = effect.powerBehind device := by
  cases effect with
  | decrement | giveUpBias =>
      rw [eq_of_ioDecrement (Option.some.inj performed)]
      rfl
  | waitStopEvent | waitRemoveEvent =>
      simp only [perform] at performed
      split at performed <;> cases performed
      rfl
  | _ =>
      cases performed
      rfl

/-- `CallUSBD` leaves the power state. -/
theorem callUsbd_powerBehind
    (stepped : callUsbd call outcome = some (effect, later))
    (device : DeviceExtension) :
    effect.powerBehind device = device.devPower := by
  unfold callUsbd at stepped
  split at stepped <;> cases stepped <;> rfl

/-- A plug and play request leaves the power state. -/
theorem progressPnp_powerBehind
    (progressed : progressPnp device point outcome = some (effect, later)) :
    effect.powerBehind device = device.devPower := by
  unfold progressPnp at progressed
  split at progressed
  case h_4 =>
    unfold handlePnp at progressed
    split at progressed
    all_goals try split at progressed
    all_goals cases progressed <;> rfl
  case h_7 call next _ =>
    obtain ⟨behind, called, -⟩ := exists_callUsbd progressed
    exact callUsbd_powerBehind called device
  all_goals try split at progressed
  all_goals cases progressed <;> rfl

/-- Reads, writes, commands and reads of events leave the power state. -/
theorem progressTransfer_powerBehind
    (progressed : progressTransfer device point outcome = some (effect, later)) :
    effect.powerBehind device = device.devPower := by
  unfold progressTransfer at progressed
  split at progressed
  case h_6 call _ =>
    obtain ⟨behind, called, -⟩ := exists_callUsbd progressed
    exact callUsbd_powerBehind called device
  all_goals try split at progressed
  all_goals cases progressed <;> rfl

@[inherit_doc progressTransfer_powerBehind]
theorem progressHci_powerBehind
    (progressed : progressHci device point outcome = some (effect, later)) :
    effect.powerBehind device = device.devPower := by
  unfold progressHci at progressed
  split at progressed
  case h_8 call _ =>
    obtain ⟨behind, called, -⟩ := exists_callUsbd progressed
    exact callUsbd_powerBehind called device
  all_goals try split at progressed
  all_goals cases progressed <;> rfl

/-- The other requests that are not about power leave the power state. -/
theorem progressControl_powerBehind
    (progressed : progressControl device point outcome = some (effect, later)) :
    effect.powerBehind device = device.devPower := by
  unfold progressControl at progressed
  split at progressed
  all_goals try split at progressed
  all_goals cases progressed <;> rfl

/-- The requests of the power manager leave the power state to the requests for
the device. -/
theorem progressPower_powerBehind
    (progressed : progressPower device point outcome = some (effect, later)) :
    effect.powerBehind device = device.devPower := by
  unfold progressPower at progressed
  split at progressed
  all_goals try split at progressed
  all_goals cases progressed <;> rfl

/-- Only the completions of a power request change the power state. -/
theorem progressDevice_powerBehind
    (progressed : progressDevice device point outcome = some (effect, later))
    (up : ∀ irp, point ≠ .powerUpPending irp)
    (down : ∀ irp, point ≠ .powerDownPending irp) :
    effect.powerBehind device = device.devPower := by
  unfold progressDevice at progressed
  split at progressed
  case h_4 =>
    obtain ⟨rfl, -⟩ := handleDevice_delta progressed
    rfl
  case h_5 irp | h_6 irp => exact absurd rfl (up irp)
  case h_7 irp | h_8 irp => exact absurd rfl (down irp)
  all_goals try split at progressed
  all_goals cases progressed <;> rfl

@[inherit_doc progressDevice_powerBehind]
theorem progress_powerBehind
    (progressed : progress device point outcome = some (effect, later))
    (up : ∀ irp, point ≠ .powerUpPending irp)
    (down : ∀ irp, point ≠ .powerDownPending irp) :
    effect.powerBehind device = device.devPower := by
  unfold progress at progressed
  split at progressed
  all_goals first
    | exact progressTransfer_powerBehind progressed
    | exact progressHci_powerBehind progressed
    | exact progressControl_powerBehind progressed
    | exact progressPower_powerBehind progressed
    | exact progressDevice_powerBehind progressed up down

/-- What the handlers of a power request for the device write. -/
theorem handleDeviceQueue_cases
    (device : DeviceExtension)
    (irp : DeviceIrp) :
    (handleDeviceQueue device irp = none ∧
        (irp.minor = .setPower → device.devPower ≠ .d0)) ∨
      (handleDeviceQueue device irp = some .allowRequests ∧
        irp.minor = .setPower ∧ irp.deviceState = .d0) ∨
      handleDeviceQueue device irp = some .holdRequests := by
  obtain ⟨minor, level⟩ := irp
  cases minor with
  | setPower =>
      by_cases full : device.devPower = .d0
      · by_cases working : level = .d0
        · exact .inr (.inl
            ⟨by simp [handleDeviceQueue, full, working], rfl, working⟩)
        · exact .inr (.inr (by simp [handleDeviceQueue, full, working]))
      · exact .inl ⟨by simp [handleDeviceQueue, full], fun _ => full⟩
  | queryPower =>
      by_cases shallower : level.depth < device.devPower.depth
      · exact .inl ⟨by simp [handleDeviceQueue, shallower], nofun⟩
      · exact .inr (.inr (by simp [handleDeviceQueue, shallower]))

/-- A request to set full power is not failed by its handler. -/
theorem handleDevice_failure
    (device : DeviceExtension)
    {irp : DeviceIrp}
    (full : irp.minor = .setPower ∧ irp.deviceState = .d0) :
    handleDevice device irp .failure = none := by
  simp [handleDevice, full.1, full.2]

/-- A handler of a power request succeeds or fails. -/
theorem handleDevice_more
    (device : DeviceExtension)
    (irp : DeviceIrp) : handleDevice device irp .more = none := by
  obtain ⟨minor, level⟩ := irp
  cases minor <;> rfl

/-- A handler of a power request can always succeed. -/
theorem handleDevice_success
    (device : DeviceExtension)
    (irp : DeviceIrp) :
    ∃ later, handleDevice device irp .success = some (.skip, later) := by
  obtain ⟨minor, level⟩ := irp
  cases minor with
  | setPower =>
      simp only [handleDevice]
      split
      · exact ⟨_, rfl⟩
      · split <;> exact ⟨_, rfl⟩
  | queryPower =>
      simp only [handleDevice]
      split <;> exact ⟨_, rfl⟩

/-- A handler that holds the requests can fail. -/
theorem handleDevice_failure_of_hold
    {device : DeviceExtension}
    (held : handleDeviceQueue device irp = some .holdRequests) :
    handleDevice device irp .failure = some (.skip, [.finish, .finish]) := by
  obtain ⟨minor, level⟩ := irp
  cases minor with
  | setPower =>
      simp only [handleDeviceQueue] at held
      split at held
      case isTrue full =>
        split at held
        · cases held
        case isFalse deeper => exact if_pos ⟨full, deeper⟩
      case isFalse => cases held
  | queryPower => rfl

/-- The effect leaves the device state. -/
def Effect.KeepsState : Effect → Prop
  | .setNewPnpState _ | .restorePreviousPnpState => False
  | _ => True

theorem Effect.Steady.keepsState
    {effect : Effect}
    (steady : effect.Steady) : effect.KeepsState := by
  cases effect <;> trivial

theorem Effect.KeepsState.stateBehind_eq
    {effect : Effect}
    (keeps : effect.KeepsState)
    (device : DeviceExtension) :
    effect.stateBehind device = device.deviceState := by
  cases effect <;> first | rfl | exact keeps.elim

/-- The previous device state behind an effect. -/
def Effect.prevBehind (device : DeviceExtension) : Effect → DevState
  | .setNewPnpState _ => device.deviceState
  | _ => device.prevDevState

theorem Effect.KeepsState.prevBehind_eq
    {effect : Effect}
    (keeps : effect.KeepsState)
    (device : DeviceExtension) :
    effect.prevBehind device = device.prevDevState := by
  cases effect <;> first | rfl | exact keeps.elim

/-- Only a new device state changes the previous one. -/
theorem DeviceExtension.prevDevState_of_perform
    {device : DeviceExtension}
    (performed : device.perform effect = some (event, next)) :
    next.prevDevState = effect.prevBehind device := by
  cases effect with
  | decrement | giveUpBias =>
      rw [eq_of_ioDecrement (Option.some.inj performed)]
      rfl
  | waitStopEvent | waitRemoveEvent =>
      simp only [perform] at performed
      split at performed <;> cases performed
      rfl
  | _ =>
      cases performed
      rfl

/-- Outside the handlers, and until it has been removed, a plug and play request
leaves the device state. -/
theorem progressPnp_quiet
    (progressed : progressPnp device point outcome = some (effect, later))
    (handle : ∀ minor, point ≠ .handle minor)
    (removed : point ≠ .setRemoved) : effect.KeepsState := by
  unfold progressPnp at progressed
  split at progressed
  case h_4 _ minor => exact absurd rfl (handle minor)
  case h_7 call next _ =>
    obtain ⟨behind, called, -⟩ := exists_callUsbd progressed
    exact (callUsbd_steady called).keepsState
  case h_10 => exact absurd rfl removed
  all_goals try split at progressed
  all_goals cases progressed <;> trivial

namespace Driver

/-- The plug and play request takes a step that is done to the device. -/
theorem of_advancePnp
    {driver : Driver}
    (present : driver.pnp = some strand)
    (stepped : driver.step (.advancePnp outcome) = some (event, next)) :
    ∃ effect later,
      progressPnp driver.device strand.point outcome = some (effect, later) ∧
        driver.device.perform effect = some (event, next.device) := by
  simp only [step, present, perform, Option.bind_eq_bind, Option.bind_some,
    Option.bind_eq_some_iff] at stepped
  obtain ⟨⟨effect, later⟩, progressed, ⟨event', middle⟩,
    ⟨⟨event'', device⟩, performed, same⟩, same'⟩ := stepped
  cases same
  cases same'
  exact ⟨effect, later, progressed, performed⟩

/-- A strand of another request takes a step that is done to the device. -/
theorem of_advance
    {driver : Driver}
    (picked : pick driver.strands index = some (strand, others))
    (stepped : driver.step (.advance index outcome) = some (event, next)) :
    ∃ effect later,
      progress driver.device strand.point outcome = some (effect, later) ∧
        driver.device.perform effect = some (event, next.device) := by
  simp only [step, picked, perform, Option.bind_eq_bind, Option.bind_some,
    Option.bind_eq_some_iff] at stepped
  obtain ⟨⟨effect, later⟩, progressed, ⟨event', middle⟩,
    ⟨⟨event'', device⟩, performed, same⟩, same'⟩ := stepped
  cases same
  cases same'
  exact ⟨effect, later, progressed, performed⟩

end Driver

/-! ## What bears on the queue -/

/-- The queue allows requests exactly where they go to the device behind what bore
on it, and fails them behind a removal. -/
def Bearing.Writes (bearing : Bearing) (queueState : QueueState) : Prop :=
  (queueState = .allowRequests ↔ bearing.Lets) ∧
    (bearing = .pnp .removeDevice → queueState = .failRequests)

/-- A step of a plug and play request that bears on the queue writes it, but for
the removal of a device that was removed by surprise. -/
theorem pnpBearing_cases
    (device : DeviceExtension)
    (point : PnpPoint)
    (outcome : Outcome) :
    (pnpQueue device point outcome = none ∧
        pnpBearing device point outcome = none) ∨
      (∃ queueState bearing,
        pnpQueue device point outcome = some queueState ∧
          pnpBearing device point outcome = some bearing ∧
          bearing.Writes queueState) ∨
      (pnpQueue device point outcome = none ∧
        pnpBearing device point outcome = some (.pnp .removeDevice) ∧
        device.deviceState = .surpriseRemoved) := by
  cases point with
  | handle minor =>
      cases outcome with
      | failure | more => exact .inl (by cases minor <;> exact ⟨rfl, rfl⟩)
      | success =>
          cases minor with
          | startDevice | queryStopDevice | queryRemoveDevice
          | surpriseRemoval =>
              exact .inr (.inl ⟨_, _, rfl, rfl, by simp [Bearing.Lets], nofun⟩)
          | cancelStopDevice | cancelRemoveDevice =>
              simp only [pnpQueue, handlePnpQueue, pnpBearing]
              split
              · exact .inr (.inl
                  ⟨_, _, rfl, rfl, by simp [Bearing.Lets], nofun⟩)
              · exact .inl ⟨rfl, rfl⟩
          | removeDevice =>
              rw [pnpQueue, handlePnpQueue]
              split
              case isTrue surprised => exact .inr (.inr ⟨rfl, rfl, surprised⟩)
              case isFalse =>
                exact .inr (.inl
                  ⟨_, _, rfl, rfl, by simp [Bearing.Lets], fun _ => rfl⟩)
          | stopDevice | queryCapabilities | other => exact .inl ⟨rfl, rfl⟩
  | _ => exact .inl ⟨rfl, rfl⟩

/-- A power request for the device holds the requests where it calls
`HoldIoRequests`, and allows them where it sets full power again. -/
theorem handleDeviceQueue_bearing
    (device : DeviceExtension)
    (irp : DeviceIrp) :
    (handleDeviceQueue device irp = none ∧ irp.bearing device = none) ∨
      (handleDeviceQueue device irp = some .allowRequests ∧
        irp.bearing device = some .fullPower) ∨
      (handleDeviceQueue device irp = some .holdRequests ∧
        irp.bearing device = some .hold) := by
  unfold handleDeviceQueue DeviceIrp.bearing
  cases irp.minor with
  | setPower =>
      dsimp only
      split
      · split
        · exact .inr (.inl ⟨rfl, rfl⟩)
        · exact .inr (.inr ⟨rfl, rfl⟩)
      · exact .inl ⟨rfl, rfl⟩
  | queryPower =>
      dsimp only
      split
      · exact .inl ⟨rfl, rfl⟩
      · exact .inr (.inr ⟨rfl, rfl⟩)

/-- A step of another request that bears on the queue writes it. -/
theorem pointBearing_cases
    (device : DeviceExtension)
    (point : Point)
    (outcome : Outcome) :
    (pointQueue device point outcome = none ∧
        pointBearing device point outcome = none) ∨
      ∃ queueState bearing,
        pointQueue device point outcome = some queueState ∧
          pointBearing device point outcome = some bearing ∧
          bearing.Writes queueState := by
  have full : Bearing.fullPower.Writes .allowRequests :=
    ⟨by simp [Bearing.Lets], nofun⟩
  have hold : Bearing.hold.Writes .holdRequests :=
    ⟨by simp [Bearing.Lets], nofun⟩
  cases point with
  | handleDevice irp =>
      rcases handleDeviceQueue_bearing device irp with quiet | set | held
      · exact .inl quiet
      · exact .inr ⟨_, _, set.1, set.2, full⟩
      · exact .inr ⟨_, _, held.1, held.2, hold⟩
  | powerUpPending irp =>
      cases outcome with
      | success =>
          simp only [pointQueue, pointBearing]
          split
          · exact .inr ⟨_, _, rfl, rfl, full⟩
          · exact .inl ⟨rfl, rfl⟩
      | failure | more => exact .inl ⟨rfl, rfl⟩
  | _ => exact .inl ⟨rfl, rfl⟩

/-! ## What a step is -/

/-- A request begins, or a query is refused. -/
def QueueAction.Quiet : QueueAction → Prop
  | take (.startPnp _) | take (.start _) | refuse _ => True
  | take (.advancePnp _) | take (.advance _ _) => False

/-- The driver behind an action. -/
inductive QueueDriver.Stepped
    (state : QueueDriver) : QueueAction → QueueDriver → Prop
  | quiet
      (quiet : action.Quiet)
      (driver : Driver)
      (same : driver.device = state.device) :
      Stepped state action { state with driver := driver }
  | pnp
      (present : state.driver.pnp = some strand)
      (progressed : progressPnp state.device strand.point outcome =
        some (effect, later))
      (driver : Driver)
      (performed :
        state.device.perform effect = some (event, driver.device)) :
      Stepped state (.take (.advancePnp outcome))
        (state.behindPnp strand.point outcome driver)
  | other
      (picked : pick state.driver.strands index = some (strand, others))
      (progressed : progress state.device strand.point outcome =
        some (effect, later))
      (driver : Driver)
      (performed :
        state.device.perform effect = some (event, driver.device)) :
      Stepped state (.take (.advance index outcome))
        (state.behind strand outcome driver)

/-- A query that is refused leaves the device. -/
theorem Driver.device_of_refuse
    {driver : Driver}
    (picked : pick driver.strands index = some (strand, others))
    (queries : strand.point.queries = true)
    (stepped : driver.step (.advance index .failure) = some (event, next)) :
    next.device = driver.device := by
  obtain ⟨effect, later, progressed, performed⟩ := of_advance picked stepped
  obtain ⟨request, point⟩ := strand
  cases point with
  | handleDevice irp =>
      obtain ⟨rfl, -⟩ := handleDevice_delta progressed
      exact (congrArg Prod.snd (Option.some.inj performed)).symm
  | _ => cases queries

/-- What a step of the driver is. -/
theorem QueueDriver.stepped_of_step
    {state : QueueDriver}
    (stepped : state.step action = some (event, next)) :
    state.Stepped action next := by
  cases action with
  | take action =>
      cases action with
      | startPnp minor =>
          simp only [step, Driver.step] at stepped
          split at stepped
          · cases stepped
            refine .quiet ?_ _ rfl
            trivial
          · cases stepped
      | start request =>
          cases stepped
          refine .quiet ?_ _ rfl
          trivial
      | advancePnp outcome =>
          simp only [step, Option.bind_eq_bind, Option.bind_eq_some_iff]
            at stepped
          obtain ⟨strand, present, ⟨inner, driver⟩, stepped, same⟩ := stepped
          cases same
          obtain ⟨effect, later, progressed, performed⟩ :=
            Driver.of_advancePnp present stepped
          exact .pnp present progressed driver performed
      | advance index outcome =>
          simp only [step, Option.bind_eq_bind, Option.bind_eq_some_iff]
            at stepped
          obtain ⟨⟨strand, others⟩, picked, ⟨inner, driver⟩, stepped, same⟩ :=
            stepped
          cases same
          obtain ⟨effect, later, progressed, performed⟩ :=
            Driver.of_advance picked stepped
          exact .other picked progressed driver performed
  | refuse index =>
      simp only [step, Option.bind_eq_bind, Option.bind_eq_some_iff] at stepped
      obtain ⟨⟨strand, others⟩, picked, stepped⟩ := stepped
      split at stepped
      case isTrue queries =>
        simp only [Option.bind_eq_some_iff] at stepped
        obtain ⟨⟨inner, driver⟩, stepped, same⟩ := stepped
        cases same
        refine .quiet ?_ driver
          (Driver.device_of_refuse picked queries stepped)
        trivial
      case isFalse => cases stepped

end Usb
end BthEmul
