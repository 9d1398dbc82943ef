import BthEmul.Usb.OutstandingIo

/-!
# What a step of a request does to the count

Every step of a request changes the count as it changes the number of requests
in progress, with three exceptions: reads and writes are counted only after the
lower driver got them, a command that `IoCallDriver` fails is counted down
twice, and the callbacks that fail to request a power change are never counted
down.

Only the plug and play request changes the device state and gives up the bias,
and it gives it up once.
-/

namespace BthEmul

open Foundation

namespace Usb

/-! ## Requests in progress -/

/-- The calls in progress inside `CallUSBD`. -/
def CallUsbd.inProgress : CallUsbd → Nat
  | .entered => 0
  | .pending => 1

/-- The requests in progress at a point of a plug and play request. A request
that waits for the others to end has put itself aside. -/
def PnpPoint.inProgress : PnpPoint → Nat
  | .dispatch _ | .count _ => 0
  | .handle _ => 1
  | .abortPipes next => next.inProgress
  | .usbd call next => call.inProgress + next.inProgress
  | .release => 1
  | .waitStop => 0
  | .setRemoved | .removeOnce => 1
  | .removeTwice | .waitRemove => 0
  | .finish => 1

/-- The requests in progress at a point of another request. A request for the
device is in progress together with the one that `PoRequestPowerIrp` was called
for; while it waits for the others to end both are put aside. -/
def Point.inProgress : Point → Nat
  | .dispatchTransfer _ | .submitTransfer _ => 0
  -- what is left of the dispatch routine when the lower driver has the request
  | .transferSubmitted | .countTransfer => 0
  | .resetTransfer call => call.inProgress
  | .transferPending _ => 1
  | .dispatchHci _ | .countHci _ => 0
  | .submitHci _ => 1
  | .hciSubmitted _ => 0
  | .resetHci call => call.inProgress
  | .hciPending => 1
  | .dispatchClean | .dispatchSysCtrl | .countSysCtrl => 0
  | .dispatchPower _ | .countPower _ => 0
  | .handlePower _ | .systemPending _ => 1
  | .callback _ _ | .countCallback _ _ => 0
  | .requestPowerIrp _ _ => 1
  | .dispatchDevice _ | .countDevice _ => 1
  | .handleDevice _ | .powerUpPending _ | .powerDownPending _ => 2
  | .holdOnce _ => 2
  | .holdTwice _ => 1
  | .holdWait _ | .restoreOnce _ => 0
  | .restoreTwice _ => 1
  | .finishDevice => 2
  | .finish => 1

/-- The requests in progress at some points. -/
def inProgressAt (points : List Point) : Nat :=
  (points.map Point.inProgress).sum

/-- By how much an effect moves the count of the requests. -/
def Effect.delta : Effect → Int
  | .increment => 1
  | .decrement => -1
  | _ => 0

/-- The effect leaves the device state and the bias. -/
def Effect.Steady : Effect → Prop
  | .giveUpBias | .setNewPnpState _ | .restorePreviousPnpState => False
  | _ => True

theorem Effect.Steady.ne
    {effect : Effect}
    (steady : effect.Steady) : effect ≠ .giveUpBias := by
  rintro rfl
  exact steady

/-- The effect waits for an event. -/
def Effect.Waits : Effect → Prop
  | .waitStopEvent | .waitRemoveEvent => True
  | _ => False

/-- The step does not hand an uncounted read or write to the lower driver or
count it afterwards, is not the second decrement of a command, and does not
forget the decrement of a callback. -/
def Point.balanced : Point → Outcome → Bool
  | .submitTransfer _, .success => false
  | .countTransfer, .success => false
  | .hciSubmitted _, .failure => false
  | .requestPowerIrp requester _, .failure =>
      decide (requester = .sendDeviceIrp)
  | _, _ => true

/-- `CallUSBD` leaves the device state and the bias. -/
theorem callUsbd_steady
    (stepped : callUsbd call outcome = some (effect, later)) :
    effect.Steady := by
  unfold callUsbd at stepped
  split at stepped <;> cases stepped <;> trivial

/-- A step inside `CallUSBD`, whichever request called it. -/
theorem exists_callUsbd
    {Progress : Type}
    {inside : CallUsbd → Progress}
    {returned progress : Progress}
    (stepped :
      (do
        let (effect, later) ← callUsbd call outcome
        match later with
        | some call => some (effect, inside call)
        | none => some (effect, returned)) = some (effect, progress)) :
    ∃ later, callUsbd call outcome = some (effect, later) ∧
      progress = later.elim returned inside := by
  simp only [Option.bind_eq_bind, Option.bind_eq_some_iff] at stepped
  obtain ⟨⟨effect', later⟩, called, stepped⟩ := stepped
  cases later with
  | some call' =>
      cases stepped
      exact ⟨_, called, rfl⟩
  | none =>
      cases stepped
      exact ⟨_, called, rfl⟩

/-- `CallUSBD` counts its own request while it is in progress. -/
theorem callUsbd_delta
    (stepped : callUsbd call outcome = some (effect, later)) :
    ((later.elim 0 CallUsbd.inProgress : Nat) : Int) =
      call.inProgress + effect.delta := by
  unfold callUsbd at stepped
  split at stepped <;> cases stepped <;> rfl

/-- Every step of a plug and play request moves the count as it moves the
requests in progress. -/
theorem handlePnp_delta
    (stepped : handlePnp device minor outcome = some (effect, later)) :
    ((later.elim 0 PnpPoint.inProgress : Nat) : Int) = 1 + effect.delta := by
  unfold handlePnp at stepped
  split at stepped <;> try split at stepped
  all_goals cases stepped <;> rfl

/-- Every step of a plug and play request moves the count as it moves the
requests in progress. -/
theorem progressPnp_delta
    (stepped : progressPnp device point outcome = some (effect, later)) :
    ((later.elim 0 PnpPoint.inProgress : Nat) : Int) =
      point.inProgress + effect.delta := by
  unfold progressPnp at stepped
  split at stepped
  case h_4 => exact handlePnp_delta stepped
  -- inside `CallUSBD` both it and the request behind it may be in progress
  case h_7 call next _ =>
    obtain ⟨behind, called, rfl⟩ := exists_callUsbd stepped
    have moved := callUsbd_delta called
    cases behind with
    | some call' =>
        simp only [Option.elim_some, PnpPoint.inProgress] at moved ⊢
        omega
    | none =>
        simp only [Option.elim_some, Option.elim_none, PnpPoint.inProgress]
          at moved ⊢
        omega
  all_goals try split at stepped
  all_goals cases stepped
  all_goals simp [PnpPoint.inProgress, CallUsbd.inProgress, Effect.delta]

/-- A step of a request leaves the bias and the device state, and moves the
count as it moves the requests in progress exactly when it is balanced. -/
structure Accounts
    (point : Point)
    (outcome : Outcome)
    (effect : Effect)
    (points : List Point) : Prop where
  steady : effect.Steady
  balanced : point.balanced outcome ↔
    (inProgressAt points : Int) = point.inProgress + effect.delta
  waits : effect.Waits → point.balanced outcome

/-- A request inside `CallUSBD` leaves the counting to it. -/
theorem Accounts.ofCallUsbd
    (called : callUsbd call outcome = some (effect, later))
    (balanced : point.balanced outcome = true)
    (before : point.inProgress = call.inProgress)
    (after : inProgressAt points = later.elim 0 CallUsbd.inProgress) :
    Accounts point outcome effect points where
  steady := callUsbd_steady called
  balanced := by
    rw [before, after]
    exact iff_of_true balanced (callUsbd_delta called)
  waits _ := balanced

/-- A step of a read or write moves the count as it moves the requests in
progress, unless it hands the request on uncounted. -/
theorem progressTransfer_accounts
    (stepped : progressTransfer device point outcome = some (effect, points)) :
    Accounts point outcome effect points := by
  unfold progressTransfer at stepped
  split at stepped
  case h_6 call _ =>
    obtain ⟨behind, called, rfl⟩ := exists_callUsbd stepped
    apply Accounts.ofCallUsbd called rfl rfl
    cases behind <;> rfl
  all_goals try split at stepped
  all_goals cases stepped
  all_goals
    refine ⟨trivial, ?_, ?_⟩
    · simp [Point.balanced, inProgressAt, Point.inProgress,
        CallUsbd.inProgress, Effect.delta]
    · simp [Effect.Waits]

/-- A step of a command or of a read of an event moves the count as it moves
the requests in progress, unless it is the second decrement. -/
theorem progressHci_accounts
    (stepped : progressHci device point outcome = some (effect, points)) :
    Accounts point outcome effect points := by
  unfold progressHci at stepped
  split at stepped
  case h_8 call _ =>
    obtain ⟨behind, called, rfl⟩ := exists_callUsbd stepped
    apply Accounts.ofCallUsbd called rfl rfl
    cases behind <;> rfl
  all_goals try split at stepped
  all_goals cases stepped
  all_goals
    refine ⟨trivial, ?_, ?_⟩
    · simp [Point.balanced, inProgressAt, Point.inProgress,
        CallUsbd.inProgress, Effect.delta]
    · simp [Effect.Waits]

/-- A step of the other control requests moves the count as it moves the
requests in progress. -/
theorem progressControl_accounts
    (stepped : progressControl device point outcome = some (effect, points)) :
    Accounts point outcome effect points := by
  unfold progressControl at stepped
  split at stepped
  all_goals try split at stepped
  all_goals cases stepped
  all_goals
    refine ⟨trivial, ?_, ?_⟩
    · simp [Point.balanced, inProgressAt, Point.inProgress, Effect.delta]
    · simp [Point.balanced, Effect.Waits]

/-- A step of a power request or callback moves the count as it moves the
requests in progress, unless a callback forgets its decrement. -/
theorem progressPower_accounts
    (stepped : progressPower device point outcome = some (effect, points)) :
    Accounts point outcome effect points := by
  unfold progressPower at stepped
  split at stepped
  all_goals try split at stepped
  all_goals cases stepped
  all_goals
    refine ⟨trivial, ?_, ?_⟩
    · simp_all [Point.balanced, inProgressAt, Point.inProgress, Effect.delta]
    · simp [Effect.Waits]

/-- The handlers of a power request for the device keep it and the request
behind it in progress. -/
theorem handleDevice_delta
    (stepped : handleDevice device irp outcome = some (effect, points)) :
    effect = .skip ∧ inProgressAt points = 2 := by
  unfold handleDevice at stepped
  dsimp only at stepped
  split at stepped
  all_goals try split at stepped
  all_goals try split at stepped
  all_goals cases stepped <;> exact ⟨rfl, rfl⟩

/-- A step of a power request for the device moves the count as it moves the
requests in progress. -/
theorem progressDevice_accounts
    (stepped : progressDevice device point outcome = some (effect, points)) :
    Accounts point outcome effect points := by
  unfold progressDevice at stepped
  split at stepped
  case h_4 irp _ =>
    obtain ⟨rfl, two⟩ := handleDevice_delta stepped
    refine ⟨trivial, ?_, nofun⟩
    rw [two]
    exact iff_of_true rfl rfl
  all_goals try split at stepped
  all_goals cases stepped
  all_goals
    refine ⟨trivial, ?_, ?_⟩
    · simp [Point.balanced, inProgressAt, Point.inProgress, Effect.delta]
    · simp [Point.balanced, Effect.Waits]

/-- A step of a request moves the count as it moves the requests in progress
exactly when it is balanced. -/
theorem progress_accounts
    (stepped : progress device point outcome = some (effect, points)) :
    Accounts point outcome effect points := by
  unfold progress at stepped
  split at stepped
  all_goals first
    | exact progressTransfer_accounts stepped
    | exact progressHci_accounts stepped
    | exact progressControl_accounts stepped
    | exact progressPower_accounts stepped
    | exact progressDevice_accounts stepped

/-! ## The count behind a step -/

/-- The device state behind an effect. -/
def Effect.stateBehind (device : DeviceExtension) : Effect → DevState
  | .setNewPnpState state => state
  | .restorePreviousPnpState => device.prevDevState
  | _ => device.deviceState

/-- The bias is still there behind an effect. -/
def Effect.biasBehind (biased : Bool) (effect : Effect) : Bool :=
  biased && decide (effect ≠ .giveUpBias)

theorem Effect.biasBehind_of_ne
    {effect : Effect}
    (other : effect ≠ .giveUpBias)
    (biased : Bool) : effect.biasBehind biased = biased := by
  rw [biasBehind, decide_eq_true other, Bool.and_true]

theorem Effect.Steady.stateBehind_eq
    {effect : Effect}
    (steady : effect.Steady)
    (device : DeviceExtension) :
    effect.stateBehind device = device.deviceState := by
  cases effect <;> first | rfl | exact steady.elim

namespace DeviceExtension

/-- Counting down leads to the device with the count one lower. -/
theorem eq_of_ioDecrement
    {device : DeviceExtension}
    (counted : device.ioDecrement = (event, next)) :
    next =
      { device with outStandingIO := device.outStandingIO.decrement } := by
  have same := congrArg Prod.snd counted
  simp only [ioDecrement] at same
  rw [← same]
  split
  · rfl
  · split <;> rfl

/-- Only an effect on the device state changes it. -/
theorem deviceState_of_perform
    {device : DeviceExtension}
    (performed : device.perform effect = some (event, next)) :
    next.deviceState = effect.stateBehind device := by
  cases effect with
  | decrement | giveUpBias =>
      rw [eq_of_ioDecrement (Option.some.inj performed)]
      rfl
  | waitStopEvent | waitRemoveEvent =>
      simp only [perform] at performed
      split at performed <;> cases performed
      rfl
  | _ =>
      cases performed
      rfl

/-- An effect moves the count, and giving up the bias lowers it as well. -/
theorem count_of_perform
    {device : DeviceExtension}
    (performed : device.perform effect = some (event, next)) :
    next.outStandingIO.count = device.outStandingIO.count + effect.delta -
      if effect = .giveUpBias then 1 else 0 := by
  cases effect with
  | decrement | giveUpBias =>
      rw [eq_of_ioDecrement (Option.some.inj performed)]
      simp only [Rundown.count_decrement, Effect.delta, reduceCtorEq, if_false,
        if_true]
      omega
  | waitStopEvent | waitRemoveEvent =>
      simp only [perform] at performed
      split at performed <;> cases performed
      simp [Effect.delta]
  | increment =>
      cases performed
      simp [Effect.delta, ioIncrement]
  | _ =>
      cases performed
      simp [Effect.delta, setNewPnpState, restorePreviousPnpState]

/-- `RemoveEvent` is set at a count of zero. -/
theorem count_of_removeEvent
    {device : DeviceExtension}
    (performed : device.perform effect = some (some .removeEvent, next)) :
    next.outStandingIO.count = 0 := by
  cases effect with
  | decrement | giveUpBias =>
      simp only [perform, ioDecrement, Option.some.injEq] at performed
      split at performed
      · cases performed
      · split at performed
        · rename_i zero
          cases performed
          exact zero
        · cases performed
  | waitStopEvent | waitRemoveEvent =>
      simp only [perform] at performed
      split at performed <;> cases performed
  | _ => cases performed

/-- The effect leaves `StopEvent` unset while a request is in progress: with
the bias the event is right, and without it the count must not pass one. -/
def Quiet (device : DeviceExtension) (biased : Bool) : Effect → Prop
  | .increment => biased = true ∨ device.stopEvent = false
  | .decrement => biased = true ∨ device.outStandingIO.count ≠ 2
  | .giveUpBias => device.outStandingIO.count ≠ 2
  | _ => True

instance (device : DeviceExtension) (biased : Bool) :
    (effect : Effect) → Decidable (device.Quiet biased effect)
  | .increment | .decrement => inferInstanceAs (Decidable (_ ∨ _))
  | .giveUpBias => inferInstanceAs (Decidable (_ ≠ _))
  | .skip | .waitStopEvent | .waitRemoveEvent | .setNewPnpState _
  | .restorePreviousPnpState | .setDevPower _ => isTrue trivial

/-- An effect that moves the count with the requests in progress leaves it
right exactly when it is quiet. -/
theorem counts_perform_iff
    {device : DeviceExtension}
    {work later : Nat}
    (performed : device.perform effect = some (event, next))
    (counts : device.outStandingIO.Counts biased work)
    (released : effect = .giveUpBias → biased = true)
    (moved : (later : Int) = work + effect.delta) :
    next.outStandingIO.Counts (effect.biasBehind biased) later ↔
      device.Quiet biased effect := by
  have unmoved (zero : effect.delta = 0) : later = work := by
    rw [zero] at moved
    omega
  by_cases release : effect = .giveUpBias
  · subst release
    rw [eq_of_ioDecrement (Option.some.inj performed)]
    obtain rfl := released rfl
    obtain rfl := unmoved rfl
    exact counts.release_iff
  rw [Effect.biasBehind_of_ne release]
  cases effect with
  | increment =>
      cases performed
      obtain rfl : later = work + 1 := Int.ofNat_inj.mp moved
      exact counts.increment_iff
  | decrement =>
      rw [eq_of_ioDecrement (Option.some.inj performed)]
      obtain rfl : work = later + 1 := by
        simp only [Effect.delta] at moved
        omega
      exact counts.decrement_iff
  | giveUpBias => exact absurd rfl release
  | waitStopEvent =>
      obtain rfl := unmoved rfl
      simp only [perform] at performed
      split at performed <;> cases performed
      exact iff_of_true counts.reset trivial
  | waitRemoveEvent =>
      obtain rfl := unmoved rfl
      simp only [perform] at performed
      split at performed <;> cases performed
      exact iff_of_true { counts with } trivial
  | _ =>
      obtain rfl := unmoved rfl
      cases performed
      exact iff_of_true { counts with } trivial

/-- Only a wait has no result. -/
theorem waits_of_perform
    {device : DeviceExtension}
    (stuck : device.perform effect = none) : effect.Waits := by
  cases effect with
  | waitStopEvent | waitRemoveEvent => trivial
  | _ => cases stuck

/-- A wait is quiet. -/
theorem quiet_of_waits
    (device : DeviceExtension)
    (biased : Bool)
    (waits : effect.Waits) : device.Quiet biased effect := by
  cases effect with
  | waitStopEvent | waitRemoveEvent => trivial
  | _ => exact waits.elim

end DeviceExtension

/-! ## The bias and the device state -/

/-- At its points a plug and play request has the bias, except where it has not
passed the check of the device state or has given up the bias itself. -/
def PnpPoint.Holds (state : DevState) (biased : Bool) : PnpPoint → Prop
  | .dispatch _ | .waitRemove => True
  | .abortPipes next | .usbd _ next => next.Holds state biased
  | .removeOnce | .removeTwice => biased = true ∧ state = .removed
  | _ => biased = true

/-- The handlers leave the bias, and their requests need it. -/
theorem handlePnp_holds
    (stepped : handlePnp device minor outcome = some (effect, later)) :
    effect ≠ .giveUpBias ∧ ∀ next ∈ later, ∀ state, next.Holds state true := by
  unfold handlePnp at stepped
  split at stepped
  all_goals try split at stepped
  all_goals cases stepped
  all_goals
    refine ⟨Effect.noConfusion, ?_⟩
    intro next behind state
    cases behind
    trivial

/-- A device without the bias has been removed. -/
def Secured (state : DevState) (biased : Bool) : Prop :=
  biased = false → state = .removed

/-- What a plug and play request finds behind a step: it gives up the bias only
once and for a device that has been removed. -/
structure Proceeds
    (device : DeviceExtension)
    (biased : Bool)
    (effect : Effect)
    (later : Option PnpPoint) : Prop where
  released : effect = .giveUpBias → biased = true
  secured : Secured (effect.stateBehind device) (effect.biasBehind biased)
  holds : ∀ next ∈ later,
    next.Holds (effect.stateBehind device) (effect.biasBehind biased)

/-- Behind a step that leaves the bias and the device state everything is as it
was. -/
theorem Proceeds.of_steady
    (steady : effect.Steady)
    (secured : Secured device.deviceState biased)
    (holds : ∀ next ∈ later, next.Holds device.deviceState biased) :
    Proceeds device biased effect later where
  released release := absurd release steady.ne
  secured := by
    rwa [steady.stateBehind_eq, Effect.biasBehind_of_ne steady.ne]
  holds := by
    rwa [steady.stateBehind_eq, Effect.biasBehind_of_ne steady.ne]

/-- A plug and play request proceeds. -/
theorem progressPnp_proceeds
    (stepped : progressPnp device point outcome = some (effect, later))
    (holds : point.Holds device.deviceState biased)
    (secured : Secured device.deviceState biased) :
    Proceeds device biased effect later := by
  unfold progressPnp at stepped
  split at stepped
  -- the check of the device state shows that the bias is there
  case h_1 minor =>
    split at stepped <;> cases stepped
    rename_i present
    refine .of_steady trivial secured ?_
    rintro next ⟨⟩
    exact Bool.eq_false_or_eq_true biased |>.resolve_right
      fun unbiased => present (secured unbiased)
  case h_2 minor =>
    split at stepped <;> cases stepped
    exact .of_steady trivial secured nofun
  -- a handler may change the device state, but the bias stays
  case h_4 minor outcome =>
    obtain rfl : biased = true := holds
    obtain ⟨keeps, behind⟩ := handlePnp_holds stepped
    refine ⟨fun _ => rfl, ?_, ?_⟩
    · rw [Effect.biasBehind_of_ne keeps]
      exact nofun
    · rw [Effect.biasBehind_of_ne keeps]
      exact fun next member => behind next member _
  case h_7 call next outcome =>
    obtain ⟨behind, called, rfl⟩ := exists_callUsbd stepped
    refine .of_steady (callUsbd_steady called) secured ?_
    cases behind with
    | some call' =>
        rintro next' ⟨⟩
        exact holds
    | none =>
        rintro next' ⟨⟩
        exact holds
  -- the device state becomes `Removed`
  case h_10 =>
    obtain rfl : biased = true := holds
    cases stepped
    refine ⟨nofun, nofun, ?_⟩
    rintro next ⟨⟩
    exact ⟨rfl, rfl⟩
  -- the bias is given up
  case h_12 =>
    obtain ⟨rfl, removed⟩ := holds
    cases stepped
    refine ⟨fun _ => rfl, fun _ => removed, ?_⟩
    rintro next ⟨⟩
    trivial
  all_goals cases stepped
  all_goals
    refine .of_steady trivial secured ?_
    rintro next ⟨⟩
  all_goals exact holds

end Usb
end BthEmul
