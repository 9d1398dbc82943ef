import BthEmul.Usb.Accounting
import BthEmul.Usb.QueueState

/-!
# When the queue state agrees with the device

The steps of the plug and play request change the device state and the queue
state; the handlers and completions of the power requests change the queue
state and the power state. Every step is compared with what it has to find for
the queue state to agree behind it. It finds that where the requests come in
order: the last one that bore on the queue tells what the queue state is.
-/

namespace BthEmul

open Foundation

namespace Usb

namespace QueueDriver

/-! ## Steps -/

/-- A device that is gone is neither working nor about to be stopped or
removed. -/
def Away (state : QueueDriver) : Prop :=
  state.gone = true →
    state.device.deviceState ≠ .working ∧
      state.device.deviceState ≠ .pendingStop ∧
        state.device.deviceState ≠ .pendingRemove

/-- The queue state agrees, a device that is removed is gone, and one that is
gone is away. -/
structure Kept (state : QueueDriver) : Prop where
  agrees : state.Agrees
  gone : state.device.deviceState.Gone → state.gone = true
  away : state.Away

theorem kept_start : start.Kept where
  agrees := by decide
  gone := by decide
  away := nofun

/-- The queue state agrees where nothing that matters for it has changed. -/
theorem Agrees.congr
    {state next : QueueDriver}
    (agrees : state.Agrees)
    (deviceState : next.device.deviceState = state.device.deviceState)
    (devPower : next.device.devPower = state.device.devPower)
    (queueState : next.queueState = state.queueState)
    (gone : next.gone = state.gone)
    (holding : next.holding = state.holding)
    (granted : next.granted = state.granted) : next.Agrees := by
  unfold Agrees
  rw [deviceState, devPower, queueState, gone, holding, granted]
  exact agrees

/-- A driver is kept where nothing that matters for the queue has changed. -/
theorem Kept.congr
    {state next : QueueDriver}
    (kept : state.Kept)
    (agrees : next.Agrees)
    (deviceState : next.device.deviceState = state.device.deviceState)
    (gone : next.gone = state.gone) : next.Kept where
  agrees := agrees
  gone := by
    rw [deviceState, gone]
    exact kept.gone
  away := by
    rw [Away, deviceState, gone]
    exact kept.away

/-- Where a step leaves the queue state and the device state, the queue state
agrees behind it where a hold still has a request behind it. -/
theorem Agrees.iff_of_kept
    {state : QueueDriver}
    (agrees : state.Agrees)
    (next : QueueDriver)
    (deviceState : next.device.deviceState = state.device.deviceState)
    (queueState : next.queueState = state.queueState)
    (gone : next.gone = state.gone) :
    next.Agrees ↔
      (state.queueState = .holdRequests →
        state.device.deviceState = .working → next.device.devPower = .d0 →
          next.granted = true ∨ next.holding ≠ []) := by
  obtain ⟨allows, fails, -⟩ := agrees
  unfold Agrees
  rw [deviceState, queueState, gone]
  exact ⟨fun behind => behind.2.2, fun asked => ⟨allows, fails, asked⟩⟩

/-- A queue that allows requests agrees with a device that is working. -/
theorem agrees_iff_of_allow
    {state : QueueDriver}
    (allow : state.queueState = .allowRequests) :
    state.Agrees ↔
      state.device.deviceState = .working ∧ state.gone = false := by
  simp [Agrees, allow]

/-- A queue on hold agrees with a device that is not gone, where a request is
behind the hold if the device is working with full power. -/
theorem agrees_iff_of_hold
    {state : QueueDriver}
    (hold : state.queueState = .holdRequests) :
    state.Agrees ↔
      state.gone = false ∧
        (state.device.deviceState = .working → state.device.devPower = .d0 →
          state.granted = true ∨ state.holding ≠ []) := by
  simp [Agrees, hold]

/-- A queue that fails requests always agrees. -/
theorem agrees_of_fail
    {state : QueueDriver}
    (fail : state.queueState = .failRequests) : state.Agrees := by
  simp [Agrees, fail]

/-- A device that is working, or about to be stopped or removed, is not gone. -/
theorem Kept.present
    {state : QueueDriver}
    (kept : state.Kept)
    (here : state.device.deviceState = .working ∨
      state.device.deviceState = .pendingStop ∨
        state.device.deviceState = .pendingRemove) : state.gone = false := by
  cases gone : state.gone with
  | false => rfl
  | true =>
      obtain ⟨working, stop, remove⟩ := kept.away gone
      rcases here with here | here | here
      · exact absurd here working
      · exact absurd here stop
      · exact absurd here remove

/-- The queue state agrees behind the handler of a power request exactly where
the step conforms. -/
theorem Kept.agrees_handleDevice_iff
    {state : QueueDriver}
    (kept : state.Kept)
    (progressed :
      handleDevice state.device irp outcome = some (effect, later))
    (deviceState : next.device.deviceState = state.device.deviceState)
    (devPower : next.device.devPower = state.device.devPower) :
    (state.behind ⟨request, .handleDevice irp⟩ outcome next).Agrees ↔
      state.PointConforms request (.handleDevice irp) outcome := by
  have writes : (state.behind ⟨request, .handleDevice irp⟩ outcome
      next).queueState =
        (handleDeviceQueue state.device irp).getD state.queueState := rfl
  rcases handleDeviceQueue_cases state.device irp with
    ⟨unwritten, deeper⟩ | ⟨allowed, full⟩ | held
  · obtain ⟨-, -, holds⟩ := kept.agrees
    rw [unwritten] at writes
    have conforms :
        state.PointConforms request (.handleDevice irp) outcome := by
      cases outcome <;> simp [PointConforms, unwritten]
    have holding : (state.behind ⟨request, .handleDevice irp⟩ outcome
        next).holding = state.holding := by
      cases outcome <;> simp [behind, holdingBehind, unwritten]
    refine iff_of_true ?_ conforms
    rw [kept.agrees.iff_of_kept (state.behind _ _ _) deviceState writes rfl,
      holding]
    intro hold working power
    -- a request to set the power finds the device without full power
    have query : irp.minor ≠ .setPower := by
      intro set
      exact deeper set (devPower.symm.trans power)
    have granted : (state.behind ⟨request, .handleDevice irp⟩ outcome
        next).granted = state.granted := by
      simp [behind, grantedBehind, query]
    rw [granted]
    exact holds hold working (devPower.symm.trans power)
  · rw [allowed] at writes
    rw [agrees_iff_of_allow writes]
    cases outcome with
    | more =>
        rw [handleDevice_more] at progressed
        cases progressed
    | failure =>
        rw [handleDevice_failure _ full] at progressed
        cases progressed
    | success =>
        have working : next.device.deviceState = .working ∧
            state.gone = false ↔ state.device.deviceState = .working := by
          rw [deviceState]
          exact and_iff_left_of_imp fun working => kept.present (.inl working)
        refine working.trans ?_
        simp [PointConforms, allowed]
  · rw [held] at writes
    rw [agrees_iff_of_hold writes]
    cases outcome with
    | more =>
        rw [handleDevice_more] at progressed
        cases progressed
    | success =>
        have holding : (state.behind ⟨request, .handleDevice irp⟩ .success
            next).holding ≠ [] := by
          simp [behind, holdingBehind, held]
        have gone : (state.behind ⟨request, .handleDevice irp⟩ .success
            next).gone = state.gone := rfl
        simp [PointConforms, held, holding, gone]
    | failure =>
        change state.gone = false ∧ (next.device.deviceState = .working →
          next.device.devPower = .d0 → _ ∨ _) ↔ _
        rw [deviceState, devPower]
        simp only [PointConforms, held, Asked, forall_const]
        refine and_congr_right fun _ => ?_
        exact imp.swap

/-- The queue state agrees behind a completion that adds power exactly where the
step conforms. -/
theorem Kept.agrees_powerUp_iff
    {state : QueueDriver}
    (kept : state.Kept)
    (progressed :
      progress state.device (.powerUpPending irp) outcome =
        some (effect, later))
    (deviceState : next.device.deviceState = state.device.deviceState)
    (devPower : next.device.devPower = effect.powerBehind state.device) :
    (state.behind ⟨request, .powerUpPending irp⟩ outcome next).Agrees ↔
      state.PointConforms request (.powerUpPending irp) outcome := by
  cases outcome with
  | more => cases progressed
  | failure =>
      cases progressed
      exact iff_of_true
        (kept.agrees.congr deviceState devPower rfl rfl rfl rfl) trivial
  | success =>
      cases progressed
      by_cases full : irp.deviceState = .d0
      · have writes : (state.behind ⟨request, .powerUpPending irp⟩ .success
            next).queueState = .allowRequests := by
          simp [behind, pointQueue, full]
        rw [agrees_iff_of_allow writes]
        have working : next.device.deviceState = .working ∧
            state.gone = false ↔ state.device.deviceState = .working := by
          rw [deviceState]
          exact and_iff_left_of_imp fun working => kept.present (.inl working)
        refine working.trans ?_
        simp [PointConforms, full]
      · have writes : (state.behind ⟨request, .powerUpPending irp⟩ .success
            next).queueState = state.queueState := by
          simp [behind, pointQueue, full]
        have conforms :
            state.PointConforms request (.powerUpPending irp) .success :=
          fun power => absurd power full
        refine iff_of_true ?_ conforms
        rw [kept.agrees.iff_of_kept (state.behind _ _ _) deviceState writes rfl]
        intro _ _ power
        exact absurd (devPower.symm.trans power) full

/-- The queue state agrees behind a completion of a query, or of a request that
takes power, exactly where the step conforms. -/
theorem Kept.agrees_powerDown_iff
    {state : QueueDriver}
    (kept : state.Kept)
    (progressed :
      progress state.device (.powerDownPending irp) outcome =
        some (effect, later))
    (deviceState : next.device.deviceState = state.device.deviceState)
    (devPower : next.device.devPower = effect.powerBehind state.device) :
    (state.behind ⟨request, .powerDownPending irp⟩ outcome next).Agrees ↔
      state.PointConforms request (.powerDownPending irp) outcome := by
  rw [kept.agrees.iff_of_kept (state.behind _ _ _) deviceState rfl rfl]
  obtain ⟨-, -, holds⟩ := kept.agrees
  obtain ⟨minor, level⟩ := irp
  cases outcome with
  | more => cases progressed
  | failure =>
      cases progressed
      change _ = _ → _ = _ → next.device.devPower = .d0 → _ ∨ _ ↔ _
      rw [devPower]
      constructor
      · intro asked power hold working
        exact asked hold working power
      · intro asked hold working power
        exact asked power hold working
  | success =>
      cases minor with
      | queryPower =>
          cases progressed
          refine iff_of_true ?_ nofun
          intro _ _ _
          exact .inl (Bool.or_true _)
      | setPower =>
          cases progressed
          change _ = _ → _ = _ → next.device.devPower = .d0 →
            (state.granted || false) = true ∨ _ ↔ _
          rw [devPower, Bool.or_false]
          constructor
          · intro asked _ power hold working
            exact asked hold working power
          · intro asked hold working power
            exact asked rfl power hold working

/-- The queue state agrees behind a step of another request exactly where the
step conforms. -/
theorem Kept.agrees_behind_iff
    {state : QueueDriver}
    (kept : state.Kept)
    (progressed :
      progress state.device strand.point outcome = some (effect, later))
    (deviceState : next.device.deviceState = state.device.deviceState)
    (devPower : next.device.devPower = effect.powerBehind state.device) :
    (state.behind strand outcome next).Agrees ↔
      state.PointConforms strand.request strand.point outcome := by
  obtain ⟨request, point⟩ := strand
  cases point with
  | handleDevice irp =>
      have devPower := devPower.trans
        (progress_powerBehind progressed nofun nofun)
      exact kept.agrees_handleDevice_iff progressed deviceState devPower
  | powerUpPending irp =>
      exact kept.agrees_powerUp_iff progressed deviceState devPower
  | powerDownPending irp =>
      exact kept.agrees_powerDown_iff progressed deviceState devPower
  | _ =>
      have devPower := devPower.trans
        (progress_powerBehind progressed nofun nofun)
      exact iff_of_true
        (kept.agrees.congr deviceState devPower rfl rfl rfl rfl) trivial

/-- Behind a step of a plug and play request a device is kept where the queue
state agrees and the device is away if it is gone. -/
theorem Agrees.kept_behindPnp
    {state : QueueDriver}
    (agrees : (state.behindPnp point outcome next).Agrees)
    (away : (state.behindPnp point outcome next).Away) :
    (state.behindPnp point outcome next).Kept where
  agrees := agrees
  gone removed := by
    change next.device.deviceState.Gone at removed
    change (_ || decide next.device.deviceState.Gone) = true
    rw [decide_eq_true removed, Bool.or_true]
  away := away

/-- A device that stays in its state is gone behind a step if it was before. -/
theorem Kept.gone_same
    {state : QueueDriver}
    (kept : state.Kept) :
    (state.gone || decide state.device.deviceState.Gone) = state.gone := by
  cases gone : state.gone with
  | true => rfl
  | false =>
      refine decide_eq_false ?_
      intro removed
      rw [kept.gone removed] at gone
      cases gone

/-- A step of a plug and play request that writes neither state keeps the
driver. -/
theorem Kept.quiet_pnp
    {state : QueueDriver}
    (kept : state.Kept)
    (unwritten : pnpQueue state.device point outcome = none)
    (deviceState : next.device.deviceState = state.device.deviceState)
    (devPower : next.device.devPower = state.device.devPower) :
    (state.behindPnp point outcome next).Kept := by
  have gone :
      (state.behindPnp point outcome next).gone = state.gone := by
    change (_ || decide next.device.deviceState.Gone) = _
    rw [deviceState]
    exact kept.gone_same
  have queueState :
      (state.behindPnp point outcome next).queueState = state.queueState := by
    change (pnpQueue state.device point outcome).getD _ = _
    rw [unwritten]
    rfl
  exact kept.congr
    (kept.agrees.congr deviceState devPower queueState gone rfl rfl)
    deviceState gone

/-- A device that is not gone need not be away. -/
theorem Away.of_present
    {state : QueueDriver}
    (present : state.gone = false) : state.Away := by
  intro gone
  rw [present] at gone
  cases gone

/-- A step of a plug and play request that allows requests agrees where it
leaves a device that is not gone working. -/
theorem agrees_pnp_of_allow
    {state : QueueDriver}
    (allow : pnpQueue state.device point outcome = some .allowRequests) :
    (state.behindPnp point outcome next).Agrees ↔
      next.device.deviceState = .working ∧ state.gone = false := by
  have writes : (state.behindPnp point outcome next).queueState =
      .allowRequests := by
    rw [behindPnp, allow]
    rfl
  rw [agrees_iff_of_allow writes]
  refine and_congr_right fun working => ?_
  change next.device.deviceState = .working at working
  have stays : (state.behindPnp point outcome next).gone = state.gone := by
    rw [behindPnp, working]
    exact Bool.or_false _
  rw [stays]

/-- Behind a step of a plug and play request that leaves a device that is not
gone working, it is not gone. -/
theorem away_of_working
    {state : QueueDriver}
    (working : next.device.deviceState = .working)
    (present : state.gone = false) :
    (state.behindPnp point outcome next).Away := by
  apply Away.of_present
  rw [behindPnp, working, present]
  rfl

/-- A step of a plug and play request that holds requests agrees where it finds
a device that is not gone. -/
theorem behindPnp_of_hold
    {state : QueueDriver}
    (hold : pnpQueue state.device point outcome = some .holdRequests)
    (idle : next.device.deviceState ≠ .working)
    (here : ¬ next.device.deviceState.Gone) :
    ((state.behindPnp point outcome next).Agrees ↔ state.gone = false) ∧
      (state.gone = false → (state.behindPnp point outcome next).Away) := by
  have writes : (state.behindPnp point outcome next).queueState =
      .holdRequests := by
    rw [behindPnp, hold]
    rfl
  have stays : (state.behindPnp point outcome next).gone = state.gone := by
    rw [behindPnp, decide_eq_false here]
    exact Bool.or_false _
  rw [agrees_iff_of_hold writes, stays]
  refine ⟨and_iff_left fun working => absurd working idle, ?_⟩
  exact fun present => .of_present (stays.trans present)

/-- A handler that goes back to the previous state and allows requests agrees
where that state was `Working`. -/
theorem behindPnp_of_restore
    {state : QueueDriver}
    (allow : pnpQueue state.device point outcome = some .allowRequests)
    (deviceState : next.device.deviceState = state.device.prevDevState)
    (present : state.gone = false) :
    ((state.behindPnp point outcome next).Agrees ↔
        state.device.prevDevState = .working) ∧
      (state.device.prevDevState = .working →
        (state.behindPnp point outcome next).Away) := by
  rw [agrees_pnp_of_allow allow, deviceState]
  exact ⟨and_iff_left present,
    fun working => away_of_working (deviceState.trans working) present⟩

/-- A handler that cancels what is pending agrees where the device, if that is
pending, goes back to `Working`. -/
theorem Kept.behind_cancel
    {state : QueueDriver}
    {pending : DevState}
    (kept : state.Kept)
    (present : state.device.deviceState = pending → state.gone = false)
    (queue : pnpQueue state.device point outcome =
      if state.device.deviceState = pending then some .allowRequests else none)
    (progressed :
      (if state.device.deviceState = pending then
        some (Effect.restorePreviousPnpState, some PnpPoint.finish)
      else some (.skip, some .finish)) = some (effect, later))
    (deviceState : next.device.deviceState = effect.stateBehind state.device)
    (devPower : next.device.devPower = state.device.devPower) :
    ((state.behindPnp point outcome next).Agrees ↔
        (state.device.deviceState = pending →
          state.device.prevDevState = .working)) ∧
      ((state.device.deviceState = pending →
          state.device.prevDevState = .working) →
        (state.behindPnp point outcome next).Away) := by
  by_cases asked : state.device.deviceState = pending
  · rw [if_pos asked] at queue progressed
    cases progressed
    have behind := behindPnp_of_restore queue deviceState (present asked)
    simpa only [asked, forall_const] using behind
  · rw [if_neg asked] at queue progressed
    cases progressed
    have behind := kept.quiet_pnp queue deviceState devPower
    exact ⟨iff_of_true behind.agrees fun same => absurd same asked,
      fun _ => behind.away⟩

/-- A device that stops agrees where the queue does not allow requests. -/
theorem behindPnp_of_stop
    {state : QueueDriver}
    (kept : state.Kept)
    (unwritten : pnpQueue state.device point outcome = none)
    (stopped : next.device.deviceState = .stopped) :
    ((state.behindPnp point outcome next).Agrees ↔
        state.queueState ≠ .allowRequests) ∧
      (state.queueState ≠ .allowRequests →
        (state.behindPnp point outcome next).Away) := by
  obtain ⟨-, fails, -⟩ := kept.agrees
  have queueState : (state.behindPnp point outcome next).queueState =
      state.queueState := by
    rw [behindPnp, unwritten]
    rfl
  have stays : (state.behindPnp point outcome next).gone = state.gone := by
    rw [behindPnp, stopped]
    exact Bool.or_false _
  have idle : (state.behindPnp point outcome next).device.deviceState =
      .stopped := stopped
  unfold Agrees Away
  rw [queueState, stays, idle]
  refine ⟨⟨?_, ?_⟩, ?_⟩
  · rintro ⟨allows, -⟩ allow
    cases allows allow
  · intro held
    exact ⟨fun allow => absurd allow held, fails, nofun⟩
  · intro _ _
    exact ⟨nofun, nofun, nofun⟩

/-- A handler that leaves the queue state and the device as they were keeps
them in agreement. -/
theorem Kept.behind_quiet
    {state : QueueDriver}
    {condition : Prop}
    (kept : state.Kept)
    (unwritten : pnpQueue state.device point outcome = none)
    (deviceState : next.device.deviceState = state.device.deviceState)
    (devPower : next.device.devPower = state.device.devPower)
    (conforms : condition) :
    ((state.behindPnp point outcome next).Agrees ↔ condition) ∧
      (condition → (state.behindPnp point outcome next).Away) := by
  have behind := kept.quiet_pnp unwritten deviceState devPower
  exact ⟨iff_of_true behind.agrees conforms, fun _ => behind.away⟩

/-- A cancellation that fails leaves the queue state and the device as they
were. -/
theorem Kept.behind_failedCancel
    {state : QueueDriver}
    (kept : state.Kept)
    (cancels : minor = .cancelStopDevice ∨ minor = .cancelRemoveDevice)
    (progressed : handlePnp state.device minor .failure = some (effect, later))
    (deviceState : next.device.deviceState = effect.stateBehind state.device)
    (devPower : next.device.devPower = state.device.devPower) :
    ((state.behindPnp (.handle minor) .failure next).Agrees ↔
        state.PnpConforms (.handle minor) .failure) ∧
      (state.PnpConforms (.handle minor) .failure →
        (state.behindPnp (.handle minor) .failure next).Away) := by
  rcases cancels with rfl | rfl
  all_goals
    simp only [handlePnp] at progressed
    split at progressed <;> cases progressed
    exact kept.behind_quiet rfl deviceState devPower trivial

/-- Behind the removal of a device requests fail, unless they failed before. -/
theorem Kept.behind_removeDevice
    {state : QueueDriver}
    (kept : state.Kept)
    (progressed : handlePnp state.device .removeDevice .success =
      some (effect, later))
    (deviceState : next.device.deviceState = effect.stateBehind state.device)
    (devPower : next.device.devPower = state.device.devPower) :
    ((state.behindPnp (.handle .removeDevice) .success next).Agrees ↔ True) ∧
      (True →
        (state.behindPnp (.handle .removeDevice) .success next).Away) := by
  have same : effect.stateBehind state.device = state.device.deviceState := by
    simp only [handlePnp] at progressed
    split at progressed <;> cases progressed <;> rfl
  by_cases surprised : state.device.deviceState = .surpriseRemoved
  · exact kept.behind_quiet (if_pos surprised) (deviceState.trans same)
      devPower trivial
  · have fails : (state.behindPnp (.handle .removeDevice) .success
        next).queueState = .failRequests := by
      simp [behindPnp, pnpQueue, handlePnpQueue, surprised]
    refine ⟨iff_of_true (agrees_of_fail fails) trivial, fun _ => ?_⟩
    change (_ || decide next.device.deviceState.Gone) = true →
      next.device.deviceState ≠ _ ∧ next.device.deviceState ≠ _ ∧
        next.device.deviceState ≠ _
    rw [deviceState.trans same, kept.gone_same]
    exact kept.away

/-- The queue state agrees behind a handler of a plug and play request exactly
where the step conforms. -/
theorem Kept.behind_handlePnp
    {state : QueueDriver}
    (kept : state.Kept)
    (progressed : handlePnp state.device minor outcome = some (effect, later))
    (deviceState : next.device.deviceState = effect.stateBehind state.device)
    (devPower : next.device.devPower = state.device.devPower) :
    ((state.behindPnp (.handle minor) outcome next).Agrees ↔
        state.PnpConforms (.handle minor) outcome) ∧
      (state.PnpConforms (.handle minor) outcome →
        (state.behindPnp (.handle minor) outcome next).Away) := by
  cases minor with
  | startDevice =>
      cases outcome with
      | success =>
          cases progressed
          rw [agrees_pnp_of_allow rfl]
          exact ⟨and_iff_right deviceState,
            fun present => away_of_working deviceState present⟩
      | failure | more =>
          cases progressed
          exact kept.behind_quiet rfl deviceState devPower trivial
  | queryStopDevice | queryRemoveDevice =>
      cases outcome with
      | success =>
          cases progressed
          apply behindPnp_of_hold rfl
          · rw [deviceState]
            exact nofun
          · rw [deviceState]
            rintro (gone | gone) <;> cases gone
      | failure | more => cases progressed
  | cancelStopDevice =>
      cases outcome with
      | success =>
          exact kept.behind_cancel (fun asked => kept.present (.inr (.inl asked)))
            rfl progressed deviceState devPower
      | failure =>
          exact kept.behind_failedCancel (.inl rfl) progressed deviceState
            devPower
      | more => cases progressed
  | cancelRemoveDevice =>
      cases outcome with
      | success =>
          exact kept.behind_cancel (fun asked => kept.present (.inr (.inr asked)))
            rfl progressed deviceState devPower
      | failure =>
          exact kept.behind_failedCancel (.inr rfl) progressed deviceState
            devPower
      | more => cases progressed
  | stopDevice =>
      cases outcome with
      | failure => cases progressed
      | success | more =>
          cases progressed
          apply behindPnp_of_stop kept rfl deviceState
  | surpriseRemoval =>
      cases outcome with
      | success =>
          cases progressed
          refine ⟨iff_of_true (agrees_of_fail rfl) trivial, fun _ _ => ?_⟩
          change next.device.deviceState ≠ _ ∧ next.device.deviceState ≠ _ ∧
            next.device.deviceState ≠ _
          rw [deviceState]
          exact ⟨nofun, nofun, nofun⟩
      | failure | more => cases progressed
  | removeDevice =>
      cases outcome with
      | success =>
          exact kept.behind_removeDevice progressed deviceState devPower
      | failure | more => cases progressed
  | queryCapabilities | other =>
      cases outcome with
      | success | failure =>
          cases progressed
          exact kept.behind_quiet rfl deviceState devPower trivial
      | more => cases progressed

/-- The queue state agrees behind a step of a plug and play request exactly
where the step conforms. -/
theorem Kept.behind_progressPnp
    {state : QueueDriver}
    (kept : state.Kept)
    (progressed : progressPnp state.device point outcome = some (effect, later))
    (deviceState : next.device.deviceState = effect.stateBehind state.device)
    (devPower : next.device.devPower = state.device.devPower) :
    ((state.behindPnp point outcome next).Agrees ↔
        state.PnpConforms point outcome) ∧
      (state.PnpConforms point outcome →
        (state.behindPnp point outcome next).Away) := by
  cases point with
  | handle minor => exact kept.behind_handlePnp progressed deviceState devPower
  | setRemoved =>
      cases outcome with
      | success =>
          cases progressed
          have removed : (state.behindPnp .setRemoved .success next).gone =
              true := by
            rw [behindPnp, deviceState]
            exact Bool.or_true _
          have idle : (state.behindPnp .setRemoved .success
              next).device.deviceState = .removed := deviceState
          have queueState : (state.behindPnp .setRemoved .success
              next).queueState = state.queueState := rfl
          unfold Agrees Away
          rw [removed, idle, queueState]
          refine ⟨⟨fun behind => behind.2.1 rfl, ?_⟩, fun _ _ => ?_⟩
          · intro fails
            change state.queueState = _ at fails
            rw [fails]
            exact ⟨nofun, fun _ => rfl, nofun⟩
          · exact ⟨nofun, nofun, nofun⟩
      | failure | more => cases progressed
  | _ =>
      have same := progressPnp_quiet progressed nofun nofun
      have deviceState := deviceState.trans (same.stateBehind_eq _)
      exact ⟨iff_of_true (kept.quiet_pnp rfl deviceState devPower).agrees trivial,
        fun _ => (kept.quiet_pnp rfl deviceState devPower).away⟩

/-! ## Steps that cannot be done -/

/-- A step of another request that cannot be done conforms. -/
theorem pointConforms_of_stuck
    {state : QueueDriver}
    (stuck : ∀ effect later,
      progress state.device point outcome = some (effect, later) →
        effect.Waits) : state.PointConforms request point outcome := by
  cases point with
  | handleDevice irp =>
      cases outcome with
      | success =>
          obtain ⟨later, progressed⟩ := handleDevice_success state.device irp
          exact (stuck _ _ progressed).elim
      | failure =>
          intro held
          exact (stuck _ _ (handleDevice_failure_of_hold held)).elim
      | more => trivial
  | powerUpPending irp =>
      cases outcome with
      | success => exact (stuck _ _ rfl).elim
      | failure | more => trivial
  | powerDownPending irp =>
      obtain ⟨minor, level⟩ := irp
      cases outcome with
      | success => cases minor <;> exact (stuck _ _ rfl).elim
      | failure => exact (stuck _ _ rfl).elim
      | more => trivial
  | _ => trivial

/-- A step of a plug and play request that cannot be done conforms. -/
theorem pnpConforms_of_stuck
    {state : QueueDriver}
    (stuck : ∀ effect later,
      progressPnp state.device point outcome = some (effect, later) →
        effect.Waits) : state.PnpConforms point outcome := by
  cases point with
  | handle minor =>
      cases minor with
      | startDevice | queryStopDevice | queryRemoveDevice =>
          cases outcome with
          | success => exact (stuck _ _ rfl).elim
          | failure | more => trivial
      | cancelStopDevice | cancelRemoveDevice =>
          cases outcome with
          | success =>
              intro asked
              exact (stuck _ _ (if_pos asked)).elim
          | failure | more => trivial
      | stopDevice =>
          cases outcome with
          | success | more => exact (stuck _ _ rfl).elim
          | failure => trivial
      | _ => trivial
  | setRemoved =>
      cases outcome with
      | success => exact (stuck _ _ rfl).elim
      | failure | more => trivial
  | _ => trivial

/-! ## Runs -/

/-- An action that is no step of a request conforms. -/
theorem conforms_of_quiet
    {state : QueueDriver}
    (quiet : action.Quiet) : state.Conforms action := by
  match action with
  | .take (.startPnp _) | .take (.start _) | .refuse _ => trivial

/-- A driver is kept by a step that changes neither the device nor the queue. -/
theorem Kept.congr_driver
    {state : QueueDriver}
    (kept : state.Kept)
    (next : Driver)
    (deviceState : next.device.deviceState = state.device.deviceState)
    (devPower : next.device.devPower = state.device.devPower) :
    ({ state with driver := next } : QueueDriver).Kept :=
  kept.congr (kept.agrees.congr deviceState devPower rfl rfl rfl rfl)
    deviceState rfl

/-- Behind an action the queue state agrees exactly where the action conforms,
and then the driver is kept. -/
theorem Kept.step
    {state : QueueDriver}
    (kept : state.Kept)
    (stepped : state.step action = some (event, next)) :
    (next.Agrees ↔ state.Conforms action) ∧
      (state.Conforms action → next.Kept) := by
  cases stepped_of_step stepped with
  | quiet quiet driver same =>
      have behind : ({ state with driver := driver } : QueueDriver).Kept :=
        kept.congr_driver driver (congrArg (·.deviceState) same)
          (congrArg (·.devPower) same)
      exact ⟨iff_of_true behind.agrees (conforms_of_quiet quiet),
        fun _ => behind⟩
  | pnp present progressed driver performed =>
      have deviceState := DeviceExtension.deviceState_of_perform performed
      have devPower := (DeviceExtension.devPower_of_perform performed).trans
        (progressPnp_powerBehind progressed)
      obtain ⟨exact_, away⟩ :=
        kept.behind_progressPnp progressed deviceState devPower
      simp only [Conforms, present, Option.mem_def, Option.some.injEq,
        forall_eq']
      exact ⟨exact_, fun conforms =>
        (exact_.mpr conforms).kept_behindPnp (away conforms)⟩
  | other picked progressed driver performed =>
      have steady := (progress_accounts progressed).steady
      have deviceState :=
        (DeviceExtension.deviceState_of_perform performed).trans
          (steady.stateBehind_eq _)
      have exact_ := kept.agrees_behind_iff progressed deviceState
        (DeviceExtension.devPower_of_perform performed)
      simp only [Conforms, picked, Option.mem_def, Option.some.injEq,
        forall_eq']
      exact ⟨exact_, fun conforms =>
        kept.congr (exact_.mpr conforms) deviceState rfl⟩

/-- An action without a result conforms. -/
theorem conforms_of_stuck
    {state : QueueDriver}
    (stuck : state.step action = none) : state.Conforms action := by
  cases action with
  | take action =>
      cases action with
      | advancePnp outcome =>
          intro strand present
          rw [Option.mem_def] at present
          apply pnpConforms_of_stuck
          intro effect later progressed
          simp only [QueueDriver.step, present, Option.bind_eq_bind,
            Option.bind_some] at stuck
          have stuck := Driver.eq_none_of_bind_some stuck
          simp only [Driver.step, present, device] at stuck progressed
          simp only [progressed, Option.bind_eq_bind, Option.bind_some]
            at stuck
          exact Driver.waits_of_perform (Driver.eq_none_of_bind_some stuck)
      | advance index outcome =>
          rintro ⟨strand, others⟩ picked
          rw [Option.mem_def] at picked
          apply pointConforms_of_stuck
          intro effect later progressed
          simp only [QueueDriver.step, picked, Option.bind_eq_bind,
            Option.bind_some] at stuck
          have stuck := Driver.eq_none_of_bind_some stuck
          simp only [Driver.step, picked, device] at stuck progressed
          simp only [progressed, Option.bind_eq_bind, Option.bind_some]
            at stuck
          exact Driver.waits_of_perform (Driver.eq_none_of_bind_some stuck)
      | startPnp minor | start request => trivial
  | refuse index => trivial

/-- From a kept driver on, the queue state agrees at every step exactly when
every action conforms. -/
theorem Kept.always_iff
    {state : QueueDriver}
    (kept : state.Kept)
    (actions : List QueueAction) :
    queueMachine.Always (fun _ _ _ next => next.Agrees) state actions ↔
      queueMachine.Admits Conforms state actions := by
  apply Machine.always_iff_admits Kept ?_ ?_ ?_ kept
  · intro state action event next kept stepped
    exact (kept.step stepped).1
  · intro state action kept stuck
    exact conforms_of_stuck stuck
  · intro state action event next kept conforms stepped
    exact (kept.step stepped).2 conforms

/-! ## The order of the requests -/

/-- The queue state is what the request that bore on the queue last makes it, and
a device that a query left pending goes back to what the query found. -/
structure Tracks (state : QueueDriver) : Prop where
  writes : state.last.Writes state.queueState
  queried : state.device.deviceState = .pendingStop ∨
      state.device.deviceState = .pendingRemove →
    state.queriedWorking = true → state.device.prevDevState = .working

theorem tracks_start : start.Tracks where
  writes := ⟨by decide, nofun⟩
  queried := by decide

/-- A step of a plug and play request leaves the queue state as the last request
makes it. -/
theorem Tracks.writes_behindPnp
    {state : QueueDriver}
    (tracks : state.Tracks)
    (kept : state.Kept)
    (point : PnpPoint)
    (outcome : Outcome)
    (next : Driver) :
    (state.behindPnp point outcome next).last.Writes
      (state.behindPnp point outcome next).queueState := by
  rw [behindPnp]
  rcases pnpBearing_cases state.device point outcome with
    ⟨queue, bearing⟩ | ⟨queueState, bears, queue, bearing, writes⟩ |
    ⟨queue, bearing, surprised⟩
  · rw [queue, bearing]
    exact tracks.writes
  · rw [queue, bearing]
    exact writes
  · rw [queue, bearing]
    have fails := kept.agrees.2.1 (kept.gone (.inl surprised))
    exact ⟨by simp [fails, Bearing.Lets], fun _ => fails⟩

/-- What a step of a plug and play request does to the device state. -/
inductive StateMoves
    (device : DeviceExtension) : PnpPoint → Outcome → Effect → Prop
  /-- A query has succeeded. -/
  | query
      {minor : PnpMinor}
      (asks : minor = .queryStopDevice ∨ minor = .queryRemoveDevice) :
      StateMoves device (.handle minor) .success (.setNewPnpState pending)
  /-- A query is undone. -/
  | cancelStop (asked : device.deviceState = .pendingStop) :
      StateMoves device (.handle .cancelStopDevice) .success
        .restorePreviousPnpState
  | cancelRemove (asked : device.deviceState = .pendingRemove) :
      StateMoves device (.handle .cancelRemoveDevice) .success
        .restorePreviousPnpState
  /-- The device state is as before. -/
  | keeps
      (keeps : effect.KeepsState)
      (same : ∀ state : QueueDriver,
        state.queriedBehind point outcome = state.queriedWorking) :
      StateMoves device point outcome effect
  /-- The device is not pending any more. -/
  | settles
      {settled : DevState}
      (apart : settled ≠ .pendingStop ∧ settled ≠ .pendingRemove) :
      StateMoves device point outcome (.setNewPnpState settled)

/-- The handlers of the minor functions. -/
theorem stateMoves_of_handlePnp
    {device : DeviceExtension}
    {minor : PnpMinor}
    (handled : progressPnp device (.handle minor) outcome =
      some (effect, later)) :
    StateMoves device (.handle minor) outcome effect := by
  simp only [progressPnp] at handled
  cases minor with
  | queryStopDevice | queryRemoveDevice =>
      cases outcome with
      | success =>
          cases handled
          exact .query (by simp)
      | failure | more => cases handled
  | cancelStopDevice | cancelRemoveDevice =>
      cases outcome with
      | success =>
          simp only [handlePnp] at handled
          split at handled
          case isTrue asked =>
            cases handled
            first | exact .cancelStop asked | exact .cancelRemove asked
          case isFalse =>
            cases handled
            exact .keeps trivial fun _ => rfl
      | failure =>
          simp only [handlePnp] at handled
          split at handled <;> cases handled
          exact .keeps trivial fun _ => rfl
      | more => cases handled
  | startDevice =>
      cases outcome with
      | success =>
          cases handled
          exact .settles ⟨nofun, nofun⟩
      | failure | more =>
          cases handled
          exact .keeps trivial fun _ => rfl
  | stopDevice =>
      cases outcome with
      | success | more =>
          cases handled
          exact .settles ⟨nofun, nofun⟩
      | failure => cases handled
  | surpriseRemoval =>
      cases outcome with
      | success =>
          cases handled
          exact .settles ⟨nofun, nofun⟩
      | failure | more => cases handled
  | removeDevice =>
      cases outcome with
      | success =>
          simp only [handlePnp] at handled
          split at handled <;> cases handled
          all_goals exact .keeps trivial fun _ => rfl
      | failure | more => cases handled
  | queryCapabilities | other =>
      cases outcome with
      | success | failure =>
          cases handled
          exact .keeps trivial fun _ => rfl
      | more => cases handled

/-- Behind the handler only the step to a removed device changes the state. -/
theorem stateMoves_of_progressPnp
    {device : DeviceExtension}
    (progressed : progressPnp device point outcome = some (effect, later)) :
    StateMoves device point outcome effect := by
  cases point with
  | handle minor => exact stateMoves_of_handlePnp progressed
  | setRemoved =>
      cases outcome with
      | success =>
          cases progressed
          exact .settles ⟨nofun, nofun⟩
      | failure | more => cases progressed
  | _ =>
      exact .keeps (progressPnp_quiet progressed nofun nofun) fun _ => rfl

/-- A step of a plug and play request that conforms leaves a device that is
pending with what the query found. -/
theorem Tracks.queried_behindPnp
    {state : QueueDriver}
    {next : Driver}
    (tracks : state.Tracks)
    (conforms : state.PnpConforms point outcome)
    (moves : StateMoves state.device point outcome effect)
    (deviceState : next.device.deviceState = effect.stateBehind state.device)
    (prevDevState : next.device.prevDevState = effect.prevBehind state.device)
    (pending : next.device.deviceState = .pendingStop ∨
      next.device.deviceState = .pendingRemove)
    (queried : state.queriedBehind point outcome = true) :
    next.device.prevDevState = .working := by
  rw [deviceState] at pending
  rw [prevDevState]
  cases moves with
  | query asks =>
      rcases asks with rfl | rfl
      · exact of_decide_eq_true queried
      · exact of_decide_eq_true queried
  | cancelStop asked => exact conforms asked
  | cancelRemove asked => exact conforms asked
  | keeps keeps same =>
      rw [keeps.stateBehind_eq] at pending
      rw [keeps.prevBehind_eq]
      exact tracks.queried pending ((same state).symm.trans queried)
  | settles apart => exact absurd pending (not_or.mpr apart)

/-- An action that conforms leaves the queue state as the last request makes
it. -/
theorem Tracks.step
    {state : QueueDriver}
    (tracks : state.Tracks)
    (kept : state.Kept)
    (conforms : state.Conforms action)
    (stepped : state.step action = some (event, next)) : next.Tracks := by
  cases stepped_of_step stepped with
  | quiet quiet driver same =>
      refine ⟨tracks.writes, ?_⟩
      change driver.device.deviceState = _ ∨ driver.device.deviceState = _ →
        state.queriedWorking = true → driver.device.prevDevState = _
      rw [same]
      exact tracks.queried
  | pnp present progressed driver performed =>
      refine ⟨tracks.writes_behindPnp kept _ _ _, ?_⟩
      exact tracks.queried_behindPnp (conforms _ present)
        (stateMoves_of_progressPnp progressed)
        (DeviceExtension.deviceState_of_perform performed)
        (DeviceExtension.prevDevState_of_perform performed)
  | @other _ strand _ outcome _ _ _ picked progressed driver performed =>
      have steady := (progress_accounts progressed).steady
      have deviceState := DeviceExtension.deviceState_of_perform performed
      have prevDevState := DeviceExtension.prevDevState_of_perform performed
      rw [steady.stateBehind_eq] at deviceState
      rw [steady.keepsState.prevBehind_eq] at prevDevState
      refine ⟨?_, ?_⟩
      · rw [behind]
        rcases pointBearing_cases state.device strand.point outcome with
          ⟨queue, bearing⟩ | ⟨queueState, bears, queue, bearing, writes⟩
        · rw [queue, bearing]
          exact tracks.writes
        · rw [queue, bearing]
          exact writes
      · change driver.device.deviceState = _ ∨
          driver.device.deviceState = _ →
            state.queriedWorking = true → driver.device.prevDevState = _
        rw [deviceState, prevDevState]
        exact tracks.queried

/-- A step of a plug and play request conforms where it may come. -/
theorem Tracks.pnpConforms
    {state : QueueDriver}
    (tracks : state.Tracks)
    (scheduled : state.PnpScheduled point outcome) :
    state.PnpConforms point outcome := by
  obtain ⟨present, queried, stopped, removed⟩ := scheduled
  cases point with
  | handle minor =>
      cases minor with
      | startDevice | queryStopDevice | queryRemoveDevice =>
          cases outcome with
          | success => exact present (by simp [pnpBearing])
          | failure | more => trivial
      | cancelStopDevice =>
          cases outcome with
          | success =>
              intro pending
              exact tracks.queried (.inl pending)
                (queried (by simp [pnpBearing, pending]))
          | failure | more => trivial
      | cancelRemoveDevice =>
          cases outcome with
          | success =>
              intro pending
              exact tracks.queried (.inr pending)
                (queried (by simp [pnpBearing, pending]))
          | failure | more => trivial
      | stopDevice =>
          cases outcome with
          | success | more =>
              exact fun allow => stopped rfl (tracks.writes.1.mp allow)
          | failure => trivial
      | surpriseRemoval | removeDevice | queryCapabilities | other => trivial
  | setRemoved =>
      cases outcome with
      | success => exact tracks.writes.2 (removed rfl)
      | failure | more => trivial
  | _ => trivial

/-- A queue that is on hold does not let requests go to the device. -/
theorem Tracks.not_lets
    {state : QueueDriver}
    (tracks : state.Tracks)
    (hold : state.queueState = .holdRequests) : ¬ state.last.Lets := by
  intro lets
  have allow := tracks.writes.1.mpr lets
  rw [hold] at allow
  cases allow

/-- A step of another request conforms where it may come. -/
theorem Tracks.pointConforms
    {state : QueueDriver}
    (tracks : state.Tracks)
    (scheduled : state.PointScheduled point outcome) :
    state.PointConforms request point outcome := by
  obtain ⟨present, working, ends⟩ := scheduled
  cases point with
  | handleDevice irp =>
      have bearing := handleDeviceQueue_bearing state.device irp
      cases outcome with
      | success =>
          rcases bearing with ⟨queue, -⟩ | ⟨queue, full⟩ | ⟨queue, hold⟩
          · simp [PointConforms, queue]
          · simpa [PointConforms, queue] using working full
          · simpa [PointConforms, queue] using present hold
      | failure =>
          intro held
          rcases bearing with ⟨queue, -⟩ | ⟨queue, -⟩ | ⟨-, hold⟩
          · rw [queue] at held
            cases held
          · rw [queue] at held
            cases held
          · refine ⟨present hold, fun power here => ?_⟩
            have lets := ends (decide_eq_true power) here
            rw [pointBearing, hold] at lets
            exact lets.elim
      | more => trivial
  | powerUpPending irp =>
      cases outcome with
      | success => exact fun full => working (if_pos full)
      | failure | more => trivial
  | powerDownPending irp =>
      cases outcome with
      | success =>
          intro set full hold here
          exact absurd (ends (decide_eq_true ⟨set, full⟩) here)
            (tracks.not_lets hold)
      | failure =>
          intro power hold here
          exact absurd (ends (decide_eq_true power) here)
            (tracks.not_lets hold)
      | more => trivial
  | _ => trivial

/-- An action conforms where it may come. -/
theorem Tracks.conforms
    {state : QueueDriver}
    (tracks : state.Tracks)
    (scheduled : state.Scheduled action) : state.Conforms action := by
  match action with
  | .take (.advancePnp outcome) =>
      exact fun strand present =>
        tracks.pnpConforms (scheduled strand present)
  | .take (.advance index outcome) =>
      exact fun picked present =>
        tracks.pointConforms (scheduled picked present)
  | .take (.startPnp _) | .take (.start _) | .refuse _ => trivial

end QueueDriver

end Usb
end BthEmul
