import BthEmul.Usb.Accounting
import BthEmul.Usb.RequestQueue

/-!
# Holding requests

While the queue is on hold, a request that arrives for a started device should
wait on the queue. None of the dispatch routines calls `QueueRequest`: they only
look at `DeviceState`, which is still `Working` when the queue is held for a
change of power, and fail the request in the other states.

Nothing else in the driver calls `QueueRequest` either. It may be called here
at any time during a hold, to say what would become of an irp on the queue.
`ProcessQueuedRequests` runs behind every step that ends a hold, and where all of
that is done no irp is left.
-/

namespace BthEmul

open Foundation

namespace Usb

/-- What becomes of a request in a step. -/
inductive HeldEvent
  /-- Its dispatch routine goes on to send it to the lower driver. -/
  | passed
  /-- Its dispatch routine completes it. -/
  | failed
  /-- It is on the queue, or leaves it. -/
  | irp (fate : IrpFate)
  deriving DecidableEq

/-- What becomes of an irp on the queue. -/
def HeldEvent.fate : HeldEvent → Option IrpFate
  | irp fate => some fate
  | passed | failed => none

/-- What `FreeBT_DispatchRead`, `FreeBT_DispatchWrite` and
`FreeBT_DispatchDevCtrl` do with a request that arrives. -/
def Point.arrival
    (device : DeviceExtension) : Point → Outcome → Option HeldEvent
  | .dispatchTransfer _, .success | .dispatchHci _, .success =>
      if device.deviceState = .working then some .passed else none
  | .dispatchTransfer _, .failure | .dispatchHci _, .failure => some .failed
  | _, _ => none

/-- The device has been started, and neither stopped nor removed since. -/
def DevState.Started (state : DevState) : Prop :=
  state = .working ∨ state = .pendingStop ∨ state = .pendingRemove

instance (state : DevState) : Decidable state.Started :=
  inferInstanceAs (Decidable (_ ∨ _))

namespace QueueDriver

/-- What a dispatch routine does with the request that arrives in an action, if
one does. -/
def arrival (state : QueueDriver) : QueueAction → Option HeldEvent
  | .take (.advance index outcome) => do
      let (strand, _) ← pick state.driver.strands index
      strand.point.arrival state.device outcome
  | _ => none

/-- What an action writes to `QueueState`. -/
def written (state : QueueDriver) : QueueAction → Option QueueState
  | .take (.advancePnp outcome) => do
      let strand ← state.driver.pnp
      pnpQueue state.device strand.point outcome
  | .take (.advance index outcome) => do
      let (strand, _) ← pick state.driver.strands index
      pointQueue state.device strand.point outcome
  | _ => none

/-- The queue of a started device is on hold. -/
def OnHold (state : QueueDriver) : Prop :=
  state.queueState = .holdRequests ∧ state.device.deviceState.Started

instance (state : QueueDriver) : Decidable state.OnHold :=
  inferInstanceAs (Decidable (_ ∧ _))

end QueueDriver

/-- The driver and the routines that use its queue. -/
structure HeldDriver where
  /-- The driver. -/
  driver : QueueDriver
  /-- The queue and the routines that use it. -/
  held : Pool RequestQueue QueuePoint
  deriving DecidableEq

/-- An action of the driver, or a routine that uses the queue begins or takes a
step. -/
inductive HeldAction
  | take (action : QueueAction)
  | start (routine : QueueRoutine)
  | advance (index : Nat)
  deriving DecidableEq

namespace HeldDriver

/-- A device that has been added. -/
def start : HeldDriver where
  driver := .start
  held := { shared := .start, strands := [] }

/-- What an action does to a request, and the driver behind it. -/
def step
    (state : HeldDriver) :
    HeldAction → Option (Option HeldEvent × HeldDriver)
  | .take action => do
      let (_, driver) ← state.driver.step action
      -- `ProcessQueuedRequests` is called where a hold ends
      let calls := match state.driver.written action with
        | some .allowRequests | some .failRequests => [.process []]
        | some .holdRequests | none => []
      some (state.driver.arrival action, {
        driver := driver
        held := { state.held with strands := state.held.strands ++ calls } })
  | .start routine => do
      let (_, held) ← queueProgram.machine.step state.held (.start routine)
      some (none, { state with held := held })
  | .advance index => do
      let (fate, held) ← queueProgram.machine.step state.held
        (.advance index state.driver.queueState)
      some (fate.join.map .irp, { state with held := held })

/-- A request that arrives while the queue is on hold is queued, and every irp
that was ever queued leaves the driver once: none is left when the hold has ended
and the routines that use the queue are done. -/
structure Settled
    (state : HeldDriver)
    (action : HeldAction)
    (event : Option HeldEvent)
    (next : HeldDriver) : Prop where
  queued : state.driver.OnHold → ∀ inner, action = .take inner →
    (state.driver.arrival inner).isSome →
      ∃ irp, event = some (.irp (.queued irp))
  settled : SettledOnce state.held.shared state.driver.queueState
    (event.bind HeldEvent.fate) next.held.shared next.held.strands
  drained : next.held.strands = [] →
    next.driver.queueState ≠ .holdRequests →
      ∀ irp, ¬ next.held.shared.irps.IsOpen irp

/-- What an action needs: no request arrives while the queue is on hold, and
none of those queued is sent while it is on hold again. -/
def Conforms (state : HeldDriver) : HeldAction → Prop
  | .take action => state.driver.OnHold → state.driver.arrival action = none
  | .start _ => True
  | .advance index =>
      ∀ picked ∈ pick state.held.strands index,
        picked.1.Waits state.driver.queueState

end HeldDriver

/-- The driver and the routines that use its queue under successive actions. -/
def heldMachine : Machine HeldDriver HeldAction (Option HeldEvent) where
  step := HeldDriver.step

/-! ## Steps -/

/-- A routine begins without irps. -/
theorem QueueKept.enter_point
    (kept : QueueKept queue strands)
    (point : QueuePoint)
    (irps : point.irps = [])
    (cancelling : point.cancelling = [])
    (taking : ∀ irp, .takeRoutine irp ≠ point)
    (setting : ∀ irp, .setCancel irp = point → irp < queue.irps.issued) :
    QueueKept queue (point :: strands) where
  irps := by
    rw [List.flatMap_cons, irps]
    exact kept.irps
  disarmed := kept.disarmed
  cancelled := kept.cancelled
  asked other member := by
    rcases List.mem_cons.mp member with rfl | old
    · rw [cancelling]
      exact nofun
    · exact kept.asked other old
  taking irp member := by
    rcases List.mem_cons.mp member with new | old
    · exact absurd new (taking irp)
    · exact kept.taking irp old
  setting irp member := by
    rcases List.mem_cons.mp member with new | old
    · exact setting irp new
    · exact kept.setting irp old

/-- A routine that begins has no irp yet. -/
theorem QueueKept.enter
    (kept : QueueKept queue strands)
    {routine : QueueRoutine}
    (begins : routine.Begins queue) :
    QueueKept queue (routine.entry :: strands) := by
  cases routine with
  | queueRequest fileObject cancel =>
      exact kept.enter_point (.queueRequest fileObject cancel) rfl rfl nofun nofun
  | dispatchClean fileObject =>
      exact kept.enter_point (.dispatchClean fileObject) rfl rfl nofun nofun
  | ioCancelIrp irp =>
      apply kept.enter_point (.setCancel irp) rfl rfl nofun
      rintro _ ⟨⟩
      exact begins

/-- A step that ends a hold calls `ProcessQueuedRequests`. -/
theorem QueueKept.calls
    (kept : QueueKept queue strands)
    (written : Option QueueState) :
    QueueKept queue (strands ++ match written with
      | some .allowRequests | some .failRequests => [.process []]
      | some .holdRequests | none => []) := by
  have same : QueueKept queue (strands ++ []) := by
    rwa [List.append_nil]
  have called : QueueKept queue (strands ++ [.process []]) :=
    (kept.enter_point (.process []) rfl rfl nofun nofun).of_perm
      (List.perm_append_singleton _ _).symm
  cases written with
  | none => exact same
  | some queueState =>
      cases queueState with
      | holdRequests => exact same
      | allowRequests | failRequests => exact called

/-- A step that ends a hold has the queue emptied. -/
theorem Drains.calls
    (drains : Drains queue queueState strands)
    (written : Option QueueState) :
    Drains queue (written.getD queueState) (strands ++ match written with
      | some .allowRequests | some .failRequests => [.process []]
      | some .holdRequests | none => []) := by
  have called (queueState : QueueState) :
      Drains queue queueState (strands ++ [.process []]) :=
    .inr (.inr ⟨_, List.mem_append_right _ List.mem_cons_self, rfl⟩)
  cases written with
  | none => exact drains.of_subset (List.subset_append_left _ _)
  | some queueState =>
      cases queueState with
      | holdRequests => exact .inl rfl
      | allowRequests | failRequests => exact called _

/-- A dispatch routine does not put its request on the queue. -/
theorem Point.fate_of_arrival
    {point : Point}
    (arrived : point.arrival device outcome = some event) :
    event.fate = none := by
  unfold Point.arrival at arrived
  split at arrived
  · split at arrived <;> cases arrived
    rfl
  · split at arrived <;> cases arrived
    rfl
  all_goals cases arrived <;> rfl

/-- A dispatch routine takes its step. -/
theorem Point.progress_of_arrival
    {point : Point}
    (arrived : point.arrival device outcome = some event) :
    ∃ later, progress device point outcome = some (.skip, later) := by
  unfold Point.arrival at arrived
  split at arrived
  · split at arrived
    case isTrue working => exact ⟨_, if_pos working⟩
    case isFalse => cases arrived
  · split at arrived
    case isTrue working => exact ⟨_, if_pos working⟩
    case isFalse => cases arrived
  · exact ⟨_, rfl⟩
  · exact ⟨_, rfl⟩
  · cases arrived

/-- A request arrives in a step of its own. -/
theorem QueueDriver.of_arrival
    {state : QueueDriver}
    (arrived : state.arrival action = some event) :
    ∃ index outcome strand others,
      action = .take (.advance index outcome) ∧
        pick state.driver.strands index = some (strand, others) ∧
        strand.point.arrival state.device outcome = some event := by
  unfold arrival at arrived
  split at arrived
  case h_1 index outcome =>
    simp only [Option.bind_eq_bind, Option.bind_eq_some_iff] at arrived
    obtain ⟨⟨strand, others⟩, picked, arrived⟩ := arrived
    exact ⟨index, outcome, strand, others, rfl, picked, arrived⟩
  case h_2 => cases arrived

/-- An action writes `QueueState`, or leaves it as it is. -/
theorem QueueDriver.queueState_of_step
    {state : QueueDriver}
    (stepped : state.step action = some (event, next)) :
    next.queueState = (state.written action).getD state.queueState := by
  cases stepped_of_step stepped with
  | quiet quiet driver same =>
      match action with
      | .take (.startPnp _) | .take (.start _) | .refuse _ => rfl
  | pnp present progressed driver performed =>
      simp [written, behindPnp, present]
  | other picked progressed driver performed =>
      simp [written, behind, picked]

/-- The step in which a request arrives can be taken. -/
theorem QueueDriver.step_of_arrival
    {state : QueueDriver}
    (arrived : state.arrival action = some event) :
    state.step action ≠ none := by
  obtain ⟨index, outcome, strand, others, rfl, picked, arrived⟩ :=
    of_arrival arrived
  obtain ⟨later, progressed⟩ := Point.progress_of_arrival arrived
  rw [device] at progressed
  simp [step, picked, Driver.step, progressed, Driver.perform,
    DeviceExtension.perform]

namespace HeldDriver

/-- The routines have the irps of the queue, and it is emptied while it is not
on hold. -/
structure Kept (state : HeldDriver) : Prop where
  queue : QueueKept state.held.shared state.held.strands
  drains : Drains state.held.shared state.driver.queueState state.held.strands

theorem kept_start : start.Kept where
  queue := queueKept_start
  drains := .inl rfl

/-- No irp is left where the hold has ended and the routines are done. -/
theorem Kept.drained
    {state : HeldDriver}
    (kept : state.Kept)
    (done : state.held.strands = [])
    (hold : state.driver.queueState ≠ .holdRequests)
    (irp : Nat) : ¬ state.held.shared.irps.IsOpen irp := by
  obtain ⟨queue, drains⟩ := kept
  rw [done] at queue drains
  exact queue.drained drains hold irp

/-- An action of the driver settles the irps exactly where no request arrives
while the queue is on hold. -/
theorem Kept.step_take
    {state : HeldDriver}
    (kept : state.Kept)
    (stepped : state.step (.take action) = some (event, next)) :
    (state.Settled (.take action) event next ↔ state.Conforms (.take action)) ∧
      next.Kept := by
  simp only [HeldDriver.step, Option.bind_eq_bind,
    Option.bind_eq_some_iff] at stepped
  obtain ⟨⟨inner, driver⟩, stepped, same⟩ := stepped
  cases same
  have drains := kept.drains.calls (state.driver.written action)
  rw [← QueueDriver.queueState_of_step stepped] at drains
  have queue := kept.queue.calls (state.driver.written action)
  have behind : Kept {
      driver := driver
      held := { state.held with strands := state.held.strands ++ _ } } :=
    ⟨queue, drains⟩
  have fate : (state.driver.arrival action).bind HeldEvent.fate = none := by
    cases arrived : state.driver.arrival action with
    | none => rfl
    | some event =>
        obtain ⟨_, _, _, _, -, -, arrived⟩ := QueueDriver.of_arrival arrived
        exact Point.fate_of_arrival arrived
  refine ⟨⟨?_, fun conforms => ⟨?_, ?_, behind.drained⟩⟩, behind⟩
  · intro settled hold
    cases arrived : state.driver.arrival action with
    | none => rfl
    | some event =>
        obtain ⟨irp, queued⟩ :=
          settled.queued hold action rfl (by rw [arrived]; rfl)
        rw [queued] at fate
        cases fate
  · rintro hold inner ⟨⟩ arrived
    rw [conforms hold] at arrived
    cases arrived
  · rw [fate]
    exact queue.settledOnce_of_same _ none _ rfl nofun

/-- A routine that begins settles nothing. -/
theorem Kept.step_start
    {state : HeldDriver}
    (kept : state.Kept)
    (stepped : state.step (.start routine) = some (event, next)) :
    state.Settled (.start routine) event next ∧ next.Kept := by
  simp only [HeldDriver.step, Option.bind_eq_bind,
    Option.bind_eq_some_iff] at stepped
  obtain ⟨⟨output, held⟩, stepped, same⟩ := stepped
  cases same
  obtain ⟨routine, shared, point, same, entered, rfl, rfl⟩ |
    ⟨_, _, _, _, _, _, _, same, -⟩ := Program.cases_of_step stepped
  · cases same
    simp only [queueProgram] at entered
    split at entered
    case isTrue begins =>
      cases entered
      have queue := (kept.queue.enter begins).of_perm
        (List.perm_append_singleton _ _).symm
      have behind : Kept { state with
          held := { state.held with
            strands := state.held.strands ++ [routine.entry] } } :=
        ⟨queue, kept.drains.of_subset (List.subset_append_left _ _)⟩
      refine ⟨⟨nofun, ?_, behind.drained⟩, behind⟩
      exact queue.settledOnce_of_same _ none _ rfl nofun
    case isFalse => cases entered
  · cases same

/-- A step of a routine settles the irps exactly where it does not send one while
the queue is on hold. -/
theorem Kept.step_advance
    {state : HeldDriver}
    (kept : state.Kept)
    (stepped : state.step (.advance index) = some (event, next)) :
    (state.Settled (.advance index) event next ↔
        state.Conforms (.advance index)) ∧
      next.Kept := by
  simp only [HeldDriver.step, Option.bind_eq_bind,
    Option.bind_eq_some_iff] at stepped
  obtain ⟨⟨output, held⟩, stepped, same⟩ := stepped
  cases same
  obtain ⟨_, _, _, same, -⟩ |
    ⟨index, queueState, point, rest, fate, shared, later, same, picked,
      advanced, rfl, rfl⟩ := Program.cases_of_step stepped
  · cases same
  · cases same
    have advanced := Option.some.inj advanced
    have here := kept.queue.of_perm (perm_of_pick picked)
    have queue := here.advance state.driver.queueState
    have drains := (kept.drains.of_perm (perm_of_pick picked)).advance
    have settled := here.settledOnce_iff state.driver.queueState
    rw [advanced] at queue drains settled
    have swap : (later ++ rest).Perm (rest ++ later) := List.perm_append_comm
    have behind : Kept { state with
        held := { shared := shared, strands := rest ++ later } } :=
      ⟨queue.of_perm swap, drains.of_perm swap⟩
    have fates : ((some fate).join.map HeldEvent.irp).bind HeldEvent.fate =
        fate := by
      cases fate <;> rfl
    refine ⟨⟨?_, fun conforms => ⟨nofun, ?_, behind.drained⟩⟩, behind⟩
    · rintro outer _ present
      rw [Option.mem_def, picked] at present
      cases present
      have inner := outer.settled
      rw [fates] at inner
      exact settled.mp (inner.of_perm swap.symm)
    · rw [fates]
      exact (settled.mpr (conforms _ picked)).of_perm swap

/-- Behind an action the irps are settled exactly where it conforms, and they
are kept in any case. -/
theorem Kept.step
    {state : HeldDriver}
    (kept : state.Kept)
    (stepped : state.step action = some (event, next)) :
    (state.Settled action event next ↔ state.Conforms action) ∧ next.Kept := by
  cases action with
  | take action => exact kept.step_take stepped
  | start routine =>
      obtain ⟨settled, behind⟩ := kept.step_start stepped
      exact ⟨iff_of_true settled trivial, behind⟩
  | advance index => exact kept.step_advance stepped

/-- An action without a result conforms. -/
theorem conforms_of_stuck
    {state : HeldDriver}
    (stuck : state.step action = none) : state.Conforms action := by
  cases action with
  | take action =>
      intro _
      cases arrived : state.driver.arrival action with
      | none => rfl
      | some event =>
          simp only [HeldDriver.step, Option.bind_eq_bind] at stuck
          exact absurd (Driver.eq_none_of_bind_some stuck)
            (QueueDriver.step_of_arrival arrived)
  | start routine => trivial
  | advance index =>
      rintro ⟨point, rest⟩ picked
      rw [Option.mem_def] at picked
      simp [HeldDriver.step, Program.machine, picked, queueProgram] at stuck

instance (state : HeldDriver) :
    (action : HeldAction) → Decidable (state.Conforms action)
  | .take action =>
      inferInstanceAs (Decidable (_ → state.driver.arrival action = none))
  | .start _ => isTrue trivial
  | .advance index =>
      inferInstanceAs (Decidable (∀ picked ∈ pick state.held.strands index,
        picked.1.Waits state.driver.queueState))

/-! ## Runs -/

/-- From a driver that has the irps of its queue on, they are settled at every
step exactly when every action conforms. -/
theorem Kept.always_iff
    {state : HeldDriver}
    (kept : state.Kept)
    (actions : List HeldAction) :
    heldMachine.Always Settled state actions ↔
      heldMachine.Admits Conforms state actions := by
  apply Machine.always_iff_admits Kept ?_ ?_ ?_ kept
  · intro state action event next kept stepped
    exact (kept.step stepped).1
  · intro state action _ stuck
    exact conforms_of_stuck stuck
  · intro state action event next kept _ stepped
    exact (kept.step stepped).2

/-- Every request that arrives while the queue of a started device is on hold
is queued, and every irp ever queued leaves the driver once and none is left when
the hold has ended and the routines are done, exactly when no request arrives
while the queue is on hold, and none of those queued is sent while it is on hold
again. -/
theorem settled_iff_conforms (actions : List HeldAction) :
    heldMachine.Always Settled start actions ↔
      heldMachine.Admits Conforms start actions :=
  kept_start.always_iff actions

/-- A device starts, and is about to lose its power when a read arrives. -/
def readWhileHeld : List HeldAction :=
  let started :=
    .startPnp .startDevice :: List.replicate 4 (.advancePnp .success)
  let held :=
    .start (.power (.system { minor := .setPower, deviceState := .d3 })) ::
      List.replicate 8 (.advance 0 .success)
  let read :=
    .start (.transfer .read) :: List.replicate 2 (.advance 1 .success)
  (started ++ held ++ read).map fun action => .take (.take action)

/-- The lower driver has the read while the queue is on hold. -/
theorem not_settled_readWhileHeld :
    ¬ heldMachine.Always Settled start readWhileHeld ∧
      ∃ events final,
        heldMachine.run start readWhileHeld = some (events, final) ∧
          final.driver.OnHold ∧
          final.held.shared.newRequestsQueue = [] ∧
          ⟨2, .transferPending .read⟩ ∈ final.driver.driver.strands := by
  constructor
  · rw [kept_start.always_iff]
    decide +kernel
  · decide +kernel

end HeldDriver

end Usb
end BthEmul
