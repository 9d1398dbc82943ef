import BthEmul.Runtime.ProcessSafety

/-!
# Handlers whose object is gone

An object that is deleted while a handler has still to look at it is looked at
after it was freed: the handler is a thread that nothing waits for, and goes on
with the pointer it was given.
-/

namespace BthEmul

open Foundation Routine

namespace Runtime
namespace Lifetime

/-! ## What is freed -/

theorem HciObject.yields_stopEventListener (hci : HciObject) :
    Yields hci.stopEventListener fun next => next.object = hci.object :=
  yields_bind_any fun _ => yields_bind_any fun _ => yields_pure rfl

theorem HciObject.frees_destroy (hci : HciObject) :
    Frees hci.destroy hci.object := by
  refine hci.yields_stopEventListener.frees fun next same => ?_
  rw [← same]
  exact frees_bind fun _ => frees_free next.object

theorem HciLocalObject.yields_stopEventListener (hci : HciLocalObject) :
    Yields hci.stopEventListener fun next => next.object = hci.object :=
  hci.toHciObject.yields_stopEventListener.bind fun _ same => yields_pure same

theorem HciLocalObject.frees_destroy (hci : HciLocalObject) :
    Frees hci.destroy hci.object :=
  frees_bind fun _ => hci.toHciObject.frees_destroy

theorem EmulHciObject.frees_destroy (hci : EmulHciObject) :
    Frees hci.destroy hci.object :=
  frees_bind fun _ => hci.toHciObject.frees_destroy

theorem frees_deleteObjects (bthHw : HwObject) (bthHci : EmulHciObject) :
    Frees (deleteObjects bthHw bthHci) bthHci.object :=
  bthHci.frees_destroy.bind fun _ => grows_free bthHw.object

theorem HciObject.grows_beginListener
    (hci : HciObject)
    (bthHw : HwObject)
    (overlappeds : List Bool) :
    Grows (hci.beginListener bthHw overlappeds) := by
  refine grows_bind (grows_touchAll _) fun _ => ?_
  refine grows_bind (grows_acquireAll _) fun created => ?_
  exact grows_bind (grows_touchAll _) fun _ => grows_pure _

theorem HciObject.grows_startEventListener
    (hci : HciObject)
    (bthHw : HwObject)
    (answers : ListenerAnswers) :
    Grows (hci.startEventListener bthHw answers) := by
  rw [HciObject.startEventListener]
  refine grows_bind (grows_touch _) fun _ => ?_
  split
  · exact grows_pure _
  refine grows_bind (grows_acquire _) fun ready => ?_
  refine grows_bind (grows_acquire _) fun thread => ?_
  cases thread with
  | none => exact grows_bind (grows_freeAll _) fun _ => grows_pure _
  | some thread =>
      refine grows_bind (hci.grows_beginListener _ _) fun overlappeds => ?_
      refine grows_bind (grows_touchAll _) fun _ => ?_
      exact grows_bind (grows_freeAll _) fun _ => grows_pure _

theorem EmulHciObject.grows_beginDataReader
    (hci : EmulHciObject)
    (bthHw : HwObject)
    (overlapped : Bool) :
    Grows (hci.beginDataReader bthHw overlapped) := by
  refine grows_bind (grows_touchAll _) fun _ => ?_
  refine grows_bind (grows_acquire _) fun created => ?_
  exact grows_bind (grows_touchAll _) fun _ => grows_pure _

theorem EmulHciObject.grows_startReader
    (hci : EmulHciObject)
    (bthHw : HwObject)
    (answers : StartAnswers) : Grows (hci.startReader bthHw answers) := by
  rw [EmulHciObject.startReader]
  split
  · exact grows_pure _
  refine grows_bind (grows_acquire _) fun ready => ?_
  refine grows_bind (grows_acquire _) fun thread => ?_
  cases thread with
  | none => exact grows_bind (grows_freeAll _) fun _ => grows_pure _
  | some thread =>
      refine grows_bind (grows_touchAll _) fun _ => ?_
      refine grows_bind (hci.grows_beginDataReader _ _) fun overlapped => ?_
      exact grows_bind (grows_freeAll _) fun _ => grows_pure _

theorem EmulHciObject.grows_startEventListener
    (hci : EmulHciObject)
    (bthHw : HwObject)
    (answers : StartAnswers) :
    Grows (hci.startEventListener bthHw answers) := by
  refine grows_bind (hci.toHciObject.grows_startEventListener _ _) fun result => ?_
  obtain ⟨started, parent⟩ := result
  cases started with
  | true => exact EmulHciObject.grows_startReader _ bthHw answers
  | false => exact grows_pure _

theorem frees_askDevice
    (process : Process)
    (opening : Opening)
    (answers : AskAnswers) :
    Frees (askDevice process opening answers) opening.hciLocal.object := by
  refine frees_bind fun _ => ?_
  refine frees_bind fun _ => ?_
  refine frees_bind fun _ => ?_
  refine opening.hciLocal.yields_stopEventListener.frees fun stopped same => ?_
  rw [← same]
  refine stopped.frees_destroy.bind fun _ => ?_
  refine grows_bind (grows_touchAll _) fun _ => ?_
  refine grows_bind (EmulHciObject.grows_startEventListener _ _ _)
    fun result => ?_
  obtain ⟨started, bthHci⟩ := result
  cases started <;> exact grows_pure _

/-- An action that deletes an object gives its memory back and leaves the
handlers as they are. -/
theorem frees_routine
    {process : Process}
    {action : RuntimeAction}
    {routine : Routine (RuntimeAnswer × Process)}
    (sound : process.Sound)
    (deletes : action.deletes process = some object)
    (runs : action.routine process = some routine) :
    Frees routine object ∧
      Spends process.resources routine fun result _ _ =>
        result.2.handlers = process.handlers := by
  cases RuntimeAction.runs_of_routine runs with
  | askDevice answers asking =>
      simp only [RuntimeAction.deletes, asking, Option.some.injEq] at deletes
      subst deletes
      refine ⟨frees_askDevice _ _ _,
        (spends_askDevice answers sound asking).mono ?_⟩
      rintro result own loses ⟨leads, -, -⟩
      exact leads.handlers
  | abandonDevice failing =>
      simp only [RuntimeAction.deletes, failing, Option.some.injEq] at deletes
      subst deletes
      refine ⟨(frees_deleteObjects _ _).bind fun _ => grows_pure _,
        (spends_abandonDevice sound failing).mono ?_⟩
      rintro result own loses ⟨leads, -, -⟩
      exact leads.handlers
  | deleteDevice closing hardware found =>
      simp only [RuntimeAction.deletes, closing, found, Option.map_some,
        Option.some.injEq] at deletes
      subst deletes
      refine ⟨(frees_deleteObjects _ _).bind fun _ => grows_pure _,
        (spends_deleteDevice sound closing hardware found).mono ?_⟩
      rintro result own loses ⟨leads, -, -⟩
      exact leads.handlers
  | openDevice => cases deletes
  | closeDevice => cases deletes
  | sendHCICommand => cases deletes
  | getDeviceInfo => cases deletes
  | spawn => cases deletes
  | handle => cases deletes

/-! ## The step of a handler -/

/-- A handler that looks at an object that was freed faults. -/
theorem step_handle_of_released
    {state : RuntimeState}
    {handler : Handler}
    (running : state.crashed = false)
    (picked : pick state.process.handlers index = some (handler, others))
    (looks : handler.looks ≠ 0)
    (released : handler.object ∈ state.ledger.released) :
    runtimeMachine.step state (.handle index) =
      some (.fault, { state with crashed := true }) := by
  obtain ⟨fewer, more⟩ := Nat.exists_eq_succ_of_ne_zero looks
  have faults : runHandler state.process handler others state.ledger = none := by
    rw [runHandler, more]
    exact touch_of_released released _
  change runtimeStep state _ = _
  rw [runtimeStep, if_neg (by rw [running]; exact Bool.false_ne_true)]
  simp only [RuntimeAction.routine, picked, Option.bind_eq_bind,
    Option.bind_some, faults]

/-- An action that deletes an object at which a handler has still to look leaves
that handler to fault. -/
theorem Owned.stale
    {state next : RuntimeState}
    {action : RuntimeAction}
    {handler : Handler}
    (owned : Owned state lost)
    (member : handler ∈ state.process.handlers)
    (deletes : action.deletes state.process = some handler.object)
    (looks : handler.looks ≠ 0)
    (stepped : runtimeMachine.step state action = some (event, next)) :
    ∃ index after,
      runtimeMachine.step next (.handle index) = some (.fault, after) := by
  change runtimeStep state action = some (event, next) at stepped
  simp only [runtimeStep, owned.running, Bool.false_eq_true, if_false,
    Option.bind_eq_bind, Option.bind_eq_some_iff] at stepped
  obtain ⟨routine, runs, stepped⟩ := stepped
  obtain ⟨frees, spends⟩ := frees_routine owned.sound deletes runs
  obtain ⟨⟨answer, process⟩, ledger, kept, ran, ⟨-, -, handlers, -⟩, -⟩ :=
    spends state.ledger lost owned.accounts
  rw [ran] at stepped
  cases stepped
  rw [← handlers] at member
  obtain ⟨index, present⟩ := List.getElem?_of_mem member
  exact ⟨index, _, step_handle_of_released rfl
    (pick_eq_some_iff.mpr ⟨present, rfl⟩) looks (frees _ _ _ ran)⟩

/-- In every state that a run reaches in which no object was deleted too early:
an action deletes none too early exactly where no handler faults behind it. -/
theorem drained_iff_of_run
    (actions : List RuntimeAction)
    (events : List RuntimeEvent)
    (state next : RuntimeState)
    (action : RuntimeAction)
    (event : RuntimeEvent)
    (drained : runtimeMachine.Admits
      (fun state action => action.Drained state.process)
      startRuntime actions)
    (ran : runtimeMachine.run startRuntime actions = some (events, state))
    (stepped : runtimeMachine.step state action = some (event, next)) :
    action.Drained state.process ↔
      ∀ index behind after,
        runtimeMachine.step next (.handle index) = some (behind, after) →
          behind ≠ .fault := by
  obtain ⟨lost, -, owned⟩ := owned_of_run owned_start drained ran
  constructor
  · intro here index behind after handled
    obtain ⟨-, more, -, ownedNext⟩ := owned.step here stepped
    refine (ownedNext.step ?_ handled).1
    intro handler _ deletes
    cases deletes
  · intro safe handler member deletes
    by_contra looks
    obtain ⟨index, after, faults⟩ :=
      owned.stale member deletes looks stepped
    exact safe index _ _ faults rfl

/-! ## A run -/

/-- A device is open, and an event of it has just begun to be handled. -/
def openAndEvent : List RuntimeAction :=
  [.openDevice onePresent, .askDevice asksWell,
    .spawn (.listener firstSlot) 1 true, .closeDevice 0 true]

/-- The objects of the device are deleted before the handler looks at one. -/
theorem drained_iff_openAndEvent :
    ∃ events state event next,
      runtimeMachine.run startRuntime openAndEvent = some (events, state) ∧
        runtimeMachine.step state .deleteDevice = some (event, next) ∧
        ¬ RuntimeAction.deleteDevice.Drained state.process ∧
        (RuntimeAction.deleteDevice.Drained state.process ↔
          ∀ index behind after,
            runtimeMachine.step next (.handle index) = some (behind, after) →
              behind ≠ .fault) := by
  obtain ⟨events, state, ran, early, steps⟩ :
      ∃ events state,
        runtimeMachine.run startRuntime openAndEvent = some (events, state) ∧
          ¬ RuntimeAction.deleteDevice.Drained state.process ∧
            (runtimeMachine.step state .deleteDevice).isSome := by
    decide +kernel
  obtain ⟨⟨event, next⟩, stepped⟩ := Option.isSome_iff_exists.mp steps
  exact ⟨events, state, event, next, ran, stepped, early,
    drained_iff_of_run openAndEvent events state next _ event
      (by decide +kernel) ran stepped⟩

end Lifetime
end Runtime
end BthEmul
