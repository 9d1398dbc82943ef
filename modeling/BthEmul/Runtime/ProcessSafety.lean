import BthEmul.Runtime.ProcessMemory

/-!
# Use after free, and what the runtime leaks

Nothing of the runtime is used after it was freed, and nothing is freed twice,
as long as no object is deleted while a handler has still to look at it. What is
still open is what the process points to and what it has lost, whose number is
known.
-/

namespace BthEmul

open Foundation Routine Hci

namespace Runtime
namespace Lifetime

/-! ## One action -/

/-- The object that an action deletes and that may have handlers. -/
def RuntimeAction.deletes (process : Process) : RuntimeAction → Option Nat
  | .askDevice _ =>
      match process.call with
      | .asking opening => some opening.hciLocal.object
      | .idle | .failing _ _ | .closing _ => none
  | .abandonDevice =>
      match process.call with
      | .failing _ bthHci => some bthHci.object
      | .idle | .asking _ | .closing _ => none
  | .deleteDevice =>
      match process.call with
      | .closing index =>
          (process.gBthHci index).map fun bthHci => bthHci.object
      | .idle | .asking _ | .failing _ _ => none
  | .openDevice _ | .closeDevice _ _ | .sendHCICommand _ _ _ _
  | .getDeviceInfo _ _ | .spawn _ _ _ | .handle _ => none

/-- No handler has still to look at an object that is deleted. -/
def RuntimeAction.Drained (process : Process) (action : RuntimeAction) : Prop :=
  ∀ handler ∈ process.handlers, action.deletes process = some handler.object →
    handler.looks = 0

instance (process : Process) (action : RuntimeAction) :
    Decidable (action.Drained process) :=
  inferInstanceAs (Decidable (∀ _ ∈ _, _ → _))

/-- Handlers that have still to look at their object find it. -/
def Process.Attended (process : Process) : Prop :=
  ∀ handler ∈ process.handlers, handler.looks ≠ 0 →
    process.Lives handler.object

theorem Leads.attended
    {process next : Process}
    (leads : Leads process deleted next)
    (attended : process.Attended)
    (drained : ∀ handler ∈ process.handlers,
      deleted = some handler.object → handler.looks = 0) : next.Attended := by
  intro handler member looks
  rw [leads.handlers] at member
  refine leads.lives _ (attended handler member looks) ?_
  intro same
  exact looks (drained handler member same)

/-- An action that leaves handlers the objects they look at ends without a
fault. -/
theorem spends_routine
    {process : Process}
    {action : RuntimeAction}
    (sound : process.Sound)
    (attended : process.Attended)
    (drained : action.Drained process)
    (runs : action.routine process = some routine) :
    Spends process.resources routine fun result own loses =>
      result.2.Sound ∧ result.2.Attended ∧ own = result.2.resources ∧
        loses = action.losses process := by
  have settled : ∀ {deleted next}, action.deletes process = deleted →
      Leads process deleted next → next.Sound ∧ next.Attended := by
    intro deleted next same leads
    refine ⟨leads.sound, leads.attended attended ?_⟩
    intro handler member gone
    exact drained handler member (same.trans gone)
  cases RuntimeAction.runs_of_routine runs with
  | openDevice answers idle =>
      refine (spends_openDevice answers sound idle).mono ?_
      rintro result own loses ⟨leads, rfl, rfl⟩
      obtain ⟨after, kept⟩ := settled rfl leads
      exact ⟨after, kept, rfl, rfl⟩
  | askDevice answers asking =>
      refine (spends_askDevice answers sound asking).mono ?_
      rintro result own loses ⟨leads, rfl, rfl⟩
      obtain ⟨after, kept⟩ :=
        settled (by simp [RuntimeAction.deletes, asking]) leads
      exact ⟨after, kept, rfl, by simp [RuntimeAction.losses, asking]⟩
  | abandonDevice failing =>
      refine (spends_abandonDevice sound failing).mono ?_
      rintro result own loses ⟨leads, rfl, rfl⟩
      obtain ⟨after, kept⟩ :=
        settled (by simp [RuntimeAction.deletes, failing]) leads
      exact ⟨after, kept, rfl, by simp [RuntimeAction.losses, failing]⟩
  | closeDevice devId inTime idle =>
      refine (spends_closeDevice devId inTime sound idle).mono ?_
      rintro result own loses ⟨leads, rfl, rfl⟩
      obtain ⟨after, kept⟩ := settled rfl leads
      exact ⟨after, kept, rfl, rfl⟩
  | deleteDevice closing hardware object =>
      refine (spends_deleteDevice sound closing hardware object).mono ?_
      rintro result own loses ⟨leads, rfl, rfl⟩
      obtain ⟨after, kept⟩ :=
        settled (by simp [RuntimeAction.deletes, closing, object]) leads
      refine ⟨after, kept, rfl, ?_⟩
      simp [RuntimeAction.losses, closing, Process.device, hardware, object]
  | sendHCICommand devId driver event pCmdBuffer idle =>
      refine (spends_sendHCICommand devId driver event pCmdBuffer sound).mono ?_
      rintro result own loses ⟨leads, rfl, rfl⟩
      obtain ⟨after, kept⟩ := settled rfl leads
      exact ⟨after, kept, rfl, rfl⟩
  | getDeviceInfo devId writable =>
      refine (spends_getDeviceInfo devId writable sound).mono ?_
      rintro result own loses ⟨leads, rfl, rfl⟩
      obtain ⟨after, kept⟩ := settled rfl leads
      exact ⟨after, kept, rfl, rfl⟩
  | spawn looks thread found =>
      obtain ⟨lives, belongs⟩ := Process.lives_of_sourceThread found
      refine (spends_spawnHandler looks thread belongs).mono ?_
      rintro result own loses ⟨only, handlers, rfl, rfl⟩
      refine ⟨only.sound sound, ?_, rfl, rfl⟩
      intro handler member looking
      apply only.lives
      rcases handlers handler member with earlier | same
      · exact attended handler earlier looking
      · rw [same]
        exact lives
  | @handle index handler others picked =>
      have member : handler ∈ process.handlers :=
        (perm_of_pick picked).mem_iff.mpr List.mem_cons_self
      refine (spends_runHandler picked fun looking =>
        sound.mem_resources_of_lives (attended handler member looking)).mono ?_
      rintro result own loses ⟨only, handlers, rfl, rfl⟩
      refine ⟨only.sound sound, ?_, rfl, rfl⟩
      intro each remains looking
      obtain ⟨before, present, still, same⟩ := handlers each remains looking
      rw [← same]
      exact only.lives (attended before present still)

/-! ## The properties -/

/-- Nothing is used that is not open, and what the runtime and its handlers
point to is open, once each. -/
structure MemorySafe (event : RuntimeEvent) (next : RuntimeState) : Prop where
  /-- Nothing was used that was not open. -/
  noFault : event ≠ .fault
  /-- The pointers and handles are valid. -/
  valid : ∀ resource ∈ next.process.resources, next.ledger.IsOpen resource
  /-- Nothing has two owners. -/
  distinct : next.process.resources.Nodup
  /-- Nothing was freed or closed twice. -/
  freedOnce : next.ledger.released.Nodup

/-- The number of resources a run loses. -/
def lossesOfRun (state : RuntimeState) : List RuntimeAction → Nat
  | [] => 0
  | action :: rest =>
      match runtimeMachine.step state action with
      | none => 0
      | some (_, next) => action.losses state.process + lossesOfRun next rest

/-- What is open is what the process points to and what was lost. -/
structure Owned (state : RuntimeState) (lost : List Nat) : Prop where
  accounts : state.ledger.Accounts (state.process.resources ++ lost)
  sound : state.process.Sound
  attended : state.process.Attended
  running : state.crashed = false

theorem owned_start : Owned startRuntime [] where
  accounts := by
    have table : tableResources initDevicesArray.gBthHw
        initDevicesArray.gBthHci initDevicesArray.gBthDevInfo = [] :=
      List.flatMap_eq_nil_iff.mpr fun _ _ => rfl
    have empty : startRuntime.process.resources = [] := by
      rw [startRuntime, Process.resources, table]
      rfl
    rw [empty]
    exact Ledger.accounts_fresh
  sound := ⟨⟨fun _ => rfl, nofun⟩, trivial⟩
  attended := nofun
  running := rfl

/-- An action for which the handlers are through keeps the invariant. -/
theorem Owned.step
    {state next : RuntimeState}
    {action : RuntimeAction}
    (owned : Owned state lost)
    (drained : action.Drained state.process)
    (stepped : runtimeMachine.step state action = some (event, next)) :
    event ≠ .fault ∧ ∃ more,
      more.length = action.losses state.process ∧ Owned next (more ++ lost) := by
  change runtimeStep state action = some (event, next) at stepped
  simp only [runtimeStep, owned.running, Bool.false_eq_true, if_false,
    Option.bind_eq_bind, Option.bind_eq_some_iff] at stepped
  obtain ⟨routine, runs, stepped⟩ := stepped
  obtain ⟨⟨answer, process⟩, ledger, kept, ran, ⟨own, more, after, split⟩,
    accounts⟩ := spends_routine owned.sound owned.attended drained runs
      state.ledger lost owned.accounts
  obtain ⟨sound, attended, rfl, length⟩ := after
  rw [ran] at stepped
  cases stepped
  refine ⟨nofun, more, length, ?_, sound, attended, rfl⟩
  refine accounts.of_perm ((split.append_right lost).trans ?_)
  rw [List.append_assoc]

theorem Owned.memorySafe
    {next : RuntimeState}
    (owned : Owned next lost)
    (noFault : event ≠ .fault) : MemorySafe event next where
  noFault := noFault
  valid resource member :=
    owned.accounts.isOpen (List.mem_append_left _ member)
  distinct := by
    have distinct := owned.accounts.nodup_iff.mpr List.nodup_range
    exact (List.nodup_append.mp (List.nodup_append.mp distinct).1).1
  freedOnce := owned.accounts.nodup_released

/-- However calls of the runtime and handlers are interleaved, and whatever they
are answered: where no object is deleted while a handler has still to look at
it, nothing is used that is not open. -/
theorem memorySafe_of_drained
    (actions : List RuntimeAction)
    (drained : runtimeMachine.Admits
      (fun state action => action.Drained state.process)
      startRuntime actions) :
    runtimeMachine.Always (fun _ _ event next => MemorySafe event next)
      startRuntime actions := by
  refine Machine.always_of_admits (fun state => ∃ lost, Owned state lost)
    ?_ ⟨[], owned_start⟩ drained
  rintro state action event next ⟨lost, owned⟩ here stepped
  obtain ⟨noFault, more, -, after⟩ := owned.step here stepped
  exact ⟨after.memorySafe noFault, _, after⟩

/-- What a run loses is what is open in the end besides what the process points
to. -/
theorem owned_of_run
    {state final : RuntimeState}
    (owned : Owned state lost)
    (drained : runtimeMachine.Admits
      (fun state action => action.Drained state.process) state actions)
    (ran : runtimeMachine.run state actions = some (events, final)) :
    ∃ more, more.length = lossesOfRun state actions ∧
      Owned final (more ++ lost) := by
  induction actions generalizing state lost events with
  | nil =>
      cases ran
      exact ⟨[], rfl, owned⟩
  | cons action rest inductionHypothesis =>
      obtain ⟨event, next, later, stepped, ranRest, rfl⟩ :=
        Machine.run_cons_eq_some_iff.mp ran
      obtain ⟨here, drainedRest⟩ := drained
      obtain ⟨-, first, lengthFirst, after⟩ := owned.step here stepped
      obtain ⟨others, lengthOthers, ends⟩ := inductionHypothesis after
        (drainedRest event next stepped) ranRest
      refine ⟨others ++ first, ?_, ?_⟩
      · rw [lossesOfRun, stepped, List.length_append, lengthFirst,
          lengthOthers]
        exact Nat.add_comm _ _
      · rwa [List.append_assoc]

/-- In every such run, what is open is what the process points to and as much
as the run has lost. -/
theorem length_openResources_of_drained
    (actions : List RuntimeAction)
    (events : List RuntimeEvent)
    (final : RuntimeState)
    (drained : runtimeMachine.Admits
      (fun state action => action.Drained state.process)
      startRuntime actions)
    (ran : runtimeMachine.run startRuntime actions = some (events, final)) :
    final.ledger.openResources.length =
      final.process.resources.length + lossesOfRun startRuntime actions := by
  obtain ⟨more, length, owned⟩ := owned_of_run owned_start drained ran
  rw [← owned.accounts.perm_openResources.length_eq, List.length_append,
    List.append_nil, length]

/-! ## A run -/

/-- The only device is the first one. -/
def onePresent : OpenAnswers where
  present _ device := device == 0
  bthHci := { stopListening := true, stopReading := true }
  hciLocal := {
    stopListening := true
    commandEvents := Vector.replicate _ true }
  listener := {
    readyEvent := true
    thread := true
    overlappeds := Vector.replicate _ true }

theorem errorIoPending_ne_errorSuccess : errorIoPending ≠ errorSuccess := by
  decide

/-- A request is pending first, and then takes all bytes. -/
def pendingDriver : Driver where
  submit _ := {
    succeeds := false
    transferred := 0
    lastError := errorIoPending
    lastError_ne := fun _ => errorIoPending_ne_errorSuccess }
  getOverlappedResult request := {
    succeeds := true
    transferred := match request with
      | .deviceIoControl _ bytes | .writeFile bytes => bytes.length
    lastError := errorSuccess
    lastError_ne := nofun }

/-- The hardware tells its address only, and both threads start. -/
def asksWell : AskAnswers where
  driver := pendingDriver
  bdAddrEvent := true
  versionEvent := true
  bufferSizeEvent := true
  answers := {
    bdAddr := some (Vector.replicate 6 1)
    version := none
    bufferSize := none }
  start := {
    listener := onePresent.listener
    readyEvent := true
    thread := true
    overlapped := true }

/-- The first slot. -/
def firstSlot : Slot := ⟨0, Nat.succ_pos 254⟩

/-- A device is opened, an event of it handled, and it is closed. -/
def openAndClose : List RuntimeAction :=
  [.openDevice onePresent, .spawn .opening 1 true, .handle 0,
    .askDevice asksWell, .handle 0, .spawn (.listener firstSlot) 2 true,
    .handle 0, .handle 0, .closeDevice 0 true, .deleteDevice, .handle 0]

/-- The handlers look at their objects while these are there. -/
theorem memorySafe_openAndClose :
    (runtimeMachine.run startRuntime openAndClose).isSome ∧
      runtimeMachine.Always (fun _ _ event next => MemorySafe event next)
        startRuntime openAndClose :=
  ⟨by decide +kernel, memorySafe_of_drained openAndClose (by decide +kernel)⟩

/-- The information is left, and the events of both listeners are lost. -/
theorem length_openResources_openAndClose :
    ∃ events final,
      runtimeMachine.run startRuntime openAndClose = some (events, final) ∧
        final.ledger.openResources.length =
          final.process.resources.length +
            lossesOfRun startRuntime openAndClose ∧
        lossesOfRun startRuntime openAndClose = 126 := by
  obtain ⟨⟨events, final⟩, ran⟩ := Option.isSome_iff_exists.mp
    (show (runtimeMachine.run startRuntime openAndClose).isSome by
      decide +kernel)
  exact ⟨events, final, ran,
    length_openResources_of_drained openAndClose events final
      (by decide +kernel) ran, by decide +kernel⟩

end Lifetime
end Runtime
end BthEmul
