import BthEmul.Runtime.ProcessSafety

/-!
# Who has a driver device open

A driver device is opened by one handle at a time. Those that are open are those
of the objects of the runtime and those of openings whose listener or reader did
not start: the hardware is then deleted without being detached, and nothing
closes its handle any more.
-/

namespace BthEmul

open Foundation Routine

namespace Runtime
namespace Lifetime

/-! ## The devices of the objects -/

/-- The devices of an entry of the table. -/
def slotDevices (bthHw : Option HwObject) : List Nat :=
  bthHw.elim [] HwObject.devices

/-- The devices of the table. -/
def tableDevices (gBthHw : Slot → Option HwObject) : List Nat :=
  (List.finRange maxDevices).flatMap fun index => slotDevices (gBthHw index)

/-- The devices of a call in progress. -/
def ClientCall.devices : ClientCall → List Nat
  | .idle | .closing _ => []
  | .asking opening => opening.bthHw.devices
  | .failing bthHw _ => bthHw.devices

/-- The devices that the objects of the runtime have open. -/
def Process.devices (process : Process) : List Nat :=
  process.call.devices ++ tableDevices process.gBthHw

/-- What stands at one slot can be set apart. -/
theorem exists_perm_tableDevices
    (gBthHw : Slot → Option HwObject)
    (index : Slot) :
    ∃ rest,
      (tableDevices gBthHw).Perm (slotDevices (gBthHw index) ++ rest) ∧
        ∀ bthHw, (tableDevices (Function.update gBthHw index bthHw)).Perm
          (slotDevices bthHw ++ rest) := by
  obtain ⟨rest, perm⟩ := exists_perm_flatMap
    (List.nodup_finRange maxDevices) (List.mem_finRange index)
    fun place => slotDevices (gBthHw place)
  refine ⟨rest, perm _ fun _ _ => rfl, ?_⟩
  intro bthHw
  have updated := perm
    (fun place => slotDevices (Function.update gBthHw index bthHw place)) ?_
  · rwa [Function.update_self] at updated
  · intro place other
    rw [Function.update_of_ne other]

/-- The devices that an action leaves open without an object. -/
def RuntimeAction.strands (process : Process) : RuntimeAction → List Nat
  | .abandonDevice =>
      match process.call with
      | .failing bthHw _ => bthHw.devices
      | .idle | .asking _ | .closing _ => []
  | .openDevice _ | .askDevice _ | .closeDevice _ _ | .deleteDevice
  | .sendHCICommand _ _ _ _ | .getDeviceInfo _ _ | .spawn _ _ _
  | .handle _ => []

/-- What a call in progress relies on. -/
def ClientCall.Ready (process : Process) : ClientCall → Prop
  | .idle | .failing _ _ => True
  | .asking opening => process.gBthHw opening.index = none
  | .closing index => ∀ bthHw, process.gBthHw index = some bthHw →
      bthHw.hDriver = none

/-- The devices that are open are those of the objects and those that are
stranded, once each. -/
structure Held (process : Process) (stranded : List Nat) : Prop where
  distinct : process.busy.Nodup
  perm : process.busy.Perm (process.devices ++ stranded)
  ready : process.call.Ready process

/-- What concerns the devices stays as it is. -/
theorem Held.congr
    {process next : Process}
    (held : Held process stranded)
    (busy : next.busy = process.busy)
    (gBthHw : next.gBthHw = process.gBthHw)
    (call : next.call = process.call) : Held next stranded := by
  obtain ⟨nextHw, nextHci, nextInfo, nextBusy, nextCall, nextHandlers⟩ := next
  obtain ⟨rfl, rfl, rfl⟩ : nextBusy = process.busy ∧
      nextHw = process.gBthHw ∧ nextCall = process.call := ⟨busy, gBthHw, call⟩
  refine ⟨held.distinct, held.perm, ?_⟩
  have ready := held.ready
  revert ready
  cases process.call <;> exact id

/-! ## What the calls do with the devices -/

/-- A device that is attached was not open. -/
theorem not_mem_of_attachHardware
    {busy : List Nat}
    {present : Nat → Bool}
    (found : attachHardware busy present = some device) : device ∉ busy := by
  have attached := List.find?_some found
  rw [Bool.and_eq_true, decide_eq_true_eq] at attached
  exact attached.2

theorem yields_tryOpen
    (process : Process)
    (present : Slot → Nat → Bool)
    (slots : List Slot) :
    Yields (tryOpen process present slots) fun found => ∀ each ∈ found,
      process.gBthHw each.1 = none ∧
        ∃ device, each.2.devices = [device] ∧ device ∉ process.busy := by
  induction slots with
  | nil => exact yields_pure nofun
  | cons index rest inductionHypothesis =>
      rw [tryOpen]
      split
      · exact inductionHypothesis
      · rename_i free
        refine yields_bind_any fun object => ?_
        cases found : attachHardware process.busy (present index) with
        | none => exact inductionHypothesis
        | some device =>
            refine yields_bind_any fun handle => yields_pure ?_
            rintro each same
            cases same
            refine ⟨by simpa using free, device, rfl, ?_⟩
            exact not_mem_of_attachHardware found

theorem Held.openDevice
    {process : Process}
    (held : Held process stranded)
    (idle : process.call = .idle)
    (answers : OpenAnswers) :
    Yields (Lifetime.openDevice process answers) fun result =>
      Held result.2 stranded := by
  refine (yields_tryOpen process answers.present _).bind ?_
  rintro (_ | ⟨index, bthHw⟩) attached
  · exact yields_pure held
  obtain ⟨free, device, opened, fresh⟩ := attached _ rfl
  refine yields_bind_any fun object => ?_
  refine yields_bind_any fun bthHci => ?_
  refine yields_bind_any fun devInfo => ?_
  refine yields_bind_any fun _ => ?_
  refine yields_bind_any fun stack => ?_
  refine yields_bind_any fun _ => ?_
  refine yields_bind_any fun hciLocal => yields_pure ?_
  refine ⟨?_, ?_, free⟩
  · simp only [opened]
    exact List.nodup_cons.mpr ⟨fresh, held.distinct⟩
  · have before := held.perm
    rw [Process.devices, idle] at before
    simp only [Process.devices, ClientCall.devices, List.append_assoc]
      at before ⊢
    exact List.Perm.append_left _ before

theorem Held.askDevice
    {process : Process}
    {opening : Opening}
    (held : Held process stranded)
    (asking : process.call = .asking opening)
    (answers : AskAnswers) :
    Yields (Lifetime.askDevice process opening answers) fun result =>
      Held result.2 stranded := by
  have before := held.perm
  have free : process.gBthHw opening.index = none := by
    have ready := held.ready
    rw [asking] at ready
    exact ready
  rw [Process.devices, asking] at before
  refine yields_bind_any fun _ => ?_
  refine yields_bind_any fun _ => ?_
  refine yields_bind_any fun _ => ?_
  refine yields_bind_any fun hciLocal => ?_
  refine yields_bind_any fun _ => ?_
  refine yields_bind_any fun _ => ?_
  refine yields_bind_any fun result => ?_
  obtain ⟨started, bthHci⟩ := result
  cases started with
  | true =>
      refine yields_pure ⟨held.distinct, ?_, trivial⟩
      obtain ⟨rest, table, after⟩ :=
        exists_perm_tableDevices process.gBthHw opening.index
      have installed := after (some opening.bthHw)
      rw [free] at table
      refine before.trans (List.Perm.append_right _ ?_)
      exact (table.append_left _).trans installed.symm
  | false => exact yields_pure ⟨held.distinct, before, trivial⟩

theorem Held.abandonDevice
    {process : Process}
    {bthHw : HwObject}
    {bthHci : EmulHciObject}
    (held : Held process stranded)
    (failing : process.call = .failing bthHw bthHci) :
    Yields (Lifetime.abandonDevice process bthHw bthHci) fun result =>
      Held result.2 (bthHw.devices ++ stranded) := by
  refine yields_bind_any fun _ => yields_pure ⟨held.distinct, ?_, trivial⟩
  have before := held.perm
  rw [Process.devices, failing, ClientCall.devices, List.append_assoc] at before
  exact before.trans (List.perm_append_comm_assoc _ _ _)

theorem yields_detach (hw : HwObject) :
    Yields hw.detach fun detached => detached.hDriver = none :=
  yields_bind_any fun _ => yields_bind_any fun _ => yields_pure rfl

theorem HwObject.devices_of_detached
    {hw : HwObject}
    (detached : hw.hDriver = none) : hw.devices = [] := by
  rw [HwObject.devices, detached]
  rfl

/-- Taking out a part of distinct items leaves the others. -/
theorem perm_filter_not_mem
    {whole part rest : List Nat}
    (distinct : whole.Nodup)
    (perm : whole.Perm (part ++ rest)) :
    (whole.filter (· ∉ part)).Perm rest := by
  have apart := List.disjoint_of_nodup_append (perm.nodup_iff.mp distinct)
  have gone : part.filter (· ∉ part) = [] := by
    apply List.filter_eq_nil_iff.mpr
    intro item member
    simpa using member
  have kept : rest.filter (· ∉ part) = rest := by
    apply List.filter_eq_self.mpr
    intro item member
    exact decide_eq_true fun within => apart within member
  have parts := perm.filter (· ∉ part)
  rwa [List.filter_append, gone, kept, List.nil_append] at parts

/-- A device of an object in the table is closed. -/
theorem Held.detach
    {process : Process}
    (held : Held process stranded)
    (idle : process.call = .idle)
    (hardware : process.gBthHw index = some bthHw)
    (detached : HwObject)
    (gone : detached.hDriver = none)
    (bthHci : EmulHciObject) :
    Held {
      process with
      gBthHw := Function.update process.gBthHw index (some detached)
      gBthHci := Function.update process.gBthHci index (some bthHci)
      busy := process.busy.filter (· ∉ bthHw.devices)
      call := .closing index } stranded := by
  obtain ⟨rest, table, after⟩ := exists_perm_tableDevices process.gBthHw index
  have before := held.perm
  rw [Process.devices, idle, ClientCall.devices, List.nil_append] at before
  rw [hardware] at table
  have split : process.busy.Perm (bthHw.devices ++ (rest ++ stranded)) := by
    rw [← List.append_assoc]
    exact before.trans (table.append_right stranded)
  refine ⟨held.distinct.filter _, ?_, ?_⟩
  · refine (perm_filter_not_mem held.distinct split).trans ?_
    have emptied := after (some detached)
    simp only [slotDevices, Option.elim_some,
      HwObject.devices_of_detached gone, List.nil_append] at emptied
    exact (emptied.append_right stranded).symm
  · intro each found
    simp only [Function.update_self, Option.some.injEq] at found
    rw [← found]
    exact gone

theorem Held.closeDevice
    {process : Process}
    (held : Held process stranded)
    (idle : process.call = .idle)
    (devId : Int)
    (inTime : Bool) :
    Yields (Lifetime.closeDevice process devId inTime) fun result =>
      Held result.2 stranded := by
  rw [Lifetime.closeDevice]
  split
  · exact yields_pure held
  · rename_i index _
    split
    · rename_i bthHw bthHci hardware object
      refine yields_bind_any fun _ => ?_
      split
      · refine yields_bind_any fun stopped => ?_
        refine (yields_detach bthHw).bind fun detached gone => yields_pure ?_
        exact held.detach idle hardware detached gone stopped
      · exact yields_pure held
    · exact yields_pure held

theorem Held.deleteDevice
    {process : Process}
    {index : Slot}
    {bthHw : HwObject}
    {bthHci : EmulHciObject}
    (held : Held process stranded)
    (closing : process.call = .closing index)
    (hardware : process.gBthHw index = some bthHw) :
    Yields (Lifetime.deleteDevice process index bthHw bthHci) fun result =>
      Held result.2 stranded := by
  have ready := held.ready
  rw [closing] at ready
  have empty := HwObject.devices_of_detached (ready bthHw hardware)
  have before := held.perm
  rw [Process.devices, closing, ClientCall.devices, List.nil_append] at before
  obtain ⟨rest, table, after⟩ := exists_perm_tableDevices process.gBthHw index
  rw [hardware, slotDevices, Option.elim_some, empty, List.nil_append] at table
  refine yields_bind_any fun _ => yields_pure ⟨held.distinct, ?_, trivial⟩
  exact before.trans ((table.trans (after none).symm).append_right stranded)

theorem Held.sendHCICommand
    {process : Process}
    (held : Held process stranded)
    (devId : Int)
    (driver : Driver)
    (event : Bool)
    (pCmdBuffer : Option CArray) :
    Yields (Lifetime.sendHCICommand process devId driver event pCmdBuffer)
      fun result => Held result.2 stranded := by
  rw [Lifetime.sendHCICommand]
  split
  · exact yields_pure held
  · split
    · exact yields_bind_any fun result => yields_pure held
    · exact yields_pure held

theorem Held.getDeviceInfo
    {process : Process}
    (held : Held process stranded)
    (devId : Int)
    (writable : Bool) :
    Yields (Lifetime.getDeviceInfo process devId writable) fun result =>
      Held result.2 stranded := by
  rw [Lifetime.getDeviceInfo]
  split
  · exact yields_pure held
  · split
    · exact yields_pure held
    · refine yields_bind_any fun _ => ?_
      split
      · exact yields_pure held
      · exact yields_pure held

theorem Held.spawnHandler
    {process : Process}
    (held : Held process stranded)
    (source : SourceThread)
    (looks : Nat)
    (thread : Bool) :
    Yields (Lifetime.spawnHandler process source looks thread) fun result =>
      Held result.2 stranded := by
  refine yields_bind_any fun _ => ?_
  refine yields_bind_any fun parameters => ?_
  refine yields_bind_any fun event => ?_
  refine yields_bind_any fun hThread => ?_
  cases hThread with
  | none => exact yields_pure held
  | some hThread =>
      refine yields_bind_any fun _ => ?_
      exact yields_bind_any fun _ => yields_pure (held.congr rfl rfl rfl)

theorem Held.runHandler
    {process : Process}
    (held : Held process stranded)
    (handler : Handler)
    (others : List Handler) :
    Yields (Lifetime.runHandler process handler others) fun result =>
      Held result.2 stranded := by
  rw [Lifetime.runHandler]
  split
  · exact yields_bind_any fun _ => yields_pure (held.congr rfl rfl rfl)
  · refine yields_bind_any fun _ => ?_
    exact yields_bind_any fun _ => yields_pure (held.congr rfl rfl rfl)

/-- Whatever happens next, the devices that are open are those of the objects
and those that are stranded. -/
theorem Held.routine
    {process : Process}
    {action : RuntimeAction}
    {routine : Routine (RuntimeAnswer × Process)}
    (held : Held process stranded)
    (runs : action.routine process = some routine) :
    Yields routine fun result =>
      Held result.2 (action.strands process ++ stranded) := by
  cases RuntimeAction.runs_of_routine runs with
  | openDevice answers idle => exact held.openDevice idle answers
  | askDevice answers asking => exact held.askDevice asking answers
  | abandonDevice failing =>
      rw [RuntimeAction.strands, failing]
      exact held.abandonDevice failing
  | closeDevice devId inTime idle => exact held.closeDevice idle devId inTime
  | deleteDevice closing hardware object =>
      exact held.deleteDevice closing hardware
  | sendHCICommand devId driver event pCmdBuffer idle =>
      exact held.sendHCICommand devId driver event pCmdBuffer
  | getDeviceInfo devId writable => exact held.getDeviceInfo devId writable
  | spawn looks thread found => exact held.spawnHandler _ looks thread
  | handle picked => exact held.runHandler _ _

/-! ## Runs -/

/-- The devices that a run leaves open without an object. -/
def strandedOfRun (state : RuntimeState) : List RuntimeAction → List Nat
  | [] => []
  | action :: rest =>
      match runtimeMachine.step state action with
      | none | some (.fault, _) => []
      | some (.answered _, next) =>
          strandedOfRun next rest ++ action.strands state.process

theorem held_start : Held startRuntime.process [] where
  distinct := List.nodup_nil
  perm := by
    have table : tableDevices initDevicesArray.gBthHw = [] :=
      List.flatMap_eq_nil_iff.mpr fun _ _ => rfl
    rw [startRuntime, Process.devices, table]
    exact List.Perm.refl _
  ready := trivial

/-- A step faults and leaves the process as it is, or keeps the invariant. -/
theorem Held.step
    {state next : RuntimeState}
    {action : RuntimeAction}
    (held : Held state.process stranded)
    (stepped : runtimeMachine.step state action = some (event, next)) :
    (event = .fault ∧ next.process = state.process ∧ next.crashed = true) ∨
      ∃ answer, event = .answered answer ∧
        Held next.process (action.strands state.process ++ stranded) := by
  change runtimeStep state action = some (event, next) at stepped
  rw [runtimeStep] at stepped
  split at stepped
  · cases stepped
  · simp only [Option.bind_eq_bind, Option.bind_eq_some_iff] at stepped
    obtain ⟨routine, runs, stepped⟩ := stepped
    cases ran : routine state.ledger with
    | none =>
        rw [ran] at stepped
        cases stepped
        exact .inl ⟨rfl, rfl, rfl⟩
    | some result =>
        obtain ⟨⟨answer, process⟩, ledger⟩ := result
        rw [ran] at stepped
        cases stepped
        exact .inr ⟨answer, rfl, held.routine runs _ _ _ ran⟩

/-- A run behind a fault does nothing. -/
theorem eq_of_run_of_crashed
    {state final : RuntimeState}
    (crashed : state.crashed = true)
    (ran : runtimeMachine.run state actions = some (events, final)) :
    final = state := by
  cases actions with
  | nil =>
      cases ran
      rfl
  | cons action rest =>
      obtain ⟨event, next, later, stepped, -, -⟩ :=
        Machine.run_cons_eq_some_iff.mp ran
      change runtimeStep state action = some (event, next) at stepped
      rw [runtimeStep, if_pos crashed] at stepped
      cases stepped

/-- What holds of the devices before a run holds of them behind it. -/
theorem Held.run
    {state final : RuntimeState}
    {actions : List RuntimeAction}
    (held : Held state.process stranded)
    (ran : runtimeMachine.run state actions = some (events, final)) :
    Held final.process (strandedOfRun state actions ++ stranded) := by
  induction actions generalizing state stranded events with
  | nil =>
      cases ran
      exact held
  | cons action rest inductionHypothesis =>
      obtain ⟨event, next, later, stepped, ranRest, rfl⟩ :=
        Machine.run_cons_eq_some_iff.mp ran
      rw [strandedOfRun, stepped]
      rcases held.step stepped with
        ⟨rfl, same, crashed⟩ | ⟨answer, rfl, after⟩
      · rw [eq_of_run_of_crashed crashed ranRest, same]
        exact held
      · rw [List.append_assoc]
        exact inductionHypothesis after ranRest

/-- In every run no driver device is open twice, and those that are open are
those of the objects of the runtime and those of the openings whose listener or
reader did not start. -/
theorem busy_of_run
    (actions : List RuntimeAction)
    (events : List RuntimeEvent)
    (final : RuntimeState)
    (ran : runtimeMachine.run startRuntime actions = some (events, final)) :
    final.process.busy.Nodup ∧
      final.process.busy.Perm
        (final.process.devices ++ strandedOfRun startRuntime actions) := by
  have held := held_start.run ran
  rw [List.append_nil] at held
  exact ⟨held.distinct, held.perm⟩

/-! ## A device that nobody closes -/

/-- The device is open, and no object of the runtime has it. -/
def Process.Stranded (process : Process) (device : Nat) : Prop :=
  device ∈ process.busy ∧ device ∉ process.devices

instance (process : Process) (device : Nat) :
    Decidable (process.Stranded device) :=
  inferInstanceAs (Decidable (_ ∧ _))

theorem Held.stranded_iff
    {process : Process}
    (held : Held process stranded) :
    process.Stranded device ↔ device ∈ stranded := by
  have distinct := held.perm.nodup_iff.mp held.distinct
  have apart := List.disjoint_of_nodup_append distinct
  constructor
  · rintro ⟨busy, free⟩
    rcases List.mem_append.mp (held.perm.mem_iff.mp busy) with own | lost
    · exact absurd own free
    · exact lost
  · intro lost
    refine ⟨held.perm.mem_iff.mpr (List.mem_append_right _ lost), ?_⟩
    exact fun own => apart own lost

/-- Where every device that is present is open, nothing attaches. -/
theorem attachHardware_eq_none
    {busy : List Nat}
    {present : Nat → Bool}
    (taken : ∀ device, present device = true → device ∈ busy) :
    attachHardware busy present = none := by
  apply List.find?_eq_none.mpr
  intro device _ attaches
  rw [Bool.and_eq_true, decide_eq_true_eq] at attaches
  exact attaches.2 (taken device attaches.1)

theorem tryOpen_eq_none
    {process : Process}
    {present : Slot → Nat → Bool}
    (taken : ∀ index device, present index device = true →
      device ∈ process.busy)
    (slots : List Slot)
    (ledger : Ledger) :
    ∃ final, tryOpen process present slots ledger = some (none, final) := by
  induction slots generalizing ledger with
  | nil => exact ⟨ledger, rfl⟩
  | cons index rest inductionHypothesis =>
      rw [tryOpen]
      split
      · exact inductionHypothesis ledger
      · rw [bind_apply, attachHardware_eq_none (taken index)]
        exact inductionHypothesis ledger.issue

/-- Where every device that is present is open, no device is opened. -/
theorem step_openDevice_of_taken
    {state : RuntimeState}
    {answers : OpenAnswers}
    (running : state.crashed = false)
    (idle : state.process.call = .idle)
    (taken : ∀ index device, answers.present index device = true →
      device ∈ state.process.busy) :
    ∃ next, runtimeMachine.step state (.openDevice answers) =
      some (.answered (.opened invalidDeviceId), next) := by
  obtain ⟨ledger, tried⟩ :=
    tryOpen_eq_none taken (List.finRange maxDevices) state.ledger
  have opened : Lifetime.openDevice state.process answers state.ledger =
      some ((.opened invalidDeviceId, state.process), ledger) := by
    rw [Lifetime.openDevice, bind_apply, tried]
    rfl
  refine ⟨{ ledger, process := state.process, crashed := false }, ?_⟩
  change runtimeStep state _ = _
  rw [runtimeStep, if_neg (by rw [running]; exact Bool.false_ne_true)]
  simp only [RuntimeAction.routine, idle, Option.bind_eq_bind,
    Option.bind_some, opened]

/-- A device that is open without an object stays so for good, and as long as no
other device is present, every opening fails. -/
theorem stranded_of_run
    (actions later : List RuntimeAction)
    (events eventsLater : List RuntimeEvent)
    (state final : RuntimeState)
    (device : Nat)
    (ran : runtimeMachine.run startRuntime actions = some (events, state))
    (stranded : state.process.Stranded device)
    (ranLater : runtimeMachine.run state later = some (eventsLater, final)) :
    final.process.Stranded device ∧
      ∀ answers, final.crashed = false → final.process.call = .idle →
        (∀ index other, answers.present index other = true → other = device) →
          ∃ next, runtimeMachine.step final (.openDevice answers) =
            some (.answered (.opened invalidDeviceId), next) := by
  have held := held_start.run ran
  have lost := held.stranded_iff.mp stranded
  have after := held.run ranLater
  have still := after.stranded_iff.mpr (List.mem_append_right _ lost)
  refine ⟨still, ?_⟩
  intro answers running idle only
  apply step_openDevice_of_taken running idle
  intro index other there
  rw [only index other there]
  exact still.1

/-! ## A run -/

/-- The listener does not start. -/
def startsNoListener : AskAnswers := {
  asksWell with
  start := {
    asksWell.start with
    listener := { asksWell.start.listener with thread := false } } }

/-- The only device is opened, and the listener does not start. -/
def failedStart : List RuntimeAction :=
  [.openDevice onePresent, .askDevice startsNoListener, .abandonDevice]

/-- The device stays open. -/
theorem busy_failedStart :
    ∃ events final,
      runtimeMachine.run startRuntime failedStart = some (events, final) ∧
        (final.process.busy.Nodup ∧
          final.process.busy.Perm
            (final.process.devices ++
              strandedOfRun startRuntime failedStart)) ∧
        strandedOfRun startRuntime failedStart = [0] := by
  obtain ⟨⟨events, final⟩, ran⟩ := Option.isSome_iff_exists.mp
    (show (runtimeMachine.run startRuntime failedStart).isSome by
      decide +kernel)
  exact ⟨events, final, ran, busy_of_run failedStart events final ran,
    by decide +kernel⟩

/-- The device cannot be opened again. -/
theorem stranded_failedStart :
    ∃ events state eventsLater final,
      runtimeMachine.run startRuntime failedStart = some (events, state) ∧
        state.process.Stranded 0 ∧
        runtimeMachine.run state [.openDevice onePresent] =
          some (eventsLater, final) ∧
        final.process.Stranded 0 ∧
        ∀ answers, final.crashed = false → final.process.call = .idle →
          (∀ index other, answers.present index other = true → other = 0) →
            ∃ next, runtimeMachine.step final (.openDevice answers) =
              some (.answered (.opened invalidDeviceId), next) := by
  obtain ⟨events, state, ran, stranded, runs⟩ :
      ∃ events state,
        runtimeMachine.run startRuntime failedStart = some (events, state) ∧
          state.process.Stranded 0 ∧
            (runtimeMachine.run state [.openDevice onePresent]).isSome := by
    decide +kernel
  obtain ⟨⟨eventsLater, final⟩, ranLater⟩ := Option.isSome_iff_exists.mp runs
  exact ⟨events, state, eventsLater, final, ran, stranded, ranLater,
    stranded_of_run failedStart _ events eventsLater state final 0 ran
      stranded ranLater⟩

end Lifetime
end Runtime
end BthEmul
