import BthEmul.Usb.DeviceLifetime

/-!
# No use after free, and what leaks

Over any number of devices and any requests to them, no block is used that is
not allocated and none is freed twice, exactly where `FreeBT_AddDevice` never
fails once the link exists. The blocks that are still allocated are those of
the devices and those that were lost, whose number is known: the buffer of
`InterfaceName` of each device removed, a configuration descriptor that could
not be read, and what a device still had when it was started again.
-/

namespace BthEmul

open Foundation Routine

namespace Usb
namespace Lifetime

/-! ## The properties -/

/-- Nothing is used that is not allocated, and what the driver points to is
allocated, once each. -/
structure MemorySafe
    (event : LifetimeEvent)
    (next : LifetimeState) : Prop where
  /-- No block was used that was not allocated. -/
  noFault : event ≠ .fault
  /-- The pointers of the driver are valid. -/
  valid : ∀ block ∈ next.driver.blocks, next.pool.IsOpen block
  /-- No block has two owners. -/
  distinct : next.driver.blocks.Nodup
  /-- No block was freed twice. -/
  freedOnce : next.pool.released.Nodup

/-- The number of blocks an action loses. -/
def LifetimeAction.losses (driver : DriverState) : LifetimeAction → Nat
  | .addDevice _ | .driverUnload => 0
  | .dispatchPnp index irp =>
      match driver.devices[index]? with
      | none => 0
      | some device => device.losses irp

/-- The number of blocks a run loses. -/
def lossesOfRun (state : LifetimeState) : List LifetimeAction → Nat
  | [] => 0
  | action :: rest =>
      match lifetimeMachine.step state action with
      | none => 0
      | some (_, next) =>
          action.losses state.driver + lossesOfRun next rest

/-- `FreeBT_AddDevice` does not fail once the link exists. -/
def LifetimeAction.Conforms (driver : DriverState) : LifetimeAction → Prop
  | .addDevice answers =>
      driver.registryPath.isSome → ¬ answers.RollsBack driver
  | .dispatchPnp _ _ | .driverUnload => True

instance (driver : DriverState) :
    (action : LifetimeAction) → Decidable (action.Conforms driver)
  | .addDevice _ => inferInstanceAs (Decidable (_ → ¬ _))
  | .dispatchPnp _ _ | .driverUnload => isTrue trivial

/-! ## The invariant -/

/-- The blocks that are allocated are those of the driver and those that were
lost. -/
structure Owned (state : LifetimeState) (lost : List Nat) : Prop where
  accounts : state.pool.Accounts (state.driver.blocks ++ lost)
  sound : ∀ device ∈ state.driver.devices, device.pointers.Sound
  running : state.crashed = false

theorem owned_start : Owned startLifetime [] where
  accounts := List.Perm.refl _
  sound _ member := by cases member
  running := rfl

/-- The driver has new blocks, and some were lost. -/
structure Leaves
    (loses : Nat)
    (lost : List Nat)
    (driver : DriverState)
    (kept : List Nat) : Prop where
  kept : ∃ more, more.length = loses ∧
    kept.Perm (driver.blocks ++ (more ++ lost))
  sound : ∀ device ∈ driver.devices, device.pointers.Sound

/-- The blocks of a device stand before those of the others. -/
theorem perm_blocks_of_pick
    {driver : DriverState}
    (picked : pick driver.devices index = some (device, others))
    (lost : List Nat) :
    (driver.blocks ++ lost).Perm (device.blocks ++
      (others.flatMap DeviceObject.blocks ++
        (driver.registryPath.toList ++ lost))) := by
  have devices := (perm_of_pick picked).flatMap_right DeviceObject.blocks
  rw [List.flatMap_cons] at devices
  have first := (List.perm_append_comm.trans
    (devices.append_right driver.registryPath.toList)).append_right lost
  rw [List.append_assoc, List.append_assoc, List.append_assoc] at first
  rw [DriverState.blocks, List.append_assoc]
  exact first

theorem leaves_of_dispatched
    {driver next : DriverState}
    {irp : PnpIrp}
    (sound : ∀ each ∈ others, each.pointers.Sound)
    (dispatched : Dispatched driver device others irp
      (driver.registryPath.toList ++ lost) next kept) :
    Leaves (device.losses irp) lost next kept where
  kept := by
    obtain ⟨more, length, perm⟩ := dispatched.kept
    refine ⟨more, length, perm.trans ?_⟩
    rw [DriverState.blocks, dispatched.registryPath]
    have moved : (more ++ (driver.registryPath.toList ++ lost)).Perm
        (driver.registryPath.toList ++ (more ++ lost)) :=
      List.perm_append_comm_assoc _ _ _
    refine (moved.append_left _).trans ?_
    rw [← List.append_assoc]
    exact List.perm_append_comm.append_right _
  sound := by
    rcases dispatched.devices with ⟨-, same⟩ | ⟨-, after, same, -, own⟩
    · rw [same]
      exact sound
    · rw [same]
      exact forall_mem_concat sound own

theorem leaves_of_added
    {driver next : DriverState}
    {answers : AddAnswers}
    (sound : ∀ each ∈ driver.devices, each.pointers.Sound)
    (added : Added answers driver (driver.blocks ++ lost) next kept) :
    Leaves 0 lost next kept := by
  by_cases adds : answers.Adds driver
  · obtain ⟨device, devices, -, null, -, perm⟩ := added.adds adds
    refine ⟨⟨[], rfl, perm.trans ?_⟩, ?_⟩
    · rw [DriverState.blocks, DriverState.blocks, added.registryPath, devices,
        List.flatMap_append, List.flatMap_singleton, List.nil_append]
      simp only [List.append_assoc]
      refine (List.perm_append_comm_assoc _ _ _).trans ?_
      exact (List.perm_append_comm_assoc _ _ _).append_left _
    · rw [devices]
      apply forall_mem_concat sound
      rw [null]
      exact DevicePointers.sound_null
  · obtain ⟨rfl, rfl⟩ := added.fails adds
    exact ⟨⟨[], rfl, List.Perm.refl _⟩, sound⟩

/-- What an action does to the devices and the links. -/
def LifetimeAction.Leads
    (driver next : DriverState) : LifetimeAction → Prop
  | .addDevice answers =>
      (answers.Adds driver → ∃ device,
        next.devices = driver.devices ++ [device] ∧
          device.instanceNumber = (tryDeviceNames driver answers).2 ∧
          device.pointers = .null ∧
          next.links = (tryDeviceNames driver answers).2 :: driver.links) ∧
        (¬ answers.Adds driver → next = driver)
  | .dispatchPnp index irp => ∃ device others,
      pick driver.devices index = some (device, others) ∧
        ((irp.Removes ∧ next.devices = others) ∨
          (¬ irp.Removes ∧ ∃ after, next.devices = others ++ [after] ∧
            after.instanceNumber = device.instanceNumber)) ∧
        next.links =
          if irp.Releases then device.linksReleased driver.links
          else driver.links
  | .driverUnload =>
      next.devices = driver.devices ∧ next.links = driver.links

theorem leads_of_added
    {driver next : DriverState}
    {answers : AddAnswers}
    {held kept : List Nat}
    (added : Added answers driver held next kept) :
    (LifetimeAction.addDevice answers).Leads driver next := by
  constructor
  · intro adds
    obtain ⟨device, devices, number, null, links, -⟩ := added.adds adds
    exact ⟨device, devices, number, null, links⟩
  · intro fails
    exact (added.fails fails).1

theorem leads_of_dispatched
    {driver next : DriverState}
    {irp : PnpIrp}
    {blocks kept : List Nat}
    (picked : pick driver.devices index = some (device, others))
    (dispatched : Dispatched driver device others irp blocks next kept) :
    (LifetimeAction.dispatchPnp index irp).Leads driver next := by
  refine ⟨device, others, picked, ?_, dispatched.links⟩
  rcases dispatched.devices with removed | ⟨stays, after, same, number, -⟩
  · exact .inl removed
  · exact .inr ⟨stays, after, same, number⟩

/-- An action that conforms ends without a fault. -/
theorem owns_routine
    {driver : DriverState}
    {action : LifetimeAction}
    {routine : Routine (NtStatus × DriverState)}
    (lost : List Nat)
    (sound : ∀ device ∈ driver.devices, device.pointers.Sound)
    (conforms : action.Conforms driver)
    (runs : action.routine driver = some routine) :
    Owns (driver.blocks ++ lost) routine fun result kept =>
      Leaves (action.losses driver) lost result.2 kept ∧
        action.Leads driver result.2 := by
  cases action with
  | addDevice answers =>
      rw [LifetimeAction.routine] at runs
      split at runs
      · rename_i loaded
        cases runs
        refine (owns_addDevice _ (conforms loaded)).mono ?_
        intro result kept added
        exact ⟨leaves_of_added sound added, leads_of_added added⟩
      · cases runs
  | dispatchPnp index irp =>
      simp only [LifetimeAction.routine, Option.bind_eq_bind,
        Option.bind_eq_some_iff, Prod.exists, Option.some.injEq] at runs
      obtain ⟨device, others, picked, rfl⟩ := runs
      obtain ⟨own, rest⟩ := forall_of_pick picked sound
      have found := (pick_eq_some_iff.mp picked).1
      rw [LifetimeAction.losses, found]
      refine (owns_dispatchPnp irp own
        (perm_blocks_of_pick picked lost)).mono ?_
      intro result kept dispatched
      exact ⟨leaves_of_dispatched rest dispatched,
        leads_of_dispatched picked dispatched⟩
  | driverUnload =>
      rw [LifetimeAction.routine] at runs
      split at runs
      · rename_i unloads
        cases runs
        have none_left : driver.blocks = driver.registryPath.toList := by
          rw [DriverState.blocks, unloads.2, List.flatMap_nil,
            List.append_nil]
        rw [none_left]
        refine (owns_freeAll (List.Perm.refl _)).bind ?_
        rintro _ kept perm
        refine owns_pure ⟨⟨⟨[], rfl, ?_⟩, ?_⟩, rfl, rfl⟩
        · rw [DriverState.blocks, unloads.2]
          exact perm
        · rw [unloads.2]
          nofun
      · cases runs

/-- An action that conforms keeps the invariant. -/
theorem Owned.step
    (owned : Owned state lost)
    (conforms : action.Conforms state.driver)
    (stepped : lifetimeMachine.step state action = some (event, next)) :
    event ≠ .fault ∧ action.Leads state.driver next.driver ∧ ∃ more,
      more.length = action.losses state.driver ∧ Owned next (more ++ lost) := by
  change lifetimeStep state action = some (event, next) at stepped
  simp only [lifetimeStep, owned.running, Bool.false_eq_true, if_false,
    Option.bind_eq_bind, Option.bind_eq_some_iff] at stepped
  obtain ⟨routine, runs, stepped⟩ := stepped
  have accounts := owned.accounts
  rw [← List.append_nil (state.driver.blocks ++ lost)] at accounts
  obtain ⟨⟨ntStatus, driver⟩, pool, kept, ran, ⟨leaves, leads⟩, after⟩ :=
    owns_routine lost owned.sound conforms runs state.pool [] accounts
  rw [ran] at stepped
  cases stepped
  obtain ⟨more, length, perm⟩ := leaves.kept
  rw [List.append_nil] at after
  exact ⟨nofun, leads, more, length, after.of_perm perm, leaves.sound, rfl⟩

/-- An action that does not conform faults. -/
theorem step_of_not_conforms
    (running : state.crashed = false)
    (notConforms : ¬ action.Conforms state.driver) :
    lifetimeMachine.step state action =
      some (.fault, { state with crashed := true }) := by
  cases action with
  | dispatchPnp index irp => exact absurd trivial notConforms
  | driverUnload => exact absurd trivial notConforms
  | addDevice answers =>
      have refused : state.driver.registryPath.isSome ∧
          answers.RollsBack state.driver := by
        by_contra never
        exact notConforms fun loaded rollsBack => never ⟨loaded, rollsBack⟩
      change lifetimeStep state _ = _
      simp only [lifetimeStep, running, Bool.false_eq_true, if_false,
        LifetimeAction.routine, if_pos refused.1, Option.bind_eq_bind,
        Option.bind_some, addDevice_of_rollsBack refused.2]

theorem Owned.memorySafe
    (owned : Owned next lost)
    (noFault : event ≠ .fault) : MemorySafe event next where
  noFault := noFault
  valid block member := owned.accounts.isOpen (List.mem_append_left _ member)
  distinct := by
    have distinct := owned.accounts.nodup_iff.mpr List.nodup_range
    exact (List.nodup_append.mp (List.nodup_append.mp distinct).1).1
  freedOnce := owned.accounts.nodup_released

/-! ## Runs -/

/-- Over any number of devices and any requests to them, memory is used as it
should be exactly where `FreeBT_AddDevice` never fails once the link exists. -/
theorem memorySafe_iff_conforms (actions : List LifetimeAction) :
    lifetimeMachine.Always (fun _ _ event next => MemorySafe event next)
        startLifetime actions ↔
      lifetimeMachine.Admits
        (fun state action => action.Conforms state.driver)
        startLifetime actions := by
  apply Machine.always_iff_admits (fun state => ∃ lost, Owned state lost)
    ?_ ?_ ?_ ⟨[], owned_start⟩
  · rintro state action event next ⟨lost, owned⟩ stepped
    constructor
    · intro safe
      by_contra notConforms
      rw [step_of_not_conforms owned.running notConforms] at stepped
      cases stepped
      exact safe.noFault rfl
    · intro conforms
      obtain ⟨noFault, -, more, -, after⟩ := owned.step conforms stepped
      exact after.memorySafe noFault
  · rintro state action ⟨lost, owned⟩ stuck
    by_contra notConforms
    rw [step_of_not_conforms owned.running notConforms] at stuck
    cases stuck
  · rintro state action event next ⟨lost, owned⟩ conforms stepped
    obtain ⟨-, -, more, -, after⟩ := owned.step conforms stepped
    exact ⟨_, after⟩

/-- What a run that conforms loses is what is allocated in the end besides the
blocks of the driver. -/
theorem owned_of_run
    {state final : LifetimeState}
    (owned : Owned state lost)
    (conforms : lifetimeMachine.Admits
      (fun state action => action.Conforms state.driver) state actions)
    (ran : lifetimeMachine.run state actions = some (events, final)) :
    ∃ more, more.length = lossesOfRun state actions ∧
      Owned final (more ++ lost) := by
  induction actions generalizing state lost events with
  | nil =>
      cases ran
      exact ⟨[], rfl, owned⟩
  | cons action rest inductionHypothesis =>
      obtain ⟨event, next, later, stepped, ranRest, rfl⟩ :=
        Machine.run_cons_eq_some_iff.mp ran
      obtain ⟨here, conformsRest⟩ := conforms
      obtain ⟨-, -, first, lengthFirst, after⟩ := owned.step here stepped
      obtain ⟨others, lengthOthers, ends⟩ := inductionHypothesis after
        (conformsRest event next stepped) ranRest
      refine ⟨others ++ first, ?_, ?_⟩
      · rw [lossesOfRun, stepped, List.length_append, lengthFirst,
          lengthOthers]
        exact Nat.add_comm _ _
      · rwa [List.append_assoc]

/-- In every run in which `FreeBT_AddDevice` does not fail once the link
exists, the blocks still allocated are those of the driver and as many as the
run has lost. -/
theorem length_openResources_of_run
    (actions : List LifetimeAction)
    (events : List LifetimeEvent)
    (final : LifetimeState)
    (conforms : lifetimeMachine.Admits
      (fun state action => action.Conforms state.driver)
      startLifetime actions)
    (ran : lifetimeMachine.run startLifetime actions = some (events, final)) :
    final.pool.openResources.length =
      final.driver.blocks.length + lossesOfRun startLifetime actions := by
  obtain ⟨more, length, owned⟩ := owned_of_run owned_start conforms ran
  rw [← owned.accounts.perm_openResources.length_eq, List.length_append,
    List.append_nil, length]

/-! ## A run -/

/-- All allocations and requests succeed. -/
def readableDevice : ReadAnswers where
  urb := true
  deviceDescriptor := true
  status := statusSuccess
  configure := {
    urb := true
    fixedDescriptor := true
    fixedStatus := statusSuccess
    wholeDescriptor := true
    wholeStatus := statusSuccess
    select := {
      interfaceList := true
      createRequest := true
      status := statusSuccess
      numberOfPipes := 3
      usbInterface := true
      pipeContext := true } }

/-- The device starts. -/
def startsWell : PnpIrp :=
  .startDevice {
    lowerStatus := statusSuccess
    read := readableDevice
    interfaceState := statusSuccess }

/-- The whole configuration descriptor cannot be read. -/
def startsUnread : PnpIrp :=
  .startDevice {
    lowerStatus := statusSuccess
    read := {
      readableDevice with
      configure := {
        readableDevice.configure with
        wholeStatus := statusDeviceNotConnected } }
    interfaceState := statusSuccess }

/-- The device is removed. -/
def removesWell : PnpIrp :=
  .removeDevice (fun _ => (true, statusSuccess)) statusSuccess

/-- A device is added. -/
def addsWell : AddAnswers where
  createDevice _ := statusSuccess
  createLink := statusSuccess
  wmiRegistration := statusSuccess
  attached := true
  registerInterface := statusSuccess

/-- One device starts, another one does not, and both are removed. -/
def twoDevices : List LifetimeAction :=
  [.addDevice addsWell, .dispatchPnp 0 startsWell, .addDevice addsWell,
    .dispatchPnp 1 startsUnread, .dispatchPnp 0 removesWell,
    .dispatchPnp 0 removesWell, .driverUnload]

/-- Three blocks are left. -/
theorem length_openResources_twoDevices :
    ∃ events final,
      lifetimeMachine.run startLifetime twoDevices = some (events, final) ∧
        final.pool.openResources.length =
          final.driver.blocks.length +
            lossesOfRun startLifetime twoDevices ∧
        lossesOfRun startLifetime twoDevices = 3 := by
  obtain ⟨⟨events, final⟩, ran⟩ := Option.isSome_iff_exists.mp
    (show (lifetimeMachine.run startLifetime twoDevices).isSome by
      decide +kernel)
  exact ⟨events, final, ran,
    length_openResources_of_run twoDevices events final (by decide +kernel)
      ran, by decide +kernel⟩

end Lifetime
end Usb
end BthEmul
