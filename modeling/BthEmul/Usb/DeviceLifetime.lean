import BthEmul.Foundation.Machine
import BthEmul.Foundation.Provenance
import BthEmul.Usb.DeviceMemory

/-!
# From `FreeBT_AddDevice` to the removal of a device

The plug and play manager adds devices and sends one request at a time to each.
The first free name of a device is taken for it, and a symbolic link to it is
made. What a device has in memory is owned by its device object, so requests to
different devices do not get in each other's way.

A device object that has been deleted is not looked at again, except where
`FreeBT_AddDevice` fails once the link exists: it then deletes the device
object first and the link, whose name is in the device extension, afterwards.
-/

namespace BthEmul

open Foundation Routine

namespace Usb
namespace Lifetime

/-! ## Devices -/

/-- `STATUS_OBJECT_NAME_COLLISION`. -/
def statusObjectNameCollision : NtStatus := (0xC0000035 : UInt32).toInt32

/-- `STATUS_NO_SUCH_DEVICE`. -/
def statusNoSuchDevice : NtStatus := (0xC000000E : UInt32).toInt32

/-- A device object. -/
structure DeviceObject where
  /-- The number in the names of the device and of its link. -/
  instanceNumber : Nat
  /-- The block with the device extension. -/
  extension : Nat
  /-- The buffer of `InterfaceName`. -/
  interfaceName : Nat
  /-- `DeviceState`. -/
  deviceState : DevState
  /-- `PrevDevState`. -/
  prevDevState : DevState
  /-- The pointers to pool memory. -/
  pointers : DevicePointers
  deriving DecidableEq

namespace DeviceObject

/-- The blocks of a device. -/
def blocks (device : DeviceObject) : List Nat :=
  device.extension :: device.interfaceName :: device.pointers.blocks

/-- `SET_NEW_PNP_STATE`. -/
def setNewPnpState (device : DeviceObject) (state : DevState) : DeviceObject :=
  { device with prevDevState := device.deviceState, deviceState := state }

/-- `RESTORE_PREVIOUS_PNP_STATE`. -/
def restorePreviousPnpState (device : DeviceObject) : DeviceObject :=
  { device with deviceState := device.prevDevState }

end DeviceObject

/-- The devices of the driver and the links to them. -/
structure DriverState where
  /-- `Globals.FreeBT_RegistryPath`, until the driver is unloaded. -/
  registryPath : Option Nat
  /-- The device objects. -/
  devices : List DeviceObject
  /-- The numbers of the symbolic links. -/
  links : List Nat
  deriving DecidableEq

/-- The blocks of the driver. -/
def DriverState.blocks (driver : DriverState) : List Nat :=
  driver.registryPath.toList ++ driver.devices.flatMap DeviceObject.blocks

/-- The names of devices that are taken. -/
def DriverState.names (driver : DriverState) : List Nat :=
  driver.devices.map DeviceObject.instanceNumber

/-! ## Adding a device -/

/-- What `FreeBT_AddDevice` is answered. -/
structure AddAnswers where
  /-- `IoCreateDevice` with a name that is free. -/
  createDevice : Nat → NtStatus
  /-- `IoCreateSymbolicLink` with a name that is free. -/
  createLink : NtStatus
  /-- `FreeBT_WmiRegistration`. -/
  wmiRegistration : NtStatus
  /-- `IoAttachDeviceToDeviceStack` does not return null. -/
  attached : Bool
  /-- `IoRegisterDeviceInterface`. -/
  registerInterface : NtStatus

/-- The loop that tries the names of devices, from a number on. -/
def createLoop
    (create : Nat → NtStatus)
    (instanceNumber : Nat)
    (ntStatus : NtStatus) : (remaining : Nat) → NtStatus × Nat
  | 0 => (ntStatus, instanceNumber)
  | remaining + 1 =>
      if NtSuccess ntStatus then (ntStatus, instanceNumber)
      else if NtSuccess (create instanceNumber) then
        createLoop create instanceNumber (create instanceNumber) remaining
      else
        createLoop create (instanceNumber + 1) (create instanceNumber)
          remaining

/-- `IoCreateDevice`. -/
def ioCreateDevice
    (driver : DriverState)
    (answers : AddAnswers)
    (instanceNumber : Nat) : NtStatus :=
  if instanceNumber ∈ driver.names then statusObjectNameCollision
  else answers.createDevice instanceNumber

/-- The loop of `FreeBT_AddDevice`. -/
def tryDeviceNames
    (driver : DriverState)
    (answers : AddAnswers) : NtStatus × Nat :=
  createLoop (ioCreateDevice driver answers) 0 statusObjectNameCollision 99

/-- `IoCreateSymbolicLink`. -/
def ioCreateSymbolicLink
    (driver : DriverState)
    (answers : AddAnswers)
    (instanceNumber : Nat) : NtStatus :=
  if instanceNumber ∈ driver.links then statusObjectNameCollision
  else answers.createLink

/-- `IoDeleteSymbolicLink`. -/
def ioDeleteSymbolicLink (links : List Nat) (instanceNumber : Nat) : List Nat :=
  links.filter (· ≠ instanceNumber)

/-- The first failure of `FreeBT_AddDevice` once the link exists. -/
def AddAnswers.laterFailure (answers : AddAnswers) : Option NtStatus :=
  if ¬ NtSuccess answers.wmiRegistration then some answers.wmiRegistration
  else if ¬ answers.attached then some statusNoSuchDevice
  else if ¬ NtSuccess answers.registerInterface then
    some answers.registerInterface
  else none

/-- `FreeBT_AddDevice` once the link exists. -/
def finishAddDevice
    (answers : AddAnswers)
    (driver : DriverState)
    (instanceNumber extension : Nat) : Routine (NtStatus × DriverState) := do
  match answers.laterFailure with
  | some ntStatus =>
      free extension
      -- The name of the link is in the device extension.
      touch extension
      return (ntStatus, {
        driver with links := ioDeleteSymbolicLink driver.links instanceNumber })
  | none =>
      let interfaceName ← allocate
      return (answers.registerInterface, {
        driver with
        devices := driver.devices ++ [{
          instanceNumber
          extension
          interfaceName
          deviceState := .notStarted
          prevDevState := .notStarted
          pointers := .null }] })

/-- `FreeBT_AddDevice`. -/
def addDevice
    (answers : AddAnswers)
    (driver : DriverState) : Routine (NtStatus × DriverState) := do
  let created := tryDeviceNames driver answers
  if ¬ NtSuccess created.1 then return (created.1, driver)
  else
    let extension ← allocate
    touch extension
    let linked := ioCreateSymbolicLink driver answers created.2
    if ¬ NtSuccess linked then
      free extension
      return (linked, driver)
    else
      finishAddDevice answers {
        driver with links := created.2 :: driver.links } created.2 extension

/-! ## Plug and play requests -/

/-- What `HandleStartDevice` is answered. -/
structure StartAnswers where
  /-- How the lower driver ends the request. -/
  lowerStatus : NtStatus
  /-- What reading the descriptors is answered. -/
  read : ReadAnswers
  /-- `IoSetDeviceInterfaceState`. -/
  interfaceState : NtStatus

/-- `HandleStartDevice`. -/
def handleStartDevice
    (answers : StartAnswers)
    (device : DeviceObject) : Routine (NtStatus × DeviceObject) := do
  touch device.extension
  -- Whatever the pointers pointed to is not freed.
  let device := { device with pointers := .null }
  if ¬ NtSuccess answers.lowerStatus then return (answers.lowerStatus, device)
  else
    let (ntStatus, pointers) ←
      readandSelectDescriptors answers.read device.pointers
    let device := { device with pointers := pointers }
    if ¬ NtSuccess ntStatus then return (ntStatus, device)
    else if ¬ NtSuccess answers.interfaceState then
      return (answers.interfaceState, device)
    else return (answers.interfaceState, device.setNewPnpState .working)

/-- `ReleaseMemory`. The link goes with the pipe contexts. -/
def releaseMemory
    (device : DeviceObject)
    (links : List Nat) : Routine (DeviceObject × List Nat) := do
  touch device.extension
  let pointers ← freePointers device.pointers
  let left :=
    if device.pointers.pipeContext.isSome then
      ioDeleteSymbolicLink links device.instanceNumber
    else links
  return ({ device with pointers := pointers }, left)

/-- `HandleStopDevice`. -/
def handleStopDevice
    (urb : Bool)
    (deconfigured lowerStatus : NtStatus)
    (device : DeviceObject)
    (links : List Nat) : Routine (NtStatus × DeviceObject × List Nat) := do
  touch device.extension
  let (device, links) ← releaseMemory (device.setNewPnpState .stopped) links
  let _ ← deconfigureDevice urb deconfigured
  return (lowerStatus, device, links)

/-- `HandleSurpriseRemoval`. -/
def handleSurpriseRemoval
    (aborts : Nat → Bool × NtStatus)
    (lowerStatus : NtStatus)
    (device : DeviceObject) : Routine (NtStatus × DeviceObject) := do
  touch device.extension
  let device := device.setNewPnpState .surpriseRemoved
  let (_, pointers) ← abortPipes aborts device.pointers
  touch device.extension
  return (lowerStatus, { device with pointers := pointers })

/-- `HandleRemoveDevice` up to the lower driver. -/
def releaseDevice
    (aborts : Nat → Bool × NtStatus)
    (device : DeviceObject)
    (links : List Nat) : Routine (DeviceObject × List Nat) := do
  touch device.extension
  if device.deviceState ≠ .surpriseRemoved then
    let (_, pointers) ← abortPipes aborts device.pointers
    releaseMemory
      ({ device with pointers := pointers }.setNewPnpState .removed) links
  else releaseMemory (device.setNewPnpState .removed) links

/-- `HandleRemoveDevice`. -/
def handleRemoveDevice
    (aborts : Nat → Bool × NtStatus)
    (lowerStatus : NtStatus)
    (device : DeviceObject)
    (links : List Nat) : Routine (NtStatus × List Nat) := do
  let (device, links) ← releaseDevice aborts device links
  touch device.extension
  free device.extension
  return (lowerStatus, links)

/-- A plug and play request, with what the system answers. -/
inductive PnpIrp
  | startDevice (answers : StartAnswers)
  | queryStopDevice (lowerStatus : NtStatus)
  | cancelStopDevice (lowerStatus : NtStatus)
  | stopDevice (urb : Bool) (deconfigured lowerStatus : NtStatus)
  | queryRemoveDevice (lowerStatus : NtStatus)
  | cancelRemoveDevice (lowerStatus : NtStatus)
  | surpriseRemoval
      (aborts : Nat → Bool × NtStatus)
      (lowerStatus : NtStatus)
  | removeDevice (aborts : Nat → Bool × NtStatus) (lowerStatus : NtStatus)

/-- `HandleCancelStopDevice` and `HandleCancelRemoveDevice`. -/
def handleCancel
    (pending : DevState)
    (lowerStatus : NtStatus)
    (device : DeviceObject) : NtStatus × DeviceObject :=
  if device.deviceState = pending then
    if NtSuccess lowerStatus then
      (lowerStatus, device.restorePreviousPnpState)
    else (lowerStatus, device)
  else (statusSuccess, device)

/-- A device after a request other than the one that removes it. -/
def DriverState.put
    (driver : DriverState)
    (others : List DeviceObject)
    (device : DeviceObject)
    (links : List Nat) : DriverState :=
  { driver with devices := others ++ [device], links := links }

/-- `FreeBT_DispatchPnP` for a device; the others are passed on. -/
def dispatchPnp
    (driver : DriverState)
    (device : DeviceObject)
    (others : List DeviceObject) : PnpIrp → Routine (NtStatus × DriverState)
  | .startDevice answers => do
      let (ntStatus, device) ← handleStartDevice answers device
      return (ntStatus, driver.put others device driver.links)
  | .queryStopDevice lowerStatus => do
      touch device.extension
      let device := device.setNewPnpState .pendingStop
      return (lowerStatus, driver.put others device driver.links)
  | .cancelStopDevice lowerStatus => do
      touch device.extension
      let (ntStatus, device) := handleCancel .pendingStop lowerStatus device
      return (ntStatus, driver.put others device driver.links)
  | .stopDevice urb deconfigured lowerStatus => do
      let (ntStatus, device, links) ←
        handleStopDevice urb deconfigured lowerStatus device driver.links
      return (ntStatus, driver.put others device links)
  | .queryRemoveDevice lowerStatus => do
      touch device.extension
      let device := device.setNewPnpState .pendingRemove
      return (lowerStatus, driver.put others device driver.links)
  | .cancelRemoveDevice lowerStatus => do
      touch device.extension
      let (ntStatus, device) := handleCancel .pendingRemove lowerStatus device
      return (ntStatus, driver.put others device driver.links)
  | .surpriseRemoval aborts lowerStatus => do
      let (ntStatus, device) ←
        handleSurpriseRemoval aborts lowerStatus device
      return (ntStatus, driver.put others device driver.links)
  | .removeDevice aborts lowerStatus => do
      let (ntStatus, links) ←
        handleRemoveDevice aborts lowerStatus device driver.links
      return (ntStatus, { driver with devices := others, links := links })

/-! ## The machine -/

/-- The driver, and the memory of the system. -/
structure LifetimeState where
  /-- What the driver has. -/
  driver : DriverState
  /-- The blocks that were allocated and freed. -/
  pool : Ledger
  /-- A routine has used a block that is not allocated. -/
  crashed : Bool

/-- After `DriverEntry`. -/
def startLifetime : LifetimeState where
  driver := {
    registryPath := some 0
    devices := []
    links := [] }
  pool := Ledger.fresh.issue
  crashed := false

/-- What the system does. -/
inductive LifetimeAction
  | addDevice (answers : AddAnswers)
  | dispatchPnp (index : Nat) (irp : PnpIrp)
  | driverUnload

/-- What comes of an action. -/
inductive LifetimeEvent
  | returned (ntStatus : NtStatus)
  | fault
  deriving DecidableEq

/-- The routine that an action runs. There is none for a device that does not
exist, or while the driver is not loaded, and the driver is not unloaded while
it has devices. -/
def LifetimeAction.routine
    (driver : DriverState) :
    LifetimeAction → Option (Routine (NtStatus × DriverState))
  | .addDevice answers =>
      if driver.registryPath.isSome then
        some (Lifetime.addDevice answers driver)
      else none
  | .dispatchPnp index irp => do
      let (device, others) ← pick driver.devices index
      some (Lifetime.dispatchPnp driver device others irp)
  | .driverUnload =>
      if driver.registryPath.isSome ∧ driver.devices = [] then
        some do
          freeAll driver.registryPath.toList
          return (statusSuccess, { driver with registryPath := none })
      else none

/-- What an action shows and leaves behind. A fault stops the system. -/
def lifetimeStep
    (state : LifetimeState)
    (action : LifetimeAction) : Option (LifetimeEvent × LifetimeState) :=
  if state.crashed then none
  else do
    let routine ← action.routine state.driver
    match routine state.pool with
    | none => some (.fault, { state with crashed := true })
    | some ((ntStatus, driver), pool) =>
        some (.returned ntStatus, {
          state with driver := driver, pool := pool })

end Lifetime

/-- The devices of the driver under successive actions. -/
def lifetimeMachine :
    Machine Lifetime.LifetimeState Lifetime.LifetimeAction
      Lifetime.LifetimeEvent where
  step := Lifetime.lifetimeStep

namespace Lifetime

/-! ## One device -/

/-- The configuration descriptor is lost while the device starts. -/
def StartAnswers.LosesDescriptor (answers : StartAnswers) : Prop :=
  NtSuccess answers.lowerStatus ∧ answers.read.LosesDescriptor

instance (answers : StartAnswers) : Decidable answers.LosesDescriptor :=
  inferInstanceAs (Decidable (_ ∧ _))

namespace DeviceObject

/-- The number of blocks that a request to a device loses: those pointed to
before a start and a descriptor that could not be read, and the buffer of
`InterfaceName` with the device itself. -/
def losses (device : DeviceObject) : PnpIrp → Nat
  | .startDevice answers =>
      device.pointers.blocks.length +
        if answers.LosesDescriptor then 1 else 0
  | .removeDevice _ _ => 1
  | .queryStopDevice _ | .cancelStopDevice _ | .stopDevice _ _ _
  | .queryRemoveDevice _ | .cancelRemoveDevice _ | .surpriseRemoval _ _ => 0

/-- The links once `ReleaseMemory` has run. -/
def linksReleased (device : DeviceObject) (links : List Nat) : List Nat :=
  if device.pointers.pipeContext.isSome then
    ioDeleteSymbolicLink links device.instanceNumber
  else links

end DeviceObject

/-- What a request leaves of a device that it does not remove. -/
structure Serves
    (loses : Nat)
    (device : DeviceObject)
    (others : List Nat)
    (after : DeviceObject)
    (kept : List Nat) : Prop where
  /-- The device keeps its number. -/
  number : after.instanceNumber = device.instanceNumber
  /-- The pipe contexts are those of the pipes. -/
  sound : after.pointers.Sound
  /-- Besides the blocks of the device, as many are left as were lost. -/
  kept : ∃ lost, lost.length = loses ∧
    kept.Perm (after.blocks ++ (lost ++ others))

/-- Nothing was done with the memory. -/
theorem serves_of_same
    {device after : DeviceObject}
    (number : after.instanceNumber = device.instanceNumber)
    (same : after.pointers = device.pointers)
    (blocks : after.blocks = device.blocks)
    (sound : device.pointers.Sound)
    (perm : held.Perm (device.blocks ++ others)) :
    Serves 0 device others after held where
  number := number
  sound := by
    rw [same]
    exact sound
  kept := by
    refine ⟨[], rfl, ?_⟩
    rw [blocks]
    exact perm

theorem DeviceObject.extension_mem
    {device : DeviceObject}
    {held : List Nat}
    (perm : held.Perm (device.blocks ++ others)) :
    device.extension ∈ held :=
  perm.mem_iff.mpr List.mem_cons_self

theorem pointers_subset
    {device : DeviceObject}
    {held : List Nat}
    (perm : held.Perm (device.blocks ++ others)) :
    device.pointers.blocks ⊆ held := by
  intro block member
  apply perm.mem_iff.mpr
  apply List.mem_append_left
  exact List.mem_cons_of_mem _ (List.mem_cons_of_mem _ member)

/-- Once the descriptors have been read, the device has the new blocks. -/
theorem Configured.started
    {answers : StartAnswers}
    {device : DeviceObject}
    {held left others : List Nat}
    (configured : Configured answers.read.LosesDescriptor held
      (ntStatus, pointers) left)
    (overwritten : held.Perm
      ({ device with pointers := .null }.blocks ++
        (device.pointers.blocks ++ others)))
    (succeeded : NtSuccess answers.lowerStatus) :
    ∃ lost, lost.length = device.losses (.startDevice answers) ∧
      left.Perm ({ device with pointers := pointers }.blocks ++
        (lost ++ others)) := by
  have placed : (pointers.blocks ++ held).Perm
      ({ device with pointers := pointers }.blocks ++
        (device.pointers.blocks ++ others)) := by
    refine (overwritten.append_left _).trans ?_
    refine List.perm_middle.trans ?_
    exact List.perm_middle.cons _
  rcases configured.kept with ⟨keeps, perm⟩ | ⟨loses, block, perm⟩
  · refine ⟨device.pointers.blocks, ?_, perm.trans placed⟩
    rw [DeviceObject.losses, if_neg fun lost => keeps lost.2]
    rfl
  · refine ⟨block :: device.pointers.blocks, ?_, ?_⟩
    · rw [DeviceObject.losses, if_pos ⟨succeeded, loses⟩]
      rfl
    · exact (perm.trans (placed.cons block)).trans List.perm_middle.symm

/-- A device that starts loses what it had. -/
theorem owns_handleStartDevice
    {device : DeviceObject}
    (answers : StartAnswers)
    (perm : held.Perm (device.blocks ++ others)) :
    Owns held (handleStartDevice answers device) fun result kept =>
      Serves (device.losses (.startDevice answers)) device others result.2
          kept ∧
        (NtSuccess result.1 → result.2.pointers.pipeContext.isSome) := by
  refine (owns_touch (DeviceObject.extension_mem perm)).bind ?_
  rintro _ held rfl
  have overwritten : held.Perm
      ({ device with pointers := .null }.blocks ++
        (device.pointers.blocks ++ others)) := by
    refine perm.trans ?_
    rw [DeviceObject.blocks, List.cons_append, List.cons_append]
    exact List.Perm.refl _
  by_cases failed : ¬ NtSuccess answers.lowerStatus
  · rw [if_pos failed]
    refine owns_pure ⟨⟨rfl, DevicePointers.sound_null, ?_⟩, ?_⟩
    · refine ⟨device.pointers.blocks, ?_, overwritten⟩
      rw [DeviceObject.losses, if_neg fun loses => failed loses.1]
      rfl
    · exact fun succeeded => absurd succeeded failed
  rw [if_neg failed]
  refine (owns_readandSelectDescriptors _ answers.read).bind ?_
  rintro ⟨ntStatus, pointers⟩ left configured
  have started := configured.started overwritten (not_not.mp failed)
  dsimp only
  by_cases read : ¬ NtSuccess ntStatus
  · rw [if_pos read]
    exact owns_pure ⟨⟨rfl, configured.sound, started⟩,
      fun succeeded => absurd succeeded read⟩
  rw [if_neg read]
  have complete := configured.complete (not_not.mp read)
  by_cases enabled : ¬ NtSuccess answers.interfaceState
  · rw [if_pos enabled]
    exact owns_pure ⟨⟨rfl, configured.sound, started⟩, fun _ => complete⟩
  · rw [if_neg enabled]
    exact owns_pure ⟨⟨rfl, configured.sound, started⟩, fun _ => complete⟩

/-- The pointers of a device are freed, and its link is deleted with them. -/
theorem owns_releaseMemory
    {device : DeviceObject}
    (links : List Nat)
    (perm : held.Perm (device.blocks ++ others)) :
    Owns held (releaseMemory device links) fun result kept =>
      result = ({ device with pointers := .null },
        device.linksReleased links) ∧
        kept.Perm (device.extension :: device.interfaceName :: others) := by
  refine (owns_touch (DeviceObject.extension_mem perm)).bind ?_
  rintro _ held rfl
  have pointed : held.Perm (device.pointers.blocks ++
      (device.extension :: device.interfaceName :: others)) := by
    refine perm.trans ?_
    refine (List.perm_middle.cons _).symm.trans ?_
    exact List.perm_middle.symm
  refine (owns_freePointers device.pointers pointed).bind ?_
  rintro _ kept ⟨rfl, left⟩
  exact owns_pure ⟨rfl, left⟩

theorem owns_handleStopDevice
    {device : DeviceObject}
    (urb : Bool)
    (deconfigured lowerStatus : NtStatus)
    (links : List Nat)
    (perm : held.Perm (device.blocks ++ others)) :
    Owns held (handleStopDevice urb deconfigured lowerStatus device links)
      fun result kept =>
        result = (lowerStatus,
          { device.setNewPnpState .stopped with pointers := .null },
          device.linksReleased links) ∧
          kept.Perm (device.extension :: device.interfaceName :: others) := by
  refine (owns_touch (DeviceObject.extension_mem perm)).bind ?_
  rintro _ held rfl
  have stopped : held.Perm
      ((device.setNewPnpState .stopped).blocks ++ others) := perm
  refine (owns_releaseMemory links stopped).bind ?_
  rintro _ kept ⟨rfl, left⟩
  refine (owns_deconfigureDevice kept urb deconfigured).bind ?_
  rintro _ kept rfl
  exact owns_pure ⟨rfl, left⟩

theorem owns_handleSurpriseRemoval
    {device : DeviceObject}
    (aborts : Nat → Bool × NtStatus)
    (lowerStatus : NtStatus)
    (sound : device.pointers.Sound)
    (perm : held.Perm (device.blocks ++ others)) :
    Owns held (handleSurpriseRemoval aborts lowerStatus device)
      fun result kept =>
        result = (lowerStatus, device.setNewPnpState .surpriseRemoved) ∧
          kept = held := by
  have extension := DeviceObject.extension_mem perm
  refine (owns_touch extension).bind ?_
  rintro _ held rfl
  refine (owns_abortPipes aborts sound (pointers_subset perm)).bind ?_
  rintro _ held ⟨rfl, rfl⟩
  refine (owns_touch extension).bind ?_
  rintro _ held rfl
  exact owns_pure ⟨rfl, rfl⟩

/-- What a device has is freed, its pipes are not aborted. -/
theorem owns_releaseDevice
    {device : DeviceObject}
    (aborts : Nat → Bool × NtStatus)
    (links : List Nat)
    (sound : device.pointers.Sound)
    (perm : held.Perm (device.blocks ++ others)) :
    Owns held (releaseDevice aborts device links) fun result kept =>
      result.1.extension = device.extension ∧
        result.2 = device.linksReleased links ∧
        kept.Perm (device.extension :: device.interfaceName :: others) := by
  refine (owns_touch (DeviceObject.extension_mem perm)).bind ?_
  rintro _ held rfl
  have removed : held.Perm
      ((device.setNewPnpState .removed).blocks ++ others) := perm
  by_cases here : device.deviceState ≠ .surpriseRemoved
  · rw [if_pos here]
    refine (owns_abortPipes aborts sound (pointers_subset perm)).bind ?_
    rintro _ held ⟨rfl, rfl⟩
    refine (owns_releaseMemory links removed).mono ?_
    rintro _ kept ⟨rfl, left⟩
    exact ⟨rfl, rfl, left⟩
  · rw [if_neg here]
    refine (owns_releaseMemory links removed).mono ?_
    rintro _ kept ⟨rfl, left⟩
    exact ⟨rfl, rfl, left⟩

/-- Of a device that is removed only the buffer of `InterfaceName` is left. -/
theorem owns_handleRemoveDevice
    {device : DeviceObject}
    (aborts : Nat → Bool × NtStatus)
    (lowerStatus : NtStatus)
    (links : List Nat)
    (sound : device.pointers.Sound)
    (perm : held.Perm (device.blocks ++ others)) :
    Owns held (handleRemoveDevice aborts lowerStatus device links)
      fun result kept =>
        result = (lowerStatus, device.linksReleased links) ∧
          kept.Perm (device.interfaceName :: others) := by
  refine (owns_releaseDevice aborts links sound perm).bind ?_
  rintro ⟨after, _⟩ kept ⟨extension, rfl, left⟩
  rw [← extension] at left
  refine (owns_touch (left.mem_iff.mpr List.mem_cons_self)).bind ?_
  rintro _ kept rfl
  refine (owns_free left).bind ?_
  rintro _ kept rfl
  exact owns_pure ⟨rfl, List.Perm.refl _⟩

/-! ## One request -/

/-- The request stops the device or removes it. -/
def PnpIrp.Releases : PnpIrp → Prop
  | .stopDevice _ _ _ | .removeDevice _ _ => True
  | .startDevice _ | .queryStopDevice _ | .cancelStopDevice _
  | .queryRemoveDevice _ | .cancelRemoveDevice _ | .surpriseRemoval _ _ =>
      False

instance : (irp : PnpIrp) → Decidable irp.Releases
  | .stopDevice _ _ _ | .removeDevice _ _ => isTrue trivial
  | .startDevice _ | .queryStopDevice _ | .cancelStopDevice _
  | .queryRemoveDevice _ | .cancelRemoveDevice _ | .surpriseRemoval _ _ =>
      isFalse id

/-- The request removes the device. -/
def PnpIrp.Removes : PnpIrp → Prop
  | .removeDevice _ _ => True
  | .stopDevice _ _ _ | .startDevice _ | .queryStopDevice _
  | .cancelStopDevice _ | .queryRemoveDevice _ | .cancelRemoveDevice _
  | .surpriseRemoval _ _ => False

instance : (irp : PnpIrp) → Decidable irp.Removes
  | .removeDevice _ _ => isTrue trivial
  | .stopDevice _ _ _ | .startDevice _ | .queryStopDevice _
  | .cancelStopDevice _ | .queryRemoveDevice _ | .cancelRemoveDevice _
  | .surpriseRemoval _ _ => isFalse id

/-- What a request to a device leaves of the driver. -/
structure Dispatched
    (driver : DriverState)
    (device : DeviceObject)
    (others : List DeviceObject)
    (irp : PnpIrp)
    (blocks : List Nat)
    (next : DriverState)
    (kept : List Nat) : Prop where
  registryPath : next.registryPath = driver.registryPath
  /-- The device is gone, or still there under its number. -/
  devices : (irp.Removes ∧ next.devices = others) ∨
    (¬ irp.Removes ∧ ∃ after, next.devices = others ++ [after] ∧
      after.instanceNumber = device.instanceNumber ∧ after.pointers.Sound)
  /-- The link goes with the pipe contexts. -/
  links : next.links =
    if irp.Releases then device.linksReleased driver.links else driver.links
  /-- Besides the blocks of the devices, as many are left as were lost. -/
  kept : ∃ lost, lost.length = device.losses irp ∧
    kept.Perm (next.devices.flatMap DeviceObject.blocks ++ (lost ++ blocks))

/-- A device that a request has served is put back. -/
theorem Serves.dispatched
    {driver : DriverState}
    {device after : DeviceObject}
    {irp : PnpIrp}
    {kept blocks : List Nat}
    (serves : Serves (device.losses irp) device
      (others.flatMap DeviceObject.blocks ++ blocks) after kept)
    (stays : ¬ irp.Removes)
    (same : links =
      if irp.Releases then device.linksReleased driver.links
      else driver.links) :
    Dispatched driver device others irp blocks
      (driver.put others after links) kept where
  registryPath := rfl
  devices := .inr ⟨stays, after, rfl, serves.number, serves.sound⟩
  links := same
  kept := by
    obtain ⟨lost, length, perm⟩ := serves.kept
    refine ⟨lost, length, perm.trans ?_⟩
    rw [DriverState.put, List.flatMap_append, List.flatMap_singleton]
    have swapped : (lost ++ (others.flatMap DeviceObject.blocks ++ blocks)).Perm
        (others.flatMap DeviceObject.blocks ++ (lost ++ blocks)) :=
      List.perm_append_comm_assoc _ _ _
    refine (swapped.append_left _).trans ?_
    rw [← List.append_assoc]
    exact List.perm_append_comm.append_right _

/-- A device whose memory is left alone is put back. -/
theorem dispatched_of_same
    {driver : DriverState}
    {device after : DeviceObject}
    {irp : PnpIrp}
    {held blocks : List Nat}
    (number : after.instanceNumber = device.instanceNumber)
    (same : after.pointers = device.pointers)
    (sameBlocks : after.blocks = device.blocks)
    (keeps : device.losses irp = 0)
    (stays : ¬ irp.Removes)
    (notReleased : ¬ irp.Releases)
    (sound : device.pointers.Sound)
    (perm : held.Perm (device.blocks ++
      (others.flatMap DeviceObject.blocks ++ blocks))) :
    Dispatched driver device others irp blocks
      (driver.put others after driver.links) held := by
  have serves := serves_of_same number same sameBlocks sound perm
  rw [← keeps] at serves
  exact serves.dispatched stays (if_neg notReleased).symm

theorem handleCancel_cases
    (pending : DevState)
    (lowerStatus : NtStatus)
    (device : DeviceObject) :
    (handleCancel pending lowerStatus device).2 = device ∨
      (handleCancel pending lowerStatus device).2 =
        device.restorePreviousPnpState := by
  unfold handleCancel
  split
  · split
    · exact .inr rfl
    · exact .inl rfl
  · exact .inl rfl

theorem dispatched_handleCancel
    {driver : DriverState}
    {device : DeviceObject}
    {irp : PnpIrp}
    {held blocks : List Nat}
    (pending : DevState)
    (lowerStatus : NtStatus)
    (keeps : device.losses irp = 0)
    (stays : ¬ irp.Removes)
    (notReleased : ¬ irp.Releases)
    (sound : device.pointers.Sound)
    (perm : held.Perm (device.blocks ++
      (others.flatMap DeviceObject.blocks ++ blocks))) :
    Dispatched driver device others irp blocks
      (driver.put others (handleCancel pending lowerStatus device).2
        driver.links) held := by
  rcases handleCancel_cases pending lowerStatus device with same | same
  · rw [same]
    exact dispatched_of_same rfl rfl rfl keeps stays notReleased sound perm
  · rw [same]
    exact dispatched_of_same rfl rfl rfl keeps stays notReleased sound perm

/-- Every request to a device ends without a fault. -/
theorem owns_dispatchPnp
    {driver : DriverState}
    {device : DeviceObject}
    {others : List DeviceObject}
    {held blocks : List Nat}
    (irp : PnpIrp)
    (sound : device.pointers.Sound)
    (perm : held.Perm (device.blocks ++
      (others.flatMap DeviceObject.blocks ++ blocks))) :
    Owns held (dispatchPnp driver device others irp) fun result kept =>
      Dispatched driver device others irp blocks result.2 kept := by
  have extension := DeviceObject.extension_mem perm
  cases irp with
  | startDevice answers =>
      refine (owns_handleStartDevice answers perm).bind ?_
      rintro ⟨ntStatus, after⟩ kept ⟨serves, -⟩
      exact owns_pure (serves.dispatched id rfl)
  | queryStopDevice lowerStatus =>
      refine (owns_touch extension).bind ?_
      rintro _ held rfl
      exact owns_pure
        (dispatched_of_same rfl rfl rfl rfl id id sound perm)
  | cancelStopDevice lowerStatus =>
      refine (owns_touch extension).bind ?_
      rintro _ held rfl
      exact owns_pure
        (dispatched_handleCancel _ _ rfl id id sound perm)
  | stopDevice urb deconfigured lowerStatus =>
      refine (owns_handleStopDevice urb deconfigured lowerStatus
        driver.links perm).bind ?_
      rintro _ kept ⟨rfl, left⟩
      apply owns_pure
      apply Serves.dispatched _ id rfl
      refine ⟨rfl, DevicePointers.sound_null, [], rfl, left⟩
  | queryRemoveDevice lowerStatus =>
      refine (owns_touch extension).bind ?_
      rintro _ held rfl
      exact owns_pure
        (dispatched_of_same rfl rfl rfl rfl id id sound perm)
  | cancelRemoveDevice lowerStatus =>
      refine (owns_touch extension).bind ?_
      rintro _ held rfl
      exact owns_pure
        (dispatched_handleCancel _ _ rfl id id sound perm)
  | surpriseRemoval aborts lowerStatus =>
      refine (owns_handleSurpriseRemoval aborts lowerStatus sound perm).bind ?_
      rintro _ held ⟨rfl, rfl⟩
      exact owns_pure
        (dispatched_of_same rfl rfl rfl rfl id id sound perm)
  | removeDevice aborts lowerStatus =>
      refine (owns_handleRemoveDevice aborts lowerStatus driver.links sound
        perm).bind ?_
      rintro _ kept ⟨rfl, left⟩
      apply owns_pure
      refine ⟨rfl, .inl ⟨trivial, rfl⟩, rfl, [device.interfaceName], rfl, ?_⟩
      exact left.trans List.perm_middle.symm

/-! ## A new device -/

/-- The loop ends with the first number for which a device is created. -/
theorem createLoop_cases
    (create : Nat → NtStatus)
    (failed : ¬ NtSuccess ntStatus)
    (instanceNumber remaining : Nat) :
    let result := createLoop create instanceNumber ntStatus remaining
    (NtSuccess result.1 ∧ result.1 = create result.2 ∧
        instanceNumber ≤ result.2 ∧ result.2 < instanceNumber + remaining ∧
        ∀ number, instanceNumber ≤ number → number < result.2 →
          ¬ NtSuccess (create number)) ∨
      (¬ NtSuccess result.1 ∧
        ∀ number, instanceNumber ≤ number →
          number < instanceNumber + remaining →
            ¬ NtSuccess (create number)) := by
  induction remaining generalizing instanceNumber ntStatus with
  | zero =>
      refine .inr ⟨failed, ?_⟩
      intro number above below
      omega
  | succ remaining inductionHypothesis =>
      rw [createLoop, if_neg failed]
      by_cases created : NtSuccess (create instanceNumber)
      · have ends : createLoop create instanceNumber (create instanceNumber)
            remaining = (create instanceNumber, instanceNumber) := by
          cases remaining with
          | zero => rfl
          | succ remaining => rw [createLoop, if_pos created]
        rw [if_pos created, ends]
        refine .inl ⟨created, rfl, Nat.le_refl _, by dsimp only; omega, ?_⟩
        intro number above below
        dsimp only at below
        omega
      · rw [if_neg created]
        have none_before : ∀ number, instanceNumber ≤ number →
            ¬ instanceNumber + 1 ≤ number → ¬ NtSuccess (create number) := by
          intro number above notAbove
          obtain rfl : number = instanceNumber := by omega
          exact created
        rcases inductionHypothesis created (instanceNumber + 1) with
          ⟨succeeded, same, above, below, first⟩ | ⟨all, none_at⟩
        · refine .inl ⟨succeeded, same, by omega, by omega, ?_⟩
          intro number from_start before
          by_cases later : instanceNumber + 1 ≤ number
          · exact first number later before
          · exact none_before number from_start later
        · refine .inr ⟨all, ?_⟩
          intro number from_start before
          by_cases later : instanceNumber + 1 ≤ number
          · exact none_at number later (by omega)
          · exact none_before number from_start later

/-- `FreeBT_AddDevice` fails once the link exists. -/
def AddAnswers.RollsBack (answers : AddAnswers) (driver : DriverState) : Prop :=
  NtSuccess (tryDeviceNames driver answers).1 ∧
    NtSuccess (ioCreateSymbolicLink driver answers
      (tryDeviceNames driver answers).2) ∧
    answers.laterFailure.isSome

instance (answers : AddAnswers) (driver : DriverState) :
    Decidable (answers.RollsBack driver) :=
  inferInstanceAs (Decidable (_ ∧ _ ∧ _))

/-- `FreeBT_AddDevice` adds a device. -/
def AddAnswers.Adds (answers : AddAnswers) (driver : DriverState) : Prop :=
  NtSuccess (tryDeviceNames driver answers).1 ∧
    NtSuccess (ioCreateSymbolicLink driver answers
      (tryDeviceNames driver answers).2) ∧
    answers.laterFailure = none

instance (answers : AddAnswers) (driver : DriverState) :
    Decidable (answers.Adds driver) :=
  inferInstanceAs (Decidable (_ ∧ _ ∧ _ = _))

/-- What `FreeBT_AddDevice` leaves of the driver: a new device with its link,
or nothing. -/
structure Added
    (answers : AddAnswers)
    (driver : DriverState)
    (held : List Nat)
    (next : DriverState)
    (kept : List Nat) : Prop where
  registryPath : next.registryPath = driver.registryPath
  /-- The device is new. -/
  adds : answers.Adds driver → ∃ device,
    next.devices = driver.devices ++ [device] ∧
      device.instanceNumber = (tryDeviceNames driver answers).2 ∧
      device.pointers = .null ∧
      next.links = (tryDeviceNames driver answers).2 :: driver.links ∧
      kept.Perm (device.blocks ++ held)
  /-- Nothing is left. -/
  fails : ¬ answers.Adds driver → next = driver ∧ kept = held

theorem owns_finishAddDevice
    {driver : DriverState}
    {answers : AddAnswers}
    (complete : answers.laterFailure = none)
    (instanceNumber extension : Nat)
    (held : List Nat) :
    Owns held (finishAddDevice answers driver instanceNumber extension)
      fun result kept => ∃ interfaceName,
        result = (answers.registerInterface, {
          driver with
          devices := driver.devices ++ [{
            instanceNumber
            extension
            interfaceName
            deviceState := .notStarted
            prevDevState := .notStarted
            pointers := .null }] }) ∧ kept = interfaceName :: held := by
  rw [finishAddDevice, complete]
  refine (owns_allocate held).bind ?_
  rintro interfaceName _ rfl
  exact owns_pure ⟨interfaceName, rfl, rfl⟩

/-- `FreeBT_AddDevice` ends without a fault unless it fails once the link
exists. -/
theorem owns_addDevice
    {driver : DriverState}
    {answers : AddAnswers}
    (held : List Nat)
    (keeps : ¬ answers.RollsBack driver) :
    Owns held (addDevice answers driver) fun result kept =>
      Added answers driver held result.2 kept := by
  unfold addDevice
  by_cases created : ¬ NtSuccess (tryDeviceNames driver answers).1
  · rw [if_pos created]
    exact owns_pure ⟨rfl, fun adds => absurd adds.1 created,
      fun _ => ⟨rfl, rfl⟩⟩
  rw [if_neg created]
  refine (owns_allocate held).bind ?_
  rintro extension _ rfl
  refine (owns_touch List.mem_cons_self).bind ?_
  rintro _ _ rfl
  by_cases linked : ¬ NtSuccess (ioCreateSymbolicLink driver answers
      (tryDeviceNames driver answers).2)
  · rw [if_pos linked]
    refine (owns_free (List.Perm.refl _)).bind ?_
    rintro _ _ rfl
    exact owns_pure ⟨rfl, fun adds => absurd adds.2.1 linked,
      fun _ => ⟨rfl, rfl⟩⟩
  rw [if_neg linked]
  have complete : answers.laterFailure = none := by
    apply Option.not_isSome_iff_eq_none.mp
    intro failed
    exact keeps ⟨not_not.mp created, not_not.mp linked, failed⟩
  have adds : answers.Adds driver :=
    ⟨not_not.mp created, not_not.mp linked, complete⟩
  refine (owns_finishAddDevice complete _ extension _).mono ?_
  rintro _ _ ⟨interfaceName, rfl, rfl⟩
  refine ⟨rfl, ?_, fun fails => absurd adds fails⟩
  intro _
  exact ⟨_, rfl, rfl, rfl, rfl, List.Perm.swap _ _ _⟩

/-- Where `FreeBT_AddDevice` fails once the link exists, it uses the device
extension that it has deleted. -/
theorem addDevice_of_rollsBack
    {driver : DriverState}
    {answers : AddAnswers}
    (rollsBack : answers.RollsBack driver)
    (pool : Ledger) : addDevice answers driver pool = none := by
  obtain ⟨created, linked, failed⟩ := rollsBack
  obtain ⟨ntStatus, later⟩ := Option.isSome_iff_exists.mp failed
  unfold addDevice
  rw [if_neg (not_not.mpr created)]
  simp only [if_neg (not_not.mpr linked)]
  rw [bind_apply, allocate, Option.bind_some, bind_apply, touch]
  split
  · rw [Option.bind_some, finishAddDevice, later]
    exact touch_of_freed _ _ _
  · rfl

end Lifetime
end Usb
end BthEmul
