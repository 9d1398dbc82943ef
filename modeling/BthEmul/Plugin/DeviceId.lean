import BthEmul.Common.MessageQueue
import BthEmul.Runtime.DeviceTable

/-!
# The device of a plugin

A plugin keeps the id of its device twice: the control panel data opens and
closes the device, and the plugin itself addresses it. All plugins of a process
open their devices in the same tables, which give the slot of a closed device
to whoever opens one next.
-/

namespace BthEmul

open Foundation BthEmul.Runtime

namespace Plugin

/-- `HARDWARE_STATE`. -/
inductive HardwareState
  | attached
  | detached
  | unavailable
  deriving DecidableEq

/-- `ControlPanelData`. -/
structure ControlPanelData where
  /-- `devId`. -/
  devId : Int
  /-- `HardwareState`. -/
  hardwareState : HardwareState
  /-- `DeviceInfo`, once it was read. -/
  deviceInfo : Option LocalDeviceInfo
  /-- `connectionMonitorTimer` is not null. -/
  connectionMonitorTimer : Bool

namespace ControlPanelData

/-- `OpenDevice`. -/
def openDevice
    (data : ControlPanelData)
    (table : DeviceTable)
    (outcome : OpenOutcome) : Int × ControlPanelData × DeviceTable :=
  let (devId, next) := table.openDevice outcome
  if devId = invalidDeviceId then
    (devId, {
      data with
      devId := devId
      hardwareState := .unavailable }, next)
  else
    let deviceInfo :=
      match next.getDeviceInfo devId true with
      | .ok deviceInfo => some deviceInfo
      | .error _ => data.deviceInfo
    (devId, {
      devId := devId
      hardwareState := .attached
      deviceInfo := deviceInfo
      connectionMonitorTimer := true }, next)

/-- `CloseDevice`. -/
def closeDevice
    (data : ControlPanelData)
    (table : DeviceTable) : ControlPanelData × DeviceTable :=
  if data.devId ≠ invalidDeviceId then
    ({ data with
        devId := invalidDeviceId
        hardwareState := .detached
        connectionMonitorTimer := false },
      (table.closeDevice data.devId).2)
  else (data, table)

/-- The id behind an opening is the one that is returned. -/
theorem devId_openDevice
    (data : ControlPanelData)
    (table : DeviceTable)
    (outcome : OpenOutcome) :
    (data.openDevice table outcome).2.1.devId =
      (data.openDevice table outcome).1 := by
  unfold openDevice
  dsimp only
  split <;> rfl

/-- The id that is returned is the one of the runtime. -/
theorem fst_openDevice
    (data : ControlPanelData)
    (table : DeviceTable)
    (outcome : OpenOutcome) :
    (data.openDevice table outcome).1 = (table.openDevice outcome).1 := by
  unfold openDevice
  dsimp only
  split <;> rfl

/-- Without an open device there is nothing to close. -/
theorem closeDevice_of_invalid
    {data : ControlPanelData}
    (table : DeviceTable)
    (invalid : data.devId = invalidDeviceId) :
    data.closeDevice table = (data, table) :=
  if_neg (not_not_intro invalid)

/-- Closing leaves no id behind. -/
theorem devId_closeDevice
    (data : ControlPanelData)
    (table : DeviceTable) :
    (data.closeDevice table).1.devId = invalidDeviceId := by
  by_cases valid : data.devId ≠ invalidDeviceId
  · rw [closeDevice, if_pos valid]
  · rw [closeDevice, if_neg valid]
    exact not_not.mp valid

end ControlPanelData

/-- `PluginClass`, with the slots it has opened and not closed since. -/
structure PluginClass where
  /-- `devId`. -/
  devId : Int
  /-- `ctrlPanelData`. -/
  ctrlPanelData : ControlPanelData
  /-- `watchDogTimer` is not null. -/
  watchDogTimer : Bool
  /-- The slots opened and not closed since. -/
  holds : List Slot

/-- A plugin that has been built. -/
def built : PluginClass where
  devId := invalidDeviceId
  ctrlPanelData := {
    devId := invalidDeviceId
    hardwareState := .detached
    deviceInfo := none
    connectionMonitorTimer := false }
  watchDogTimer := false
  holds := []

/-- What a plugin sends. -/
inductive Sent
  | nothing
  | message (id : MessageId)
  | hciCommand (devId : Int) (cmdBuf : List UInt8)
  deriving DecidableEq

namespace PluginClass

/-- `OpenDevice`. -/
def openDevice
    (plugin : PluginClass)
    (table : DeviceTable)
    (outcome : OpenOutcome) : PluginClass × DeviceTable :=
  let (devId, ctrlPanelData, next) :=
    plugin.ctrlPanelData.openDevice table outcome
  ({ devId := devId
     ctrlPanelData := ctrlPanelData
     watchDogTimer :=
       if devId ≠ invalidDeviceId then true else plugin.watchDogTimer
     holds := (slot devId).toList ++ plugin.holds }, next)

/-- `CloseDevice` of `ctrlPanelData`. -/
def closeDevice
    (plugin : PluginClass)
    (table : DeviceTable) : PluginClass × DeviceTable :=
  let (ctrlPanelData, next) := plugin.ctrlPanelData.closeDevice table
  ({ plugin with
      ctrlPanelData := ctrlPanelData
      holds := plugin.holds.filter
        (some · ≠ slot plugin.ctrlPanelData.devId) }, next)

/-- `ConnectionMonitorTimerEvent` of `ctrlPanelData`. -/
def connectionMonitorTimerEvent
    (plugin : PluginClass)
    (table : DeviceTable)
    (disconnected : Bool) : PluginClass × DeviceTable :=
  if disconnected then plugin.closeDevice table else (plugin, table)

/-- `SendCommand` of a message id. -/
def sendCommand
    (plugin : PluginClass)
    (transport : Bool)
    (id : MessageId) : Sent :=
  if transport ∧ invalidDeviceId ≠ plugin.devId then .message id else .nothing

/-- `WatchDogTimerEvent`. -/
def watchDogTimerEvent
    (plugin : PluginClass)
    (table : DeviceTable)
    (connected transport : Bool) : Sent × PluginClass × DeviceTable :=
  if connected then (plugin.sendCommand transport .agentPingMsg, plugin, table)
  else (.nothing, plugin.closeDevice table)

/-- `OnDeviceDataReceived` up to the call of `SendHCICommand`. -/
def onDeviceDataReceived (plugin : PluginClass) (bytes : List UInt8) : Sent :=
  if 0 < bytes.length then .hciCommand plugin.devId bytes else .nothing

end PluginClass

/-- What happens to a plugin. An event of a timer that was not started finds no
device to close. -/
inductive PluginEvent
  | openDevice (outcome : OpenOutcome)
  | watchDogTimerEvent (connected transport : Bool)
  | connectionMonitorTimerEvent (disconnected : Bool)
  | deviceDataReceived (bytes : List UInt8)

/-- The plugins of a process, which share the tables of the runtime. -/
structure Process where
  /-- The plugins. -/
  plugins : Nat → PluginClass
  /-- The tables. -/
  table : DeviceTable

namespace Process

/-- A process that has loaded the runtime. -/
def start : Process where
  plugins := fun _ => built
  table := .initDevicesArray

/-- Something happens to one of the plugins. -/
structure Action where
  /-- The plugin. -/
  index : Nat
  /-- What happens. -/
  event : PluginEvent

/-- What an event makes of a plugin and of the tables. -/
def react
    (plugin : PluginClass)
    (table : DeviceTable) : PluginEvent → Sent × PluginClass × DeviceTable
  | .openDevice outcome => (.nothing, plugin.openDevice table outcome)
  | .watchDogTimerEvent connected transport =>
      plugin.watchDogTimerEvent table connected transport
  | .connectionMonitorTimerEvent disconnected =>
      (.nothing, plugin.connectionMonitorTimerEvent table disconnected)
  | .deviceDataReceived bytes =>
      (plugin.onDeviceDataReceived bytes, plugin, table)

/-- What an action sends and leaves behind. -/
def act (process : Process) (action : Action) : Sent × Process :=
  let (sent, plugin, table) :=
    react (process.plugins action.index) process.table action.event
  (sent, {
    plugins := Function.update process.plugins action.index plugin
    table := table })

end Process

/-- A process under successive events of its plugins. -/
def pluginMachine : Machine Process Process.Action Sent where
  step process action := some (process.act action)

namespace Process

/-! ## The property -/

/-- Both ids of each plugin are the same behind an action, and a command goes
to a slot that its plugin has opened and not closed since. -/
def DrivesOwn
    (process : Process)
    (action : Action)
    (sent : Sent)
    (next : Process) : Prop :=
  (∀ index,
    (next.plugins index).devId = (next.plugins index).ctrlPanelData.devId) ∧
  ∀ devId cmdBuf, sent = .hciCommand devId cmdBuf →
    ∃ held ∈ (process.plugins action.index).holds, slot devId = some held

end Process

/-! ## The condition -/

/-- The timers close nothing but a device that was not opened, and data is
received only with an open device. -/
def PluginClass.Conforms (plugin : PluginClass) : PluginEvent → Prop
  | .openDevice _ => True
  | .watchDogTimerEvent connected _ =>
      connected ∨ plugin.ctrlPanelData.devId = invalidDeviceId
  | .connectionMonitorTimerEvent disconnected =>
      ¬ disconnected ∨ plugin.ctrlPanelData.devId = invalidDeviceId
  | .deviceDataReceived bytes =>
      0 < bytes.length → plugin.ctrlPanelData.devId ≠ invalidDeviceId

instance (plugin : PluginClass) :
    (event : PluginEvent) → Decidable (plugin.Conforms event)
  | .openDevice _ => isTrue trivial
  | .watchDogTimerEvent _ _ => inferInstanceAs (Decidable (_ ∨ _))
  | .connectionMonitorTimerEvent _ => inferInstanceAs (Decidable (_ ∨ _))
  | .deviceDataReceived _ => inferInstanceAs (Decidable (_ → _))

/-- The plugin it is about conforms. -/
def Process.Conforms (process : Process) (action : Process.Action) : Prop :=
  (process.plugins action.index).Conforms action.event

/-! ## The invariant -/

namespace PluginClass

/-- Both ids are the same, and stand for a slot that is held if they are
valid. -/
structure Kept (plugin : PluginClass) : Prop where
  /-- Both ids are the same. -/
  agree : plugin.devId = plugin.ctrlPanelData.devId
  /-- A valid id stands for a slot that is held. -/
  held : plugin.ctrlPanelData.devId ≠ invalidDeviceId →
    ∃ held ∈ plugin.holds, slot plugin.ctrlPanelData.devId = some held

/-- The runtime returns the number of a slot or the invalid id. -/
theorem slot_of_openDevice
    (table : DeviceTable)
    (outcome : OpenOutcome)
    (valid : (table.openDevice outcome).1 ≠ invalidDeviceId) :
    ∃ index, slot (table.openDevice outcome).1 = some index := by
  cases available : table.availableSlot outcome with
  | none =>
      rw [DeviceTable.openDevice_of_none available] at valid
      exact absurd rfl valid
  | some index =>
      by_cases started : outcome.startEventListener = Hci.errorSuccess
      · rw [DeviceTable.openDevice_of_started available started]
        exact ⟨index, slot_of_slot index⟩
      · rw [DeviceTable.openDevice_of_failed available started] at valid
        exact absurd rfl valid

/-- Opening keeps a plugin. -/
theorem kept_openDevice
    (plugin : PluginClass)
    (table : DeviceTable)
    (outcome : OpenOutcome) : (plugin.openDevice table outcome).1.Kept where
  agree := (plugin.ctrlPanelData.devId_openDevice table outcome).symm
  held valid := by
    have same := plugin.ctrlPanelData.devId_openDevice table outcome
    have runtime := plugin.ctrlPanelData.fst_openDevice table outcome
    change (plugin.ctrlPanelData.openDevice table outcome).2.1.devId ≠
      invalidDeviceId at valid
    rw [same, runtime] at valid
    obtain ⟨index, found⟩ := slot_of_openDevice table outcome valid
    refine ⟨index, ?_, ?_⟩
    · change index ∈
        (slot (plugin.ctrlPanelData.openDevice table outcome).1).toList ++ _
      rw [runtime, found]
      exact List.mem_cons_self
    · change slot (plugin.ctrlPanelData.openDevice table outcome).2.1.devId =
        some index
      rw [same, runtime, found]

/-- Without an open device a close leaves the plugin. -/
theorem closeDevice_of_invalid
    {plugin : PluginClass}
    (table : DeviceTable)
    (invalid : plugin.ctrlPanelData.devId = invalidDeviceId) :
    plugin.closeDevice table = (plugin, table) := by
  have all : plugin.holds.filter
      (some · ≠ slot plugin.ctrlPanelData.devId) = plugin.holds := by
    rw [invalid]
    simp
  unfold closeDevice
  rw [ControlPanelData.closeDevice_of_invalid table invalid]
  dsimp only
  rw [all]

/-- Both ids are the same behind a close exactly when there was nothing to
close. -/
theorem Kept.agree_closeDevice_iff
    {plugin : PluginClass}
    (kept : plugin.Kept)
    (table : DeviceTable) :
    (plugin.closeDevice table).1.devId =
        (plugin.closeDevice table).1.ctrlPanelData.devId ↔
      plugin.ctrlPanelData.devId = invalidDeviceId := by
  have left : (plugin.closeDevice table).1.devId = plugin.devId := rfl
  have right : (plugin.closeDevice table).1.ctrlPanelData.devId =
      invalidDeviceId :=
    plugin.ctrlPanelData.devId_closeDevice table
  rw [left, right, kept.agree]

/-- The ids agree behind an event, and its command goes to a slot that is
held. -/
def DrivesOwn
    (plugin : PluginClass)
    (result : Sent × PluginClass × DeviceTable) : Prop :=
  result.2.1.devId = result.2.1.ctrlPanelData.devId ∧
  ∀ devId cmdBuf, result.1 = .hciCommand devId cmdBuf →
    ∃ held ∈ plugin.holds, slot devId = some held

/-- A close sends nothing, and leaves the ids the same exactly when there was
nothing to close. -/
theorem Kept.drivesOwn_closeDevice_iff
    {plugin : PluginClass}
    (kept : plugin.Kept)
    (table : DeviceTable) :
    plugin.DrivesOwn (.nothing, plugin.closeDevice table) ↔
      plugin.ctrlPanelData.devId = invalidDeviceId := by
  rw [← kept.agree_closeDevice_iff table]
  constructor
  · intro drives
    exact drives.1
  · intro agree
    refine ⟨agree, ?_⟩
    intro devId cmdBuf sent
    cases sent

/-- A plugin sends the ping to the device only. -/
theorem sendCommand_ne_hciCommand
    (plugin : PluginClass)
    (transport : Bool)
    (id : MessageId)
    (devId : Int)
    (cmdBuf : List UInt8) :
    plugin.sendCommand transport id ≠ .hciCommand devId cmdBuf := by
  unfold sendCommand
  split <;> intro sent <;> cases sent

/-- Data goes to a slot that is held exactly when there is an open device. -/
theorem Kept.drivesOwn_deviceDataReceived_iff
    {plugin : PluginClass}
    (kept : plugin.Kept)
    (table : DeviceTable)
    (bytes : List UInt8) :
    plugin.DrivesOwn (plugin.onDeviceDataReceived bytes, plugin, table) ↔
      plugin.Conforms (.deviceDataReceived bytes) := by
  unfold onDeviceDataReceived
  constructor
  · rintro ⟨-, own⟩ nonempty invalid
    obtain ⟨held, -, found⟩ :=
      own plugin.devId bytes (if_pos nonempty)
    rw [kept.agree, invalid, slot_invalidDeviceId] at found
    cases found
  · intro conforms
    refine ⟨kept.agree, ?_⟩
    intro devId cmdBuf sent
    by_cases nonempty : 0 < bytes.length
    · rw [if_pos nonempty] at sent
      cases sent
      rw [kept.agree]
      exact kept.held (conforms nonempty)
    · rw [if_neg nonempty] at sent
      cases sent

/-- An event is about the plugin's own device exactly when it conforms. -/
theorem Kept.drivesOwn_iff
    {plugin : PluginClass}
    (kept : plugin.Kept)
    (table : DeviceTable)
    (event : PluginEvent) :
    plugin.DrivesOwn (Process.react plugin table event) ↔
      plugin.Conforms event := by
  cases event with
  | openDevice outcome =>
      refine ⟨fun _ => trivial, fun _ => ⟨?_, ?_⟩⟩
      · exact (plugin.kept_openDevice table outcome).agree
      · intro devId cmdBuf sent
        cases sent
  | watchDogTimerEvent connected transport =>
      cases connected with
      | true =>
          refine ⟨fun _ => .inl rfl, fun _ => ⟨kept.agree, ?_⟩⟩
          intro devId cmdBuf sent
          exact (plugin.sendCommand_ne_hciCommand _ _ _ _ sent).elim
      | false =>
          refine (kept.drivesOwn_closeDevice_iff table).trans ?_
          simp [Conforms]
  | connectionMonitorTimerEvent disconnected =>
      cases disconnected with
      | true =>
          refine (kept.drivesOwn_closeDevice_iff table).trans ?_
          simp [Conforms]
      | false =>
          refine ⟨fun _ => .inl Bool.false_ne_true, fun _ => ⟨kept.agree, ?_⟩⟩
          intro devId cmdBuf sent
          cases sent
  | deviceDataReceived bytes =>
      exact kept.drivesOwn_deviceDataReceived_iff table bytes

/-- An event that conforms keeps the plugin. -/
theorem Kept.react
    {plugin : PluginClass}
    (kept : plugin.Kept)
    (table : DeviceTable)
    (conforms : plugin.Conforms event) :
    (Process.react plugin table event).2.1.Kept := by
  cases event with
  | openDevice outcome => exact plugin.kept_openDevice table outcome
  | watchDogTimerEvent connected transport =>
      cases connected with
      | true => exact kept
      | false =>
          have invalid := conforms.resolve_left Bool.false_ne_true
          change (plugin.closeDevice table).1.Kept
          rw [closeDevice_of_invalid table invalid]
          exact kept
  | connectionMonitorTimerEvent disconnected =>
      cases disconnected with
      | true =>
          have invalid := conforms.resolve_left (not_not_intro rfl)
          change (plugin.closeDevice table).1.Kept
          rw [closeDevice_of_invalid table invalid]
          exact kept
      | false => exact kept
  | deviceDataReceived bytes => exact kept

end PluginClass

namespace Process

/-- Every plugin is kept. -/
def Kept (process : Process) : Prop :=
  ∀ index, (process.plugins index).Kept

theorem kept_start : start.Kept := by
  intro index
  exact ⟨rfl, fun valid => absurd rfl valid⟩

/-- The plugin an action is about. -/
theorem plugins_act_self
    (process : Process)
    (action : Action) :
    (process.act action).2.plugins action.index =
      (react (process.plugins action.index) process.table
        action.event).2.1 :=
  Function.update_self ..

/-- The other plugins stay as they are. -/
theorem plugins_act_of_ne
    (process : Process)
    (action : Action)
    (other : index ≠ action.index) :
    (process.act action).2.plugins index = process.plugins index :=
  Function.update_of_ne other ..

/-- An action is about the plugin's own device exactly when it conforms. -/
theorem Kept.drivesOwn_iff
    {process : Process}
    (kept : process.Kept)
    (action : Action) :
    process.DrivesOwn action (process.act action).1 (process.act action).2 ↔
      process.Conforms action := by
  rw [Conforms, ← (kept action.index).drivesOwn_iff process.table action.event]
  constructor
  · rintro ⟨agree, own⟩
    have same := agree action.index
    rw [plugins_act_self] at same
    exact ⟨same, own⟩
  · rintro ⟨agree, own⟩
    refine ⟨?_, own⟩
    intro index
    by_cases same : index = action.index
    · rw [same, plugins_act_self]
      exact agree
    · rw [plugins_act_of_ne process action same]
      exact (kept index).agree

/-- An action that conforms keeps every plugin. -/
theorem Kept.act
    {process : Process}
    (kept : process.Kept)
    (conforms : process.Conforms action) :
    (process.act action).2.Kept := by
  intro index
  by_cases same : index = action.index
  · rw [same, plugins_act_self]
    exact (kept action.index).react process.table conforms
  · rw [plugins_act_of_ne process action same]
    exact kept index

/-- From kept plugins on, every action is about the plugin's own device exactly
when every action conforms. -/
theorem Kept.always_iff
    {process : Process}
    (kept : process.Kept)
    (actions : List Action) :
    pluginMachine.Always DrivesOwn process actions ↔
      pluginMachine.Admits Conforms process actions := by
  apply Machine.always_iff_admits_of_total (fun _ _ => rfl) Kept ?_ ?_ kept
  · intro process action kept
    exact kept.drivesOwn_iff action
  · intro process action kept conforms
    exact kept.act conforms

/-- The ids of every plugin agree and every command goes to a slot its plugin
has open, exactly when no timer closes an open device and no data is received
without one. -/
theorem drivesOwn_iff_conforms (actions : List Action) :
    pluginMachine.Always DrivesOwn start actions ↔
      pluginMachine.Admits Conforms start actions :=
  kept_start.always_iff actions

instance (process : Process) (action : Action) :
    Decidable (process.Conforms action) :=
  inferInstanceAs (Decidable (PluginClass.Conforms _ _))

/-- The watchdog closes the device of a plugin, another plugin opens the slot,
and data for the first one is received. -/
def reopened : List Action :=
  [⟨0, .openDevice DeviceTable.willing⟩, ⟨0, .watchDogTimerEvent false false⟩,
    ⟨1, .openDevice DeviceTable.willing⟩, ⟨0, .deviceDataReceived [1, 3, 12, 0]⟩]

/-- The ids do not agree, and the data goes to the device of the other
plugin. -/
theorem not_drivesOwn_reopened :
    ¬ pluginMachine.Always DrivesOwn start reopened ∧
      ∃ sent final,
        pluginMachine.run start reopened = some (sent, final) ∧
        sent.getLast? = some (.hciCommand 0 [1, 3, 12, 0]) ∧
        (final.plugins 0).holds = [] ∧
        (final.plugins 1).holds = (slot 0).toList := by
  constructor
  · rw [kept_start.always_iff]
    decide +kernel
  · decide +kernel

end Process
end Plugin
end BthEmul
