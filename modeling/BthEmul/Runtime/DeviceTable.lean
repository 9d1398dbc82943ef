import BthEmul.Foundation.Machine
import BthEmul.Hci.CommandQueue
import Mathlib.Data.List.FinRange
import Mathlib.Logic.Function.Basic

/-!
# The table of open devices

The runtime numbers the devices it has open by slots of three parallel tables:
the hardware, the object that talks to it, and the information read from it.
Opening looks for a free slot whose hardware attaches, asks it three questions
and starts the listener; closing gives the slot back.
-/

namespace BthEmul

open Foundation

namespace Runtime

/-- `MAX_DEVICES`. -/
def maxDevices : Nat := 255

/-- `INVALID_DEVICE_ID`. -/
def invalidDeviceId : Int := -1

/-- `ERROR_INVALID_PARAMETER`. -/
def errorInvalidParameter : UInt32 := 87

/-- `ERROR_NO_DATA`. -/
def errorNoData : UInt32 := 232

/-- `ERROR_DEVICE_NOT_AVAILABLE`. -/
def errorDeviceNotAvailable : UInt32 := 4319

/-- An index of the tables. -/
abbrev Slot := Fin maxDevices

/-- The index that a device id stands for. -/
def slot (devId : Int) : Option Slot :=
  if within : 0 ≤ devId ∧ devId < maxDevices then
    some ⟨devId.toNat, by omega⟩
  else none

/-- A slot is found by its number. -/
@[simp] theorem slot_of_slot (index : Slot) : slot (index : Int) = some index := by
  have within : (0 : Int) ≤ index ∧ (index : Int) < maxDevices :=
    ⟨by omega, by exact_mod_cast index.isLt⟩
  simp [slot, within]

/-- The invalid id stands for no slot. -/
@[simp] theorem slot_invalidDeviceId : slot invalidDeviceId = none := rfl

/-- The number of a slot is not the invalid id. -/
theorem slot_ne_invalidDeviceId (index : Slot) :
    (index : Int) ≠ invalidDeviceId := by
  rw [invalidDeviceId]
  omega

/-! ## Asking the hardware -/

/-- `LOCAL_DEVICE_INFO`. -/
structure LocalDeviceInfo where
  /-- `bdaddr`. -/
  bdaddr : Vector UInt8 6
  /-- `hci_ver`. -/
  hciVer : UInt8
  /-- `hci_rev`. -/
  hciRev : UInt16
  /-- `lmp_ver`. -/
  lmpVer : UInt8
  /-- `manufacturer`. -/
  manufacturer : UInt16
  /-- `lmp_subver`. -/
  lmpSubver : UInt16
  deriving DecidableEq

/-- `DEVICE_INFO`. -/
structure DeviceInfo extends LocalDeviceInfo where
  /-- `acl_mtu`. -/
  aclMtu : UInt16
  /-- `sco_mtu`. -/
  scoMtu : UInt8
  /-- `acl_max_pkt`. -/
  aclMaxPkt : UInt16
  /-- `sco_max_pkt`. -/
  scoMaxPkt : UInt16
  deriving DecidableEq

/-- `FBT_HCI_READ_LOCAL_VERSION_INFORMATION_COMPLETE` without its status. -/
structure LocalVersion where
  /-- `HCIVersion`. -/
  hciVersion : UInt8
  /-- `HCIRevision`. -/
  hciRevision : UInt16
  /-- `LMPVersion`. -/
  lmpVersion : UInt8
  /-- `Manufacturer`. -/
  manufacturer : UInt16
  /-- `LMPSubVersion`. -/
  lmpSubVersion : UInt16
  deriving DecidableEq

/-- `FBT_HCI_READ_BUFFER_SIZE_COMPLETE` without its status. -/
structure BufferSize where
  /-- `acl_mtu`. -/
  aclMtu : UInt16
  /-- `sco_mtu`. -/
  scoMtu : UInt8
  /-- `acl_max_pkt`. -/
  aclMaxPkt : UInt16
  /-- `sco_max_pkt`. -/
  scoMaxPkt : UInt16
  deriving DecidableEq

/-- What the three commands give, if they succeed. -/
structure Answers where
  /-- `SendReadBDADDR`. -/
  bdAddr : Option (Vector UInt8 6)
  /-- `SendReadLocalVersionInformation`. -/
  version : Option LocalVersion
  /-- `SendReadBufferSize`. -/
  bufferSize : Option BufferSize
  deriving DecidableEq

namespace Answers

/-- All three commands succeed. -/
def Complete (answers : Answers) : Prop :=
  answers.bdAddr.isSome ∧ answers.version.isSome ∧ answers.bufferSize.isSome

/-- The information is what the hardware answered. -/
structure Gives (answers : Answers) (info : LocalDeviceInfo) : Prop where
  /-- All three commands succeed. -/
  complete : answers.Complete
  /-- The address. -/
  bdAddr : answers.bdAddr = some info.bdaddr
  /-- The versions. -/
  version : answers.version = some {
    hciVersion := info.hciVer
    hciRevision := info.hciRev
    lmpVersion := info.lmpVer
    manufacturer := info.manufacturer
    lmpSubVersion := info.lmpSubver }

end Answers

/-- An information block that `memset` has cleared. -/
def DeviceInfo.cleared : DeviceInfo where
  bdaddr := Vector.replicate 6 0
  hciVer := 0
  hciRev := 0
  lmpVer := 0
  manufacturer := 0
  lmpSubver := 0
  aclMtu := 0
  scoMtu := 0
  aclMaxPkt := 0
  scoMaxPkt := 0

/-- `CBTHW`: hardware with what it answers. -/
structure BtHw where
  /-- Which call of `OpenDevice` made the object. -/
  opening : Nat
  /-- `IsAttached`. -/
  attached : Bool
  /-- The answers to the three commands. -/
  answers : Answers
  deriving DecidableEq

/-- `CBthEmulHci`. -/
structure BthEmulHci where
  /-- `m_btHw`. -/
  btHw : BtHw
  deriving DecidableEq

namespace BthEmulHci

/-- `CBthEmulHci::GetDeviceInfo`. Only the address decides about success: the
other two commands leave `bRet` as it is. -/
def readDeviceInfo (hci : BthEmulHci) : Option DeviceInfo :=
  let answers := hci.btHw.answers
  let (bRet, devInfo) :=
    match answers.bdAddr with
    | some bdaddr => (true, { DeviceInfo.cleared with bdaddr := bdaddr })
    | none => (false, DeviceInfo.cleared)
  let (bRet, devInfo) :=
    match answers.version with
    | some version => (bRet && true, {
        devInfo with
        hciVer := version.hciVersion
        hciRev := version.hciRevision
        lmpVer := version.lmpVersion
        lmpSubver := version.lmpSubVersion
        manufacturer := version.manufacturer })
    | none => (bRet, devInfo)
  let (bRet, devInfo) :=
    match answers.bufferSize with
    | some size => (bRet && true, {
        devInfo with
        aclMtu := size.aclMtu
        scoMtu := size.scoMtu
        aclMaxPkt := size.aclMaxPkt
        scoMaxPkt := size.scoMaxPkt })
    | none => (bRet, devInfo)
  if bRet then some devInfo else none

/-- `GetDeviceInfo`. -/
def getDeviceInfo (hci : BthEmulHci) : Option DeviceInfo :=
  if hci.btHw.attached then hci.readDeviceInfo else none

/-- Reading succeeds exactly when the address is read. -/
theorem isSome_readDeviceInfo (hci : BthEmulHci) :
    hci.readDeviceInfo.isSome = hci.btHw.answers.bdAddr.isSome := by
  obtain ⟨⟨opening, attached, ⟨bdAddr, version, bufferSize⟩⟩⟩ := hci
  cases bdAddr <;> cases version <;> cases bufferSize <;> rfl

/-- When all three commands succeed, the information is what they gave. -/
theorem gives_of_readDeviceInfo
    {hci : BthEmulHci}
    (complete : hci.btHw.answers.Complete)
    (read : hci.readDeviceInfo = some devInfo) :
    hci.btHw.answers.Gives devInfo.toLocalDeviceInfo := by
  obtain ⟨address, version, size⟩ := complete
  obtain ⟨bdaddr, address⟩ := Option.isSome_iff_exists.mp address
  obtain ⟨versions, version⟩ := Option.isSome_iff_exists.mp version
  obtain ⟨sizes, size⟩ := Option.isSome_iff_exists.mp size
  simp only [readDeviceInfo, address, version, size, Bool.and_self, if_true,
    Option.some.injEq] at read
  subst read
  exact ⟨⟨by rw [address]; rfl, by rw [version]; rfl, by rw [size]; rfl⟩,
    address, version⟩

end BthEmulHci

/-! ## The tables -/

/-- An entry of `g_bthDevInfo`, with the call of `OpenDevice` whose hardware it
was read from. -/
structure Record where
  /-- The information. -/
  devInfo : DeviceInfo
  /-- Which call of `OpenDevice` read it. -/
  opening : Nat
  deriving DecidableEq

/-- The three tables, and the number of calls of `OpenDevice` so far. -/
structure DeviceTable where
  /-- `g_bthHw`. -/
  gBthHw : Slot → Option BtHw
  /-- `g_bthHci`. -/
  gBthHci : Slot → Option BthEmulHci
  /-- `g_bthDevInfo`. -/
  gBthDevInfo : Slot → Option Record
  /-- The calls of `OpenDevice`. -/
  openings : Nat

/-- The outcome of the hardware calls underneath `OpenDevice`. -/
structure OpenOutcome where
  /-- The hardware attaches when it is tried for a slot. -/
  attaches : Slot → Bool
  /-- The answers to the three commands. -/
  answers : Answers
  /-- `StartEventListener`. -/
  startEventListener : UInt32

namespace DeviceTable

/-- `InitDevicesArray`. -/
def initDevicesArray : DeviceTable where
  gBthHw := fun _ => none
  gBthHci := fun _ => none
  gBthDevInfo := fun _ => none
  openings := 0

/-- The slot at which the loop of `OpenDevice` stops: a slot that is in use and
one for which no hardware attaches are passed over. -/
def availableSlot (table : DeviceTable) (outcome : OpenOutcome) : Option Slot :=
  (List.finRange maxDevices).find? fun index =>
    (table.gBthHw index).isNone && outcome.attaches index

/-- Enter what is read from the hardware, if it can be read. -/
def record
    (table : DeviceTable)
    (index : Slot)
    (bthHci : BthEmulHci) : DeviceTable :=
  match bthHci.getDeviceInfo with
  | some devInfo => {
      table with
      gBthDevInfo := Function.update table.gBthDevInfo index
        (some { devInfo, opening := bthHci.btHw.opening }) }
  | none => table

/-- One more call of `OpenDevice`. -/
def counted (table : DeviceTable) : DeviceTable :=
  { table with openings := table.openings + 1 }

/-- The hardware that a call of `OpenDevice` attaches. -/
def hardware (table : DeviceTable) (outcome : OpenOutcome) : BtHw where
  opening := table.openings
  attached := true
  answers := outcome.answers

/-- Put hardware and its object into a slot. -/
def install
    (table : DeviceTable)
    (index : Slot)
    (bthHw : BtHw) : DeviceTable := {
  table with
  gBthHw := Function.update table.gBthHw index (some bthHw)
  gBthHci := Function.update table.gBthHci index (some { btHw := bthHw }) }

/-- `Export_OpenDevice`. The information is entered before the listener is
started. -/
def openDevice
    (table : DeviceTable)
    (outcome : OpenOutcome) : Int × DeviceTable :=
  match table.availableSlot outcome with
  | none => (invalidDeviceId, table.counted)
  | some index =>
      let bthHw := table.hardware outcome
      let recorded := table.counted.record index { btHw := bthHw }
      if outcome.startEventListener = Hci.errorSuccess then
        (index, recorded.install index bthHw)
      else (invalidDeviceId, recorded)

/-- `Export_CloseDevice`. The information stays where it is. -/
def closeDevice
    (table : DeviceTable)
    (devId : Int) : Except UInt32 Unit × DeviceTable :=
  match slot devId with
  | none => (.error errorInvalidParameter, table)
  | some index =>
      match table.gBthHw index, table.gBthHci index with
      | some _, some bthHci =>
          if bthHci.btHw.attached then
            (.ok (), {
              table with
              gBthHw := Function.update table.gBthHw index none
              gBthHci := Function.update table.gBthHci index none })
          else (.error errorDeviceNotAvailable, table)
      | _, _ => (.error errorInvalidParameter, table)

/-- `Export_GetDeviceInfo`. The last argument says whether the caller's buffer
can be written. -/
def getDeviceInfo
    (table : DeviceTable)
    (devId : Int)
    (writable : Bool) : Except UInt32 LocalDeviceInfo :=
  match slot devId with
  | none => .error errorInvalidParameter
  | some index =>
      match table.gBthDevInfo index with
      | some bthDevInfo =>
          if writable then .ok bthDevInfo.devInfo.toLocalDeviceInfo
          else .error errorInvalidParameter
      | none => .error errorNoData

/-- A call into the runtime. -/
inductive Call
  | openDevice (outcome : OpenOutcome)
  | closeDevice (devId : Int)
  | getDeviceInfo (devId : Int) (writable : Bool)

/-- What a call returns. -/
inductive Answer
  | opened (devId : Int)
  | closed (result : Except UInt32 Unit)
  | told (result : Except UInt32 LocalDeviceInfo)

/-- What a call returns and the tables after it. -/
def answer (table : DeviceTable) : Call → Answer × DeviceTable
  | .openDevice outcome =>
      let (devId, next) := table.openDevice outcome
      (.opened devId, next)
  | .closeDevice devId =>
      let (result, next) := table.closeDevice devId
      (.closed result, next)
  | .getDeviceInfo devId writable =>
      (.told (table.getDeviceInfo devId writable), table)

end DeviceTable

/-- The tables under successive calls. -/
def deviceTableMachine :
    Machine DeviceTable DeviceTable.Call DeviceTable.Answer where
  step table call := some (table.answer call)

namespace DeviceTable

/-! ## The property -/

/-- The slot is in use. -/
def IsOpen (table : DeviceTable) (index : Slot) : Prop :=
  (table.gBthHw index).isSome

/-- Two tables agree on everything but the number of calls. -/
def SameTables (first second : DeviceTable) : Prop :=
  first.gBthHw = second.gBthHw ∧ first.gBthHci = second.gBthHci ∧
    first.gBthDevInfo = second.gBthDevInfo

/-- Hardware and the objects that talk to it come in pairs, and information is
given only about an open device, read from the hardware it is open with, all
three commands having succeeded. -/
structure Sound (table : DeviceTable) : Prop where
  /-- Hardware and objects come in pairs. -/
  paired : ∀ index,
    (table.gBthHw index).isSome = (table.gBthHci index).isSome
  /-- What is told is what the open hardware answered. -/
  told : ∀ devId writable info,
    table.getDeviceInfo devId writable = .ok info →
      ∃ index bthHw bthDevInfo,
        slot devId = some index ∧ table.gBthHw index = some bthHw ∧
          table.gBthDevInfo index = some bthDevInfo ∧
          bthDevInfo.opening = bthHw.opening ∧ bthHw.answers.Gives info

/-- A failed opening leaves the tables, a successful one opens a free slot, and
the tables are sound after every call. -/
def CallSound
    (table : DeviceTable)
    (_call : Call)
    (answer : Answer)
    (next : DeviceTable) : Prop :=
  next.Sound ∧
    match answer with
    | .opened devId =>
        if devId = invalidDeviceId then SameTables table next
        else ∃ index, slot devId = some index ∧
          ¬ table.IsOpen index ∧ next.IsOpen index
    | _ => True

/-! ## The condition -/

/-- Hardware that attaches and tells its address answers all three commands and
starts its listener, and no device is closed about which there is
information. -/
def Conforms (table : DeviceTable) : Call → Prop
  | .openDevice outcome =>
      (table.availableSlot outcome).isSome → outcome.answers.bdAddr.isSome →
        outcome.answers.Complete ∧
          outcome.startEventListener = Hci.errorSuccess
  | .closeDevice devId =>
      ∀ index ∈ slot devId, table.IsOpen index →
        table.gBthDevInfo index = none
  | .getDeviceInfo _ _ => True

/-! ## The invariant -/

/-- What an entry of the information table is, beside the open hardware. -/
structure Describes (bthDevInfo : Record) (bthHw : BtHw) : Prop where
  /-- It was read from this hardware. -/
  opening : bthDevInfo.opening = bthHw.opening
  /-- It is what the hardware answered. -/
  gives : bthHw.answers.Gives bthDevInfo.devInfo.toLocalDeviceInfo

/-- Objects talk to the hardware beside them, which is attached. -/
structure Paired (table : DeviceTable) : Prop where
  /-- Each object talks to the hardware beside it. -/
  hci : ∀ index, table.gBthHci index = (table.gBthHw index).map BthEmulHci.mk
  /-- Open hardware is attached. -/
  attached : ∀ index, ∀ bthHw ∈ table.gBthHw index, bthHw.attached = true

/-- The tables are paired, and information is about the open hardware. -/
structure Kept (table : DeviceTable) : Prop extends Paired table where
  /-- Information describes the open hardware. -/
  described : ∀ index, ∀ bthDevInfo ∈ table.gBthDevInfo index,
    ∃ bthHw ∈ table.gBthHw index, Describes bthDevInfo bthHw

theorem kept_initDevicesArray : initDevicesArray.Kept where
  hci _ := rfl
  attached _ _ none_ := nomatch none_
  described _ _ none_ := nomatch none_

@[simp] theorem gBthHw_record
    (table : DeviceTable)
    (index : Slot)
    (bthHci : BthEmulHci) :
    (table.record index bthHci).gBthHw = table.gBthHw := by
  unfold record
  split <;> rfl

@[simp] theorem gBthHci_record
    (table : DeviceTable)
    (index : Slot)
    (bthHci : BthEmulHci) :
    (table.record index bthHci).gBthHci = table.gBthHci := by
  unfold record
  split <;> rfl

@[simp] theorem gBthHw_install
    (table : DeviceTable)
    (index : Slot)
    (bthHw : BtHw) :
    (table.install index bthHw).gBthHw =
      Function.update table.gBthHw index (some bthHw) := rfl

@[simp] theorem gBthHci_install
    (table : DeviceTable)
    (index : Slot)
    (bthHw : BtHw) :
    (table.install index bthHw).gBthHci =
      Function.update table.gBthHci index (some { btHw := bthHw }) := rfl

@[simp] theorem gBthDevInfo_install
    (table : DeviceTable)
    (index : Slot)
    (bthHw : BtHw) :
    (table.install index bthHw).gBthDevInfo = table.gBthDevInfo := rfl

/-- Nothing is entered about hardware that does not tell its address. -/
theorem record_of_none
    (table : DeviceTable)
    (index : Slot)
    (bthHci : BthEmulHci)
    (silent : bthHci.btHw.answers.bdAddr = none) :
    table.record index bthHci = table := by
  have unread : bthHci.readDeviceInfo = none := by
    rw [← Option.not_isSome_iff_eq_none, BthEmulHci.isSome_readDeviceInfo,
      silent]
    simp
  unfold record BthEmulHci.getDeviceInfo
  rw [unread, ite_self]

/-- The entry about attached hardware that tells its address. -/
theorem exists_record
    (table : DeviceTable)
    (index : Slot)
    (bthHci : BthEmulHci)
    (attached : bthHci.btHw.attached = true)
    (tells : bthHci.btHw.answers.bdAddr.isSome) :
    ∃ devInfo,
      bthHci.readDeviceInfo = some devInfo ∧
        (table.record index bthHci).gBthDevInfo =
          Function.update table.gBthDevInfo index
            (some { devInfo, opening := bthHci.btHw.opening }) := by
  obtain ⟨devInfo, read⟩ : ∃ devInfo, bthHci.readDeviceInfo = some devInfo :=
    Option.isSome_iff_exists.mp
      (bthHci.isSome_readDeviceInfo.trans tells)
  refine ⟨devInfo, read, ?_⟩
  unfold record BthEmulHci.getDeviceInfo
  rw [if_pos attached, read]

/-- The slot that is opened was free. -/
theorem gBthHw_of_availableSlot
    {table : DeviceTable}
    (available : table.availableSlot outcome = some index) :
    table.gBthHw index = none := by
  have found := List.find?_some available
  simp only [Bool.and_eq_true, Option.isNone_iff_eq_none] at found
  exact found.1

/-- Information is told about a slot exactly when there is an entry. -/
theorem getDeviceInfo_eq_ok_iff
    {table : DeviceTable} :
    table.getDeviceInfo devId writable = .ok info ↔
      ∃ index bthDevInfo,
        slot devId = some index ∧
          table.gBthDevInfo index = some bthDevInfo ∧ writable = true ∧
          bthDevInfo.devInfo.toLocalDeviceInfo = info := by
  unfold getDeviceInfo
  constructor
  · intro told
    split at told
    · cases told
    · rename_i index found
      split at told
      · rename_i bthDevInfo present
        split at told
        · rename_i writes
          cases told
          exact ⟨index, bthDevInfo, found, present, writes, rfl⟩
        · cases told
      · cases told
  · rintro ⟨index, bthDevInfo, found, present, rfl, rfl⟩
    simp [found, present]

/-- A table that is kept is sound. -/
theorem Kept.sound {table : DeviceTable} (kept : table.Kept) : table.Sound where
  paired index := by rw [kept.hci, Option.isSome_map]
  told devId writable info told := by
    obtain ⟨index, bthDevInfo, found, present, -, rfl⟩ :=
      getDeviceInfo_eq_ok_iff.mp told
    obtain ⟨bthHw, open_, describes⟩ :=
      kept.described index bthDevInfo present
    exact ⟨index, bthHw, bthDevInfo, found, open_, present,
      describes.opening, describes.gives⟩

/-- In a sound table an entry describes the hardware of its slot. -/
theorem Sound.described
    {table : DeviceTable}
    (sound : table.Sound)
    (present : table.gBthDevInfo index = some bthDevInfo) :
    ∃ bthHw ∈ table.gBthHw index, Describes bthDevInfo bthHw := by
  obtain ⟨index', bthHw, bthDevInfo', found, open_, present', opening, gives⟩ :=
    sound.told index true _ (getDeviceInfo_eq_ok_iff.mpr
      ⟨index, bthDevInfo, slot_of_slot index, present, rfl, rfl⟩)
  rw [slot_of_slot] at found
  cases found
  rw [present] at present'
  cases present'
  exact ⟨bthHw, open_, opening, gives⟩

/-- There is no information about a free slot. -/
theorem Kept.gBthDevInfo_of_free
    {table : DeviceTable}
    (kept : table.Kept)
    (free : table.gBthHw index = none) :
    table.gBthDevInfo index = none := by
  apply Option.eq_none_iff_forall_ne_some.mpr
  intro bthDevInfo present
  obtain ⟨bthHw, open_, -⟩ := kept.described index bthDevInfo present
  rw [free] at open_
  exact nomatch open_

/-! ## Opening -/

/-- A slot was available and its listener starts. -/
theorem openDevice_of_started
    {table : DeviceTable}
    (available : table.availableSlot outcome = some index)
    (started : outcome.startEventListener = Hci.errorSuccess) :
    table.openDevice outcome =
      ((index : Int), (table.counted.record index
        { btHw := table.hardware outcome }).install index
          (table.hardware outcome)) := by
  simp [openDevice, available, started]

/-- A slot was available and its listener does not start. -/
theorem openDevice_of_failed
    {table : DeviceTable}
    (available : table.availableSlot outcome = some index)
    (failed : outcome.startEventListener ≠ Hci.errorSuccess) :
    table.openDevice outcome =
      (invalidDeviceId,
        table.counted.record index { btHw := table.hardware outcome }) := by
  simp [openDevice, available, failed]

/-- No slot was available. -/
theorem openDevice_of_none
    {table : DeviceTable}
    (unavailable : table.availableSlot outcome = none) :
    table.openDevice outcome = (invalidDeviceId, table.counted) := by
  simp [openDevice, unavailable]

/-- Counting a call keeps the tables. -/
theorem Kept.counted
    {table : DeviceTable}
    (kept : table.Kept) : table.counted.Kept :=
  { kept with }

/-- Entering information keeps the pairs. -/
theorem Paired.record
    {table : DeviceTable}
    (paired : table.Paired)
    (index : Slot)
    (bthHci : BthEmulHci) : (table.record index bthHci).Paired where
  hci other := by
    rw [gBthHci_record, gBthHw_record]
    exact paired.hci other
  attached other bthHw member := by
    rw [gBthHw_record] at member
    exact paired.attached other bthHw member

/-- Attached hardware is put into a slot together with its object. -/
theorem Paired.install
    {table : DeviceTable}
    {bthHw : BtHw}
    (paired : table.Paired)
    (index : Slot)
    (attached : bthHw.attached = true) :
    (table.install index bthHw).Paired where
  hci other := by
    by_cases same : other = index
    · subst same
      simp
    · simp only [gBthHci_install, gBthHw_install, Function.update_of_ne same,
        paired.hci]
  attached other present member := by
    by_cases same : other = index
    · subst same
      rw [gBthHw_install, Function.update_self, Option.mem_some_iff] at member
      rw [← member]
      exact attached
    · rw [gBthHw_install, Function.update_of_ne same] at member
      exact paired.attached other present member

/-- Opening keeps the pairs, whatever its outcome. -/
theorem Paired.openDevice
    {table : DeviceTable}
    (paired : table.Paired)
    (outcome : OpenOutcome) : (table.openDevice outcome).2.Paired := by
  have counted : table.counted.Paired := { paired with }
  cases available : table.availableSlot outcome with
  | none =>
      rw [openDevice_of_none available]
      exact counted
  | some index =>
      have recorded := counted.record index ⟨table.hardware outcome⟩
      by_cases started : outcome.startEventListener = Hci.errorSuccess
      · rw [openDevice_of_started available started]
        exact recorded.install index rfl
      · rw [openDevice_of_failed available started]
        exact recorded

/-- Hardware is put into a slot whose entry, if there is one, describes it. -/
theorem Kept.described_install
    {table recorded : DeviceTable}
    {bthHw : BtHw}
    (kept : table.Kept)
    (hw : recorded.gBthHw = table.gBthHw)
    (others : ∀ other, other ≠ index →
      recorded.gBthDevInfo other = table.gBthDevInfo other)
    (described : ∀ bthDevInfo ∈ recorded.gBthDevInfo index,
      Describes bthDevInfo bthHw) :
    ∀ other, ∀ bthDevInfo ∈ (recorded.install index bthHw).gBthDevInfo other,
      ∃ present ∈ (recorded.install index bthHw).gBthHw other,
        Describes bthDevInfo present := by
  intro other bthDevInfo member
  by_cases same : other = index
  · subst same
    exact ⟨bthHw, Function.update_self .., described bthDevInfo member⟩
  · rw [gBthDevInfo_install, others other same] at member
    obtain ⟨open_, present, describes⟩ :=
      kept.described other bthDevInfo member
    refine ⟨open_, ?_, describes⟩
    rw [gBthHw_install, Function.update_of_ne same, hw]
    exact present

/-- A call of `OpenDevice` that conforms keeps the tables. -/
theorem Kept.openDevice
    {table : DeviceTable}
    (kept : table.Kept)
    (conforms : table.Conforms (.openDevice outcome)) :
    (table.openDevice outcome).2.Kept := by
  refine { kept.toPaired.openDevice outcome with described := ?_ }
  cases available : table.availableSlot outcome with
  | none =>
      rw [openDevice_of_none available]
      exact kept.described
  | some index =>
      have free := gBthHw_of_availableSlot available
      by_cases tells : outcome.answers.bdAddr.isSome
      · obtain ⟨complete, started⟩ :=
          conforms (Option.isSome_of_eq_some available) tells
        rw [openDevice_of_started available started]
        obtain ⟨devInfo, read, entered⟩ :=
          exists_record table.counted index ⟨table.hardware outcome⟩ rfl tells
        apply kept.counted.described_install (gBthHw_record ..)
        · intro other differs
          rw [entered, Function.update_of_ne differs]
        · intro bthDevInfo member
          rw [entered, Function.update_self] at member
          cases member
          exact ⟨rfl, BthEmulHci.gives_of_readDeviceInfo complete read⟩
      · have silent :=
          record_of_none table.counted index ⟨table.hardware outcome⟩
            (Option.not_isSome_iff_eq_none.mp tells)
        by_cases started : outcome.startEventListener = Hci.errorSuccess
        · rw [openDevice_of_started available started, silent]
          apply kept.counted.described_install rfl (fun _ _ => rfl)
          intro bthDevInfo member
          rw [kept.counted.gBthDevInfo_of_free free] at member
          exact nomatch member
        · rw [openDevice_of_failed available started, silent]
          exact kept.described

/-- Opening is sound exactly when it conforms. -/
theorem Kept.callSound_openDevice_iff
    {table : DeviceTable}
    (kept : table.Kept) :
    table.CallSound (.openDevice outcome)
        (.opened (table.openDevice outcome).1) (table.openDevice outcome).2 ↔
      table.Conforms (.openDevice outcome) := by
  constructor
  · rintro ⟨sound, proper⟩ attaches tells
    obtain ⟨index, available⟩ := Option.isSome_iff_exists.mp attaches
    obtain ⟨devInfo, read, entered⟩ :=
      exists_record table.counted index ⟨table.hardware outcome⟩ rfl tells
    have started : outcome.startEventListener = Hci.errorSuccess := by
      by_contra failed
      rw [openDevice_of_failed available failed] at proper
      have same := congrFun proper.2.2 index
      rw [entered, Function.update_self, kept.gBthDevInfo_of_free
        (gBthHw_of_availableSlot available)] at same
      cases same
    rw [openDevice_of_started available started] at sound
    have present := congrFun entered index
    rw [Function.update_self] at present
    obtain ⟨bthHw, open_, describes⟩ := sound.described present
    rw [gBthHw_install, Function.update_self, Option.mem_some_iff] at open_
    rw [← open_] at describes
    exact ⟨describes.gives.complete, started⟩
  · intro conforms
    refine ⟨(kept.openDevice conforms).sound, ?_⟩
    cases available : table.availableSlot outcome with
    | none =>
        rw [openDevice_of_none available]
        exact ⟨rfl, rfl, rfl⟩
    | some index =>
        by_cases started : outcome.startEventListener = Hci.errorSuccess
        · rw [openDevice_of_started available started]
          simp only [slot_ne_invalidDeviceId, if_false]
          refine ⟨index, slot_of_slot index, ?_, ?_⟩
          · rw [IsOpen, gBthHw_of_availableSlot available]
            exact Bool.false_ne_true
          · simp [IsOpen]
        · have silent : outcome.answers.bdAddr = none := by
            by_contra tells
            exact started (conforms (Option.isSome_of_eq_some available)
              (Option.isSome_iff_ne_none.mpr tells)).2
          rw [openDevice_of_failed available started,
            record_of_none table.counted index ⟨table.hardware outcome⟩ silent]
          exact ⟨rfl, rfl, rfl⟩

/-! ## Closing -/

/-- A device that is not open is not closed. -/
theorem closeDevice_of_not_open
    {table : DeviceTable}
    (closed : ∀ index ∈ slot devId, ¬ table.IsOpen index) :
    (table.closeDevice devId).2 = table := by
  unfold closeDevice
  cases found : slot devId with
  | none => rfl
  | some index =>
      have free : table.gBthHw index = none :=
        Option.not_isSome_iff_eq_none.mp (closed index found)
      simp only [free]

/-- An open device is closed. -/
theorem Paired.closeDevice_of_open
    {table : DeviceTable}
    (paired : table.Paired)
    (found : slot devId = some index)
    (isOpen : table.IsOpen index) :
    table.closeDevice devId = (.ok (), {
      table with
      gBthHw := Function.update table.gBthHw index none
      gBthHci := Function.update table.gBthHci index none }) := by
  obtain ⟨bthHw, open_⟩ := Option.isSome_iff_exists.mp isOpen
  have hci := paired.hci index
  rw [open_, Option.map_some] at hci
  have attached := paired.attached index bthHw open_
  simp only [DeviceTable.closeDevice, found, open_, hci, if_pos attached]

/-- Closing empties an open slot or changes nothing. -/
theorem Paired.closeDevice_cases
    {table : DeviceTable}
    (paired : table.Paired)
    (devId : Int) :
    (∃ index,
      slot devId = some index ∧ table.IsOpen index ∧
        table.closeDevice devId = (.ok (), {
          table with
          gBthHw := Function.update table.gBthHw index none
          gBthHci := Function.update table.gBthHci index none })) ∨
      (table.closeDevice devId).2 = table := by
  by_cases opened : ∃ index, slot devId = some index ∧ table.IsOpen index
  · obtain ⟨index, found, isOpen⟩ := opened
    exact .inl ⟨index, found, isOpen, paired.closeDevice_of_open found isOpen⟩
  · right
    apply closeDevice_of_not_open
    intro index found isOpen
    exact opened ⟨index, found, isOpen⟩

/-- Closing keeps the pairs. -/
theorem Paired.closeDevice
    {table : DeviceTable}
    (paired : table.Paired)
    (devId : Int) : (table.closeDevice devId).2.Paired := by
  rcases paired.closeDevice_cases devId with ⟨index, -, -, closed⟩ | unchanged
  · rw [closed]
    constructor
    · intro other
      by_cases same : other = index
      · subst same
        simp
      · simp only [Function.update_of_ne same, paired.hci]
    · intro other bthHw member
      by_cases same : other = index
      · subst same
        simp at member
      · simp only [Function.update_of_ne same] at member
        exact paired.attached other bthHw member
  · rw [unchanged]
    exact paired

/-- A call of `CloseDevice` that conforms keeps the tables. -/
theorem Kept.closeDevice
    {table : DeviceTable}
    (kept : table.Kept)
    (conforms : table.Conforms (.closeDevice devId)) :
    (table.closeDevice devId).2.Kept := by
  refine { kept.toPaired.closeDevice devId with described := ?_ }
  rcases kept.closeDevice_cases devId with
    ⟨index, found, isOpen, closed⟩ | unchanged
  · rw [closed]
    intro other bthDevInfo member
    have differs : other ≠ index := by
      rintro rfl
      have none_ := conforms other found isOpen
      change bthDevInfo ∈ table.gBthDevInfo other at member
      rw [none_] at member
      exact nomatch member
    simp only [Function.update_of_ne differs]
    exact kept.described other bthDevInfo member
  · rw [unchanged]
    exact kept.described

/-- Closing is sound exactly when it conforms. -/
theorem Kept.callSound_closeDevice_iff
    {table : DeviceTable}
    (kept : table.Kept) :
    table.CallSound (.closeDevice devId)
        (.closed (table.closeDevice devId).1) (table.closeDevice devId).2 ↔
      table.Conforms (.closeDevice devId) := by
  constructor
  · rintro ⟨sound, -⟩ index found isOpen
    rw [kept.closeDevice_of_open found isOpen] at sound
    apply Option.eq_none_iff_forall_ne_some.mpr
    intro bthDevInfo present
    obtain ⟨bthHw, open_, -⟩ := sound.described present
    simp at open_
  · intro conforms
    exact ⟨(kept.closeDevice conforms).sound, trivial⟩

/-! ## Every run -/

/-- The tables are paired after every call, conforming or not. -/
theorem Paired.answer
    {table : DeviceTable}
    (paired : table.Paired)
    (call : Call) : (table.answer call).2.Paired := by
  cases call with
  | openDevice outcome => exact paired.openDevice outcome
  | closeDevice devId => exact paired.closeDevice devId
  | getDeviceInfo devId writable => exact paired

/-- In every run whatsoever hardware and objects come in pairs. -/
theorem paired_of_run
    (ran : deviceTableMachine.run initDevicesArray calls =
      some (answers, final)) :
    final.Paired := by
  apply Machine.holds_of_run (fun _ table => table.Paired) ?_ []
    kept_initDevicesArray.toPaired
    (Machine.admits_of_forall (fun _ _ => trivial) _ calls) ran
  intro _ table call answer next paired _ stepped
  have later := paired.answer call
  rwa [Option.some.inj stepped] at later

/-- A call that conforms keeps the tables. -/
theorem Kept.answer
    {table : DeviceTable}
    (kept : table.Kept)
    (conforms : table.Conforms call) :
    (table.answer call).2.Kept := by
  cases call with
  | openDevice outcome => exact kept.openDevice conforms
  | closeDevice devId => exact kept.closeDevice conforms
  | getDeviceInfo devId writable => exact kept

/-- A call is sound exactly when it conforms. -/
theorem Kept.callSound_iff
    {table : DeviceTable}
    (kept : table.Kept)
    (call : Call) :
    table.CallSound call (table.answer call).1 (table.answer call).2 ↔
      table.Conforms call := by
  cases call with
  | openDevice outcome => exact kept.callSound_openDevice_iff
  | closeDevice devId => exact kept.callSound_closeDevice_iff
  | getDeviceInfo devId writable =>
      exact ⟨fun _ => trivial, fun _ => ⟨kept.sound, trivial⟩⟩

/-- Every call of a run is sound exactly when every call conforms. -/
theorem callSound_iff_conforms (calls : List Call) :
    deviceTableMachine.Always CallSound initDevicesArray calls ↔
      deviceTableMachine.Admits Conforms initDevicesArray calls := by
  apply Machine.always_iff_admits_of_total (fun _ _ => rfl) Kept ?_ ?_
    kept_initDevicesArray
  · intro table call kept
    exact kept.callSound_iff call
  · intro table call kept conforms
    exact kept.answer conforms

/-- Hardware that answers all three commands and whose listener starts. -/
def willing : OpenOutcome where
  attaches := fun _ => true
  answers := {
    bdAddr := some (Vector.replicate 6 1)
    version := some {
      hciVersion := 1
      hciRevision := 1
      lmpVersion := 1
      manufacturer := 1
      lmpSubVersion := 1 }
    bufferSize := some {
      aclMtu := 1
      scoMtu := 1
      aclMaxPkt := 1
      scoMaxPkt := 1 } }
  startEventListener := Hci.errorSuccess

/-- After a device is opened and closed there is still information about it. -/
theorem not_callSound_open_close :
    ¬ deviceTableMachine.Always CallSound initDevicesArray
      [.openDevice willing, .closeDevice 0] := by
  intro always
  obtain ⟨-, later⟩ := always _ _ rfl
  obtain ⟨⟨sound, -⟩, -⟩ := later _ _ rfl
  obtain ⟨index, bthHw, bthDevInfo, found, open_, -⟩ := sound.told 0 true _ rfl
  cases found
  exact nomatch open_

end DeviceTable
end Runtime
end BthEmul
