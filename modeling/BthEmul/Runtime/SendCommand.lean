import BthEmul.Common.Packet
import BthEmul.Runtime.DeviceTable
import BthEmul.Runtime.Receiver

/-!
# Sending what the device writes

A buffer from the device begins with the type of its packet. A command goes to
the driver as a device control, data as a write; either may be pending first.
The result is an error code, and success is reported as `TRUE`. A type that the
runtime does not know leaves the code at success, and the number of bytes of a
write is not looked at.
-/

namespace BthEmul

open Foundation Hci

namespace Runtime

/-- `ERROR_INVALID_HANDLE`. -/
def errorInvalidHandle : UInt32 := 6

/-- `ERROR_CALL_NOT_IMPLEMENTED`. -/
def errorCallNotImplemented : UInt32 := 120

/-- `ERROR_INSUFFICIENT_BUFFER`. -/
def errorInsufficientBuffer : UInt32 := 122

/-- `ERROR_IO_PENDING`. -/
def errorIoPending : UInt32 := 997

/-- `IOCTL_FREEBT_HCI_SEND_CMD`. -/
def ioctlFreebtHciSendCmd : UInt32 := 0x220004

/-- `FBT_HCI_SYNC_HCI_COMMAND_PACKET`. -/
def syncHciCommandPacket : UInt8 := 1

/-- `FBT_HCI_SYNC_SCO_DATA_PACKET`. -/
def syncScoDataPacket : UInt8 := 3

/-! ## The driver -/

/-- A request to the driver. -/
inductive DriverRequest
  | deviceIoControl (dwCommand : UInt32) (bytes : List UInt8)
  | writeFile (bytes : List UInt8)
  deriving DecidableEq

/-- What a call for a request reports. -/
structure IoReport where
  /-- Whether the call succeeds. -/
  succeeds : Bool
  /-- The number of bytes transferred. -/
  transferred : Nat
  /-- `GetLastError`. -/
  lastError : UInt32
  /-- A call that fails leaves an error code. -/
  lastError_ne : succeeds = false → lastError ≠ errorSuccess

/-- How the driver answers. -/
structure Driver where
  /-- The call that makes a request. -/
  submit : DriverRequest → IoReport
  /-- `GetOverlappedResult` for a pending request. -/
  getOverlappedResult : DriverRequest → IoReport

namespace Driver

/-- The call that says how a request ends: the one that makes it, unless the
request is pending. -/
def ending (driver : Driver) (request : DriverRequest) : IoReport :=
  let report := driver.submit request
  if ¬ report.succeeds ∧ report.lastError = errorIoPending then
    driver.getOverlappedResult request
  else report

/-- The number of bytes of a request that ends successfully. -/
def completes (driver : Driver) (request : DriverRequest) : Option Nat :=
  if (driver.ending request).succeeds then
    some (driver.ending request).transferred
  else none

/-- The driver takes a request as a whole. -/
def Accepts (driver : Driver) : DriverRequest → Prop
  | .deviceIoControl dwCommand bytes =>
      (driver.completes (.deviceIoControl dwCommand bytes)).isSome
  | .writeFile bytes =>
      driver.completes (.writeFile bytes) = some bytes.length

end Driver

/-! ## The runtime -/

/-- What a function that hands requests to the driver returns. -/
structure SendResult where
  /-- The error code. -/
  dwResult : UInt32
  /-- The requests that were made. -/
  submitted : List DriverRequest
  deriving DecidableEq

/-- A function that makes no request. -/
def SendResult.refused (dwResult : UInt32) : SendResult where
  dwResult := dwResult
  submitted := []

namespace BtHw

/-- What `CBTHW::SendCommand` and `CBTHW::SendData` have in common: make a
request, and wait for it where it is pending. -/
def send
    (bthHw : BtHw)
    (driver : Driver)
    (request : DriverRequest) : SendResult :=
  if ¬ bthHw.attached then .refused errorInvalidHandle
  else
    let report := driver.submit request
    if report.succeeds then
      { dwResult := errorSuccess, submitted := [request] }
    else if report.lastError ≠ errorIoPending then
      { dwResult := report.lastError, submitted := [request] }
    else
      let result := driver.getOverlappedResult request
      if result.succeeds then
        { dwResult := errorSuccess, submitted := [request] }
      else { dwResult := result.lastError, submitted := [request] }

/-- `CBTHW::SendCommand`. -/
def sendCommand
    (bthHw : BtHw)
    (driver : Driver)
    (dwCommand : UInt32)
    (inBuffer : List UInt8) : SendResult :=
  bthHw.send driver (.deviceIoControl dwCommand inBuffer)

/-- `CBTHW::SendData`. -/
def sendData
    (bthHw : BtHw)
    (driver : Driver)
    (buffer : List UInt8) : SendResult :=
  bthHw.send driver (.writeFile buffer)

/-- Without an attached driver there is no request. -/
theorem send_of_detached
    {bthHw : BtHw}
    (driver : Driver)
    (request : DriverRequest)
    (detached : bthHw.attached = false) :
    bthHw.send driver request = .refused errorInvalidHandle := by
  rw [send, detached, if_pos Bool.false_ne_true]

/-- A request that is made succeeds exactly when it ends successfully, whatever
number of bytes it transfers. -/
theorem send_of_attached
    {bthHw : BtHw}
    (driver : Driver)
    (request : DriverRequest)
    (attached : bthHw.attached = true) :
    (bthHw.send driver request).submitted = [request] ∧
      ((bthHw.send driver request).dwResult = errorSuccess ↔
        (driver.completes request).isSome) := by
  unfold send Driver.completes Driver.ending
  rw [if_neg (not_not_intro attached)]
  have failure := (driver.submit request).lastError_ne
  have pendingFailure := (driver.getOverlappedResult request).lastError_ne
  cases submitted : (driver.submit request).succeeds with
  | true => simp [submitted]
  | false =>
      by_cases pending : (driver.submit request).lastError = errorIoPending
      · cases ended : (driver.getOverlappedResult request).succeeds with
        | true => simp [submitted, pending, ended]
        | false => simp [submitted, pending, ended, pendingFailure ended]
      · simp [submitted, pending, failure submitted]

end BtHw

/-- `CBthEmulHci::SendHCICommand`; a missing buffer is a null pointer. -/
def BthEmulHci.sendHCICommand
    (hci : BthEmulHci)
    (driver : Driver)
    (lpBuffer : Option CArray) : SendResult :=
  match lpBuffer.map CArray.bytes with
  | some (hciType :: rest) =>
      if hciType = syncHciCommandPacket then
        hci.btHw.sendCommand driver ioctlFreebtHciSendCmd rest
      else if hciType = syncAclDataPacket then hci.btHw.sendData driver rest
      else if hciType = syncScoDataPacket then
        .refused errorCallNotImplemented
      else if hciType = syncHciEventPacket then
        .refused errorInvalidParameter
      -- The switch has no other case, so the code is still that of success.
      else .refused errorSuccess
  | _ => .refused errorInsufficientBuffer

/-- What a function of the runtime returns to its caller. -/
structure ApiAnswer where
  /-- Whether it returns `TRUE`. -/
  bRet : Bool
  /-- `GetLastError`. -/
  lastError : UInt32
  /-- The requests made to the driver. -/
  submitted : List DriverRequest
  deriving DecidableEq

/-- The error code is set as the last error, and `TRUE` is returned where it is
that of success. -/
def ApiAnswer.of (result : SendResult) : ApiAnswer where
  bRet := result.dwResult = errorSuccess
  lastError := result.dwResult
  submitted := result.submitted

/-- `SendHCICommand`. -/
def sendHCICommand
    (hci : BthEmulHci)
    (driver : Driver)
    (pCmdBuffer : Option CArray) : ApiAnswer :=
  .of (hci.sendHCICommand driver pCmdBuffer)

/-- `Export_SendHCICommand`. -/
def DeviceTable.exportSendHCICommand
    (table : DeviceTable)
    (driver : Driver)
    (devId : Int)
    (pCmdBuffer : Option CArray) : ApiAnswer :=
  match slot devId with
  | none =>
      { bRet := false, lastError := errorInvalidParameter, submitted := [] }
  | some index =>
      match table.gBthHw index, table.gBthHci index with
      | some _, some bthHci => Runtime.sendHCICommand bthHci driver pCmdBuffer
      | _, _ =>
          { bRet := false, lastError := errorInvalidParameter, submitted := [] }

/-! ## The property -/

/-- The request that a packet is forwarded as. -/
def forwardedAs (hciType : UInt8) (rest : List UInt8) : Option DriverRequest :=
  if hciType = syncHciCommandPacket then
    some (.deviceIoControl ioctlFreebtHciSendCmd rest)
  else if hciType = syncAclDataPacket then some (.writeFile rest)
  else none

/-- Success is reported only of a packet that was handed to the driver as one
request and taken as a whole, and a failure has an error code. -/
structure MeansSent
    (driver : Driver)
    (pCmdBuffer : Option CArray)
    (answer : ApiAnswer) : Prop where
  /-- Success means sent. -/
  sent : answer.bRet = true →
    ∃ hciType rest request,
      pCmdBuffer.map CArray.bytes = some (hciType :: rest) ∧
        forwardedAs hciType rest = some request ∧
        answer.submitted = [request] ∧
        driver.Accepts request
  /-- A failure has an error code. -/
  failed : answer.bRet = false → answer.lastError ≠ errorSuccess

/-- The byte names a type of packets. -/
def NamesType (hciType : UInt8) : Prop :=
  hciType = syncHciCommandPacket ∨ hciType = syncAclDataPacket ∨
    hciType = syncScoDataPacket ∨ hciType = syncHciEventPacket

/-- The packet has one of the four types, and the driver does not report a
shortened write of data as successful. -/
structure Sendable
    (bthHw : BtHw)
    (driver : Driver)
    (pCmdBuffer : Option CArray) : Prop where
  /-- The first byte names a type of packets. -/
  named : ∀ hciType rest,
    pCmdBuffer.map CArray.bytes = some (hciType :: rest) → NamesType hciType
  /-- A write of data that ends successfully was not shortened. -/
  whole : ∀ rest,
    pCmdBuffer.map CArray.bytes = some (syncAclDataPacket :: rest) →
      bthHw.attached = true →
        ∀ count, driver.completes (.writeFile rest) = some count →
          count = rest.length

/-- What is asked of a buffer that is not empty. -/
theorem sendable_iff_of_bytes
    {bthHw : BtHw}
    {driver : Driver}
    {pCmdBuffer : Option CArray}
    {hciType : UInt8}
    {rest : List UInt8}
    (bytes : pCmdBuffer.map CArray.bytes = some (hciType :: rest)) :
    Sendable bthHw driver pCmdBuffer ↔
      NamesType hciType ∧
        (hciType = syncAclDataPacket → bthHw.attached = true →
          ∀ count, driver.completes (.writeFile rest) = some count →
            count = rest.length) := by
  constructor
  · intro sendable
    refine ⟨sendable.named hciType rest bytes, ?_⟩
    rintro rfl
    exact sendable.whole rest bytes
  · rintro ⟨named, whole⟩
    refine ⟨?_, ?_⟩
    · intro hciType' rest' bytes'
      rw [bytes] at bytes'
      cases bytes'
      exact named
    · intro rest' bytes'
      rw [bytes] at bytes'
      cases bytes'
      exact whole rfl

/-! ## One buffer -/

/-- A buffer that is refused with an error code is not reported as sent. -/
theorem meansSent_refused
    (driver : Driver)
    (pCmdBuffer : Option CArray)
    {dwResult : UInt32}
    (refused : dwResult ≠ errorSuccess) :
    MeansSent driver pCmdBuffer (.of (.refused dwResult)) := by
  refine ⟨?_, fun _ => refused⟩
  intro succeeded
  exact absurd (of_decide_eq_true succeeded) refused

/-- A packet of a forwarded type is reported as sent only if it is, exactly
where the driver takes what it reports as successful as a whole. -/
theorem meansSent_send_iff
    {bthHw : BtHw}
    {driver : Driver}
    {pCmdBuffer : Option CArray}
    {hciType : UInt8}
    {rest : List UInt8}
    (bytes : pCmdBuffer.map CArray.bytes = some (hciType :: rest))
    (forwarded : forwardedAs hciType rest = some request) :
    MeansSent driver pCmdBuffer (.of (bthHw.send driver request)) ↔
      (bthHw.attached = true → (driver.completes request).isSome →
        driver.Accepts request) := by
  cases attached : bthHw.attached with
  | false =>
      rw [BtHw.send_of_detached driver request attached]
      refine iff_of_true ?_ nofun
      exact meansSent_refused driver pCmdBuffer (by decide)
  | true =>
      obtain ⟨submitted, succeeds⟩ :=
        BtHw.send_of_attached driver request attached
      constructor
      · intro means _ completed
        obtain ⟨hciType', rest', request', bytes', forwarded', -, accepts⟩ :=
          means.sent (decide_eq_true (succeeds.mpr completed))
        rw [bytes] at bytes'
        cases bytes'
        rw [forwarded] at forwarded'
        cases forwarded'
        exact accepts
      · intro accepts
        refine ⟨?_, ?_⟩
        · intro succeeded
          have completed := succeeds.mp (of_decide_eq_true succeeded)
          exact ⟨hciType, rest, request, bytes, forwarded, submitted,
            accepts rfl completed⟩
        · intro failed
          exact of_decide_eq_false failed

/-- A write that succeeds was taken as a whole exactly where it was not
shortened. -/
theorem accepts_writeFile_iff (driver : Driver) (bytes : List UInt8) :
    ((driver.completes (.writeFile bytes)).isSome →
        driver.Accepts (.writeFile bytes)) ↔
      ∀ count, driver.completes (.writeFile bytes) = some count →
        count = bytes.length := by
  unfold Driver.Accepts
  cases completed : driver.completes (.writeFile bytes) with
  | none => simp
  | some count => simp [completed]

/-- Success means sent exactly where the buffer names a type of packets and a
write of data is not shortened. -/
theorem meansSent_sendHCICommand_iff
    (hci : BthEmulHci)
    (driver : Driver)
    (pCmdBuffer : Option CArray) :
    MeansSent driver pCmdBuffer (sendHCICommand hci driver pCmdBuffer) ↔
      Sendable hci.btHw driver pCmdBuffer := by
  change MeansSent driver pCmdBuffer
    (.of (hci.sendHCICommand driver pCmdBuffer)) ↔ _
  unfold BthEmulHci.sendHCICommand
  split
  · rename_i hciType rest bytes
    rw [sendable_iff_of_bytes bytes]
    by_cases command : hciType = syncHciCommandPacket
    · rw [if_pos command]
      subst command
      refine iff_of_true ?_ ⟨.inl rfl, nofun⟩
      exact (meansSent_send_iff bytes rfl).mpr fun _ => id
    rw [if_neg command]
    by_cases data : hciType = syncAclDataPacket
    · rw [if_pos data]
      subst data
      refine (meansSent_send_iff bytes rfl).trans ?_
      rw [accepts_writeFile_iff]
      exact ⟨fun whole => ⟨.inr (.inl rfl), fun _ => whole⟩,
        fun sendable => sendable.2 rfl⟩
    rw [if_neg data]
    by_cases sco : hciType = syncScoDataPacket
    · rw [if_pos sco]
      exact iff_of_true (meansSent_refused driver pCmdBuffer (by decide))
        ⟨.inr (.inr (.inl sco)), fun isData => absurd isData data⟩
    rw [if_neg sco]
    by_cases event : hciType = syncHciEventPacket
    · rw [if_pos event]
      exact iff_of_true (meansSent_refused driver pCmdBuffer (by decide))
        ⟨.inr (.inr (.inr event)), fun isData => absurd isData data⟩
    rw [if_neg event]
    refine iff_of_false ?_ ?_
    · intro means
      obtain ⟨hciType', rest', request, bytes', forwarded, -, -⟩ :=
        means.sent rfl
      rw [bytes] at bytes'
      cases bytes'
      rw [forwardedAs, if_neg command, if_neg data] at forwarded
      contradiction
    · rintro ⟨named | named | named | named, -⟩
      · exact command named
      · exact data named
      · exact sco named
      · exact event named
  · rename_i noType
    refine iff_of_true ?_ ⟨?_, ?_⟩
    · exact meansSent_refused driver pCmdBuffer (by decide)
    · intro hciType rest bytes
      exact absurd bytes (noType hciType rest)
    · intro rest bytes
      exact absurd bytes (noType _ rest)

/-! ## Open devices -/

/-- On an open device success means sent, and a failure has an error code,
exactly where the buffer is empty or names a type of packets and the driver
does not report a shortened write of data as successful. -/
theorem meansSent_exportSendHCICommand_iff
    {table : DeviceTable}
    (driver : Driver)
    (pCmdBuffer : Option CArray)
    (device : slot devId = some index)
    (hardware : table.gBthHw index = some bthHw)
    (opened : table.gBthHci index = some bthHci) :
    MeansSent driver pCmdBuffer
        (table.exportSendHCICommand driver devId pCmdBuffer) ↔
      Sendable bthHci.btHw driver pCmdBuffer := by
  have called : table.exportSendHCICommand driver devId pCmdBuffer =
      sendHCICommand bthHci driver pCmdBuffer := by
    simp only [DeviceTable.exportSendHCICommand, device, hardware, opened]
  rw [called]
  exact meansSent_sendHCICommand_iff bthHci driver pCmdBuffer

/-- A driver that takes every request as a whole. -/
def willingDriver : Driver where
  submit
    | .deviceIoControl _ _ => ⟨true, 0, 0, nofun⟩
    | .writeFile bytes => ⟨true, bytes.length, 0, nofun⟩
  getOverlappedResult _ := ⟨true, 0, 0, nofun⟩

/-- Attached hardware that has told nothing. -/
def someHardware : BtHw where
  opening := 0
  attached := true
  answers := { bdAddr := none, version := none, bufferSize := none }

/-- The first slot. -/
def firstSlot : Slot := ⟨0, by decide⟩

/-- The tables with that hardware in the first slot. -/
def oneDevice : DeviceTable :=
  DeviceTable.initDevicesArray.install firstSlot someHardware

/-- The command `HCI_Reset`, behind its type byte. -/
def resetPacket : CArray where
  bytes := [1, 0x03, 0x0c, 0]
  length_lt := by decide

theorem meansSent_resetPacket :
    MeansSent willingDriver (some resetPacket)
      (oneDevice.exportSendHCICommand willingDriver 0 (some resetPacket)) := by
  refine (meansSent_exportSendHCICommand_iff willingDriver (some resetPacket)
    (rfl : slot 0 = some firstSlot) rfl rfl).mpr ?_
  exact (sendable_iff_of_bytes rfl).mpr ⟨.inl rfl, by decide⟩

/-- A single byte that names no type of packets. -/
def unknownPacket : CArray where
  bytes := [0]
  length_lt := by decide

/-- A buffer of unknown type is reported as sent without a request. -/
theorem not_meansSent_unknownPacket :
    oneDevice.exportSendHCICommand willingDriver 0 (some unknownPacket) =
        { bRet := true, lastError := 0, submitted := [] } ∧
      ¬ MeansSent willingDriver (some unknownPacket)
        (oneDevice.exportSendHCICommand willingDriver 0
          (some unknownPacket)) := by
  have answered :
      oneDevice.exportSendHCICommand willingDriver 0 (some unknownPacket) =
        { bRet := true, lastError := 0, submitted := [] } := by
    decide +kernel
  refine ⟨answered, ?_⟩
  rw [answered]
  intro means
  obtain ⟨hciType, rest, request, -, -, submitted, -⟩ := means.sent rfl
  contradiction

end Runtime
end BthEmul
