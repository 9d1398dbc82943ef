import BthEmul.Hci.CommandStructures

/-!
# What the controller is sent

The controller expects a command as its opcode, the number of the bytes that
follow, and the arguments with the widths the command gives them. Every
function that fills in a structure of its own command sends exactly this,
whatever was on the stack; one function takes opcode and length from another
structure, and one does not report that its command was not sent.
-/

namespace BthEmul

open Foundation

namespace Hci
namespace SendCall

/-! ## The commands -/

/-- The opcode of the command a function is named after. -/
def opCode : SendCall → UInt16
  | sendReset => cmdReset
  | sendInquiry .. => cmdInquiry
  | sendInquiryCancel => cmdInquiryCancel
  | sendReadBDADDR => cmdReadBDADDR
  | sendReadBufferSize => cmdReadBufferSize
  | sendWriteScanEnable .. => cmdWriteScanEnable
  | sendWriteAuthenticationEnable .. => cmdWriteAuthenticationEnable
  | sendSetEventFilter .. => cmdSetEventFilter
  | sendReadClassOfDevice => cmdReadClassOfDevice
  | sendWriteClassOfDevice .. => cmdWriteClassOfDevice
  | sendCreateConnection .. => cmdCreateConnection
  | sendAcceptConnectionRequest .. => cmdAcceptConnectionRequest
  | sendDisconnect .. => cmdDisconnect
  | sendWriteLinkSupervisionTimeout .. => cmdWriteLinkSupervisionTimeout
  | sendWritePageTimeout .. => cmdWritePageTimeout
  | sendRemoteNameRequest .. => cmdRemoteNameRequest
  | sendReadLocalName => cmdReadLocalName
  | sendChangeLocalName .. => cmdChangeLocalName
  | sendSwitchRole .. => cmdSwitchRole
  | sendPINCodeRequestReply .. => cmdPINCodeRequestReply
  | sendPINCodeRequestNegativeReply .. => cmdPINCodeRequestNegativeReply
  | sendLinkKeyRequestReply .. => cmdLinkKeyRequestReply
  | sendLinkKeyRequestNegativeReply .. => cmdLinkKeyRequestNegativeReply
  | sendReadLocalVersionInformation => cmdReadLocalVersionInformation

/-- The structure of the command a function is named after; the condition of
an event filter has as many bytes as the caller says. -/
def packedType : SendCall → PackedType
  | sendInquiry .. => inquiryStructure
  | sendWriteScanEnable .. => writeScanEnableStructure
  | sendWriteAuthenticationEnable .. => writeAuthenticationEnableStructure
  | sendSetEventFilter _ _ _ conditionBytes =>
      cmdHeader ++ [1, 1, conditionBytes.toNat]
  | sendWriteClassOfDevice .. => writeClassOfDeviceStructure
  | sendCreateConnection .. => createConnectionStructure
  | sendAcceptConnectionRequest .. => acceptConnectionRequestStructure
  | sendDisconnect .. => disconnectStructure
  | sendWriteLinkSupervisionTimeout .. =>
      writeLinkSupervisionTimeoutStructure
  | sendWritePageTimeout .. => writePageTimeoutStructure
  | sendRemoteNameRequest .. => remoteNameRequestStructure
  | sendChangeLocalName .. => changeLocalNameStructure
  | sendSwitchRole .. => switchRoleStructure
  | sendPINCodeRequestReply .. => pinCodeRequestReplyStructure
  | sendPINCodeRequestNegativeReply .. =>
      pinCodeRequestNegativeReplyStructure
  | sendLinkKeyRequestReply .. => linkKeyRequestReplyStructure
  | sendLinkKeyRequestNegativeReply .. =>
      linkKeyRequestNegativeReplyStructure
  | _ => emptyStructure

/-- The arguments of a call in the order of the fields, values of several
bytes little-endian. -/
def arguments : SendCall → List (List UInt8)
  | sendInquiry lap inquiryLength numResponses =>
      [LittleEndian.encode 3 lap.toNat, [inquiryLength], [numResponses]]
  | sendWriteScanEnable scanEnable => [[scanEnable]]
  | sendWriteAuthenticationEnable authenticationEnable =>
      [[authenticationEnable]]
  | sendSetEventFilter filterType filterConditionType condition
      conditionBytes =>
      [[filterType], [filterConditionType],
        condition.take conditionBytes.toNat]
  | sendWriteClassOfDevice classOfDevice => [classOfDevice.cells]
  | sendCreateConnection bdAddr packetType pageScanRepetitionMode
      pageScanMode clockOffset allowRoleSwitch =>
      [bdAddr.cells, ushortBytes packetType, [pageScanRepetitionMode],
        [pageScanMode], ushortBytes clockOffset, [allowRoleSwitch]]
  | sendAcceptConnectionRequest bdAddr role => [bdAddr.cells, [role]]
  | sendDisconnect connectionHandle reason =>
      [ushortBytes connectionHandle, [reason]]
  | sendWriteLinkSupervisionTimeout connectionHandle
      linkSupervisionTimeout =>
      [ushortBytes connectionHandle, ushortBytes linkSupervisionTimeout]
  | sendWritePageTimeout pageTimeout => [ushortBytes pageTimeout]
  | sendRemoteNameRequest bdAddr pageScanRepetitionMode pageScanMode
      clockOffset =>
      [bdAddr.cells, [pageScanRepetitionMode], [pageScanMode],
        ushortBytes clockOffset]
  | sendChangeLocalName name => [name.cells]
  | sendSwitchRole bdAddr role => [bdAddr.cells, [role]]
  | sendPINCodeRequestReply bdAddr pinCodeLength pinCode =>
      [bdAddr.cells, [pinCodeLength], pinCode.cells]
  | sendPINCodeRequestNegativeReply bdAddr => [bdAddr.cells]
  | sendLinkKeyRequestReply bdAddr linkKey => [bdAddr.cells, linkKey.cells]
  | sendLinkKeyRequestNegativeReply bdAddr => [bdAddr.cells]
  | _ => []

/-- The condition of an event filter has at least the bytes the caller
announces, and no more of them than fit the structure. -/
def Admissible : SendCall → Prop
  | sendSetEventFilter _ _ condition conditionBytes =>
      conditionBytes ≤ 7 ∧ conditionBytes.toNat ≤ condition.length
  | _ => True

/-- The arguments have the widths of the fields of the structure. -/
theorem packedType_eq
    {call : SendCall}
    (admissible : call.Admissible) :
    cmdHeader ++ call.arguments.map List.length = call.packedType := by
  cases call with
  | sendSetEventFilter filterType filterConditionType condition
      conditionBytes =>
      obtain ⟨-, present⟩ := admissible
      simp [arguments, packedType, Nat.min_eq_left present]
  | _ => simp [arguments, packedType, emptyStructure, inquiryStructure,
      writeScanEnableStructure, writeAuthenticationEnableStructure,
      writeClassOfDeviceStructure, createConnectionStructure,
      acceptConnectionRequestStructure, disconnectStructure,
      writeLinkSupervisionTimeoutStructure, writePageTimeoutStructure,
      remoteNameRequestStructure, changeLocalNameStructure,
      switchRoleStructure, pinCodeRequestReplyStructure,
      pinCodeRequestNegativeReplyStructure, linkKeyRequestReplyStructure,
      linkKeyRequestNegativeReplyStructure, lapSize]

/-- The parameters of a command are not longer than its length byte can
say. -/
theorem length_arguments_lt
    {call : SendCall}
    (admissible : call.Admissible) :
    call.arguments.flatten.length < 256 := by
  have widths := congrArg List.sum (packedType_eq admissible)
  rw [List.sum_append, ← List.length_flatten] at widths
  have small : call.packedType.sum < 259 := by
    cases call with
    | sendSetEventFilter filterType filterConditionType condition
        conditionBytes =>
        obtain ⟨short, -⟩ := admissible
        have few : conditionBytes.toNat ≤ 7 := UInt8.le_iff_toNat_le.mp short
        simp only [packedType, cmdHeader, List.sum_append, List.sum_cons,
          List.sum_nil]
        omega
    | _ => simp only [packedType]; decide
  have header : cmdHeader.sum = 3 := rfl
  omega

/-! ## The bytes that are sent -/

/-- The bytes the controller expects for a call. -/
def encoding (call : SendCall) : List UInt8 :=
  HciCommand.buffer call.opCode
    (UInt8.ofNat call.arguments.flatten.length) call.arguments.flatten

/-- The length byte of the expected bytes counts those that follow it. -/
theorem encoding_eq
    {call : SendCall}
    (admissible : call.Admissible) :
    ∃ length : UInt8,
      call.encoding =
          ushortBytes call.opCode ++ length :: call.arguments.flatten ∧
        length.toNat = call.arguments.flatten.length := by
  refine ⟨UInt8.ofNat call.arguments.flatten.length, rfl, ?_⟩
  rw [UInt8.toNat_ofNat']
  exact Nat.mod_eq_of_lt (length_arguments_lt admissible)

/-- A structure with the length computed from its own size is sent as the
opcode, the number of the bytes that follow, and the arguments. -/
theorem wholeStructure_of_own_length
    {type : PackedType}
    {arguments : List (List UInt8)}
    (opCode : UInt16)
    (stack : Nat → UInt8)
    (widths : cmdHeader ++ arguments.map List.length = type) :
    wholeStructure type opCode (parameterLength type) arguments stack =
      some (HciCommand.buffer opCode
        (UInt8.ofNat arguments.flatten.length) arguments.flatten) := by
  rw [wholeStructure_eq opCode _ stack widths, parameterLength_eq widths]

/-- The number of bytes of the event filter that are sent: those in front of the
condition and those of the condition. -/
theorem setEventFilter_bufSize
    {conditionBytes : UInt8}
    (few : conditionBytes.toNat ≤ 7) :
    UInt8.ofNat setEventFilterStructure.size -
        (UInt8.ofNat maxConditionSize - conditionBytes) =
      UInt8.ofNat (5 + conditionBytes.toNat) := by
  apply UInt8.toNat_inj.mp
  simp [UInt8.toNat_sub, PackedType.size, setEventFilterStructure,
    cmdHeader, maxConditionSize]
  omega

/-- The length byte of the event filter counts the bytes behind the header. -/
theorem setEventFilter_parameterLength (conditionBytes : UInt8) :
    UInt8.ofNat (5 + conditionBytes.toNat) - UInt8.ofNat cmdHeader.size =
      UInt8.ofNat (2 + conditionBytes.toNat) := by
  apply UInt8.toNat_inj.mp
  simp [UInt8.toNat_sub, PackedType.size, cmdHeader]
  omega

/-- The bytes the controller expects for an event filter. -/
theorem encoding_sendSetEventFilter
    {conditionBytes : UInt8}
    (filterType filterConditionType : UInt8)
    (present : conditionBytes.toNat ≤ condition.length) :
    (sendSetEventFilter filterType filterConditionType condition
        conditionBytes).encoding =
      ushortBytes cmdSetEventFilter ++
        [UInt8.ofNat (2 + conditionBytes.toNat), filterType,
          filterConditionType] ++
        condition.take conditionBytes.toNat := by
  have taken : (condition.take conditionBytes.toNat).length =
      conditionBytes.toNat := List.length_take_of_le present
  have parameterBytes : (sendSetEventFilter filterType filterConditionType
      condition conditionBytes).arguments.flatten =
        filterType :: filterConditionType ::
          condition.take conditionBytes.toNat := by
    simp [arguments]
  rw [encoding, parameterBytes, List.length_cons, List.length_cons, taken,
    Nat.add_assoc, Nat.add_comm conditionBytes.toNat]
  rfl

/-- The event filter is sent with as many bytes of the condition as the caller
announces. -/
theorem setEventFilterBuffer_eq
    {conditionBytes : UInt8}
    (filterType filterConditionType : UInt8)
    (stack : Nat → UInt8)
    (short : conditionBytes ≤ 7)
    (present : conditionBytes.toNat ≤ condition.length) :
    setEventFilterBuffer filterType filterConditionType condition
        conditionBytes stack =
      some (sendSetEventFilter filterType filterConditionType condition
        conditionBytes).encoding := by
  have few : conditionBytes.toNat ≤ 7 := UInt8.le_iff_toNat_le.mp short
  have taken : (condition.take conditionBytes.toNat).length =
      conditionBytes.toNat := List.length_take_of_le present
  obtain ⟨record, filled, content⟩ :=
    (PackedRecord.uninitialised setEventFilterStructure stack).exists_assignAll
      0 (ushortBytes cmdSetEventFilter ::
        [UInt8.ofNat (2 + conditionBytes.toNat)] ::
        [[filterType], [filterConditionType],
          List.replicate maxConditionSize 0])
      (by simp [setEventFilterStructure, cmdHeader])
  obtain ⟨result, stored⟩ := record.exists_store
    (setEventFilterStructure.offset 4)
    (condition.take conditionBytes.toNat)
    (by rw [taken]; change 5 + conditionBytes.toNat ≤ 12; omega)
  have front := Buffer.take_of_store stored
  have header : record.cells.take 5 =
      ushortBytes cmdSetEventFilter ++
        [UInt8.ofNat (2 + conditionBytes.toNat), filterType,
          filterConditionType] := by
    have whole := congrArg (List.take 5) content
    rw [List.take_take] at whole
    exact whole
  rw [taken] at front
  change result.cells.take (5 + conditionBytes.toNat) =
    record.cells.take 5 ++ _ at front
  have sent : (UInt8.ofNat (5 + conditionBytes.toNat)).toNat =
      5 + conditionBytes.toNat := by
    rw [UInt8.toNat_ofNat']
    exact Nat.mod_eq_of_lt (by omega)
  rw [setEventFilterBuffer, if_pos present, setEventFilter_bufSize few,
    setEventFilter_parameterLength conditionBytes, fillIn, filled,
    encoding_sendSetEventFilter filterType filterConditionType present,
    ← header, ← front]
  simp only [Option.bind_eq_bind, Option.bind_some, PackedRecord.assign,
    stored, sent]

/-- Every function but one sends the bytes of its command, whatever was on the
stack. -/
theorem commandBuffer_eq
    {call : SendCall}
    (stack : Nat → UInt8)
    (admissible : call.Admissible)
    (own : ∀ bdAddr role, call ≠ sendAcceptConnectionRequest bdAddr role) :
    call.commandBuffer stack = some call.encoding := by
  have widths := packedType_eq admissible
  cases call with
  | sendSetEventFilter filterType filterConditionType condition
      conditionBytes =>
      exact setEventFilterBuffer_eq filterType filterConditionType stack
        admissible.1 admissible.2
  | sendAcceptConnectionRequest bdAddr role =>
      exact absurd rfl (own bdAddr role)
  | _ => exact wholeStructure_of_own_length _ stack widths

/-- A call that is sent in place of an accept of a connection request. -/
theorem commandBuffer_sendAcceptConnectionRequest
    (bdAddr : Buffer UInt8 bdAddrSize)
    (role : UInt8)
    (stack : Nat → UInt8) :
    (sendAcceptConnectionRequest bdAddr role).commandBuffer stack =
      some (HciCommand.buffer cmdCreateConnection 13
        (bdAddr.cells ++ [role])) := by
  have widths : cmdHeader ++ [bdAddr.cells, [role]].map List.length =
      acceptConnectionRequestStructure := by
    simp [acceptConnectionRequestStructure]
  exact wholeStructure_eq cmdCreateConnection _ stack widths

/-! ## What a call promises -/

/-- The block a call hands over is the opcode of its command, the number of
the bytes that follow, and the arguments, and the call reports success only
where `SendHciCommand` does. -/
def Encodes
    (call : SendCall)
    (sender : Sender)
    (stack : Nat → UInt8) : Prop :=
  cmdHeader ++ call.arguments.map List.length = call.packedType ∧
    ∃ (length : UInt8) (block : List UInt8) (result : UInt32),
      call.run sender stack = some (block, result) ∧
      block = ushortBytes call.opCode ++ length :: call.arguments.flatten ∧
      length.toNat = call.arguments.flatten.length ∧
      (result = errorSuccess → sender.sendHciCommand block = errorSuccess)

/-- A call that hands over the bytes of its command keeps its promise exactly
when it does not report more than `SendHciCommand`. -/
theorem encodes_iff_of_commandBuffer
    {call : SendCall}
    (sender : Sender)
    (admissible : call.Admissible)
    (handed : call.commandBuffer stack = some call.encoding) :
    call.Encodes sender stack ↔
      (call.result (sender.sendHciCommand call.encoding) = errorSuccess →
        sender.sendHciCommand call.encoding = errorSuccess) := by
  have ran : call.run sender stack = some (call.encoding,
      call.result (sender.sendHciCommand call.encoding)) := by
    rw [run, handed]
    rfl
  constructor
  · rintro ⟨-, length, block, result, done, -, -, reported⟩
    rw [ran, Option.some.injEq, Prod.mk.injEq] at done
    obtain ⟨rfl, rfl⟩ := done
    exact reported
  · intro reported
    obtain ⟨length, bytes, counted⟩ := encoding_eq admissible
    exact ⟨packedType_eq admissible, length, call.encoding, _, ran, bytes,
      counted, reported⟩

/-- An accept of a connection request is not sent as its command. -/
theorem not_encodes_sendAcceptConnectionRequest
    (bdAddr : Buffer UInt8 bdAddrSize)
    (role : UInt8)
    (sender : Sender)
    (stack : Nat → UInt8) :
    ¬ (sendAcceptConnectionRequest bdAddr role).Encodes sender stack := by
  rintro ⟨-, length, block, result, done, bytes, -, -⟩
  rw [run, commandBuffer_sendAcceptConnectionRequest] at done
  simp only [Option.bind_eq_bind, Option.bind_some, Option.some.injEq,
    Prod.mk.injEq] at done
  rw [← done.1] at bytes
  have opcodes := congrArg List.head? bytes
  simp [HciCommand.buffer, ushortBytes, opCode, cmdCreateConnection,
    cmdAcceptConnectionRequest] at opcodes

/-- Of all calls, only an accept of a connection request is not sent as its
command, and only the request for the local name can report a success that
`SendHciCommand` did not. -/
theorem encodes_iff
    (call : SendCall)
    (sender : Sender)
    (stack : Nat → UInt8)
    (admissible : call.Admissible) :
    call.Encodes sender stack ↔
      (∀ bdAddr role, call ≠ sendAcceptConnectionRequest bdAddr role) ∧
      (call = sendReadLocalName →
        sender.sendHciCommand [0x14, 0x0c, 0] = errorSuccess) := by
  by_cases own : ∀ bdAddr role,
      call ≠ sendAcceptConnectionRequest bdAddr role
  · rw [encodes_iff_of_commandBuffer sender admissible
      (commandBuffer_eq stack admissible own)]
    cases call with
    | sendReadLocalName =>
        exact ⟨fun reported => ⟨own, fun _ => reported rfl⟩,
          fun taken _ => taken.2 rfl⟩
    | _ => simp [result, own]
  · refine iff_of_false ?_ (fun taken => own taken.1)
    simp only [ne_eq, not_forall, Classical.not_not] at own
    obtain ⟨bdAddr, role, rfl⟩ := own
    exact not_encodes_sendAcceptConnectionRequest bdAddr role sender stack

/-- A driver that takes every command, for a caller outside the listener. -/
def takingSender : Sender where
  onListenerThread := false
  sendCommand _ := errorSuccess

/-- A disconnect is sent as its command. -/
theorem encodes_sendDisconnect :
    (sendDisconnect 0x002a 0x13).Encodes takingSender (fun _ => 0xcc) :=
  (encodes_iff (sendDisconnect 0x002a 0x13) takingSender (fun _ => 0xcc)
    trivial).mpr ⟨by intro bdAddr role; exact nofun, nofun⟩

/-- Accepting a connection request sends the opcode of another command and a
length of 13 in front of seven bytes. -/
theorem sendAcceptConnectionRequest_mismatch :
    (sendAcceptConnectionRequest ⟨[1, 2, 3, 4, 5, 6], rfl⟩ 1).commandBuffer
        (fun _ => 0) = some [0x05, 0x04, 13, 1, 2, 3, 4, 5, 6, 1] ∧
      ¬ (sendAcceptConnectionRequest ⟨[1, 2, 3, 4, 5, 6], rfl⟩ 1).Encodes
        takingSender (fun _ => 0) := by
  refine ⟨by decide, ?_⟩
  exact not_encodes_sendAcceptConnectionRequest _ _ _ _

/-! ## The commands of the synchronous calls -/

/-- The encoded command of a call, for the calls that wait for an answer. -/
def hciCommand : SendCall → Option HciCommand
  | sendReset => some CHci.sendReset
  | sendInquiry lap inquiryLength numResponses =>
      some (CHci.sendInquiry lap inquiryLength numResponses)
  | sendInquiryCancel => some CHci.sendInquiryCancel
  | sendReadBDADDR => some CHci.sendReadBDADDR
  | sendReadBufferSize => some CHci.sendReadBufferSize
  | sendReadClassOfDevice => some CHci.sendReadClassOfDevice
  | sendWriteClassOfDevice classOfDevice =>
      some (CHci.sendWriteClassOfDevice classOfDevice)
  | sendCreateConnection bdAddr packetType pageScanRepetitionMode
      pageScanMode clockOffset allowRoleSwitch =>
      some (CHci.sendCreateConnection bdAddr packetType
        pageScanRepetitionMode pageScanMode clockOffset allowRoleSwitch)
  | sendDisconnect connectionHandle reason =>
      some (CHci.sendDisconnect connectionHandle reason)
  | sendRemoteNameRequest bdAddr pageScanRepetitionMode pageScanMode
      clockOffset =>
      some (CHci.sendRemoteNameRequest bdAddr pageScanRepetitionMode
        pageScanMode clockOffset)
  | sendReadLocalName => some CHci.sendReadLocalName
  | sendSwitchRole bdAddr role => some (CHci.sendSwitchRole bdAddr role)
  | sendReadLocalVersionInformation =>
      some CHci.sendReadLocalVersionInformation
  | _ => none

/-- A command of a call that waits is encoded as the controller expects. -/
theorem encoding_of_hciCommand
    {call : SendCall}
    {command : HciCommand}
    (encoded : call.hciCommand = some command) :
    call.encoding = command.commandBuffer := by
  cases call <;> cases encoded <;>
    simp [encoding, arguments, HciCommand.of, opCode, ushortBytes, lapSize,
      CHci.sendReset, CHci.sendInquiry, CHci.sendInquiryCancel,
      CHci.sendReadBDADDR, CHci.sendReadBufferSize,
      CHci.sendReadClassOfDevice, CHci.sendWriteClassOfDevice,
      CHci.sendCreateConnection, CHci.sendDisconnect,
      CHci.sendRemoteNameRequest, CHci.sendReadLocalName,
      CHci.sendSwitchRole, CHci.sendReadLocalVersionInformation]

/-- A call that waits returns what its command does. -/
theorem result_of_hciCommand
    {call : SendCall}
    {command : HciCommand}
    (sender : Sender)
    (encoded : call.hciCommand = some command) :
    call.result (sender.sendHciCommand command.commandBuffer) =
      command.send sender := by
  cases call <;> cases encoded <;> rfl

/-- Filling in the structure yields the encoded command, and the call returns
what sending it does. -/
theorem run_of_hciCommand
    {call : SendCall}
    {command : HciCommand}
    (sender : Sender)
    (stack : Nat → UInt8)
    (encoded : call.hciCommand = some command) :
    call.run sender stack =
      some (command.commandBuffer, command.send sender) := by
  have admissible : call.Admissible := by
    cases call with
    | sendSetEventFilter => contradiction
    | _ => trivial
  have own : ∀ bdAddr role,
      call ≠ sendAcceptConnectionRequest bdAddr role := by
    rintro bdAddr role rfl
    contradiction
  rw [run, commandBuffer_eq stack admissible own,
    encoding_of_hciCommand encoded]
  simp only [Option.bind_eq_bind, Option.bind_some,
    result_of_hciCommand sender encoded]

end SendCall
end Hci
end BthEmul
