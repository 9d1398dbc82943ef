import BthEmul.Foundation.PackedRecord
import BthEmul.Hci.Commands

/-!
# Command structures

Every function of `CHci` that sends a command fills in a structure on its
stack: the opcode and the length of the parameters in the header, then the
arguments. The memory of the structure is not initialised, so what is sent is
what the function assigned and nothing else only if it assigns every field.
-/

namespace BthEmul

open Foundation

namespace Hci

/-! ## Opcodes -/

/-- `FBT_HCI_CMD_ACCEPT_CONNECTION_REQUEST`. -/
def cmdAcceptConnectionRequest : UInt16 := 0x0409

/-- `FBT_HCI_CMD_LINK_KEY_REQUEST_REPLY`. -/
def cmdLinkKeyRequestReply : UInt16 := 0x040b

/-- `FBT_HCI_CMD_LINK_KEY_REQUEST_NEGATIVE_REPLY`. -/
def cmdLinkKeyRequestNegativeReply : UInt16 := 0x040c

/-- `FBT_HCI_CMD_PIN_CODE_REQUEST_REPLY`. -/
def cmdPINCodeRequestReply : UInt16 := 0x040d

/-- `FBT_HCI_CMD_PIN_CODE_REQUEST_NEGATIVE_REPLY`. -/
def cmdPINCodeRequestNegativeReply : UInt16 := 0x040e

/-- `FBT_HCI_CMD_CHANGE_LOCAL_NAME`. -/
def cmdChangeLocalName : UInt16 := 0x0c13

/-- `FBT_HCI_CMD_WRITE_PAGE_TIMEOUT`. -/
def cmdWritePageTimeout : UInt16 := 0x0c18

/-- `FBT_HCI_CMD_WRITE_SCAN_ENABLE`. -/
def cmdWriteScanEnable : UInt16 := 0x0c1a

/-- `FBT_HCI_CMD_WRITE_AUTHENTICATION_ENABLE`. -/
def cmdWriteAuthenticationEnable : UInt16 := 0x0c20

/-- `FBT_HCI_CMD_WRITE_LINK_SUPERVISION_TIMEOUT`. -/
def cmdWriteLinkSupervisionTimeout : UInt16 := 0x0c37

/-- `FBT_HCI_LINK_KEY_SIZE`. -/
def linkKeySize : Nat := 16

/-- `FBT_HCI_PIN_CODE_SIZE`. -/
def pinCodeSize : Nat := 16

/-! ## Structures -/

/-- `FBT_HCI_CMD_HEADER`: the opcode and the length of the parameters. -/
def cmdHeader : PackedType := [2, 1]

/-- The structures of the commands without parameters. -/
def emptyStructure : PackedType := cmdHeader

/-- `FBT_HCI_INQUIRY`. -/
def inquiryStructure : PackedType := cmdHeader ++ [lapSize, 1, 1]

/-- `FBT_HCI_CREATE_CONNECTION`. -/
def createConnectionStructure : PackedType :=
  cmdHeader ++ [bdAddrSize, 2, 1, 1, 2, 1]

/-- `FBT_HCI_ACCEPT_CONNECTION_REQUEST`. -/
def acceptConnectionRequestStructure : PackedType :=
  cmdHeader ++ [bdAddrSize, 1]

/-- `FBT_HCI_DISCONNECT`. -/
def disconnectStructure : PackedType := cmdHeader ++ [2, 1]

/-- `FBT_HCI_LINK_KEY_REQUEST_REPLY`. -/
def linkKeyRequestReplyStructure : PackedType :=
  cmdHeader ++ [bdAddrSize, linkKeySize]

/-- `FBT_HCI_LINK_KEY_REQUEST_NEGATIVE_REPLY`. -/
def linkKeyRequestNegativeReplyStructure : PackedType :=
  cmdHeader ++ [bdAddrSize]

/-- `FBT_HCI_PIN_CODE_REQUEST_REPLY`. -/
def pinCodeRequestReplyStructure : PackedType :=
  cmdHeader ++ [bdAddrSize, 1, pinCodeSize]

/-- `FBT_HCI_PIN_CODE_REQUEST_NEGATIVE_REPLY`. -/
def pinCodeRequestNegativeReplyStructure : PackedType :=
  cmdHeader ++ [bdAddrSize]

/-- `FBT_HCI_REMOTE_NAME_REQUEST`. -/
def remoteNameRequestStructure : PackedType :=
  cmdHeader ++ [bdAddrSize, 1, 1, 2]

/-- `FBT_HCI_SWITCH_ROLE`. -/
def switchRoleStructure : PackedType := cmdHeader ++ [bdAddrSize, 1]

/-- `FBT_HCI_SET_EVENT_FILTER`. -/
def setEventFilterStructure : PackedType :=
  cmdHeader ++ [1, 1, maxConditionSize]

/-- `FBT_HCI_CHANGE_LOCAL_NAME`. -/
def changeLocalNameStructure : PackedType := cmdHeader ++ [nameSize]

/-- `FBT_HCI_WRITE_PAGE_TIMEOUT`. -/
def writePageTimeoutStructure : PackedType := cmdHeader ++ [2]

/-- `FBT_HCI_WRITE_SCAN_ENABLE`. -/
def writeScanEnableStructure : PackedType := cmdHeader ++ [1]

/-- `FBT_HCI_WRITE_AUTHENTICATION_ENABLE`. -/
def writeAuthenticationEnableStructure : PackedType := cmdHeader ++ [1]

/-- `FBT_HCI_WRITE_CLASS_OF_DEVICE`. -/
def writeClassOfDeviceStructure : PackedType :=
  cmdHeader ++ [deviceClassSize]

/-- `FBT_HCI_WRITE_LINK_SUPERVISION_TIMEOUT`. -/
def writeLinkSupervisionTimeoutStructure : PackedType := cmdHeader ++ [2, 2]

/-! ## Filling in a structure -/

/-- The bytes of a `USHORT`. -/
def ushortBytes (value : UInt16) : List UInt8 :=
  LittleEndian.encode 2 value.toNat

@[simp] theorem length_ushortBytes (value : UInt16) :
    (ushortBytes value).length = 2 := LittleEndian.length_encode _ _

/-- The length of the parameters as every function computes it. -/
def parameterLength (type : PackedType) : UInt8 :=
  UInt8.ofNat (type.size - cmdHeader.size)

/-- Assign the header and the arguments of a structure on the stack. -/
def fillIn
    (type : PackedType)
    (opCode : UInt16)
    (parameterLength : UInt8)
    (arguments : List (List UInt8))
    (stack : Nat → UInt8) : Option (PackedRecord type) :=
  (PackedRecord.uninitialised type stack).assignAll 0
    (ushortBytes opCode :: [parameterLength] :: arguments)

/-- The bytes of a structure that is filled in and sent as a whole. -/
def wholeStructure
    (type : PackedType)
    (opCode : UInt16)
    (parameterLength : UInt8)
    (arguments : List (List UInt8))
    (stack : Nat → UInt8) : Option (List UInt8) := do
  let commandBuffer ← fillIn type opCode parameterLength arguments stack
  some commandBuffer.cells

/-- A structure all of whose fields are assigned is sent as its header and its
arguments, whatever was on the stack. -/
theorem wholeStructure_eq
    {type : PackedType}
    {arguments : List (List UInt8)}
    (opCode : UInt16)
    (parameterLength : UInt8)
    (stack : Nat → UInt8)
    (widths : cmdHeader ++ arguments.map List.length = type) :
    wholeStructure type opCode parameterLength arguments stack =
      some (HciCommand.buffer opCode parameterLength arguments.flatten) := by
  obtain ⟨record, filled, content⟩ :=
    (PackedRecord.uninitialised type stack).assignAll_eq
      (ushortBytes opCode :: [parameterLength] :: arguments)
      (by rw [← widths]; simp [cmdHeader])
  rw [wholeStructure, fillIn, filled]
  simp [content, HciCommand.buffer, ushortBytes]

/-- The length that is computed from a structure is that of its arguments. -/
theorem parameterLength_eq
    {type : PackedType}
    {arguments : List (List UInt8)}
    (widths : cmdHeader ++ arguments.map List.length = type) :
    parameterLength type = UInt8.ofNat arguments.flatten.length := by
  rw [parameterLength, ← widths, List.length_flatten, PackedType.size,
    List.sum_append]
  simp [PackedType.size]

/-! ## The calls -/

/-- A call of a function of `CHci` that sends a command, with its arguments.
Each is named after its function. -/
inductive SendCall
  | sendReset
  | sendInquiry (lap : UInt32) (inquiryLength numResponses : UInt8)
  | sendInquiryCancel
  | sendReadBDADDR
  | sendReadBufferSize
  | sendWriteScanEnable (scanEnable : UInt8)
  | sendWriteAuthenticationEnable (authenticationEnable : UInt8)
  | sendSetEventFilter
      (filterType filterConditionType : UInt8)
      (condition : List UInt8)
      (conditionBytes : UInt8)
  | sendReadClassOfDevice
  | sendWriteClassOfDevice (classOfDevice : Buffer UInt8 deviceClassSize)
  | sendCreateConnection
      (bdAddr : Buffer UInt8 bdAddrSize)
      (packetType : UInt16)
      (pageScanRepetitionMode pageScanMode : UInt8)
      (clockOffset : UInt16)
      (allowRoleSwitch : UInt8)
  | sendAcceptConnectionRequest
      (bdAddr : Buffer UInt8 bdAddrSize)
      (role : UInt8)
  | sendDisconnect (connectionHandle : UInt16) (reason : UInt8)
  | sendWriteLinkSupervisionTimeout
      (connectionHandle linkSupervisionTimeout : UInt16)
  | sendWritePageTimeout (pageTimeout : UInt16)
  | sendRemoteNameRequest
      (bdAddr : Buffer UInt8 bdAddrSize)
      (pageScanRepetitionMode pageScanMode : UInt8)
      (clockOffset : UInt16)
  | sendReadLocalName
  | sendChangeLocalName (name : Buffer UInt8 nameSize)
  | sendSwitchRole (bdAddr : Buffer UInt8 bdAddrSize) (role : UInt8)
  | sendPINCodeRequestReply
      (bdAddr : Buffer UInt8 bdAddrSize)
      (pinCodeLength : UInt8)
      (pinCode : Buffer UInt8 pinCodeSize)
  | sendPINCodeRequestNegativeReply (bdAddr : Buffer UInt8 bdAddrSize)
  | sendLinkKeyRequestReply
      (bdAddr : Buffer UInt8 bdAddrSize)
      (linkKey : Buffer UInt8 linkKeySize)
  | sendLinkKeyRequestNegativeReply (bdAddr : Buffer UInt8 bdAddrSize)
  | sendReadLocalVersionInformation

namespace SendCall

/-- The bytes of `commandBuffer` that `SendSetEventFilter` sends. There are
none when the copy of the condition leaves the condition or the structure. -/
def setEventFilterBuffer
    (filterType filterConditionType : UInt8)
    (condition : List UInt8)
    (conditionBytes : UInt8)
    (stack : Nat → UInt8) : Option (List UInt8) :=
  let bufSize : UInt8 :=
    UInt8.ofNat setEventFilterStructure.size -
      (UInt8.ofNat maxConditionSize - conditionBytes)
  if conditionBytes.toNat ≤ condition.length then do
    let commandBuffer ← fillIn setEventFilterStructure cmdSetEventFilter
      (bufSize - UInt8.ofNat cmdHeader.size)
      [[filterType], [filterConditionType],
        List.replicate maxConditionSize 0] stack
    let commandBuffer ← commandBuffer.assign 4
      (condition.take conditionBytes.toNat)
    some (commandBuffer.cells.take bufSize.toNat)
  else none

/-- The block a call hands to `SendHciCommand`. -/
def commandBuffer (stack : Nat → UInt8) : SendCall → Option (List UInt8)
  | sendReset =>
      wholeStructure emptyStructure cmdReset
        (parameterLength emptyStructure) [] stack
  | sendInquiry lap inquiryLength numResponses =>
      wholeStructure inquiryStructure cmdInquiry
        (parameterLength inquiryStructure)
        [LittleEndian.encode lapSize lap.toNat, [inquiryLength],
          [numResponses]] stack
  | sendInquiryCancel =>
      wholeStructure emptyStructure cmdInquiryCancel 0 [] stack
  | sendReadBDADDR =>
      wholeStructure emptyStructure cmdReadBDADDR
        (parameterLength emptyStructure) [] stack
  | sendReadBufferSize =>
      wholeStructure emptyStructure cmdReadBufferSize
        (parameterLength emptyStructure) [] stack
  | sendWriteScanEnable scanEnable =>
      wholeStructure writeScanEnableStructure cmdWriteScanEnable
        (parameterLength writeScanEnableStructure) [[scanEnable]] stack
  | sendWriteAuthenticationEnable authenticationEnable =>
      wholeStructure writeAuthenticationEnableStructure
        cmdWriteAuthenticationEnable
        (parameterLength writeAuthenticationEnableStructure)
        [[authenticationEnable]] stack
  | sendSetEventFilter filterType filterConditionType condition
      conditionBytes =>
      setEventFilterBuffer filterType filterConditionType condition
        conditionBytes stack
  | sendReadClassOfDevice =>
      wholeStructure emptyStructure cmdReadClassOfDevice
        (parameterLength emptyStructure) [] stack
  | sendWriteClassOfDevice classOfDevice =>
      wholeStructure writeClassOfDeviceStructure cmdWriteClassOfDevice
        (parameterLength writeClassOfDeviceStructure) [classOfDevice.cells]
        stack
  | sendCreateConnection bdAddr packetType pageScanRepetitionMode
      pageScanMode clockOffset allowRoleSwitch =>
      wholeStructure createConnectionStructure cmdCreateConnection
        (parameterLength createConnectionStructure)
        [bdAddr.cells, ushortBytes packetType, [pageScanRepetitionMode],
          [pageScanMode], ushortBytes clockOffset, [allowRoleSwitch]] stack
  -- The opcode and the length are those of another structure.
  | sendAcceptConnectionRequest bdAddr role =>
      wholeStructure acceptConnectionRequestStructure cmdCreateConnection
        (parameterLength createConnectionStructure)
        [bdAddr.cells, [role]] stack
  | sendDisconnect connectionHandle reason =>
      wholeStructure disconnectStructure cmdDisconnect
        (parameterLength disconnectStructure)
        [ushortBytes connectionHandle, [reason]] stack
  | sendWriteLinkSupervisionTimeout connectionHandle
      linkSupervisionTimeout =>
      wholeStructure writeLinkSupervisionTimeoutStructure
        cmdWriteLinkSupervisionTimeout
        (parameterLength writeLinkSupervisionTimeoutStructure)
        [ushortBytes connectionHandle, ushortBytes linkSupervisionTimeout]
        stack
  | sendWritePageTimeout pageTimeout =>
      wholeStructure writePageTimeoutStructure cmdWritePageTimeout
        (parameterLength writePageTimeoutStructure)
        [ushortBytes pageTimeout] stack
  | sendRemoteNameRequest bdAddr pageScanRepetitionMode pageScanMode
      clockOffset =>
      wholeStructure remoteNameRequestStructure cmdRemoteNameRequest
        (parameterLength remoteNameRequestStructure)
        [bdAddr.cells, [pageScanRepetitionMode], [pageScanMode],
          ushortBytes clockOffset] stack
  | sendReadLocalName =>
      wholeStructure emptyStructure cmdReadLocalName
        (parameterLength emptyStructure) [] stack
  | sendChangeLocalName name =>
      wholeStructure changeLocalNameStructure cmdChangeLocalName
        (parameterLength changeLocalNameStructure) [name.cells] stack
  | sendSwitchRole bdAddr role =>
      wholeStructure switchRoleStructure cmdSwitchRole
        (parameterLength switchRoleStructure) [bdAddr.cells, [role]] stack
  | sendPINCodeRequestReply bdAddr pinCodeLength pinCode =>
      wholeStructure pinCodeRequestReplyStructure cmdPINCodeRequestReply
        (parameterLength pinCodeRequestReplyStructure)
        [bdAddr.cells, [pinCodeLength], pinCode.cells] stack
  | sendPINCodeRequestNegativeReply bdAddr =>
      wholeStructure pinCodeRequestNegativeReplyStructure
        cmdPINCodeRequestNegativeReply
        (parameterLength pinCodeRequestNegativeReplyStructure)
        [bdAddr.cells] stack
  | sendLinkKeyRequestReply bdAddr linkKey =>
      wholeStructure linkKeyRequestReplyStructure cmdLinkKeyRequestReply
        (parameterLength linkKeyRequestReplyStructure)
        [bdAddr.cells, linkKey.cells] stack
  | sendLinkKeyRequestNegativeReply bdAddr =>
      wholeStructure linkKeyRequestNegativeReplyStructure
        cmdLinkKeyRequestNegativeReply
        (parameterLength linkKeyRequestNegativeReplyStructure)
        [bdAddr.cells] stack
  | sendReadLocalVersionInformation =>
      wholeStructure emptyStructure cmdReadLocalVersionInformation 0 [] stack

/-- The result of a call that hands over a block, given that of
`SendHciCommand`. -/
def result (sent : UInt32) : SendCall → UInt32
  -- The result of `SendHciCommand` is not returned.
  | sendReadLocalName => errorSuccess
  | _ => sent

/-- A call: the block it hands to `SendHciCommand`, and what it returns. -/
def run
    (call : SendCall)
    (sender : Sender)
    (stack : Nat → UInt8) : Option (List UInt8 × UInt32) := do
  let commandBuffer ← call.commandBuffer stack
  some (commandBuffer, call.result (sender.sendHciCommand commandBuffer))

end SendCall
end Hci
end BthEmul
