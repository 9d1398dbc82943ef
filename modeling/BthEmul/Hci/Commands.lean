import BthEmul.Foundation.Buffer
import BthEmul.Hci.CommandQueue

/-!
# Commands to the controller

A command is a block with an opcode, the length of its parameters and the
parameters. Sending one is a matter of the driver, which reports whether it
took the command.
-/

namespace BthEmul

open Foundation

namespace Hci

/-! ## Opcodes -/

/-- `FBT_HCI_CMD_INQUIRY`. -/
def cmdInquiry : UInt16 := 0x0401

/-- `FBT_HCI_CMD_INQUIRY_CANCEL`. -/
def cmdInquiryCancel : UInt16 := 0x0402

/-- `FBT_HCI_CMD_CREATE_CONNECTION`. -/
def cmdCreateConnection : UInt16 := 0x0405

/-- `FBT_HCI_CMD_DISCONNECT`. -/
def cmdDisconnect : UInt16 := 0x0406

/-- `FBT_HCI_CMD_REMOTE_NAME_REQUEST`. -/
def cmdRemoteNameRequest : UInt16 := 0x0419

/-- `FBT_HCI_CMD_SWITCH_ROLE`. -/
def cmdSwitchRole : UInt16 := 0x080b

/-- `FBT_HCI_CMD_RESET`. -/
def cmdReset : UInt16 := 0x0c03

/-- `FBT_HCI_CMD_SET_EVENT_FILTER`. -/
def cmdSetEventFilter : UInt16 := 0x0c05

/-- `FBT_HCI_CMD_READ_LOCAL_NAME`. -/
def cmdReadLocalName : UInt16 := 0x0c14

/-- `FBT_HCI_CMD_READ_CLASS_OF_DEVICE`. -/
def cmdReadClassOfDevice : UInt16 := 0x0c23

/-- `FBT_HCI_CMD_WRITE_CLASS_OF_DEVICE`. -/
def cmdWriteClassOfDevice : UInt16 := 0x0c24

/-- `FBT_HCI_CMD_READ_LOCAL_VERSION_INFORMATION`. -/
def cmdReadLocalVersionInformation : UInt16 := 0x1001

/-- `FBT_HCI_CMD_READ_BUFFER_SIZE`. -/
def cmdReadBufferSize : UInt16 := 0x1005

/-- `FBT_HCI_CMD_READ_BD_ADDR`. -/
def cmdReadBDADDR : UInt16 := 0x1009

/-! ## Sizes -/

/-- `FBT_HCI_BDADDR_SIZE`. -/
def bdAddrSize : Nat := 6

/-- `FBT_HCI_NAME_SIZE`. -/
def nameSize : Nat := 248

/-- `FBT_HCI_DEVICE_CLASS_SIZE`. -/
def deviceClassSize : Nat := 3

/-- `FBT_HCI_LAP_SIZE`. -/
def lapSize : Nat := 3

/-- `FBT_HCI_MAX_CONDITION_SIZE`. -/
def maxConditionSize : Nat := 7

/-! ## Sending -/

/-- What sending a command depends on. -/
structure Sender where
  /-- The command is sent from the listener thread. -/
  onListenerThread : Bool
  /-- `CBTHW::SendCommand`: the result of handing a block to the driver. -/
  sendCommand : List UInt8 → UInt32

/-- `SendHciCommand`. -/
def Sender.sendHciCommand
    (sender : Sender)
    (lpCommand : List UInt8) : UInt32 :=
  if sender.onListenerThread then errorInternalError
  else sender.sendCommand lpCommand

/-- A `CHci` function that sends a command. -/
structure HciCommand where
  /-- The bytes of `commandBuffer` that are sent. -/
  commandBuffer : List UInt8
  /-- The result of `SendHciCommand` is the result of the function. -/
  returnsResult : Bool

namespace HciCommand

/-- The header of a command and its parameters. -/
def buffer
    (opCode : UInt16)
    (parameterLength : UInt8)
    (parameters : List UInt8) : List UInt8 :=
  LittleEndian.encode 2 opCode.toNat ++ parameterLength :: parameters

/-- The command with some parameters. -/
def of (opCode : UInt16) (parameters : List UInt8) : HciCommand where
  commandBuffer := buffer opCode (UInt8.ofNat parameters.length) parameters
  returnsResult := true

/-- The result of sending a command. -/
def send (command : HciCommand) (sender : Sender) : UInt32 :=
  if command.returnsResult then sender.sendHciCommand command.commandBuffer
  else errorSuccess

/-- The opcode that is sent. -/
def opCode (command : HciCommand) : Option UInt16 :=
  CommandQueue.field16 command.commandBuffer 0

/-- A command that the driver takes is reported as sent. -/
theorem send_eq_errorSuccess
    {command : HciCommand}
    (sent : sender.sendHciCommand command.commandBuffer = errorSuccess) :
    command.send sender = errorSuccess := by
  rw [send, sent, ite_self]

end HciCommand

/-! ## The commands of `CHci` -/

namespace CHci

/-- `SendReset`. -/
def sendReset : HciCommand := .of cmdReset []

/-- `SendInquiry`. -/
def sendInquiry
    (lap : UInt32)
    (inquiryLength numResponses : UInt8) : HciCommand :=
  .of cmdInquiry
    (LittleEndian.encode lapSize lap.toNat ++ [inquiryLength, numResponses])

/-- `SendInquiryCancel`. -/
def sendInquiryCancel : HciCommand := .of cmdInquiryCancel []

/-- `SendReadBDADDR`. -/
def sendReadBDADDR : HciCommand := .of cmdReadBDADDR []

/-- `SendReadBufferSize`. -/
def sendReadBufferSize : HciCommand := .of cmdReadBufferSize []

/-- `SendReadLocalVersionInformation`. -/
def sendReadLocalVersionInformation : HciCommand :=
  .of cmdReadLocalVersionInformation []

/-- `SendSetEventFilter`, which has no result when a copy of the condition
leaves the condition or the field for it. -/
def sendSetEventFilter
    (filterType filterConditionType : UInt8)
    (condition : List UInt8)
    (conditionBytes : UInt8) : Option HciCommand :=
  if conditionBytes.toNat ≤ condition.length then do
    let field ← (Buffer.fill maxConditionSize 0).store 0
      (condition.take conditionBytes.toNat)
    let bufSize : UInt8 := 12 - (7 - conditionBytes)
    some {
      commandBuffer := (HciCommand.buffer cmdSetEventFilter (bufSize - 3)
        (filterType :: filterConditionType :: field.cells)).take bufSize.toNat
      returnsResult := true }
  else none

/-- `SendReadClassOfDevice`. -/
def sendReadClassOfDevice : HciCommand := .of cmdReadClassOfDevice []

/-- `SendWriteClassOfDevice`. -/
def sendWriteClassOfDevice
    (classOfDevice : Buffer UInt8 deviceClassSize) : HciCommand :=
  .of cmdWriteClassOfDevice classOfDevice.cells

/-- `SendCreateConnection`. -/
def sendCreateConnection
    (bdAddr : Buffer UInt8 bdAddrSize)
    (packetType : UInt16)
    (pageScanRepetitionMode pageScanMode : UInt8)
    (clockOffset : UInt16)
    (allowRoleSwitch : UInt8) : HciCommand :=
  .of cmdCreateConnection
    (bdAddr.cells ++ LittleEndian.encode 2 packetType.toNat ++
      [pageScanRepetitionMode, pageScanMode] ++
      LittleEndian.encode 2 clockOffset.toNat ++ [allowRoleSwitch])

/-- `SendDisconnect`. -/
def sendDisconnect
    (connectionHandle : UInt16)
    (reason : UInt8) : HciCommand :=
  .of cmdDisconnect
    (LittleEndian.encode 2 connectionHandle.toNat ++ [reason])

/-- `SendRemoteNameRequest`. -/
def sendRemoteNameRequest
    (bdAddr : Buffer UInt8 bdAddrSize)
    (pageScanRepetitionMode pageScanMode : UInt8)
    (clockOffset : UInt16) : HciCommand :=
  .of cmdRemoteNameRequest
    (bdAddr.cells ++ [pageScanRepetitionMode, pageScanMode] ++
      LittleEndian.encode 2 clockOffset.toNat)

/-- `SendReadLocalName`, which does not return the result of sending. -/
def sendReadLocalName : HciCommand where
  commandBuffer := HciCommand.buffer cmdReadLocalName 0 []
  returnsResult := false

/-- `SendSwitchRole`. -/
def sendSwitchRole
    (bdAddr : Buffer UInt8 bdAddrSize)
    (role : UInt8) : HciCommand :=
  .of cmdSwitchRole (bdAddr.cells ++ [role])

end CHci
end Hci
end BthEmul
