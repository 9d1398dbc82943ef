import BthEmul.Foundation.PackedRecord
import BthEmul.Foundation.Reading
import BthEmul.Hci.CommandQueue
import BthEmul.Hci.Commands

/-!
# Event structures

The dispatchers of events cast the received buffer to the structure of the
event and pass its fields to a handler, scalar fields by value and arrays as
pointers. Both are readings of the memory from the start of the event on, and
neither looks at how many bytes of it were received.
-/

namespace BthEmul

open Foundation

namespace Hci

/-! ## Structures -/

/-- `FBT_HCI_EVENT_HEADER`: the event code and the length of the parameters. -/
def eventHeader : PackedType := [1, 1]

/-- `FBT_HCI_INQUIRY_COMPLETE`. -/
def inquiryCompleteEvent : PackedType := eventHeader ++ [1, 1]

/-- `FBT_HCI_INQUIRY_RESULT`, with room for one response. -/
def inquiryResultEvent : PackedType :=
  eventHeader ++ [1, bdAddrSize, 1, 1, 1, deviceClassSize, 2]

/-- `FBT_HCI_CONNECTION_COMPLETE`. -/
def connectionCompleteEvent : PackedType :=
  eventHeader ++ [1, 2, bdAddrSize, 1, 1]

/-- `FBT_HCI_CONNECTION_REQUEST`, whose class of device is an array of
`unsigned long`. -/
def connectionRequestEvent : PackedType :=
  eventHeader ++ [bdAddrSize, 4 * deviceClassSize, 1]

/-- `FBT_HCI_DISCONNECTION_COMPLETE`. -/
def disconnectionCompleteEvent : PackedType := eventHeader ++ [1, 2, 1]

/-- `FBT_HCI_AUTHENTICATION_COMPLETE`. -/
def authenticationCompleteEvent : PackedType := eventHeader ++ [1, 2]

/-- `FBT_HCI_REMOTE_NAME_REQUEST_COMPLETE`. -/
def remoteNameRequestCompleteEvent : PackedType :=
  eventHeader ++ [1, bdAddrSize, nameSize]

/-- `FBT_HCI_COMMAND_COMPLETE`, with one byte of parameters. -/
def commandCompleteEvent : PackedType := eventHeader ++ [1, 2, 1]

/-- `FBT_HCI_COMMAND_STATUS`. -/
def commandStatusEvent : PackedType := eventHeader ++ [1, 1, 2]

/-- `FBT_HCI_ROLE_CHANGE`. -/
def roleChangeEvent : PackedType := eventHeader ++ [1, bdAddrSize, 1]

/-- `FBT_HCI_PIN_CODE_REQUEST`. -/
def pinCodeRequestEvent : PackedType := eventHeader ++ [bdAddrSize]

/-- `FBT_HCI_LINK_KEY_REQUEST`. -/
def linkKeyRequestEvent : PackedType := eventHeader ++ [bdAddrSize]

/-- `FBT_HCI_LINK_KEY_NOTIFICATION`. -/
def linkKeyNotificationEvent : PackedType := eventHeader ++ [bdAddrSize, 16]

/-- A field of one byte. -/
def byteField (type : PackedType) (field : Nat) : Reading UInt8 :=
  Reading.byte (type.offset field)

/-- A field of two bytes. -/
def wordField (type : PackedType) (field : Nat) : Reading UInt16 :=
  Reading.word (type.offset field)

/-- `EventHeader.EventCode`. -/
def eventCodeField : Reading UInt8 := byteField eventHeader 0

/-- `EventHeader.ParameterLength`. -/
def parameterLengthField : Reading UInt8 := byteField eventHeader 1

/-! ## Logging -/

/-- `fbtLog_Notice`. -/
def fbtLogNotice : Nat := 3

/-- `fbtLog_Verbose`. -/
def fbtLogVerbose : Nat := 5

/-- What logging depends on. -/
structure Logging where
  /-- `_fbt_log_level`. -/
  level : Nat
  /-- The log file can be opened. -/
  opens : Bool

/-- `fbtLog` formats a message of a level. -/
def Logging.Formats (logging : Logging) (level : Nat) : Prop :=
  level ≤ logging.level ∧ logging.opens = true

instance Logging.decidableFormats (logging : Logging) (level : Nat) :
    Decidable (logging.Formats level) :=
  inferInstanceAs (Decidable (_ ∧ _))

/-- No string has this many 16-bit characters in the address space. -/
def longestString : Nat := 2 ^ 31 - 1

/-- Log a message with a string, which the wide-character `fbtLog` takes to
consist of 16-bit characters. -/
def logString (logging : Logging) (string : Nat) : Reading Unit :=
  if logging.Formats fbtLogNotice then
    Reading.terminated string (longestString + 1)
  else return ()

/-! ## Handlers of `CHci` -/

namespace CHci

/-- The bytes of an address as the handlers pass them to `fbtLog`. -/
def addressBytes (bdAddr : Nat) : Reading Unit :=
  Reading.each
    (fun index => do
      let _ ← Reading.byte (bdAddr + index)
      return ())
    [5, 4, 3, 2, 1, 0]

/-- `OnReadLocalNameComplete`. -/
def onReadLocalNameComplete
    (logging : Logging)
    (_status : UInt8)
    (name : Nat) : Reading UInt32 := do
  logString logging name
  return errorSuccess

/-- `OnCommandComplete`. -/
def onCommandComplete
    (logging : Logging)
    (commandOpcode : UInt16)
    (parameters parameterLength : Nat) : Reading UInt32 := do
  let _ ← Reading.block parameters parameterLength
  if commandOpcode = cmdReadLocalName then do
    let status ← Reading.byte parameters
    let _ ← onReadLocalNameComplete logging status (parameters + 1)
    return errorSuccess
  else return errorSuccess

/-- The arrays of `FBT_HCI_INQUIRY_RESULT`. -/
inductive InquiryField
  | bdAddr
  | pageScanRepetitionMode
  | pageScanPeriodMode
  | pageScanMode
  | classOfDevice
  | clockOffset
  deriving DecidableEq

namespace InquiryField

/-- The size of an element of an array. -/
def width : InquiryField → Nat
  | bdAddr => bdAddrSize
  | classOfDevice => deviceClassSize
  | clockOffset => 2
  | _ => 1

/-- The place of an array among the fields of the structure. -/
def member : InquiryField → Nat
  | bdAddr => 3
  | pageScanRepetitionMode => 4
  | pageScanPeriodMode => 5
  | pageScanMode => 6
  | classOfDevice => 7
  | clockOffset => 8

/-- The arrays in the order in which the handler looks at them. -/
def all : List InquiryField :=
  [bdAddr, pageScanRepetitionMode, pageScanPeriodMode, pageScanMode,
    classOfDevice, clockOffset]

end InquiryField

/-- The arrays that `OnEvent` passes: they start where those of a structure
with one response do. -/
def inquiryArrays (field : InquiryField) : Nat :=
  inquiryResultEvent.offset field.member

/-- The arrays of an inquiry result start where they do for one response. -/
theorem inquiryArrays_eq :
    inquiryArrays .bdAddr = 3 ∧
      inquiryArrays .pageScanRepetitionMode = 9 ∧
      inquiryArrays .pageScanPeriodMode = 10 ∧
      inquiryArrays .pageScanMode = 11 ∧
      inquiryArrays .classOfDevice = 12 ∧
      inquiryArrays .clockOffset = 15 := by
  decide

/-- Where an element of an array starts. -/
def element (arrays : InquiryField → Nat) (index : Nat)
    (field : InquiryField) : Nat :=
  arrays field + field.width * index

/-- Read an element of an array. -/
def readElement
    (arrays : InquiryField → Nat)
    (index : Nat)
    (field : InquiryField) : Reading Unit :=
  match field with
  | .bdAddr => addressBytes (element arrays index .bdAddr)
  | _ => do
      let _ ← Reading.block (element arrays index field) field.width
      return ()

/-- `OnInquiryResult`, with its six arrays as one function. -/
def onInquiryResult
    (numResponses : UInt8)
    (arrays : InquiryField → Nat) : Reading UInt32 :=
  if numResponses = 0 then return errorSuccess
  else do
    Reading.each
      (fun index => Reading.each (readElement arrays index) InquiryField.all)
      (List.range numResponses.toNat)
    return errorSuccess

/-- `OnConnectionRequest`. -/
def onConnectionRequest (bdAddr : Nat) : Reading UInt32 := do
  addressBytes bdAddr
  return errorSuccess

/-- `OnConnectionComplete`. -/
def onConnectionComplete
    (status : UInt8)
    (bdAddr : Nat) : Reading UInt32 :=
  if status ≠ 0 then return status.toUInt32
  else do
    addressBytes bdAddr
    return errorSuccess

/-- `OnRemoteNameRequestComplete`. -/
def onRemoteNameRequestComplete
    (logging : Logging)
    (status : UInt8)
    (bdAddr remoteName : Nat) : Reading UInt32 :=
  if status = 0 then do
    addressBytes bdAddr
    logString logging remoteName
    return errorSuccess
  else return errorSuccess

/-- `OnRoleChange`. -/
def onRoleChange (bdAddr : Nat) : Reading UInt32 := do
  addressBytes bdAddr
  return errorSuccess

/-- `OnPINCodeRequest`. -/
def onPINCodeRequest (bdAddr : Nat) : Reading UInt32 := do
  addressBytes bdAddr
  return errorSuccess

/-- `OnLinkKeyRequest`. -/
def onLinkKeyRequest (bdAddr : Nat) : Reading UInt32 := do
  addressBytes bdAddr
  return errorSuccess

/-- `OnLinkKeyNotification`. -/
def onLinkKeyNotification
    (logging : Logging)
    (bdAddr linkKey : Nat) : Reading UInt32 := do
  addressBytes bdAddr
  if fbtLogVerbose ≤ logging.level then do
    let _ ← Reading.block linkKey 16
    return errorSuccess
  else return errorSuccess

/-- `OnUnknown`, which is told the length and does not look at it. -/
def onUnknown (logging : Logging) (_length : Nat) : Reading UInt32 := do
  let _ ← eventCodeField
  let parameterLength ← parameterLengthField
  if fbtLogVerbose < logging.level then do
    let _ ← Reading.block 0 (parameterLength.toNat + eventHeader.size)
    return errorSuccess
  else return errorSuccess

end CHci

/-! ## Dispatch -/

/-- The cases of the switch over the event code. -/
inductive EventKind
  | inquiryComplete
  | inquiryResult
  | connectionComplete
  | connectionRequest
  | disconnectionComplete
  | authenticationComplete
  | remoteNameRequestComplete
  | commandComplete
  | commandStatus
  | roleChange
  | pinCodeRequest
  | linkKeyRequest
  | linkKeyNotification
  | unknown
  deriving DecidableEq

/-- The case of an event code. -/
def EventKind.ofCode (eventCode : UInt8) : EventKind :=
  if eventCode = 0x01 then .inquiryComplete
  else if eventCode = 0x02 then .inquiryResult
  else if eventCode = 0x03 then .connectionComplete
  else if eventCode = 0x04 then .connectionRequest
  else if eventCode = 0x05 then .disconnectionComplete
  else if eventCode = 0x06 then .authenticationComplete
  else if eventCode = 0x07 then .remoteNameRequestComplete
  else if eventCode = eventCommandComplete then .commandComplete
  else if eventCode = eventCommandStatus then .commandStatus
  else if eventCode = 0x12 then .roleChange
  else if eventCode = 0x16 then .pinCodeRequest
  else if eventCode = 0x17 then .linkKeyRequest
  else if eventCode = 0x18 then .linkKeyNotification
  else .unknown

/-- `sizeof( PFBT_HCI_COMMAND_COMPLETE )`: the size of a pointer. -/
def sizeOfPointer : Nat := 4

namespace CHci

/-- The length of the parameters that `OnEvent` computes. -/
def completeLength (parameterLength : UInt8) : Nat :=
  dwordSub parameterLength.toNat (sizeOfPointer - eventHeader.size - 1)

/-- `OnEvent` on an event of a kind. -/
def onEventOf
    (logging : Logging)
    (length : Nat) : EventKind → Reading UInt32
  | .inquiryComplete => do
      let _ ← byteField inquiryCompleteEvent 2
      let _ ← byteField inquiryCompleteEvent 3
      return errorSuccess
  | .inquiryResult => do
      let numResponses ← byteField inquiryResultEvent 2
      onInquiryResult numResponses inquiryArrays
  | .connectionComplete => do
      let status ← byteField connectionCompleteEvent 2
      let _ ← wordField connectionCompleteEvent 3
      let _ ← byteField connectionCompleteEvent 5
      let _ ← byteField connectionCompleteEvent 6
      onConnectionComplete status (connectionCompleteEvent.offset 4)
  | .connectionRequest => do
      let _ ← byteField connectionRequestEvent 4
      onConnectionRequest (connectionRequestEvent.offset 2)
  | .disconnectionComplete => do
      let _ ← byteField disconnectionCompleteEvent 2
      let _ ← wordField disconnectionCompleteEvent 3
      let _ ← byteField disconnectionCompleteEvent 4
      return errorSuccess
  | .authenticationComplete => do
      let _ ← byteField authenticationCompleteEvent 2
      let _ ← wordField authenticationCompleteEvent 3
      return errorSuccess
  | .remoteNameRequestComplete => do
      let status ← byteField remoteNameRequestCompleteEvent 2
      onRemoteNameRequestComplete logging status
        (remoteNameRequestCompleteEvent.offset 3)
        (remoteNameRequestCompleteEvent.offset 4)
  | .commandComplete => do
      let _ ← byteField commandCompleteEvent 2
      let opCode ← wordField commandCompleteEvent 3
      let parameterLength ← parameterLengthField
      onCommandComplete logging opCode (commandCompleteEvent.offset 4)
        (completeLength parameterLength)
  | .commandStatus => do
      let _ ← byteField commandStatusEvent 2
      let _ ← byteField commandStatusEvent 3
      let _ ← wordField commandStatusEvent 4
      return errorSuccess
  | .roleChange => do
      let _ ← byteField roleChangeEvent 2
      let _ ← byteField roleChangeEvent 4
      onRoleChange (roleChangeEvent.offset 3)
  | .pinCodeRequest => onPINCodeRequest (pinCodeRequestEvent.offset 2)
  | .linkKeyRequest => onLinkKeyRequest (linkKeyRequestEvent.offset 2)
  | .linkKeyNotification =>
      onLinkKeyNotification logging (linkKeyNotificationEvent.offset 2)
        (linkKeyNotificationEvent.offset 3)
  | .unknown => onUnknown logging length

/-- `CHci::OnEvent`. -/
def onEvent (logging : Logging) (length : Nat) : Reading UInt32 := do
  let eventCode ← eventCodeField
  onEventOf logging length (EventKind.ofCode eventCode)

end CHci

namespace CHciLocal

/-- The length of the parameters that `OnEvent` computes. -/
def completeLength (parameterLength : UInt8) : Nat :=
  dwordSub parameterLength.toNat
    (commandCompleteEvent.size - eventHeader.size - 1)

/-- What `CommandCompleteHandler` reads of the parameters: nothing without a
slot or where the result buffer is too small. -/
def commandCompleteHandler
    (queue : CommandQueue)
    (nCommand : UInt16)
    (pParameters dwParameterLength : Nat) : Reading UInt32 :=
  match queue.findCommandSlot nCommand with
  | none => return errorSuccess
  | some nSlot =>
      if (queue nSlot).dwBufferSize < dwParameterLength then
        return errorInternalError
      else do
        let _ ← Reading.block pParameters dwParameterLength
        return errorSuccess

/-- `CHciLocal::OnEvent`. -/
def onEvent
    (logging : Logging)
    (queue : CommandQueue)
    (length : Nat) : Reading UInt32 := do
  let eventCode ← eventCodeField
  match EventKind.ofCode eventCode with
  | .commandComplete => do
      let opCode ← wordField commandCompleteEvent 3
      let parameterLength ← parameterLengthField
      let _ ← commandCompleteHandler queue opCode
        (commandCompleteEvent.offset 4) (completeLength parameterLength)
      return errorSuccess
  | .commandStatus => do
      let _ ← byteField commandStatusEvent 2
      let _ ← wordField commandStatusEvent 4
      return errorSuccess
  | _ => do
      let _ ← CHci.onEvent logging length
      return errorSuccess

end CHciLocal
end Hci
end BthEmul
