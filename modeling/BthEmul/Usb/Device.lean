import Mathlib.Data.List.Basic

/-!
# Status values and states of the USB driver

The requests of the driver end with a status, which stands for a success or for
a failure, and depend on how far the device has been started.
-/

namespace BthEmul
namespace Usb

/-- `NTSTATUS`. -/
abbrev NtStatus := Int32

/-- `NT_SUCCESS`. -/
def NtSuccess (status : NtStatus) : Prop :=
  0 ≤ status

instance (status : NtStatus) : Decidable (NtSuccess status) :=
  inferInstanceAs (Decidable (_ ≤ _))

/-- `STATUS_SUCCESS`. -/
def statusSuccess : NtStatus := 0

/-- `STATUS_PENDING`. -/
def statusPending : NtStatus := 0x103

/-- `STATUS_ACCESS_VIOLATION`. -/
def statusAccessViolation : NtStatus := (0xC0000005 : UInt32).toInt32

/-- `STATUS_INVALID_PARAMETER`. -/
def statusInvalidParameter : NtStatus := (0xC000000D : UInt32).toInt32

/-- `STATUS_INVALID_DEVICE_REQUEST`. -/
def statusInvalidDeviceRequest : NtStatus := (0xC0000010 : UInt32).toInt32

/-- `STATUS_MORE_PROCESSING_REQUIRED`. -/
def statusMoreProcessingRequired : NtStatus := (0xC0000016 : UInt32).toInt32

/-- `STATUS_BUFFER_TOO_SMALL`. -/
def statusBufferTooSmall : NtStatus := (0xC0000023 : UInt32).toInt32

/-- `STATUS_INSUFFICIENT_RESOURCES`. -/
def statusInsufficientResources : NtStatus := (0xC000009A : UInt32).toInt32

/-- `STATUS_DEVICE_NOT_CONNECTED`. -/
def statusDeviceNotConnected : NtStatus := (0xC000009D : UInt32).toInt32

/-- `STATUS_CANCELLED`. -/
def statusCancelled : NtStatus := (0xC0000120 : UInt32).toInt32

/-- `STATUS_INVALID_DEVICE_STATE`. -/
def statusInvalidDeviceState : NtStatus := (0xC0000184 : UInt32).toInt32

/-- `STATUS_INVALID_BUFFER_SIZE`. -/
def statusInvalidBufferSize : NtStatus := (0xC0000206 : UInt32).toInt32

/-- `DEVSTATE`. -/
inductive DevState
  | notStarted
  | stopped
  | working
  | pendingStop
  | pendingRemove
  | surpriseRemoved
  | removed
  deriving DecidableEq

/-- `IO_STATUS_BLOCK`. -/
structure IoStatus where
  /-- `Status`. -/
  status : NtStatus
  /-- `Information`. -/
  information : Nat
  deriving DecidableEq

end Usb
end BthEmul
