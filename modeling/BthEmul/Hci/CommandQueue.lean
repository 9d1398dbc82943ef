import BthEmul.Common.Packet
import BthEmul.Foundation.Dispatch
import BthEmul.Foundation.Machine

/-!
# The queue of HCI commands

A command waits in a slot with its opcode, a result buffer and an event. The
event thread gives a Command Complete or Command Status event to the first slot
with its opcode, writes its parameters to the result buffer and signals the
event of the slot. A free slot has the opcode zero.
-/

namespace BthEmul

open Foundation

namespace Hci

/-- `MAX_QUEUED_COMMANDS`. -/
def maxQueuedCommands : Nat := 100

/-- `ERROR_SUCCESS`. -/
def errorSuccess : UInt32 := 0

/-- `ERROR_INTERNAL_ERROR`. -/
def errorInternalError : UInt32 := 1359

/-- `FBT_HCI_EVENT_COMMAND_COMPLETE`. -/
def eventCommandComplete : UInt8 := 0x0e

/-- `FBT_HCI_EVENT_COMMAND_STATUS`. -/
def eventCommandStatus : UInt8 := 0x0f

/-- `sizeof( FBT_HCI_COMMAND_STATUS )`. -/
def sizeOfCommandStatus : Nat := 6

/-- The offset of `Status` in `FBT_HCI_COMMAND_STATUS`. -/
def statusOffset : Nat := 2

/-- `QueuedCommand`. -/
structure QueuedCommand where
  /-- `nCommand`. -/
  nCommand : UInt16
  /-- The block behind `pResultBuffer`, which is empty where that is null. -/
  resultBuffer : List UInt8
  /-- `dwBufferSize`. -/
  dwBufferSize : Nat
  /-- `hEvent` is signalled. -/
  hEvent : Bool
  /-- The block is at least as long as its size says. -/
  size_le : dwBufferSize ≤ resultBuffer.length
  deriving DecidableEq

/-- The block behind a null pointer is as long as the size that goes with it. -/
theorem QueuedCommand.size_le_of_free : 0 ≤ ([] : List UInt8).length :=
  Nat.le_refl _

/-- A slot as the constructor of the queue leaves it. -/
def QueuedCommand.free (hEvent : Bool) : QueuedCommand where
  nCommand := 0
  resultBuffer := []
  dwBufferSize := 0
  hEvent := hEvent
  size_le := size_le_of_free

/-- A slot that `QueueCommand` has filled. -/
def QueuedCommand.queued
    (nCommand : UInt16)
    (resultBuffer : List UInt8) : QueuedCommand where
  nCommand := nCommand
  resultBuffer := resultBuffer
  dwBufferSize := resultBuffer.length
  hEvent := false
  size_le := Nat.le_refl _

/-- `m_QueuedCommands`. -/
abbrev CommandQueue := Fin maxQueuedCommands → QueuedCommand

namespace CommandQueue

/-- The queue after the constructor. -/
def create : CommandQueue := fun _ => QueuedCommand.free false

/-- `QueueCommand`: the slot, if one is free. -/
def queueCommand
    (queue : CommandQueue)
    (nCommand : UInt16)
    (resultBuffer : List UInt8) :
    Option (Fin maxQueuedCommands) × CommandQueue :=
  match Fin.find? fun slot => (queue slot).nCommand = 0 with
  | none => (none, queue)
  | some nSlot =>
      (some nSlot,
        Function.update queue nSlot (.queued nCommand resultBuffer))

/-- `QueueCommandStatus`. -/
def queueCommandStatus
    (queue : CommandQueue)
    (nCommand : UInt16) : Option (Fin maxQueuedCommands) × CommandQueue :=
  queue.queueCommand nCommand (List.replicate sizeOfCommandStatus 0)

/-- `DeQueueCommand`, which leaves the event as it is. -/
def deQueueCommand
    (queue : CommandQueue)
    (nSlot : Fin maxQueuedCommands) : CommandQueue :=
  Function.update queue nSlot (.free (queue nSlot).hEvent)

/-- `FindCommandSlot`. -/
def findCommandSlot
    (queue : CommandQueue)
    (nCommand : UInt16) : Option (Fin maxQueuedCommands) :=
  Fin.find? fun slot => (queue slot).nCommand = nCommand

end CommandQueue

/-! ## Handling of events -/

namespace QueuedCommand

/-- `CommandCompleteHandler` at the slot found: the parameters are copied if
the result buffer takes them. -/
def complete
    (command : QueuedCommand)
    (pParameters : List UInt8)
    (dwParameterLength : Nat) : Option (UInt32 × QueuedCommand) :=
  if command.dwBufferSize < dwParameterLength then
    some (errorInternalError, command)
  else if 0 < dwParameterLength then
    if present : dwParameterLength ≤ pParameters.length then
      some (errorSuccess, {
        command with
        resultBuffer := pParameters.take dwParameterLength ++
          command.resultBuffer.drop dwParameterLength
        dwBufferSize := dwParameterLength
        hEvent := true
        size_le := by
          rw [List.length_append, List.length_take,
            Nat.min_eq_left present]
          exact Nat.le_add_right _ _ })
    else none
  else some (errorSuccess, { command with hEvent := true })

/-- `CommandStatusHandler` at the slot found: the status is written if the
result buffer is as long as a Command Status event. -/
def status
    (command : QueuedCommand)
    (nStatus : UInt8) : UInt32 × QueuedCommand :=
  if enough : command.dwBufferSize < sizeOfCommandStatus then
    (errorInternalError, command)
  else
    (nStatus.toUInt32, {
      command with
      resultBuffer := command.resultBuffer.set statusOffset nStatus
      dwBufferSize := sizeOfCommandStatus
      hEvent := true
      size_le := by
        rw [List.length_set]
        exact (Nat.le_of_not_lt enough).trans command.size_le })

end QueuedCommand

namespace CommandQueue

/-- `CommandCompleteHandler`. -/
def commandCompleteHandler
    (queue : CommandQueue)
    (nCommand : UInt16)
    (pParameters : List UInt8)
    (dwParameterLength : Nat) : Option (UInt32 × CommandQueue) :=
  match queue.findCommandSlot nCommand with
  | none => some (errorSuccess, queue)
  | some nSlot => do
      let (result, command) ←
        (queue nSlot).complete pParameters dwParameterLength
      some (result, Function.update queue nSlot command)

/-- `CommandStatusHandler`. -/
def commandStatusHandler
    (queue : CommandQueue)
    (nStatus : UInt8)
    (nCommand : UInt16) : UInt32 × CommandQueue :=
  match queue.findCommandSlot nCommand with
  | none => (errorSuccess, queue)
  | some nSlot =>
      let (result, command) := (queue nSlot).status nStatus
      (result, Function.update queue nSlot command)

/-- A 16-bit field of an event. -/
def field16 (pEvent : List UInt8) (offset : Nat) : Option UInt16 :=
  if offset + 2 ≤ pEvent.length then
    some (UInt16.ofNat
      (LittleEndian.decode ((pEvent.drop offset).take 2)))
  else none

/-- `CHciLocal::OnEvent`: the events that are neither Command Complete nor
Command Status go to the listeners. The parameter length of a Command Complete
event is what is left of it without the packet count and the opcode. -/
def onEvent
    (queue : CommandQueue)
    (pEvent : List UInt8) : Option (UInt32 × CommandQueue) := do
  let eventCode ← pEvent[0]?
  if eventCode = eventCommandComplete then do
    let opCode ← field16 pEvent 3
    let parameterLength ← pEvent[1]?
    let (_, next) ← queue.commandCompleteHandler opCode (pEvent.drop 5)
      (dwordSub parameterLength.toNat 3)
    some (errorSuccess, next)
  else if eventCode = eventCommandStatus then do
    let status ← pEvent[statusOffset]?
    let opCode ← field16 pEvent 4
    some (errorSuccess, (queue.commandStatusHandler status opCode).2)
  else some (errorSuccess, queue)

end CommandQueue

/-- The queue under successive events. -/
def commandQueueMachine : Machine CommandQueue (List UInt8) UInt32 where
  step := CommandQueue.onEvent

end Hci
end BthEmul
