import BthEmul.Foundation.Pool
import BthEmul.Hci.Verdict

/-!
# The slots of the command queue, step by step

Any number of threads send commands and any number of event handlers answer
them. `QueueCommand` claims a slot in the critical section, and fills it behind
it; `DeQueueCommand` clears the three fields of a slot in three assignments,
without the critical section. A wrapper goes on with whatever slot
`QueueCommand` returns, also with `-1`.

Calls are numbered in the order in which they begin. Each has a result buffer of
its own, which is known by the number of the call.
-/

namespace BthEmul

open Foundation

namespace Hci

namespace Wrapper

/-- What is queued, which does not depend on the memory. -/
def queued (wrapper : Wrapper) : SyncCommand :=
  wrapper.sync (.fill _ 0) (.fill _ 0)

/-- The opcode that is queued. -/
def nCommand (wrapper : Wrapper) : UInt16 :=
  wrapper.queued.nCommand

/-- The size of the result buffer. -/
def bufferSize (wrapper : Wrapper) : Nat :=
  wrapper.queued.pResultBuffer.length

end Wrapper

/-- `QueuedCommand`, as the threads see it. -/
structure CommandSlot where
  /-- `nCommand`. -/
  nCommand : UInt16
  /-- The call behind `pResultBuffer`, or `NULL`. -/
  pResultBuffer : Option Nat
  /-- `dwBufferSize`. -/
  dwBufferSize : Nat
  /-- `hEvent` is signalled. -/
  hEvent : Bool
  deriving DecidableEq

/-- What the constructor leaves. -/
def CommandSlot.cleared : CommandSlot where
  nCommand := 0
  pResultBuffer := none
  dwBufferSize := 0
  hEvent := false

/-- The slots and the result buffers. -/
structure SlotTable where
  /-- `m_QueuedCommands`, and the memory around it. -/
  slots : Int → CommandSlot
  /-- The number of calls so far. -/
  calls : Nat
  /-- The calls whose status buffers were freed. -/
  freed : List Nat

namespace SlotTable

/-- `CHciLocal::CHciLocal`. -/
def create : SlotTable where
  slots := fun _ => .cleared
  calls := 0
  freed := []

/-- An assignment to a slot. -/
def assign
    (table : SlotTable)
    (nSlot : Int)
    (slot : CommandSlot) : SlotTable :=
  { table with slots := Function.update table.slots nSlot slot }

/-- The loop of `QueueCommand`: the first slot that is free. -/
def freeSlot (table : SlotTable) : Option Nat :=
  (List.range maxQueuedCommands).find? fun nSlot =>
    (table.slots nSlot).nCommand = 0

end SlotTable

/-- A call of a wrapper. -/
structure SlotCall where
  number : Nat
  wrapper : Wrapper

/-- Why a wrapper gives its slot back. -/
inductive WrapperExit
  | sendFailed
  | waitFailed
  | completed
  deriving DecidableEq

/-- An event of the controller about a command. -/
inductive SlotAnswer
  | complete (nCommand : UInt16) (dwParameterLength : Nat)
  | status (nCommand : UInt16)
  deriving DecidableEq

namespace SlotAnswer

/-- The opcode of the command. -/
def nCommand : SlotAnswer → UInt16
  | complete nCommand _ | status nCommand => nCommand

/-- The number of bytes that the handler reports. -/
def size : SlotAnswer → Nat
  | complete _ dwParameterLength => dwParameterLength
  | status _ => sizeOfCommandStatus

end SlotAnswer

/-- How far a thread is. -/
inductive SlotPoint
  /-- Before the critical section of `QueueCommand`. -/
  | queue (call : SlotCall)
  /-- Before `ResetEvent`. -/
  | resetEvent (call : SlotCall) (nSlot : Int)
  /-- Before the assignment of `pResultBuffer`. -/
  | storeBuffer (call : SlotCall) (nSlot : Int)
  /-- Before the assignment of `dwBufferSize`. -/
  | storeSize (call : SlotCall) (nSlot : Int)
  /-- Before the function of `CHci`. -/
  | send (call : SlotCall) (nSlot : Int)
  /-- In `WaitForSingleObject`. -/
  | wait (call : SlotCall) (nSlot : Int)
  /-- Behind the wait of `WaitForCommandStatus`. -/
  | freeStatus (call : SlotCall) (nSlot : Int)
  /-- Before `GetQueuedCommand`. -/
  | getCommand (call : SlotCall) (nSlot : Int)
  /-- Before the assignments of `DeQueueCommand`. -/
  | clearCommand (call : SlotCall) (nSlot : Int) (exit : WrapperExit)
  | clearBuffer (call : SlotCall) (nSlot : Int) (exit : WrapperExit)
  | clearSize (call : SlotCall) (nSlot : Int) (exit : WrapperExit)
  /-- In `FindCommandSlot`. -/
  | scan (answer : SlotAnswer) (nSlot : Nat)
  /-- Before the comparison with `dwBufferSize`. -/
  | check (answer : SlotAnswer) (nSlot : Int)
  /-- Before the result is written behind `pResultBuffer`. -/
  | copy (answer : SlotAnswer) (nSlot : Int)
  /-- Before the assignment of `dwBufferSize`. -/
  | storeLength (answer : SlotAnswer) (nSlot : Int)
  /-- Before `SetEvent`. -/
  | signal (nSlot : Int)

/-- A wrapper is called, or an event arrives. -/
inductive SlotEntry
  | send (wrapper : Wrapper)
  | event (answer : SlotAnswer)

/-- What a step does beside its assignment. -/
structure SlotOutput where
  /-- The index into `m_QueuedCommands`. -/
  nSlot : Option Int
  /-- The call that finds no free slot. -/
  refused : Option SlotCall
  /-- The call that returns, and its slot. -/
  returned : Option (SlotCall × Int)

namespace SlotOutput

/-- A step that indexes nothing. -/
def quiet : SlotOutput where
  nSlot := none
  refused := none
  returned := none

/-- A step that indexes a slot. -/
def index (nSlot : Int) : SlotOutput :=
  { quiet with nSlot := some nSlot }

end SlotOutput

/-- `GetQueuedCommand`: the slot that it returns, or `NULL`. -/
def getQueuedCommand (nSlot : Int) : Option Int :=
  if nSlot > maxQueuedCommands then none else some nSlot

namespace SlotTable

/-- What a thread does next. What it calls succeeds or not. -/
def advance
    (table : SlotTable)
    (succeeds : Bool) :
    SlotPoint → Option (SlotOutput × SlotTable × List SlotPoint)
  | .queue call =>
      match table.freeSlot with
      | some nSlot =>
          some (.index nSlot,
            table.assign nSlot { table.slots nSlot with
              nCommand := call.wrapper.nCommand },
            [.resetEvent call nSlot])
      | none =>
          some ({ SlotOutput.quiet with refused := some call }, table,
            [.send call (-1)])
  | .resetEvent call nSlot =>
      some (.index nSlot,
        table.assign nSlot { table.slots nSlot with hEvent := false },
        [.storeBuffer call nSlot])
  | .storeBuffer call nSlot =>
      some (.index nSlot,
        table.assign nSlot { table.slots nSlot with
          pResultBuffer := some call.number },
        [.storeSize call nSlot])
  | .storeSize call nSlot =>
      some (.index nSlot,
        table.assign nSlot { table.slots nSlot with
          dwBufferSize := call.wrapper.bufferSize },
        [.send call nSlot])
  | .send call nSlot =>
      some (.quiet, table,
        [if succeeds then .wait call nSlot
          else .clearCommand call nSlot .sendFailed])
  | .wait call nSlot =>
      if succeeds then
        if (table.slots nSlot).hEvent then
          some (.index nSlot,
            table.assign nSlot { table.slots nSlot with hEvent := false },
            [match call.wrapper.form with
              | .commandStatus => .freeStatus call nSlot
              | .classOfDevice => .getCommand call nSlot
              | .statusByte | .completion _ | .localName =>
                  .clearCommand call nSlot .completed])
        else none
      else
        some (.index nSlot, table, [.clearCommand call nSlot .waitFailed])
  | .freeStatus call nSlot =>
      match (table.slots nSlot).pResultBuffer with
      | some buffer =>
          some (.index nSlot, { table with freed := table.freed ++ [buffer] },
            [.clearCommand call nSlot .completed])
      -- the status is read through `NULL`, and `FBT_CATCH` returns an error
      | none =>
          some (.index nSlot, table, [.clearCommand call nSlot .waitFailed])
  | .getCommand call nSlot =>
      -- the slot is looked up only where the status is zero
      some ({ SlotOutput.quiet with
          nSlot := if succeeds then getQueuedCommand nSlot else none }, table,
        [.clearCommand call nSlot .completed])
  | .clearCommand call nSlot exit =>
      some (.index nSlot,
        table.assign nSlot { table.slots nSlot with nCommand := 0 },
        [.clearBuffer call nSlot exit])
  | .clearBuffer call nSlot exit =>
      some (.index nSlot,
        table.assign nSlot { table.slots nSlot with pResultBuffer := none },
        [.clearSize call nSlot exit])
  | .clearSize call nSlot _ =>
      some ({ SlotOutput.index nSlot with returned := some (call, nSlot) },
        table.assign nSlot { table.slots nSlot with dwBufferSize := 0 }, [])
  | .scan answer nSlot =>
      some (.index nSlot, table,
        if (table.slots nSlot).nCommand = answer.nCommand then
          [.check answer nSlot]
        else if nSlot + 1 < maxQueuedCommands then [.scan answer (nSlot + 1)]
        else [])
  | .check answer nSlot =>
      some (.index nSlot, table,
        if (table.slots nSlot).dwBufferSize < answer.size then []
        else if 0 < answer.size then [.copy answer nSlot]
        else [.signal nSlot])
  | .copy answer nSlot =>
      -- a write through `NULL` ends the handler at `FBT_CATCH`
      some (.index nSlot, table,
        if (table.slots nSlot).pResultBuffer = none then []
        else [.storeLength answer nSlot])
  | .storeLength answer nSlot =>
      some (.index nSlot,
        table.assign nSlot { table.slots nSlot with
          dwBufferSize := answer.size },
        [.signal nSlot])
  | .signal nSlot =>
      some (.index nSlot,
        table.assign nSlot { table.slots nSlot with hEvent := true }, [])

end SlotTable

/-- The wrappers and the event handlers. -/
def slotProgram : Program SlotTable SlotPoint SlotEntry Bool SlotOutput where
  enter table
    | .send wrapper =>
        some ({ table with calls := table.calls + 1 },
          .queue { number := table.calls, wrapper := wrapper })
    | .event answer => some (table, .scan answer 0)
  advance table point succeeds := table.advance succeeds point

/-- A queue behind its constructor. -/
def slotStart : Pool SlotTable SlotPoint where
  shared := .create
  strands := []

/-! ## The property -/

namespace SlotPoint

/-- The call that a thread is in. -/
def call? : SlotPoint → Option SlotCall
  | queue call | resetEvent call _ | storeBuffer call _ | storeSize call _
  | send call _ | wait call _ | freeStatus call _ | getCommand call _
  | clearCommand call _ _ | clearBuffer call _ _ | clearSize call _ _ =>
      some call
  | scan _ _ | check _ _ | copy _ _ | storeLength _ _ | signal _ => none

/-- The slot that a call has stored its result buffer and the size of it in. -/
def sizes : SlotPoint → Option (SlotCall × Int)
  | send call nSlot | wait call nSlot | freeStatus call nSlot
  | getCommand call nSlot | clearCommand call nSlot _ => some (call, nSlot)
  | queue _ | resetEvent _ _ | storeBuffer _ _ | storeSize _ _
  | clearBuffer _ _ _ | clearSize _ _ _ | scan _ _ | check _ _ | copy _ _
  | storeLength _ _ | signal _ => none

/-- The slot that a call has stored its result buffer in. -/
def stores : SlotPoint → Option (SlotCall × Int)
  | storeSize call nSlot => some (call, nSlot)
  | point => point.sizes

/-- The slot that a call holds: from the critical section to the first
assignment of `DeQueueCommand`. -/
def holds : SlotPoint → Option (SlotCall × Int)
  | resetEvent call nSlot | storeBuffer call nSlot => some (call, nSlot)
  | point => point.stores

/-- The index of the slot that a call holds. -/
def slot? (point : SlotPoint) : Option Int :=
  point.holds.map Prod.snd

end SlotPoint

/-- Only slots of the queue are indexed, and a call that finds none returns at
once. No two calls hold a slot; the buffer and the size in a slot are those that
its call has stored there. When a call returns its slot is free again, or held by
another one, and its status buffer has been freed exactly once. -/
structure SlotsSound
    (output : Option SlotOutput)
    (next : SlotTable)
    (strands : List SlotPoint) : Prop where
  inBounds : ∀ step ∈ output, ∀ nSlot ∈ step.nSlot,
    0 ≤ nSlot ∧ nSlot < maxQueuedCommands
  refused : ∀ step ∈ output, ∀ call ∈ step.refused, ∀ point ∈ strands,
    ∀ other ∈ point.call?, other.number ≠ call.number
  distinct : (strands.filterMap SlotPoint.slot?).Nodup
  buffers : ∀ point ∈ strands, ∀ held ∈ point.stores,
    (next.slots held.2).pResultBuffer = some held.1.number
  sizes : ∀ point ∈ strands, ∀ held ∈ point.sizes,
    (next.slots held.2).dwBufferSize = held.1.wrapper.bufferSize
  released : ∀ step ∈ output, ∀ held ∈ step.returned,
    (next.slots held.2).nCommand = 0 ∨
      held.2 ∈ strands.filterMap SlotPoint.slot?
  freed : ∀ step ∈ output, ∀ held ∈ step.returned,
    held.1.wrapper.form = .commandStatus →
      next.freed.count held.1.number = 1

instance
    (output : Option SlotOutput)
    (next : SlotTable)
    (strands : List SlotPoint) : Decidable (SlotsSound output next strands) :=
  decidable_of_iff
    ((∀ step ∈ output, ∀ nSlot ∈ step.nSlot,
        0 ≤ nSlot ∧ nSlot < maxQueuedCommands) ∧
      (∀ step ∈ output, ∀ call ∈ step.refused, ∀ point ∈ strands,
        ∀ other ∈ point.call?, other.number ≠ call.number) ∧
      (strands.filterMap SlotPoint.slot?).Nodup ∧
      (∀ point ∈ strands, ∀ held ∈ point.stores,
        (next.slots held.2).pResultBuffer = some held.1.number) ∧
      (∀ point ∈ strands, ∀ held ∈ point.sizes,
        (next.slots held.2).dwBufferSize = held.1.wrapper.bufferSize) ∧
      (∀ step ∈ output, ∀ held ∈ step.returned,
        (next.slots held.2).nCommand = 0 ∨
          held.2 ∈ strands.filterMap SlotPoint.slot?) ∧
      (∀ step ∈ output, ∀ held ∈ step.returned,
        held.1.wrapper.form = .commandStatus →
          next.freed.count held.1.number = 1))
    ⟨fun ⟨inBounds, refused, distinct, buffers, sizes, released, freed⟩ =>
        ⟨inBounds, refused, distinct, buffers, sizes, released, freed⟩,
      fun sound => ⟨sound.inBounds, sound.refused, sound.distinct,
        sound.buffers, sound.sizes, sound.released, sound.freed⟩⟩

/-- What a step needs. A call that queues its command finds a free slot. When
`DeQueueCommand` clears the buffer and the size of a slot, no other call has
stored its own there, and a call with a status buffer was not left by a failure.
A handler reports as many bytes as the call behind the slot expects. -/
def SlotPoint.Conforms
    (table : SlotTable)
    (rest : List SlotPoint) : SlotPoint → Prop
  | queue _ => ∃ nSlot < maxQueuedCommands, (table.slots nSlot).nCommand = 0
  | clearBuffer _ nSlot _ =>
      ∀ point ∈ rest, ∀ held ∈ point.stores, held.2 ≠ nSlot
  | clearSize call nSlot exit =>
      (∀ point ∈ rest, ∀ held ∈ point.sizes, held.2 ≠ nSlot) ∧
        (call.wrapper.form = .commandStatus → exit = .completed)
  | storeLength answer nSlot =>
      ∀ point ∈ rest, ∀ held ∈ point.sizes, held.2 = nSlot →
        answer.size = held.1.wrapper.bufferSize
  | resetEvent _ _ | storeBuffer _ _ | storeSize _ _ | send _ _ | wait _ _
  | freeStatus _ _ | getCommand _ _ | clearCommand _ _ _ | scan _ _
  | check _ _ | copy _ _ | signal _ => True

end Hci
end BthEmul
