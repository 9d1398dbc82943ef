import BthEmul.Hci.CommandQueue
import Mathlib.Data.Fintype.Card

/-!
# Completion of queued commands

Each outstanding command is signalled by an event of its own exactly when the
opcodes of the outstanding commands differ, every event fits the result buffer
it is meant for, and no empty completion of the opcode zero arrives while a
slot is free.
-/

namespace BthEmul

open Foundation

namespace Hci

/-! ## Events about commands -/

/-- The return parameters of a Command Complete event. -/
structure ReturnParameters where
  /-- The parameters. -/
  bytes : List UInt8
  /-- They fit an event. -/
  length_le : bytes.length ≤ 252
  deriving DecidableEq

/-- A well-formed event about a command. -/
inductive CommandEvent
  | complete
      (numPackets : UInt8)
      (opCode : UInt16)
      (parameters : ReturnParameters)
  | status
      (nStatus : UInt8)
      (numPackets : UInt8)
      (opCode : UInt16)
  deriving DecidableEq

namespace CommandEvent

/-- The opcode of the command. -/
def opCode : CommandEvent → UInt16
  | .complete _ opCode _ => opCode
  | .status _ _ opCode => opCode

/-- The bytes of the event. -/
def bytes : CommandEvent → List UInt8
  | .complete numPackets opCode parameters =>
      eventCommandComplete ::
        UInt8.ofNat (parameters.bytes.length + 3) :: numPackets ::
          (LittleEndian.encode 2 opCode.toNat ++ parameters.bytes)
  | .status nStatus numPackets opCode =>
      eventCommandStatus :: 4 :: nStatus :: numPackets ::
        LittleEndian.encode 2 opCode.toNat

/-- What the handlers do at the slot found. -/
def act (event : CommandEvent) (command : QueuedCommand) : QueuedCommand :=
  match event with
  | .complete _ _ parameters =>
      ((command.complete parameters.bytes parameters.bytes.length).map
        Prod.snd).getD command
  | .status nStatus _ _ => (command.status nStatus).2

/-- The result buffer takes what the event brings. -/
def Fits (event : CommandEvent) (command : QueuedCommand) : Prop :=
  match event with
  | .complete _ _ parameters =>
      parameters.bytes.length ≤ command.dwBufferSize
  | .status _ _ _ => sizeOfCommandStatus ≤ command.dwBufferSize

/-- The result buffer holds what the event brings: return parameters stand at
its front, a status where a Command Status event has it. -/
def Holds (event : CommandEvent) (command : QueuedCommand) : Prop :=
  match event with
  | .complete _ _ parameters =>
      command.resultBuffer.take parameters.bytes.length = parameters.bytes
  | .status nStatus _ _ => command.resultBuffer[statusOffset]? = some nStatus

/-- The block of a result buffer after an event that fits. -/
def overwrite (event : CommandEvent) (block : List UInt8) : List UInt8 :=
  match event with
  | .complete _ _ parameters =>
      parameters.bytes ++ block.drop parameters.bytes.length
  | .status nStatus _ _ => block.set statusOffset nStatus

instance (event : CommandEvent) (command : QueuedCommand) :
    Decidable (event.Fits command) :=
  match event with
  | .complete _ _ _ => inferInstanceAs (Decidable (_ ≤ _))
  | .status _ _ _ => inferInstanceAs (Decidable (_ ≤ _))

/-- The handler always returns on parameters of the length it is told. -/
theorem exists_complete
    (command : QueuedCommand)
    (parameters : List UInt8) :
    ∃ result next,
      command.complete parameters parameters.length = some (result, next) := by
  unfold QueuedCommand.complete
  split
  · exact ⟨_, _, rfl⟩
  · split
    · rw [dif_pos (Nat.le_refl _)]
      exact ⟨_, _, rfl⟩
    · exact ⟨_, _, rfl⟩

/-- An event that does not fit has no effect. -/
theorem act_of_not_fits
    {event : CommandEvent}
    {command : QueuedCommand}
    (exceeds : ¬ event.Fits command) :
    event.act command = command := by
  cases event with
  | complete numPackets opCode parameters =>
      have long : command.dwBufferSize < parameters.bytes.length :=
        Nat.lt_of_not_le exceeds
      rw [act, QueuedCommand.complete, if_pos long]
      rfl
  | status nStatus numPackets opCode =>
      have short : command.dwBufferSize < sizeOfCommandStatus :=
        Nat.lt_of_not_le exceeds
      rw [act, QueuedCommand.status, dif_pos short]

/-- An event that fits signals the slot and overwrites the result buffer. -/
theorem act_eq_overwrite
    {event : CommandEvent}
    {command : QueuedCommand}
    (fits : event.Fits command) :
    (event.act command).hEvent ∧
      (event.act command).resultBuffer =
        event.overwrite command.resultBuffer := by
  cases event with
  | complete numPackets opCode parameters =>
      have notLong : ¬ command.dwBufferSize < parameters.bytes.length :=
        Nat.not_lt_of_le fits
      rw [act, QueuedCommand.complete, if_neg notLong]
      by_cases nonempty : 0 < parameters.bytes.length
      · rw [if_pos nonempty, dif_pos (Nat.le_refl _)]
        refine ⟨rfl, ?_⟩
        simp [overwrite]
      · rw [if_neg nonempty]
        refine ⟨rfl, ?_⟩
        have empty : parameters.bytes = [] :=
          List.eq_nil_of_length_eq_zero (by omega)
        simp [overwrite, empty]
  | status nStatus numPackets opCode =>
      have notShort : ¬ command.dwBufferSize < sizeOfCommandStatus :=
        Nat.not_lt_of_le fits
      rw [act, QueuedCommand.status, dif_neg notShort]
      exact ⟨rfl, rfl⟩

/-- An event that fits signals the slot and leaves what it brings in the result
buffer. -/
theorem act_of_fits
    {event : CommandEvent}
    {command : QueuedCommand}
    (fits : event.Fits command) :
    (event.act command).hEvent ∧ event.Holds (event.act command) := by
  obtain ⟨signalled, overwritten⟩ := act_eq_overwrite fits
  refine ⟨signalled, ?_⟩
  cases event with
  | complete numPackets opCode parameters =>
      rw [Holds, overwritten]
      exact List.take_left
  | status nStatus numPackets opCode =>
      have enough : 6 ≤ command.dwBufferSize := fits
      have room : statusOffset < command.resultBuffer.length :=
        Nat.lt_of_lt_of_le (by decide) (enough.trans command.size_le)
      rw [Holds, overwritten]
      exact List.getElem?_set_self room

/-- No event changes the opcode of a slot. -/
theorem nCommand_act
    (event : CommandEvent)
    (command : QueuedCommand) :
    (event.act command).nCommand = command.nCommand := by
  cases event with
  | complete numPackets opCode parameters =>
      rw [act, QueuedCommand.complete]
      split
      · rfl
      · split
        · rw [dif_pos (Nat.le_refl _)]
          rfl
        · rfl
  | status nStatus numPackets opCode =>
      rw [act, QueuedCommand.status]
      split <;> rfl

/-- An event leaves a signalled slot signalled. -/
theorem hEvent_act
    {command : QueuedCommand}
    (event : CommandEvent)
    (signalled : command.hEvent) :
    (event.act command).hEvent := by
  by_cases fits : event.Fits command
  · exact (act_of_fits fits).1
  · rw [act_of_not_fits fits]
    exact signalled

/-- Events are given to slots by opcode. -/
def dispatcher : Dispatcher QueuedCommand CommandEvent UInt16 where
  key := QueuedCommand.nCommand
  target := opCode
  act := act
  key_act := nCommand_act

/-- `FindCommandSlot` finds the slot with the opcode. -/
theorem find_dispatcher
    (queue : CommandQueue)
    (nCommand : UInt16) :
    dispatcher.find queue nCommand = queue.findCommandSlot nCommand := by
  unfold Dispatcher.find CommandQueue.findCommandSlot
  congr

/-- A 16-bit field is read where its bytes stand. -/
theorem field16_append
    (front : List UInt8)
    (value : UInt16)
    (back : List UInt8) :
    CommandQueue.field16
        (front ++ (LittleEndian.encode 2 value.toNat ++ back)) front.length =
      some value := by
  have room : front.length + 2 ≤
      (front ++ (LittleEndian.encode 2 value.toNat ++ back)).length := by
    rw [List.length_append, List.length_append, LittleEndian.length_encode]
    omega
  have taken : ((front ++ (LittleEndian.encode 2 value.toNat ++ back)).drop
      front.length).take 2 = LittleEndian.encode 2 value.toNat := by
    rw [List.drop_left]
    exact List.take_left' (LittleEndian.length_encode _ _)
  rw [CommandQueue.field16, if_pos room, taken,
    LittleEndian.decode_encode_of_lt value.toNat_lt, UInt16.ofNat_toNat]

/-- The handler of Command Complete events acts on the slot found. -/
theorem commandCompleteHandler_eq
    (queue : CommandQueue)
    (numPackets : UInt8)
    (opCode : UInt16)
    (parameters : ReturnParameters) :
    (queue.commandCompleteHandler opCode parameters.bytes
        parameters.bytes.length).map Prod.snd =
      some (dispatcher.dispatch queue
        (.complete numPackets opCode parameters)) := by
  let event := CommandEvent.complete numPackets opCode parameters
  unfold CommandQueue.commandCompleteHandler
  split
  · rename_i missing
    rw [← find_dispatcher] at missing
    rw [Dispatcher.dispatch_of_none event missing]
    rfl
  · rename_i nSlot present
    rw [← find_dispatcher] at present
    obtain ⟨result, next, completed⟩ :=
      exists_complete (queue nSlot) parameters.bytes
    have acts : event.act (queue nSlot) = next := by
      change ((queue nSlot).complete _ _ |>.map Prod.snd).getD _ = next
      rw [completed]
      rfl
    rw [Dispatcher.dispatch_of_some event present, completed]
    exact congrArg some (congrArg (Function.update queue nSlot) acts.symm)

/-- The handler of Command Status events acts on the slot found. -/
theorem commandStatusHandler_eq
    (queue : CommandQueue)
    (nStatus numPackets : UInt8)
    (opCode : UInt16) :
    (queue.commandStatusHandler nStatus opCode).2 =
      dispatcher.dispatch queue (.status nStatus numPackets opCode) := by
  let event := CommandEvent.status nStatus numPackets opCode
  unfold CommandQueue.commandStatusHandler
  split
  · rename_i missing
    rw [← find_dispatcher] at missing
    rw [Dispatcher.dispatch_of_none event missing]
  · rename_i nSlot present
    rw [← find_dispatcher] at present
    rw [Dispatcher.dispatch_of_some event present]
    rfl

/-- The event thread hands an event to the slot found by its opcode. -/
theorem onEvent_bytes
    (queue : CommandQueue)
    (event : CommandEvent) :
    queue.onEvent event.bytes =
      some (errorSuccess, dispatcher.dispatch queue event) := by
  cases event with
  | complete numPackets opCode parameters =>
      have fits := parameters.length_le
      have field : CommandQueue.field16
          (CommandEvent.complete numPackets opCode parameters).bytes 3 =
            some opCode :=
        field16_append [_, _, _] opCode parameters.bytes
      have behind :
          (CommandEvent.complete numPackets opCode parameters).bytes.drop 5 =
            parameters.bytes := by
        change (LittleEndian.encode 2 opCode.toNat ++
          parameters.bytes).drop 2 = parameters.bytes
        exact List.drop_left' (LittleEndian.length_encode _ _)
      have length : dwordSub
          (UInt8.ofNat (parameters.bytes.length + 3)).toNat 3 =
            parameters.bytes.length := by
        have small : (UInt8.ofNat (parameters.bytes.length + 3)).toNat =
            parameters.bytes.length + 3 := by
          rw [UInt8.toNat_ofNat']
          omega
        rw [small, dwordSub_eq (by omega), Nat.add_sub_cancel]
      obtain ⟨handled, called, next⟩ := Option.map_eq_some_iff.mp
        (commandCompleteHandler_eq queue numPackets opCode parameters)
      have code :
          (CommandEvent.complete numPackets opCode parameters).bytes[0]? =
            some eventCommandComplete := rfl
      have count :
          (CommandEvent.complete numPackets opCode parameters).bytes[1]? =
            some (UInt8.ofNat (parameters.bytes.length + 3)) := rfl
      simp only [CommandQueue.onEvent, code, count, field, behind, length,
        called, next, Option.bind_eq_bind, Option.bind_some, if_true]
  | status nStatus numPackets opCode =>
      have field : CommandQueue.field16
          (CommandEvent.status nStatus numPackets opCode).bytes 4 =
            some opCode := by
        have whole := field16_append
          [eventCommandStatus, 4, nStatus, numPackets] opCode []
        rw [List.append_nil] at whole
        exact whole
      have code :
          (CommandEvent.status nStatus numPackets opCode).bytes[0]? =
            some eventCommandStatus := rfl
      have status :
          (CommandEvent.status nStatus numPackets opCode).bytes[statusOffset]? =
            some nStatus := rfl
      have differs : eventCommandStatus ≠ eventCommandComplete := by
        decide
      simp only [CommandQueue.onEvent, code, if_neg differs, if_true, status,
        field, Option.bind_eq_bind, Option.bind_some,
        commandStatusHandler_eq queue nStatus numPackets opCode]

/-- The event thread handles every list of events. -/
theorem run_bytes
    (queue : CommandQueue)
    (events : List CommandEvent) :
    commandQueueMachine.run queue (events.map bytes) =
      some (events.map fun _ => errorSuccess,
        events.foldl dispatcher.dispatch queue) := by
  induction events generalizing queue with
  | nil => rfl
  | cons event events inductionHypothesis =>
      rw [List.map_cons, List.map_cons, List.foldl_cons,
        Machine.run_cons_eq_some_iff]
      exact ⟨errorSuccess, dispatcher.dispatch queue event, _,
        onEvent_bytes queue event, inductionHypothesis _, rfl⟩

end CommandEvent

namespace CommandQueue

open CommandEvent

/-! ## Outstanding commands -/

/-- The queues that queueing commands and removing them from the queue lead
to; no command has the opcode zero. -/
inductive Queued : CommandQueue → Prop
  | create : Queued create
  | queueCommand
      (nCommand : UInt16)
      (resultBuffer : List UInt8) :
      nCommand ≠ 0 → Queued queue →
        Queued (queue.queueCommand nCommand resultBuffer).2
  | queueCommandStatus (nCommand : UInt16) :
      nCommand ≠ 0 → Queued queue →
        Queued (queue.queueCommandStatus nCommand).2
  | deQueueCommand (nSlot : Fin maxQueuedCommands) :
      Queued queue → Queued (queue.deQueueCommand nSlot)

/-- No slot is signalled, and free slots have no result buffer. -/
def Ready (queue : CommandQueue) : Prop :=
  ∀ slot, (queue slot).hEvent = false ∧
    ((queue slot).nCommand = 0 → (queue slot).dwBufferSize = 0)

/-- A slot is replaced by one that is not signalled and has no result buffer
when it is free. -/
theorem Ready.update
    {queue : CommandQueue}
    {command : QueuedCommand}
    (ready : queue.Ready)
    (nSlot : Fin maxQueuedCommands)
    (notSignalled : command.hEvent = false)
    (noBuffer : command.nCommand = 0 → command.dwBufferSize = 0) :
    Ready (Function.update queue nSlot command) := by
  intro slot
  by_cases same : slot = nSlot
  · rw [same, Function.update_self]
    exact ⟨notSignalled, noBuffer⟩
  · rw [Function.update_of_ne same]
    exact ready slot

theorem Ready.queueCommand
    {queue : CommandQueue}
    (ready : queue.Ready)
    (nCommand : UInt16)
    (resultBuffer : List UInt8)
    (isCommand : nCommand ≠ 0) :
    Ready (queue.queueCommand nCommand resultBuffer).2 := by
  unfold CommandQueue.queueCommand
  split
  · exact ready
  · exact ready.update _ rfl (fun free => absurd free isCommand)

/-- Queueing commands signals no slot. -/
theorem Queued.ready
    {queue : CommandQueue}
    (queued : Queued queue) :
    queue.Ready := by
  induction queued with
  | create => exact fun _ => ⟨rfl, fun _ => rfl⟩
  | queueCommand nCommand resultBuffer isCommand _ inductionHypothesis =>
      exact inductionHypothesis.queueCommand nCommand resultBuffer isCommand
  | queueCommandStatus nCommand isCommand _ inductionHypothesis =>
      exact inductionHypothesis.queueCommand nCommand _ isCommand
  | deQueueCommand nSlot _ inductionHypothesis =>
      exact inductionHypothesis.update nSlot
        (inductionHypothesis nSlot).1 (fun _ => rfl)

/-- The controller returns one event per outstanding command, in any order and
among events about other opcodes. -/
def AnsweredOnce
    (queue : CommandQueue)
    (events : List CommandEvent) : Prop :=
  ∀ slot, (queue slot).nCommand ≠ 0 →
    events.countP (fun event => event.opCode = (queue slot).nCommand) =
      (Finset.univ.filter fun other =>
        (queue other).nCommand = (queue slot).nCommand).card

/-- Every outstanding slot is signalled and holds what an event with its opcode
brings, a different event for each slot, and no free slot is touched. -/
structure Delivered
    (queue : CommandQueue)
    (events : List CommandEvent)
    (final : CommandQueue) : Prop where
  /-- Every outstanding slot is signalled. -/
  signalled : ∀ slot, (queue slot).nCommand ≠ 0 → (final slot).hEvent
  /-- No free slot is touched. -/
  untouched : ∀ slot, (queue slot).nCommand = 0 → final slot = queue slot
  /-- Different slots hold what different events bring. -/
  given : ∃ give : Fin maxQueuedCommands → Nat,
    (∀ slot, (queue slot).nCommand ≠ 0 →
      ∃ event ∈ events[give slot]?,
        event.opCode = (queue slot).nCommand ∧ event.Holds (final slot)) ∧
      ∀ slot other, (queue slot).nCommand ≠ 0 →
        (queue other).nCommand ≠ 0 → give slot = give other → slot = other

/-- The event thread delivers the events to the outstanding commands. -/
def Delivers
    (queue : CommandQueue)
    (events : List CommandEvent) : Prop :=
  ∃ results final,
    commandQueueMachine.run queue (events.map CommandEvent.bytes) =
        some (results, final) ∧
      Delivered queue events final

/-- The opcodes of the outstanding commands differ, every event about one of
them fits its result buffer, and no empty completion of the opcode zero arrives
while a slot is free. -/
structure Answerable
    (queue : CommandQueue)
    (events : List CommandEvent) : Prop where
  /-- The opcodes differ. -/
  distinct : ∀ slot other, (queue slot).nCommand ≠ 0 →
    (queue other).nCommand = (queue slot).nCommand → other = slot
  /-- The events fit. -/
  fits : ∀ event ∈ events, ∀ slot, (queue slot).nCommand ≠ 0 →
    event.opCode = (queue slot).nCommand → event.Fits (queue slot)
  /-- No empty completion of the opcode zero arrives while a slot is free. -/
  noEmptyNop : (∃ slot, (queue slot).nCommand = 0) →
    ∀ numPackets parameters,
      .complete numPackets 0 parameters ∈ events → parameters.bytes ≠ []

/-- The queue after the events. -/
def after
    (queue : CommandQueue)
    (events : List CommandEvent) : CommandQueue :=
  events.foldl dispatcher.dispatch queue

/-- The events delivered are those the run hands out. -/
theorem delivers_iff
    {queue : CommandQueue}
    {events : List CommandEvent} :
    Delivers queue events ↔ Delivered queue events (queue.after events) := by
  constructor
  · rintro ⟨results, final, ran, delivered⟩
    rw [run_bytes] at ran
    cases ran
    exact delivered
  · intro delivered
    exact ⟨_, _, run_bytes queue events, delivered⟩

/-- A slot after the events, in terms of those given to it. -/
theorem after_eq
    (queue : CommandQueue)
    (events : List CommandEvent)
    (slot : Fin maxQueuedCommands) :
    queue.after events slot =
      (dispatcher.given queue events slot).foldl
        (fun command event => event.act command) (queue slot) :=
  Dispatcher.foldl_dispatch events slot

/-! ### What delivery needs -/

/-- Of two slots with one opcode the later one is never signalled. -/
theorem Delivered.distinct
    {queue : CommandQueue}
    (delivered : Delivered queue events (queue.after events))
    (ready : queue.Ready)
    (outstanding : (queue slot).nCommand ≠ 0)
    (same : (queue other).nCommand = (queue slot).nCommand) :
    other = slot := by
  by_contra differs
  rcases lt_or_gt_of_ne differs with before | behind
  · have nothing : dispatcher.given queue events slot = [] :=
      Dispatcher.given_eq_nil before same events
    have signalled := delivered.signalled slot outstanding
    rw [after_eq, nothing, List.foldl_nil, (ready slot).1] at signalled
    exact absurd signalled Bool.false_ne_true
  · have nothing : dispatcher.given queue events other = [] :=
      Dispatcher.given_eq_nil behind same.symm events
    rw [← same] at outstanding
    have signalled := delivered.signalled other outstanding
    rw [after_eq, nothing, List.foldl_nil, (ready other).1] at signalled
    exact absurd signalled Bool.false_ne_true

/-- A slot with an opcode of its own is given exactly one event. -/
theorem exists_given_eq_singleton
    {queue : CommandQueue}
    (answered : AnsweredOnce queue events)
    (outstanding : (queue slot).nCommand ≠ 0)
    (unique : ∀ other,
      (queue other).nCommand = (queue slot).nCommand → other = slot) :
    ∃ event,
      events.filter (fun event => event.opCode = (queue slot).nCommand) =
          [event] ∧
        dispatcher.given queue events slot = [event] := by
  have only : (Finset.univ.filter fun other =>
      (queue other).nCommand = (queue slot).nCommand) = {slot} := by
    ext other
    rw [Finset.mem_filter, Finset.mem_singleton]
    constructor
    · intro member
      exact unique other member.2
    · intro same
      rw [same]
      exact ⟨Finset.mem_univ _, rfl⟩
  have count := answered slot outstanding
  rw [only, Finset.card_singleton, List.countP_eq_length_filter] at count
  obtain ⟨event, single⟩ := List.length_eq_one_iff.mp count
  refine ⟨event, single, ?_⟩
  have given : dispatcher.given queue events slot =
      events.filter fun event => event.opCode = (queue slot).nCommand :=
    Dispatcher.given_of_unique unique events
  rw [given, single]

/-- An event about an outstanding command must fit its result buffer. -/
theorem Delivered.fits
    {queue : CommandQueue}
    (delivered : Delivered queue events (queue.after events))
    (ready : queue.Ready)
    (answered : AnsweredOnce queue events)
    (member : event ∈ events)
    (outstanding : (queue slot).nCommand ≠ 0)
    (target : event.opCode = (queue slot).nCommand) :
    event.Fits (queue slot) := by
  by_contra exceeds
  obtain ⟨only, single, given⟩ := exists_given_eq_singleton answered outstanding
    (fun other => delivered.distinct ready outstanding)
  have mine : event ∈ events.filter
      (fun event => event.opCode = (queue slot).nCommand) :=
    List.mem_filter.mpr ⟨member, decide_eq_true target⟩
  rw [single, List.mem_singleton] at mine
  have signalled := delivered.signalled slot outstanding
  rw [after_eq, given, List.foldl_cons, List.foldl_nil, ← mine,
    act_of_not_fits exceeds, (ready slot).1] at signalled
  exact absurd signalled Bool.false_ne_true

/-- Events leave a signalled slot signalled. -/
theorem hEvent_foldl
    {command : QueuedCommand}
    (events : List CommandEvent)
    (signalled : command.hEvent) :
    (events.foldl (fun command event => event.act command) command).hEvent := by
  induction events generalizing command with
  | nil => exact signalled
  | cons event events inductionHypothesis =>
      exact inductionHypothesis (hEvent_act event signalled)

/-- An event that fits whatever it is given to signals the slot. -/
theorem hEvent_foldl_of_mem
    {events : List CommandEvent}
    (member : event ∈ events)
    (fits : ∀ command, event.Fits command)
    (command : QueuedCommand) :
    (events.foldl (fun command event => event.act command) command).hEvent := by
  induction events generalizing command with
  | nil => cases member
  | cons first events inductionHypothesis =>
      rw [List.foldl_cons]
      rcases List.mem_cons.mp member with same | later
      · rw [← same]
        exact hEvent_foldl events (act_of_fits (fits command)).1
      · exact inductionHypothesis later _

/-- An empty completion of the opcode zero signals the first free slot. -/
theorem Delivered.noEmptyNop
    {queue : CommandQueue}
    (delivered : Delivered queue events (queue.after events))
    (ready : queue.Ready)
    (free : ∃ slot, (queue slot).nCommand = 0)
    (member : .complete numPackets 0 parameters ∈ events) :
    parameters.bytes ≠ [] := by
  intro empty
  obtain ⟨slot, found⟩ :
      ∃ slot, dispatcher.find queue 0 = some slot := by
    by_contra missing
    obtain ⟨slot, isFree⟩ := free
    have notFound : dispatcher.find queue 0 = none :=
      Option.eq_none_iff_forall_ne_some.mpr
        (fun slot found => missing ⟨slot, found⟩)
    exact Dispatcher.find_eq_none_iff.mp notFound slot isFree
  have isFree : (queue slot).nCommand = 0 :=
    (Dispatcher.find_eq_some_iff.mp found).1
  have mine : .complete numPackets 0 parameters ∈
      dispatcher.given queue events slot :=
    List.mem_filter.mpr ⟨member, decide_eq_true found⟩
  have fits : ∀ command,
      (CommandEvent.complete numPackets 0 parameters).Fits command := by
    intro command
    rw [CommandEvent.Fits, empty]
    exact Nat.zero_le _
  have signalled := hEvent_foldl_of_mem mine fits (queue slot)
  rw [← after_eq, delivered.untouched slot isFree, (ready slot).1] at signalled
  exact absurd signalled Bool.false_ne_true

/-! ### What delivery follows from -/

/-- The first event with the opcode of a slot. -/
def firstEvent
    (queue : CommandQueue)
    (events : List CommandEvent)
    (slot : Fin maxQueuedCommands) : Nat :=
  events.findIdx fun event => event.opCode = (queue slot).nCommand

/-- A slot with an opcode of its own whose event fits is signalled and holds
what the event brings. -/
theorem Answerable.exists_event
    {queue : CommandQueue}
    (answerable : Answerable queue events)
    (answered : AnsweredOnce queue events)
    (outstanding : (queue slot).nCommand ≠ 0) :
    ∃ event,
      events[queue.firstEvent events slot]? = some event ∧
        event.opCode = (queue slot).nCommand ∧
        (queue.after events slot).hEvent ∧
        event.Holds (queue.after events slot) := by
  obtain ⟨event, single, given⟩ := exists_given_eq_singleton answered
    outstanding (fun other => answerable.distinct slot other outstanding)
  have mine : event ∈ events.filter
      (fun event => event.opCode = (queue slot).nCommand) := by
    rw [single]
    exact List.mem_singleton_self event
  obtain ⟨member, target⟩ := List.mem_filter.mp mine
  have inRange : queue.firstEvent events slot < events.length :=
    List.findIdx_lt_length_of_exists ⟨event, member, target⟩
  have first : events[queue.firstEvent events slot] = event := by
    have satisfied : decide
        (events[queue.firstEvent events slot].opCode =
          (queue slot).nCommand) :=
      List.findIdx_getElem
        (p := fun event : CommandEvent =>
          decide (event.opCode = (queue slot).nCommand))
        (w := inRange)
    have alike : events[queue.firstEvent events slot] ∈ events.filter
        (fun event => event.opCode = (queue slot).nCommand) :=
      List.mem_filter.mpr ⟨List.getElem_mem inRange, satisfied⟩
    rw [single] at alike
    exact List.mem_singleton.mp alike
  have fits := answerable.fits event member slot outstanding
    (of_decide_eq_true target)
  refine ⟨event, ?_, of_decide_eq_true target, ?_⟩
  · rw [List.getElem?_eq_getElem inRange, first]
  · rw [after_eq, given, List.foldl_cons, List.foldl_nil]
    exact act_of_fits fits

/-- An event of the opcode zero leaves a free slot alone unless it is an empty
completion. -/
theorem Answerable.untouched
    {queue : CommandQueue}
    (answerable : Answerable queue events)
    (ready : queue.Ready)
    (free : (queue slot).nCommand = 0) :
    queue.after events slot = queue slot := by
  rw [after_eq]
  apply foldl_eq_self
  intro event mine
  obtain ⟨member, found⟩ := List.mem_filter.mp mine
  have opCode : event.opCode = 0 :=
    (Dispatcher.find_eq_some_iff.mp (of_decide_eq_true found)).1.symm.trans
      free
  apply act_of_not_fits
  have noBuffer := (ready slot).2 free
  cases event with
  | complete numPackets code parameters =>
      cases opCode
      have brings := answerable.noEmptyNop ⟨slot, free⟩ _ _ member
      rw [CommandEvent.Fits, noBuffer]
      exact Nat.not_le_of_lt (List.length_pos_of_ne_nil brings)
  | status nStatus numPackets code =>
      rw [CommandEvent.Fits, noBuffer]
      decide

/-- Every outstanding command is signalled by an event of its own exactly when
the opcodes differ, the events fit and no empty completion of the opcode zero
arrives while a slot is free. -/
theorem delivers_iff_answerable
    (queue : CommandQueue)
    (events : List CommandEvent)
    (queued : Queued queue)
    (answered : AnsweredOnce queue events) :
    Delivers queue events ↔ Answerable queue events := by
  have ready := queued.ready
  rw [delivers_iff]
  constructor
  · intro delivered
    exact {
      distinct := fun slot other => delivered.distinct ready
      fits := fun event member slot =>
        delivered.fits ready answered member
      noEmptyNop := fun free numPackets parameters =>
        delivered.noEmptyNop ready free }
  · intro answerable
    refine {
      signalled := ?_
      untouched := fun slot => answerable.untouched ready
      given := ⟨queue.firstEvent events, ?_, ?_⟩ }
    · intro slot outstanding
      obtain ⟨event, -, -, signalled, -⟩ :=
        answerable.exists_event answered outstanding
      exact signalled
    · intro slot outstanding
      obtain ⟨event, found, target, -, holds⟩ :=
        answerable.exists_event answered outstanding
      exact ⟨event, found, target, holds⟩
    · intro slot other outstanding otherOutstanding same
      obtain ⟨event, found, target, -⟩ :=
        answerable.exists_event answered outstanding
      obtain ⟨event', found', target', -⟩ :=
        answerable.exists_event answered otherOutstanding
      rw [same, found'] at found
      cases found
      exact answerable.distinct other slot otherOutstanding
        (target.symm.trans target')

/-- The return parameters of a Read BD_ADDR command. -/
def addressParameters : ReturnParameters where
  bytes := [0, 1, 2, 3, 4, 5, 6]
  length_le := by decide

/-- An Inquiry and a Read BD_ADDR command are outstanding. -/
def inquiryAndAddress : CommandQueue :=
  ((create.queueCommandStatus 0x0401).2.queueCommand 0x1009
    (List.replicate 7 0)).2

theorem delivers_inquiry_and_address :
    Delivers inquiryAndAddress
      [.complete 1 0x1009 addressParameters, .status 0 1 0,
        .status 0 1 0x0401] := by
  have queued : Queued inquiryAndAddress :=
    .queueCommand 0x1009 _ (by decide)
      (.queueCommandStatus 0x0401 (by decide) .create)
  refine (delivers_iff_answerable _ _ queued
    (show ∀ _, _ by decide +kernel)).mpr {
      distinct := ?_
      fits := by decide +kernel
      noEmptyNop := by simp }
  have distinct : ∀ slot, (inquiryAndAddress slot).nCommand ≠ 0 →
      ∀ other, (inquiryAndAddress other).nCommand =
        (inquiryAndAddress slot).nCommand → other = slot := by
    decide +kernel
  exact fun slot other outstanding => distinct slot outstanding other

/-- Two Read BD_ADDR commands are outstanding. -/
def twoAddresses : CommandQueue :=
  ((create.queueCommand 0x1009 (List.replicate 7 0)).2.queueCommand 0x1009
    (List.replicate 7 0)).2

/-- Both completions are given to the first of two commands with one opcode. -/
theorem not_delivers_two_addresses :
    Queued twoAddresses ∧
      AnsweredOnce twoAddresses
        [.complete 1 0x1009 addressParameters,
          .complete 1 0x1009 addressParameters] ∧
      ¬ Delivers twoAddresses
        [.complete 1 0x1009 addressParameters,
          .complete 1 0x1009 addressParameters] := by
  have queued : Queued twoAddresses :=
    .queueCommand 0x1009 _ (by decide)
      (.queueCommand 0x1009 _ (by decide) .create)
  refine ⟨queued, show ∀ _, _ by decide +kernel, ?_⟩
  intro delivers
  have outstanding : (twoAddresses ⟨0, by decide⟩).nCommand ≠ 0 := by
    decide +kernel
  have same : (twoAddresses ⟨1, by decide⟩).nCommand =
      (twoAddresses ⟨0, by decide⟩).nCommand := by
    decide +kernel
  have equal :=
    (delivers_iff.mp delivers).distinct queued.ready outstanding same
  exact absurd equal (by decide)

end CommandQueue
end Hci
end BthEmul
