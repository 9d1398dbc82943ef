import BthEmul.Bridge.InFlight
import Mathlib.Algebra.Order.Group.Nat

/-!
# The invariant of the bridge

Exactly one thing in flight goes back to each write that waits, and at most one
write waits. Every action keeps this, as long as a write has a size the bridge
carries, waits alone and while the queues stay open, and what belongs to it is
not dropped.
-/

namespace BthEmul

open Foundation Agent SerialPort

namespace Bridge

/-! ## Events -/

/-- The write an event answers. -/
def Event.answeredCall : Event → Option WriteCall
  | .answered origin => origin
  | _ => none

/-- The write that returns with a code from the error queue. -/
def Event.returnedCall : Event → Option WriteCall
  | .returned call _ _ => some call
  | _ => none

/-- The writes answered by an `HCI_DATA_ERROR_PACKET`. -/
def answers (events : List Event) : List WriteCall :=
  events.filterMap Event.answeredCall

/-- The writes that returned with a code from the error queue. -/
def returns (events : List Event) : List WriteCall :=
  events.filterMap Event.returnedCall

/-- The code a write consumed is the result of sending its own bytes, and the
write returns accordingly. -/
def OwnReply
    (call : WriteCall)
    (report : Tagged WriteCall ErrorReport)
    (result : Except (Option UInt32) Nat) : Prop :=
  ∃ performance,
    report.origin = some call ∧
      report.content = {
        dwLastError := performance.lastError
        performance := some performance } ∧
      performance.bytes = call.array.bytes ∧
      result = remoteResult call.array.length (some performance.lastError)

/-- The item at an index belongs to a write. -/
def OfWrite (items : List (Tagged WriteCall Content)) (index : Nat) : Prop :=
  (items[index]?.bind Tagged.origin).isSome

/-- The command makes the agent close its queues. -/
def ClosesQueues (command : Tagged WriteCall DesktopCommand) : Prop :=
  command.content.id = PacketType.message.code ∧
    command.content.parameter.toDword?.bind MessageId.ofCode =
      some .agentUninitializeMsg

/-! ## The invariant -/

/-- The writes that something in flight goes back to. -/
def State.owed (state : State) : List WriteCall :=
  Tagged.origins state.fromDevice.toList ++
    (Tagged.origins state.forwarding ++
      (Tagged.origins state.toDesktop ++
        (Tagged.origins state.tasks ++
          (Tagged.origins state.toAgent ++
            Tagged.origins state.errorQueue.toList))))

/-- Exactly one thing in flight goes back to each write that waits, and it
carries the bytes of the write or the result of sending them. -/
structure Owes (events : List Event) (state : State) : Prop where
  command : ∃ command, state.command = some command
  sending : ∀ message ∈ state.sending, MessageCarries message
  fromDevice : ∀ message ∈ state.fromDevice.toList, MessageCarries message
  forwarding : ∀ message ∈ state.forwarding, MessageCarries message
  toDesktop : ∀ command ∈ state.toDesktop, CommandCarries command
  tasks : ∀ task ∈ state.tasks, TaskCarries task
  toAgent : ∀ command ∈ state.toAgent, ReplyCarries command
  errorQueue : ∀ report ∈ state.errorQueue.toList, ReportCarries report
  /-- A write that waits has a size the bridge carries. -/
  fits : ∀ call ∈ state.waiting, call.Fits
  /-- While a write waits, the queues are open. -/
  isOpen : state.waiting ≠ [] → state.driverOpen ∧ state.agentOpen
  /-- At most one write waits. -/
  single : state.waiting.length ≤ 1
  /-- What is in flight goes back to the writes that wait. -/
  conserved : ∀ call, state.owed.count call = state.waiting.count call
  /-- The answers sent were consumed or are on their way. -/
  answered : ∀ call,
    (answers events).count call =
      (returns events).count call +
        (Tagged.origins state.toAgent).count call +
        (Tagged.origins state.errorQueue.toList).count call
  /-- Every call is at most once among those in progress or returned. -/
  distinct : ∀ call,
    (returns events).count call +
        (Tagged.origins state.sending).count call +
        state.waiting.count call ≤
      if call.number < state.calls then 1 else 0
  /-- A write consumed the result of sending its own bytes. -/
  ownReply : ∀ call report result,
    .returned call report result ∈ events → OwnReply call report result

theorem owes_start (devId : Bool) : Owes [] (start devId) where
  command := ⟨[], rfl⟩
  sending _ member := by cases member
  fromDevice _ member := by cases member
  forwarding _ member := by cases member
  toDesktop _ member := by cases member
  tasks _ member := by cases member
  toAgent _ member := by cases member
  errorQueue _ member := by cases member
  fits _ member := by cases member
  isOpen waits := absurd rfl waits
  single := Nat.zero_le _
  conserved _ := rfl
  answered _ := rfl
  distinct _ := Nat.zero_le _
  ownReply _ _ _ member := by cases member

/-- The number of things in flight that go back to a write. -/
theorem State.count_owed (state : State) (call : WriteCall) :
    state.owed.count call =
      (Tagged.origins state.fromDevice.toList).count call +
        ((Tagged.origins state.forwarding).count call +
          ((Tagged.origins state.toDesktop).count call +
            ((Tagged.origins state.tasks).count call +
              ((Tagged.origins state.toAgent).count call +
                (Tagged.origins state.errorQueue.toList).count call)))) := by
  simp only [owed, List.count_append]

/-- Taking out an item takes out its write. -/
theorem count_origins_of_pick
    {items : List (Tagged WriteCall Content)}
    (picked : pick items index = some (item, rest))
    (call : WriteCall) :
    (Tagged.origins items).count call =
      item.origin.toList.count call + (Tagged.origins rest).count call := by
  rw [(Tagged.perm_origins_of_pick picked).count_eq, List.count_append]

/-- An event that neither answers a write nor returns from one. -/
theorem Owes.quiet
    (owes : Owes events state)
    (noAnswer : event.answeredCall = none)
    (noReturn : event.returnedCall = none) :
    Owes (events ++ [event]) state := by
  have sameAnswers : answers (events ++ [event]) = answers events := by
    simp [answers, noAnswer]
  have sameReturns : returns (events ++ [event]) = returns events := by
    simp [returns, noReturn]
  refine {
    owes with
    answered := ?_
    distinct := ?_
    ownReply := ?_ }
  · rw [sameAnswers, sameReturns]
    exact owes.answered
  · rw [sameReturns]
    exact owes.distinct
  · intro call report result member
    rcases List.mem_append.mp member with earlier | last
    · exact owes.ownReply call report result earlier
    · rw [← List.mem_singleton.mp last] at noReturn
      cases noReturn

/-- While nothing waits, nothing in flight goes back to a write. -/
theorem Owes.count_owed_eq_zero
    (owes : Owes events state)
    (noneWaits : state.waiting = [])
    (call : WriteCall) :
    state.owed.count call = 0 := by
  rw [owes.conserved, noneWaits, List.count_nil]

/-- A thing in flight goes back to a write that waits. -/
theorem Owes.mem_waiting
    (owes : Owes events state)
    (inFlight : call ∈ state.owed) :
    call ∈ state.waiting := by
  rw [← List.count_pos_iff, ← owes.conserved]
  exact List.count_pos_iff.mpr inFlight

/-! ## The driver -/

theorem Owes.callWrite
    (owes : Owes events state)
    (fits : 0 < array.length ∧ array.length ≤ payloadLimit)
    (stepped : callWrite state array = some (event, next)) :
    Owes (events ++ [event]) next := by
  obtain ⟨message, written, carries⟩ :=
    exists_writtenMessage ⟨state.calls, array⟩ fits
  change writtenMessage array = some message at written
  simp only [Bridge.callWrite, written, Option.bind_eq_bind,
    Option.bind_some] at stepped
  split at stepped
  · cases stepped
    apply Owes.quiet _ rfl rfl
    refine {
      owes with
      sending := forall_mem_concat owes.sending carries
      distinct := ?_ }
    · intro call
      have before := owes.distinct call
      simp only [Tagged.origins_append, Tagged.origins_cons,
        Tagged.origins_nil, List.count_append, List.append_nil,
        Option.toList_some, List.count_singleton, beq_iff_eq]
      -- the new call has a number that no call before it has
      by_cases isNew : ⟨state.calls, array⟩ = call
      · rw [← isNew] at before ⊢
        rw [if_neg (Nat.lt_irrefl _)] at before
        rw [if_pos rfl, if_pos (Nat.lt_succ_self _)]
        omega
      · rw [if_neg isNew]
        split at before <;> split <;> omega
  · cases stepped

theorem Owes.callPort
    {id : MessageId}
    (owes : Owes events state)
    (stepped : callPort state id = some (event, next)) :
    Owes (events ++ [event]) next := by
  obtain ⟨message, written, carries⟩ := exists_portMessage id
  simp only [Bridge.callPort, written, Option.bind_eq_bind,
    Option.bind_some] at stepped
  split at stepped
  · cases stepped
    apply Owes.quiet _ rfl rfl
    refine {
      owes with
      sending := forall_mem_concat owes.sending carries
      distinct := ?_ }
    · intro call
      simpa using owes.distinct call
  · cases stepped

/-- A message that belongs to no write is put on the queue. -/
theorem Owes.queueOther
    (owes : Owes events state)
    (picked : pick state.sending index = some (message, remaining))
    (empty : state.fromDevice = none)
    (origin : message.origin = none) :
    Owes events {
      state with
      sending := remaining
      fromDevice := some message } := by
  obtain ⟨carries, others⟩ := forall_of_pick picked owes.sending
  have removed := count_origins_of_pick picked
  refine {
    owes with
    sending := others
    fromDevice := by simpa using carries
    conserved := ?_
    distinct := ?_ }
  · intro call
    have before := owes.conserved call
    simp only [State.count_owed, empty] at before ⊢
    simpa [origin] using before
  · intro call
    have before := owes.distinct call
    rw [removed, origin] at before
    simpa using before

/-- The message of a write is put on the queue, and the write waits alone. -/
theorem Owes.queueWrite
    (owes : Owes events state)
    (picked : pick state.sending index = some (message, remaining))
    (empty : state.fromDevice = none)
    (origin : message.origin = some call)
    (noneWaits : state.waiting = [])
    (driverOpen : state.driverOpen)
    (agentOpen : state.agentOpen) :
    Owes events {
      state with
      sending := remaining
      fromDevice := some message
      waiting := [call] } := by
  obtain ⟨carries, others⟩ := forall_of_pick picked owes.sending
  have removed := count_origins_of_pick picked
  have fits : call.Fits := by
    have ofWrite := carries
    rw [MessageCarries, origin] at ofWrite
    exact ofWrite.1
  refine {
    owes with
    sending := others
    fromDevice := by simpa using carries
    fits := by simpa using fits
    isOpen := fun _ => ⟨driverOpen, agentOpen⟩
    single := Nat.le_refl _
    conserved := ?_
    distinct := ?_ }
  · intro other
    have before := owes.count_owed_eq_zero noneWaits other
    simp only [State.count_owed, empty] at before ⊢
    simp only [Option.toList_none, Option.toList_some, origin,
      Tagged.origins_nil, Tagged.origins_cons, List.append_nil,
      List.count_nil] at before ⊢
    omega
  · intro other
    have before := owes.distinct other
    rw [removed, origin, noneWaits, Option.toList_some,
      List.count_nil] at before
    dsimp only
    omega

/-- A message that could not be put on the queue is dropped. -/
theorem Owes.dropSending
    (owes : Owes events state)
    (picked : pick state.sending index = some (message, remaining)) :
    Owes events { state with sending := remaining } := by
  obtain ⟨-, others⟩ := forall_of_pick picked owes.sending
  have removed := count_origins_of_pick picked
  refine {
    owes with
    sending := others
    distinct := ?_ }
  intro call
  have before := owes.distinct call
  rw [removed] at before
  dsimp only
  omega

theorem Owes.queueMessage
    (owes : Owes events state)
    (conforms : OfWrite state.sending index → state.driverOpen →
      state.waiting = [] ∧ state.agentOpen)
    (stepped : queueMessage state index = some (event, next)) :
    Owes (events ++ [event]) next := by
  simp only [Bridge.queueMessage, Option.bind_eq_bind,
    Option.bind_eq_some_iff, Prod.exists] at stepped
  obtain ⟨message, sending, picked, stepped⟩ := stepped
  split at stepped
  · rename_i driverOpen
    split at stepped
    · rename_i empty
      cases stepped
      apply Owes.quiet _ rfl rfl
      -- only the message of a write changes who waits
      cases origin : message.origin with
      | none =>
          simp only [Option.toList_none, List.append_nil]
          exact owes.queueOther picked empty origin
      | some call =>
          have ofWrite : OfWrite state.sending index := by
            simp [OfWrite, (pick_eq_some_iff.mp picked).1, origin]
          obtain ⟨noneWaits, agentOpen⟩ := conforms ofWrite driverOpen
          simp only [noneWaits, Option.toList_some, List.nil_append]
          exact owes.queueWrite picked empty origin noneWaits driverOpen
            agentOpen
    · cases stepped
  · -- the handle has been closed
    have kept := owes.dropSending picked
    split at stepped <;> cases stepped <;> exact kept.quiet rfl rfl

theorem Owes.returnWrite
    (owes : Owes events state)
    (stepped : returnWrite state index = some (event, next)) :
    Owes (events ++ [event]) next := by
  simp only [Bridge.returnWrite, Option.bind_eq_bind,
    Option.bind_eq_some_iff, Prod.exists] at stepped
  obtain ⟨call, waiting, picked, stepped⟩ := stepped
  have same := perm_of_pick picked
  have single := owes.single
  rw [same.length_eq, List.length_cons] at single
  obtain rfl : waiting = [] := List.eq_nil_of_length_eq_zero (by omega)
  have waits : state.waiting = [call] := List.perm_singleton.mp same
  have isOpen := owes.isOpen (by rw [waits]; exact List.cons_ne_nil _ _)
  simp only [if_pos isOpen.1, Option.bind_eq_some_iff, Option.some.injEq,
    Prod.mk.injEq] at stepped
  obtain ⟨report, reported, outcome, returned, rfl, rfl⟩ := stepped
  obtain ⟨own, performance, origin, bytes, content⟩ :=
    owes.errorQueue report (by rw [reported]; exact List.mem_cons_self)
  -- the report is about the only write that waits
  obtain rfl : own = call := by
    have inFlight : own ∈ state.owed := by
      simp [State.owed, reported, origin]
    simpa [waits] using owes.mem_waiting inFlight
  have fits := owes.fits own (by rw [waits]; exact List.mem_cons_self)
  have result := returned_of_bteWrite fits returned
  rw [content] at result
  have sameAnswers : answers (events ++
      [.returned own report outcome.returned]) = answers events := by
    simp [answers, Event.answeredCall]
  have moreReturns : returns (events ++
      [.returned own report outcome.returned]) = returns events ++ [own] := by
    simp [returns, Event.returnedCall]
  refine {
    owes with
    errorQueue := by simp
    fits := by simp
    isOpen := fun waits => absurd rfl waits
    single := Nat.zero_le _
    conserved := ?_
    answered := ?_
    distinct := ?_
    ownReply := ?_ }
  · intro call
    have before := owes.conserved call
    simp only [State.count_owed, reported, waits, origin,
      Option.toList_some, Option.toList_none, Tagged.origins_cons,
      Tagged.origins_nil, List.append_nil, List.count_nil] at before ⊢
    omega
  · intro call
    have before := owes.answered call
    rw [sameAnswers, moreReturns, List.count_append]
    simp only [reported, origin, Option.toList_some, Option.toList_none,
      Tagged.origins_cons, Tagged.origins_nil, List.append_nil,
      List.count_nil] at before ⊢
    omega
  · intro call
    have before := owes.distinct call
    rw [moreReturns, List.count_append]
    simp only [waits, List.count_nil] at before ⊢
    omega
  · intro call other result' member
    rcases List.mem_append.mp member with earlier | last
    · exact owes.ownReply call other result' earlier
    · cases List.mem_singleton.mp last
      exact ⟨performance, origin, content, bytes, result⟩

theorem Owes.readPort
    (owes : Owes events state)
    (stepped : readPort state = some (event, next)) :
    Owes (events ++ [event]) next := by
  unfold Bridge.readPort at stepped
  split at stepped
  · cases stepped
    apply Owes.quiet _ rfl rfl
    exact { owes with }
  · cases stepped

/-! ## The agent -/

theorem Owes.takeMessage
    (owes : Owes events state)
    (stepped : takeMessage state = some (event, next)) :
    Owes (events ++ [event]) next := by
  unfold Bridge.takeMessage at stepped
  split at stepped
  · split at stepped
    · cases stepped
    · rename_i message present
      cases stepped
      apply Owes.quiet _ rfl rfl
      have carries :=
        owes.fromDevice message (by rw [present]; exact List.mem_cons_self)
      refine {
        owes with
        fromDevice := by simp
        forwarding := forall_mem_concat owes.forwarding carries
        conserved := ?_ }
      · intro call
        have before := owes.conserved call
        simp only [State.count_owed, present, Option.toList_some,
          Option.toList_none, Tagged.origins_cons, Tagged.origins_nil,
          Tagged.origins_append, List.append_nil, List.count_append,
          List.count_nil] at before ⊢
        omega
  · cases stepped

theorem Owes.forwardMessage
    {accepted : Bool}
    (owes : Owes events state)
    (conforms : OfWrite state.forwarding index → accepted)
    (stepped : forwardMessage state index accepted = some (event, next)) :
    Owes (events ++ [event]) next := by
  simp only [Bridge.forwardMessage, Option.bind_eq_bind,
    Option.bind_eq_some_iff, Prod.exists] at stepped
  obtain ⟨message, forwarding, picked, stepped⟩ := stepped
  obtain ⟨carries, others⟩ := forall_of_pick picked owes.forwarding
  have removed := count_origins_of_pick picked
  obtain ⟨command, present⟩ := owes.command
  obtain ⟨pushed, pCmd, sent, pushedCarries⟩ :=
    exists_readDeviceWriteDesktop carries accepted command
  rw [present, sent] at stepped
  obtain ⟨_, _, same, stepped⟩ := stepped
  cases same
  cases stepped
  apply Owes.quiet _ rfl rfl
  cases accepted with
  | true =>
      refine {
        owes with
        command := ⟨pCmd, rfl⟩
        forwarding := others
        toDesktop := forall_mem_concat owes.toDesktop pushedCarries
        conserved := ?_ }
      · intro call
        have before := owes.conserved call
        simp only [State.count_owed, removed] at before
        simp [State.count_owed]
        omega
  | false =>
      -- a message that is not delivered does not belong to a write
      have origin : message.origin = none := by
        by_contra ofWrite
        have here : OfWrite state.forwarding index := by
          rw [OfWrite, (pick_eq_some_iff.mp picked).1]
          exact Option.isSome_iff_ne_none.mpr ofWrite
        exact absurd (conforms here) Bool.false_ne_true
      refine {
        owes with
        command := ⟨pCmd, rfl⟩
        forwarding := others
        toDesktop := by simpa using owes.toDesktop
        conserved := ?_ }
      intro call
      have before := owes.conserved call
      simp only [State.count_owed, removed, origin] at before
      simpa [State.count_owed] using before

/-- Closing the queues of the agent or the driver takes nothing in flight while
no write waits. -/
theorem Owes.closeMsgQueues
    (owes : Owes events state)
    (noneWaits : state.waiting = []) :
    Owes events (closeMsgQueues state) := by
  unfold Bridge.closeMsgQueues
  split
  · refine {
      owes with
      fromDevice := by simp
      errorQueue := by simp
      conserved := ?_
      answered := ?_ }
    · intro call
      have before := owes.count_owed_eq_zero noneWaits call
      simp only [State.count_owed, noneWaits, Option.toList_none,
        Tagged.origins_nil, List.count_nil] at before ⊢
      omega
    · intro call
      have before := owes.answered call
      have nothing := owes.count_owed_eq_zero noneWaits call
      rw [State.count_owed] at nothing
      simp only [Option.toList_none, Tagged.origins_nil, List.count_nil]
      omega
  · exact { owes with }

/-- Closing the queues does not end a write. -/
theorem waiting_closeMsgQueues (state : State) :
    (closeMsgQueues state).waiting = state.waiting := by
  unfold closeMsgQueues
  split <;> rfl

/-- Queues that are open are closed while no write waits. -/
theorem Owes.closeOpenQueues
    (owes : Owes events state)
    (isOpen : Bool)
    (noneWaits : state.waiting = []) :
    Owes events (if isOpen then Bridge.closeMsgQueues state else state) ∧
      (if isOpen then Bridge.closeMsgQueues state else state).waiting = [] := by
  cases isOpen with
  | true =>
      exact ⟨owes.closeMsgQueues noneWaits,
        (waiting_closeMsgQueues state).trans noneWaits⟩
  | false => exact ⟨owes, noneWaits⟩

/-- The callback of a message id; the queues are closed only while no write
waits. -/
theorem Owes.messageCallback
    (owes : Owes events state)
    (id : MessageId)
    (conforms : id = .agentUninitializeMsg → state.waiting = []) :
    Owes events (messageCallback state id) := by
  cases id with
  | agentInitializeMsg =>
      exact {
        owes with
        isOpen := fun waits => ⟨(owes.isOpen waits).1, rfl⟩ }
  | agentUninitializeMsg =>
      obtain ⟨closed, stillNone⟩ :=
        owes.closeOpenQueues state.agentOpen (conforms rfl)
      exact {
        closed with
        isOpen := fun waits => absurd stillNone waits }
  | agentAckMsg => exact { owes with }
  | agentPingMsg => exact { owes with }
  | agentLoggingOnMsg => exact { owes with }
  | agentLoggingOffMsg => exact { owes with }
  | comOpenMsg => exact owes
  | comCloseMsg => exact owes

/-- The callback of a command that does not report a result. -/
theorem Owes.commandCallback
    {command : Tagged WriteCall DesktopCommand}
    (owes : Owes events state)
    (noReport : command.content.id ≠ PacketType.hciDataError.code)
    (conforms : ClosesQueues command → state.waiting = [])
    (called : commandCallback state command = some next) :
    Owes events next := by
  by_cases isMessage : command.content.id = PacketType.message.code
  · simp only [Bridge.commandCallback, if_pos isMessage] at called
    split at called
    · cases called
      exact owes
    · rename_i id decoded
      cases called
      apply owes.messageCallback
      intro closes
      rw [closes] at decoded
      exact conforms ⟨isMessage, decoded⟩
  · by_cases isData : command.content.id = PacketType.hciData.code
    · simp only [Bridge.commandCallback, if_neg isMessage, if_pos isData,
        Option.bind_eq_bind, Option.bind_eq_some_iff] at called
      obtain ⟨written, -, called⟩ := called
      cases written with
      | none =>
          cases called
          exact owes
      | some message =>
          by_cases empty : state.toDevice = none
          · simp only [if_pos empty] at called
            cases called
            exact { owes with }
          · simp only [if_neg empty] at called
            cases called
    · simp only [Bridge.commandCallback, if_neg isMessage, if_neg isData,
        if_neg noReport] at called
      cases called
      exact owes

/-- The callback of a command that reports a result, while the queues of the
agent are open: it waits for the error queue to be empty. -/
theorem commandCallback_errorCommand
    {state : State}
    (called : commandCallback state (errorCommand performance origin) =
      some next)
    (agentOpen : state.agentOpen) :
    state.errorQueue = none ∧
      next = {
        state with
        errorQueue := some {
          content := {
            dwLastError := performance.lastError
            performance := some performance }
          origin := origin } } := by
  have notMessage : PacketType.hciDataError.code ≠ PacketType.message.code := by
    decide
  have notData : PacketType.hciDataError.code ≠ PacketType.hciData.code := by
    decide
  simp only [Bridge.commandCallback, errorCommand, if_neg notMessage,
    if_neg notData, if_true, toDword?_ofDword, if_pos agentOpen] at called
  split at called
  · rename_i empty
    cases called
    exact ⟨empty, rfl⟩
  · cases called

/-- A command that belongs to no write is taken. -/
theorem Owes.takeOther
    (owes : Owes events state)
    (picked : pick state.toAgent index = some (reply, remaining))
    (noWrite : reply.origin = none) :
    Owes events { state with toAgent := remaining } := by
  obtain ⟨-, others⟩ := forall_of_pick picked owes.toAgent
  have removed := count_origins_of_pick picked
  refine {
    owes with
    toAgent := others
    conserved := ?_
    answered := ?_ }
  · intro call
    have before := owes.conserved call
    simp only [State.count_owed, removed, noWrite] at before
    simpa [State.count_owed] using before
  · intro call
    have before := owes.answered call
    simpa [removed, noWrite] using before

/-- A command that reports the result of a write is taken, and its callback
puts the result on the error queue. -/
theorem Owes.takeReport
    (owes : Owes events state)
    (picked : pick state.toAgent index =
      some (errorCommand performance (some call), remaining))
    (bytes : performance.bytes = call.array.bytes)
    (called : Bridge.commandCallback { state with toAgent := remaining }
      (errorCommand performance (some call)) = some next) :
    Owes events next := by
  obtain ⟨-, others⟩ := forall_of_pick picked owes.toAgent
  have removed : ∀ other, (Tagged.origins state.toAgent).count other =
      [call].count other + (Tagged.origins remaining).count other :=
    count_origins_of_pick picked
  have inFlight : call ∈ state.owed := by
    rw [← List.count_pos_iff, State.count_owed, removed]
    simp
  have waits : state.waiting ≠ [] :=
    List.ne_nil_of_mem (owes.mem_waiting inFlight)
  obtain ⟨driverOpen, agentOpen⟩ := owes.isOpen waits
  obtain ⟨empty, rfl⟩ := commandCallback_errorCommand called agentOpen
  change state.errorQueue = none at empty
  refine {
    owes with
    toAgent := others
    errorQueue := ?_
    conserved := ?_
    answered := ?_ }
  · intro report member
    obtain rfl := Option.mem_some_iff.mp (Option.mem_toList.mp member)
    exact ⟨call, performance, rfl, bytes, rfl⟩
  · intro other
    have before := owes.conserved other
    simp only [State.count_owed, removed, empty, Option.toList_some,
      Option.toList_none, Tagged.origins_cons, Tagged.origins_nil,
      List.append_nil, List.count_nil] at before ⊢
    omega
  · intro other
    have before := owes.answered other
    simp only [removed, empty, Option.toList_some, Option.toList_none,
      Tagged.origins_cons, Tagged.origins_nil, List.append_nil,
      List.count_nil] at before ⊢
    omega

theorem Owes.runCallback
    (owes : Owes events state)
    (conforms : (∃ command ∈ state.toAgent[index]?, ClosesQueues command) →
      state.waiting = [])
    (stepped : runCallback state index = some (event, next)) :
    Owes (events ++ [event]) next := by
  simp only [Bridge.runCallback, Option.bind_eq_bind,
    Option.bind_eq_some_iff, Prod.exists, Option.some.injEq,
    Prod.mk.injEq] at stepped
  obtain ⟨command, toAgent, picked, _, called, rfl, rfl⟩ := stepped
  obtain ⟨carries, -⟩ := forall_of_pick picked owes.toAgent
  have present := (pick_eq_some_iff.mp picked).1
  apply Owes.quiet _ rfl rfl
  obtain ⟨content, origin⟩ := command
  unfold ReplyCarries at carries
  cases origin with
  | none =>
      exact (owes.takeOther picked rfl).commandCallback carries
        (fun closes => conforms ⟨_, present, closes⟩) called
  | some call =>
      obtain ⟨performance, bytes, rfl⟩ := carries
      exact owes.takeReport picked bytes called

theorem Owes.activate
    (owes : Owes events state)
    (activation : Activation) :
    Owes events (activate state activation) := by
  cases activation with
  | skipped => exact owes
  | refused => exact { owes with }
  | registered =>
      exact {
        owes with
        isOpen := fun waits => ⟨rfl, (owes.isOpen waits).2⟩ }

theorem Owes.deactivateDriver
    (owes : Owes events state)
    (noneWaits : state.waiting = []) :
    Owes events (deactivateDriver state) := by
  unfold Bridge.deactivateDriver
  split
  · obtain ⟨closed, stillNone⟩ :=
      owes.closeOpenQueues state.driverOpen noneWaits
    exact {
      closed with
      isOpen := fun waits => absurd stillNone waits }
  · exact owes

/-- A message id goes to the desktop without belonging to a write. -/
theorem Owes.sendMessage
    (owes : Owes events state)
    (id : MessageId)
    (accepted : Bool) :
    Owes events (sendMessage state id accepted) := by
  obtain ⟨command, present⟩ := owes.command
  have sent : sendCommandMessage PacketType.message.code id.code accepted
      state.command = {
        returned := accepted
        pushed := some ⟨PacketType.message.code, [.dword id.code]⟩
        command := some [.dword id.code] } := by
    rw [present]
    rfl
  unfold Bridge.sendMessage
  rw [sent]
  cases accepted with
  | false =>
      exact {
        owes with
        command := ⟨_, rfl⟩
        toDesktop := by simpa using owes.toDesktop
        conserved := by
          intro call
          simpa [State.count_owed] using owes.conserved call }
  | true =>
      refine {
        owes with
        command := ⟨_, rfl⟩
        toDesktop := forall_mem_concat owes.toDesktop rfl
        conserved := ?_ }
      · intro call
        simpa [State.count_owed] using owes.conserved call

theorem Owes.resumeCallback
    (owes : Owes events state)
    (conforms : state.callbacks[index]? = some .deactivate →
      state.waiting = [])
    (stepped : resumeCallback state index activation accepted =
      some (event, next)) :
    Owes (events ++ [event]) next := by
  simp only [Bridge.resumeCallback, Option.bind_eq_bind,
    Option.bind_eq_some_iff, Prod.exists] at stepped
  obtain ⟨callback, callbacks, picked, stepped⟩ := stepped
  have present := (pick_eq_some_iff.mp picked).1
  cases callback with
  | activate =>
      cases stepped
      apply Owes.quiet _ rfl rfl
      apply Owes.activate
      exact { owes with }
  | deactivate =>
      cases stepped
      apply Owes.quiet _ rfl rfl
      apply Owes.deactivateDriver
      · exact { owes with }
      · exact conforms present
  | send id =>
      cases stepped
      apply Owes.quiet _ rfl rfl
      apply Owes.sendMessage
      exact { owes with }

/-! ## The plugin -/

/-- A command that belongs to no write and does not report a result. -/
theorem Owes.sendCommand
    {command : Tagged WriteCall DesktopCommand}
    (owes : Owes events state)
    (noWrite : command.origin = none)
    (noReport : command.content.id ≠ PacketType.hciDataError.code) :
    Owes events (sendCommand state command) := by
  unfold Bridge.sendCommand
  split
  · refine {
      owes with
      toAgent := ?_
      conserved := ?_
      answered := ?_ }
    · apply forall_mem_concat owes.toAgent
      rw [ReplyCarries, noWrite]
      exact noReport
    · intro call
      simpa [State.count_owed, noWrite] using owes.conserved call
    · intro call
      simpa [noWrite] using owes.answered call
  · exact owes

theorem Owes.sendCommand_messageCommand
    (owes : Owes events state)
    (id : MessageId) :
    Owes events (Bridge.sendCommand state (messageCommand id)) := by
  have noReport : PacketType.message.code ≠ PacketType.hciDataError.code := by
    decide
  exact owes.sendCommand rfl noReport

theorem Owes.messageReceived
    (owes : Owes events state)
    (id : MessageId) :
    Owes events (messageReceived state id) := by
  cases id with
  | agentAckMsg => exact owes.sendCommand_messageCommand _
  | agentInitializeMsg => exact owes.sendCommand_messageCommand _
  | agentUninitializeMsg => exact owes.sendCommand_messageCommand _
  | comCloseMsg => exact owes.sendCommand_messageCommand _
  | agentLoggingOnMsg => exact owes
  | agentLoggingOffMsg => exact owes
  | comOpenMsg => exact owes
  | agentPingMsg => exact owes

/-- A command that belongs to no write only makes the plugin send messages. -/
theorem Owes.commandPacketReceived
    {command : Tagged WriteCall Command}
    (owes : Owes events state)
    (isMessage : command.content.id = PacketType.message.code) :
    Owes events (commandPacketReceived state command) := by
  rw [Bridge.commandPacketReceived, if_pos isMessage]
  split
  · split
    · exact owes.messageReceived _
    · exact owes
  · exact owes

/-- The bytes of a write that fits are given to `OnDeviceDataReceived`. -/
theorem nextTask_bytes
    {call : WriteCall}
    (fits : call.Fits) :
    nextTask [.bytes call.array.bytes] =
      some (.sending call.array.bytes []) := by
  rw [nextTask]
  exact if_pos fits.1

theorem Owes.receiveCommand
    (owes : Owes events state)
    (stepped : receiveCommand state index = some (event, next)) :
    Owes (events ++ [event]) next := by
  simp only [Bridge.receiveCommand, Option.bind_eq_bind,
    Option.bind_eq_some_iff, Prod.exists, Option.some.injEq,
    Prod.mk.injEq] at stepped
  obtain ⟨command, toDesktop, picked, rfl, rfl⟩ := stepped
  obtain ⟨carries, others⟩ := forall_of_pick picked owes.toDesktop
  have removed := count_origins_of_pick picked
  apply Owes.quiet _ rfl rfl
  obtain ⟨content, origin⟩ := command
  unfold CommandCarries at carries
  cases origin with
  | none =>
      have kept : Owes events { state with toDesktop := toDesktop } := by
        refine {
          owes with
          toDesktop := others
          conserved := ?_ }
        intro call
        have before := owes.conserved call
        simp only [State.count_owed, removed] at before
        simpa [State.count_owed] using before
      exact kept.commandPacketReceived carries
  | some call =>
      obtain ⟨fits, rfl⟩ := carries
      have notMessage : PacketType.hciData.code ≠ PacketType.message.code := by
        decide
      simp only [Bridge.commandPacketReceived, if_neg notMessage, if_true,
        continueTask, nextTask_bytes fits]
      refine {
        owes with
        toDesktop := others
        tasks := forall_mem_concat owes.tasks ⟨call, rfl, Or.inl rfl⟩
        conserved := ?_ }
      · intro other
        have before := owes.conserved other
        simp only [State.count_owed, removed] at before
        simp [State.count_owed] at before ⊢
        omega

theorem Owes.performTask
    (owes : Owes events state)
    (stepped : performTask state index ret lastWin32Error =
      some (event, next)) :
    Owes (events ++ [event]) next := by
  simp only [Bridge.performTask, Option.bind_eq_bind,
    Option.bind_eq_some_iff, Prod.exists] at stepped
  obtain ⟨task, tasks, picked, stepped⟩ := stepped
  obtain ⟨⟨call, origin, carries⟩, others⟩ :=
    forall_of_pick picked owes.tasks
  have removed := count_origins_of_pick picked
  rcases carries with content | ⟨performance, -, content⟩
  · rw [content] at stepped
    cases stepped
    apply Owes.quiet _ rfl rfl
    refine {
      owes with
      tasks := forall_mem_concat others ⟨call, origin, Or.inr ⟨_, rfl, rfl⟩⟩
      conserved := ?_ }
    · intro other
      have before := owes.conserved other
      simp only [State.count_owed, removed] at before
      simp only [State.count_owed, Tagged.origins_append,
        Tagged.origins_cons, Tagged.origins_nil, List.append_nil,
        List.count_append]
      omega
  · rw [content] at stepped
    cases stepped

theorem Owes.replyTask
    (owes : Owes events state)
    (conforms : state.connected ∧ state.devId)
    (stepped : replyTask state index = some (event, next)) :
    Owes (events ++ [event]) next := by
  simp only [Bridge.replyTask, Option.bind_eq_bind,
    Option.bind_eq_some_iff, Prod.exists] at stepped
  obtain ⟨task, tasks, picked, stepped⟩ := stepped
  obtain ⟨⟨call, origin, carries⟩, others⟩ :=
    forall_of_pick picked owes.tasks
  have removed := count_origins_of_pick picked
  rcases carries with content | ⟨performance, bytes, content⟩
  · rw [content] at stepped
    cases stepped
  · rw [content] at stepped
    simp only [if_pos conforms, origin, Option.some.injEq,
      Prod.mk.injEq] at stepped
    obtain ⟨rfl, rfl⟩ := stepped
    have moreAnswers : answers (events ++ [.answered (some call)]) =
        answers events ++ [call] := by
      simp [answers, Event.answeredCall]
    have sameReturns : returns (events ++ [.answered (some call)]) =
        returns events := by
      simp [returns, Event.returnedCall]
    simp only [Bridge.sendCommand, if_pos conforms, continueTask, nextTask,
      Option.toList_none, List.map_nil, List.append_nil]
    refine {
      owes with
      tasks := others
      toAgent := forall_mem_concat owes.toAgent ⟨performance, bytes, rfl⟩
      conserved := ?_
      answered := ?_
      distinct := ?_
      ownReply := ?_ }
    · intro other
      have before := owes.conserved other
      simp only [State.count_owed, removed, origin] at before
      simp only [State.count_owed, Tagged.origins_append,
        Tagged.origins_cons, Tagged.origins_nil, List.append_nil,
        List.count_append, errorCommand]
      omega
    · intro other
      have before := owes.answered other
      rw [moreAnswers, sameReturns, List.count_append]
      simp only [Tagged.origins_append, Tagged.origins_cons,
        Tagged.origins_nil, List.append_nil, List.count_append,
        errorCommand, Option.toList_some]
      omega
    · rw [sameReturns]
      exact owes.distinct
    · intro other report result member
      rcases List.mem_append.mp member with earlier | last
      · exact owes.ownReply other report result earlier
      · cases List.mem_singleton.mp last

end Bridge
end BthEmul
