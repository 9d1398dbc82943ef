import BthEmul.Bridge.Acknowledgement

/-!
# Results on their way

The plugin has a result for a write once `SendHCICommand` has returned, and
sends it to the agent, which puts it on the error queue. Nothing else makes a
result, so every action but the call itself only passes results on.
-/

namespace BthEmul

open Foundation Agent SerialPort

namespace Bridge

/-- The call of `BTE_Write` that an event ends, with its result. -/
def Event.ended : Event → Option (WriteCall × Except (Option UInt32) Nat)
  | .returned call _ result => some (call, result)
  | .failed call => some (call, .error none)
  | .silent | .called _ | .answered _ => none

/-- The result of `SendHCICommand` that a task sends back. -/
def Task.performance : Task → Option Performance
  | .sending _ _ => none
  | .replying performance _ => some performance

/-- The result is with one of some items that go back to a write. -/
def Bears
    (performance? : Content → Option Performance)
    (items : List (Tagged WriteCall Content))
    (origin : Option WriteCall)
    (performance : Performance) : Prop :=
  ∃ item ∈ items, item.origin = origin ∧
    performance? item.content = some performance

/-- The result is on its way to a write. -/
def Carried
    (state : State)
    (origin : Option WriteCall)
    (performance : Performance) : Prop :=
  Bears Task.performance state.tasks origin performance ∨
    Bears DesktopCommand.performance state.toAgent origin performance ∨
    Bears ErrorReport.performance state.errorQueue.toList origin performance

/-- The writes for which the plugin has a result. -/
def replyingCalls (tasks : List (Tagged WriteCall Task)) : List WriteCall :=
  tasks.filterMap fun task =>
    task.content.performance.bind fun _ => task.origin

theorem Bears.mono
    (bears : Bears performance? first origin performance)
    (subset : first ⊆ second) :
    Bears performance? second origin performance := by
  obtain ⟨item, member, same, here⟩ := bears
  exact ⟨item, subset member, same, here⟩

/-- An item without a result does not matter. -/
theorem Bears.of_concat
    (bears : Bears performance? (items ++ [last]) origin performance)
    (noResult : performance? last.content = none) :
    Bears performance? items origin performance := by
  obtain ⟨item, member, same, here⟩ := bears
  rcases List.mem_append.mp member with earlier | new
  · exact ⟨item, earlier, same, here⟩
  · rw [List.mem_singleton.mp new, noResult] at here
    cases here

/-- The items that are left were there. -/
theorem subset_of_pick
    (picked : pick items index = some (item, rest)) : rest ⊆ items := by
  intro each member
  exact (perm_of_pick picked).mem_iff.mpr (List.mem_cons_of_mem _ member)

/-- No write begins or ends, and no result is made or sent back. -/
structure Still (state next : State) : Prop where
  calls : next.calls = state.calls
  sending : next.sending = state.sending
  waiting : next.waiting = state.waiting
  replying : replyingCalls next.tasks = replyingCalls state.tasks
  carried : ∀ origin performance,
    Carried next origin performance → Carried state origin performance

theorem Still.refl (state : State) : Still state state :=
  ⟨rfl, rfl, rfl, rfl, fun _ _ => id⟩

theorem Still.trans
    (first : Still state middle)
    (second : Still middle next) : Still state next where
  calls := second.calls.trans first.calls
  sending := second.sending.trans first.sending
  waiting := second.waiting.trans first.waiting
  replying := second.replying.trans first.replying
  carried _ _ here := first.carried _ _ (second.carried _ _ here)

/-- The queues are closed, and what is on them is lost. -/
theorem still_closeMsgQueues (state : State) :
    Still state (closeMsgQueues state) := by
  unfold closeMsgQueues
  split
  · refine ⟨rfl, rfl, rfl, rfl, ?_⟩
    rintro _ _ (here | here | ⟨_, member, -⟩)
    · exact .inl here
    · exact .inr (.inl here)
    · cases member
  · exact ⟨rfl, rfl, rfl, rfl, fun _ _ => id⟩

/-- A command without a result is sent. -/
theorem still_sendCommand
    (state : State)
    {command : Tagged WriteCall DesktopCommand}
    (noResult : command.content.performance = none) :
    Still state (sendCommand state command) := by
  unfold sendCommand
  split
  · refine ⟨rfl, rfl, rfl, rfl, ?_⟩
    rintro _ _ (here | here | here)
    · exact .inl here
    · exact .inr (.inl (here.of_concat noResult))
    · exact .inr (.inr here)
  · exact .refl state

/-- The queues are closed if they are open. -/
theorem still_closeOpen (state : State) (isOpen : Bool) :
    Still state (if isOpen then closeMsgQueues state else state) := by
  cases isOpen with
  | true => exact still_closeMsgQueues state
  | false => exact .refl state

theorem still_messageCallback (state : State) (id : MessageId) :
    Still state (messageCallback state id) := by
  cases id with
  | agentUninitializeMsg =>
      have closed := still_closeOpen state state.agentOpen
      exact ⟨closed.calls, closed.sending, closed.waiting, closed.replying,
        closed.carried⟩
  | _ => exact ⟨rfl, rfl, rfl, rfl, fun _ _ => id⟩

theorem still_activate (state : State) (activation : Activation) :
    Still state (activate state activation) := by
  cases activation with
  | _ => exact ⟨rfl, rfl, rfl, rfl, fun _ _ => id⟩

theorem still_deactivateDriver (state : State) :
    Still state (deactivateDriver state) := by
  unfold deactivateDriver
  split
  · have closed := still_closeOpen state state.driverOpen
    exact ⟨closed.calls, closed.sending, closed.waiting, closed.replying,
      closed.carried⟩
  · exact .refl state

theorem still_messageReceived (state : State) (id : MessageId) :
    Still state (messageReceived state id) := by
  cases id with
  | agentAckMsg => exact still_sendCommand state rfl
  | agentInitializeMsg => exact still_sendCommand state rfl
  | agentUninitializeMsg => exact still_sendCommand state rfl
  | comCloseMsg => exact still_sendCommand state rfl
  | _ => exact .refl state

/-- The next task has no result yet. -/
theorem performance_of_nextTask
    (next : nextTask parameters = some task) : task.performance = none := by
  induction parameters with
  | nil => cases next
  | cons parameter rest inductionHypothesis =>
      cases parameter with
      | dword value => exact inductionHypothesis next
      | bytes content =>
          rw [nextTask] at next
          split at next
          · cases next
            rfl
          · exact inductionHypothesis next

/-- The plugin goes on with a data command. -/
theorem still_continueTask
    (state : State)
    (parameters : List Parameter)
    (origin : Option WriteCall) :
    Still state (continueTask state parameters origin) := by
  unfold continueTask
  cases found : nextTask parameters with
  | none =>
      simp only [Option.toList_none, List.map_nil, List.append_nil]
      exact .refl state
  | some task =>
      have noResult := performance_of_nextTask found
      refine ⟨rfl, rfl, rfl, ?_, ?_⟩
      · simp [replyingCalls, noResult]
      · rintro _ _ (here | here | here)
        · exact .inl (here.of_concat noResult)
        · exact .inr (.inl here)
        · exact .inr (.inr here)

theorem still_commandPacketReceived
    (state : State)
    (command : Tagged WriteCall Command) :
    Still state (commandPacketReceived state command) := by
  unfold commandPacketReceived
  split
  · split
    · split
      · exact still_messageReceived state _
      · exact .refl state
    · exact .refl state
  · split
    · exact still_continueTask state _ _
    · exact .refl state

/-- The callback of a command that does not report a result. -/
theorem still_commandCallback
    {command : Tagged WriteCall DesktopCommand}
    (noReport : command.content.id ≠ PacketType.hciDataError.code)
    (called : commandCallback state command = some next) :
    Still state next := by
  by_cases isMessage : command.content.id = PacketType.message.code
  · simp only [commandCallback, if_pos isMessage] at called
    split at called
    · cases called
      exact .refl state
    · cases called
      exact still_messageCallback state _
  by_cases isData : command.content.id = PacketType.hciData.code
  · simp only [commandCallback, if_neg isMessage, if_pos isData,
      Option.bind_eq_bind, Option.bind_eq_some_iff] at called
    obtain ⟨written, -, called⟩ := called
    cases written with
    | none =>
        cases called
        exact .refl state
    | some message =>
        by_cases empty : state.toDevice = none
        · simp only [if_pos empty] at called
          cases called
          exact ⟨rfl, rfl, rfl, rfl, fun _ _ => id⟩
        · simp only [if_neg empty] at called
          cases called
  · simp only [commandCallback, if_neg isMessage, if_neg isData,
      if_neg noReport] at called
    cases called
    exact .refl state

/-- The callback of a command that reports a result. -/
theorem commandCallback_cases
    {command : Tagged WriteCall DesktopCommand}
    (report : command.content.id = PacketType.hciDataError.code)
    (called : commandCallback state command = some next) :
    next = state ∨ ∃ dwLastError, next = {
      state with
      errorQueue := some {
        content := {
          dwLastError := dwLastError
          performance := command.content.performance }
        origin := command.origin } } := by
  have notMessage : command.content.id ≠ PacketType.message.code := by
    rw [report]
    decide
  have notData : command.content.id ≠ PacketType.hciData.code := by
    rw [report]
    decide
  simp only [commandCallback, if_neg notMessage, if_neg notData,
    if_pos report] at called
  split at called
  · cases called
    exact .inl rfl
  · rename_i dwLastError decoded
    by_cases isOpen : state.agentOpen
    · by_cases empty : state.errorQueue = none
      · simp only [if_pos isOpen, if_pos empty] at called
        cases called
        exact .inr ⟨dwLastError, rfl⟩
      · simp only [if_pos isOpen, if_neg empty] at called
        cases called
    · simp only [if_neg isOpen] at called
      cases called
      exact .inl rfl

/-- A command of the desktop is taken, and its result may be put on the error
queue. -/
theorem still_runCallback
    (stepped : runCallback state index = some (event, next)) :
    event = .silent ∧ Still state next := by
  simp only [runCallback, Option.bind_eq_bind, Option.bind_eq_some_iff,
    Prod.exists, Option.some.injEq, Prod.mk.injEq] at stepped
  obtain ⟨command, toAgent, picked, middle, called, rfl, rfl⟩ := stepped
  refine ⟨rfl, ?_⟩
  have fewer := subset_of_pick picked
  have taken : Still state { state with toAgent := toAgent } := by
    refine ⟨rfl, rfl, rfl, rfl, ?_⟩
    rintro _ _ (task | reply | report)
    · exact .inl task
    · exact .inr (.inl (reply.mono fewer))
    · exact .inr (.inr report)
  by_cases report : command.content.id = PacketType.hciDataError.code
  · rcases commandCallback_cases report called with rfl | ⟨dwLastError, rfl⟩
    · exact taken
    · refine ⟨rfl, rfl, rfl, rfl, ?_⟩
      rintro _ _ (task | reply | ⟨_, member, same, here⟩)
      · exact .inl task
      · exact .inr (.inl (reply.mono fewer))
      · -- what is on the error queue was in the command
        have present : command ∈ state.toAgent :=
          (perm_of_pick picked).mem_iff.mpr List.mem_cons_self
        cases List.mem_singleton.mp member
        exact .inr (.inl ⟨command, present, same, here⟩)
  · exact taken.trans (still_commandCallback report called)

theorem still_resumeCallback
    (stepped : resumeCallback state index activation accepted =
      some (event, next)) :
    event = .silent ∧ Still state next := by
  simp only [resumeCallback, Option.bind_eq_bind, Option.bind_eq_some_iff,
    Prod.exists] at stepped
  obtain ⟨callback, callbacks, picked, stepped⟩ := stepped
  cases callback with
  | activate =>
      cases stepped
      have after := still_activate { state with
        callbacks := callbacks ++ [.send .agentInitializeMsg] } activation
      exact ⟨rfl, after.calls, after.sending, after.waiting, after.replying,
        after.carried⟩
  | deactivate =>
      cases stepped
      have after := still_deactivateDriver { state with
        callbacks := callbacks ++ [.send .agentUninitializeMsg] }
      exact ⟨rfl, after.calls, after.sending, after.waiting, after.replying,
        after.carried⟩
  | send message =>
      cases stepped
      exact ⟨rfl, rfl, rfl, rfl, rfl, fun _ _ => id⟩

/-- A write ends with a report that was on the error queue, or since the driver
has closed its queues. -/
def EndsIn
    (state : State)
    (event : Event)
    (call : WriteCall)
    (result : Except (Option UInt32) Nat) : Prop :=
  (∃ report, event = .returned call report result ∧
      state.errorQueue = some report) ∨
    (event = .failed call ∧ result = .error none ∧ ¬ state.driverOpen)

/-- What an action other than a call of `BTE_Write` or of the runtime does to
the writes and the results: a write ends that was in progress, and a result is
sent back that the plugin had. -/
structure Passes (state : State) (event : Event) (next : State) : Prop where
  ends : ∀ call result, event.ended = some (call, result) →
    EndsIn state event call result
  calls : next.calls = state.calls
  writes : ((event.ended.map Prod.fst).toList ++
      (Tagged.origins next.sending ++ next.waiting)).Perm
    (Tagged.origins state.sending ++ state.waiting)
  replies : (event.answeredCall.toList ++ replyingCalls next.tasks).Perm
    (replyingCalls state.tasks)
  carried : ∀ origin performance,
    Carried next origin performance → Carried state origin performance

/-- No write ends. -/
theorem endsIn_of_none
    (noEnd : event.ended = none)
    (call : WriteCall)
    (result : Except (Option UInt32) Nat)
    (ended : event.ended = some (call, result)) :
    EndsIn state event call result := by
  rw [noEnd] at ended
  cases ended

theorem Still.passes
    (still : Still state next)
    (noEnd : event.ended = none)
    (noAnswer : event.answeredCall = none) : Passes state event next where
  ends := endsIn_of_none noEnd
  calls := still.calls
  writes := by
    rw [noEnd, still.sending, still.waiting]
    exact List.Perm.refl _
  replies := by
    rw [noAnswer, still.replying]
    exact List.Perm.refl _
  carried := still.carried

theorem passes_callPort
    {message : MessageId}
    (stepped : callPort state message = some (event, next)) :
    Passes state event next := by
  unfold callPort at stepped
  split at stepped
  · simp only [Option.bind_eq_bind, Option.bind_eq_some_iff,
      Option.some.injEq, Prod.mk.injEq] at stepped
    obtain ⟨content, -, rfl, rfl⟩ := stepped
    refine ⟨endsIn_of_none rfl, rfl, ?_, List.Perm.refl _, fun _ _ => id⟩
    simp [Event.ended]
  · cases stepped

theorem passes_queueMessage
    (stepped : queueMessage state index = some (event, next)) :
    Passes state event next := by
  simp only [queueMessage, Option.bind_eq_bind, Option.bind_eq_some_iff,
    Prod.exists] at stepped
  obtain ⟨message, sending, picked, stepped⟩ := stepped
  have taken := Tagged.perm_origins_of_pick picked
  split at stepped
  · split at stepped
    · cases stepped
      refine ⟨endsIn_of_none rfl, rfl, ?_, List.Perm.refl _, fun _ _ => id⟩
      have waits : (Tagged.origins sending ++
          (state.waiting ++ message.origin.toList)).Perm
            (Tagged.origins state.sending ++ state.waiting) := by
        rw [← List.append_assoc]
        refine List.perm_append_comm.trans ?_
        rw [← List.append_assoc]
        exact taken.symm.append_right _
      exact waits
    · cases stepped
  · rename_i closed
    split at stepped
    · rename_i call origin
      cases stepped
      refine ⟨?_, rfl, ?_, List.Perm.refl _, fun _ _ => id⟩
      · rintro _ _ ⟨⟩
        exact .inr ⟨rfl, rfl, closed⟩
      · rw [origin] at taken
        exact taken.symm.append_right _
    · rename_i origin
      cases stepped
      refine ⟨endsIn_of_none rfl, rfl, ?_, List.Perm.refl _, fun _ _ => id⟩
      rw [origin] at taken
      exact taken.symm.append_right _

theorem passes_returnWrite
    (stepped : returnWrite state index = some (event, next)) :
    Passes state event next := by
  simp only [returnWrite, Option.bind_eq_bind, Option.bind_eq_some_iff,
    Prod.exists] at stepped
  obtain ⟨call, waiting, picked, stepped⟩ := stepped
  have ends : (call :: (Tagged.origins state.sending ++ waiting)).Perm
      (Tagged.origins state.sending ++ state.waiting) :=
    List.perm_middle.symm.trans ((perm_of_pick picked).symm.append_left _)
  split at stepped
  · simp only [Option.bind_eq_some_iff, Option.some.injEq,
      Prod.mk.injEq] at stepped
    obtain ⟨report, reported, outcome, returned, rfl, rfl⟩ := stepped
    refine ⟨?_, rfl, ends, List.Perm.refl _, ?_⟩
    · rintro _ _ ⟨⟩
      exact .inl ⟨report, rfl, reported⟩
    rintro _ _ (task | reply | ⟨_, member, -⟩)
    · exact .inl task
    · exact .inr (.inl reply)
    · cases member
  · rename_i closed
    cases stepped
    refine ⟨?_, rfl, ends, List.Perm.refl _, fun _ _ => id⟩
    rintro _ _ ⟨⟩
    exact .inr ⟨rfl, rfl, closed⟩

/-- Taking out a task that has a result takes out its write. -/
theorem perm_replyingCalls_of_pick
    {tasks rest : List (Tagged WriteCall Task)}
    (picked : pick tasks index =
      some (⟨.replying performance parameters, origin⟩, rest)) :
    (replyingCalls tasks).Perm (origin.toList ++ replyingCalls rest) := by
  have same := (perm_of_pick picked).filterMap
    fun task : Tagged WriteCall Task =>
      task.content.performance.bind fun _ => task.origin
  cases origin with
  | none => exact same
  | some call => exact same

theorem passes_replyTask
    (conforms : state.connected ∧ state.devId)
    (stepped : replyTask state index = some (event, next)) :
    Passes state event next := by
  simp only [replyTask, Option.bind_eq_bind, Option.bind_eq_some_iff,
    Prod.exists] at stepped
  obtain ⟨⟨content, origin⟩, tasks, picked, stepped⟩ := stepped
  cases content with
  | sending bytes rest => cases stepped
  | replying performance rest =>
      have taken := perm_replyingCalls_of_pick picked
      simp only [if_pos conforms, Option.some.injEq, Prod.mk.injEq] at stepped
      obtain ⟨rfl, rfl⟩ := stepped
      rw [sendCommand, if_pos conforms]
      have went := still_continueTask { state with
        tasks := tasks
        toAgent := state.toAgent ++ [errorCommand performance origin] }
        rest origin
      refine ⟨endsIn_of_none rfl, went.calls, ?_, ?_, ?_⟩
      · rw [went.sending, went.waiting]
        exact List.Perm.refl _
      · rw [went.replying]
        exact taken.symm
      · intro other result carried
        rcases went.carried _ _ carried with task | reply | report
        · exact .inl (task.mono (subset_of_pick picked))
        · obtain ⟨command, member, same, here⟩ := reply
          rcases List.mem_append.mp member with earlier | new
          · exact .inr (.inl ⟨command, earlier, same, here⟩)
          · -- the result was with the task
            cases List.mem_singleton.mp new
            have present : ⟨.replying performance rest, origin⟩ ∈ state.tasks :=
              (perm_of_pick picked).mem_iff.mpr List.mem_cons_self
            exact .inl ⟨_, present, same, here⟩
        · exact .inr (.inr report)

/-- Every other action that conforms only passes things on. -/
theorem passes_of_step
    (notWrite : ∀ array, action ≠ .callWrite array)
    (notRuntime : ∀ index ret lastWin32Error,
      action ≠ .performTask index ret lastWin32Error)
    (conforms : Conforms state action)
    (stepped : step state action = some (event, next)) :
    Passes state event next := by
  cases action with
  | callWrite array => exact absurd rfl (notWrite array)
  | callOpen => exact passes_callPort stepped
  | callClose => exact passes_callPort stepped
  | queueMessage index => exact passes_queueMessage stepped
  | returnWrite index => exact passes_returnWrite stepped
  | readPort =>
      rw [step, readPort] at stepped
      split at stepped
      · cases stepped
        exact Still.passes ⟨rfl, rfl, rfl, rfl, fun _ _ => id⟩ rfl rfl
      · cases stepped
  | takeMessage =>
      rw [step, takeMessage] at stepped
      split at stepped
      · split at stepped
        · cases stepped
        · cases stepped
          exact Still.passes ⟨rfl, rfl, rfl, rfl, fun _ _ => id⟩ rfl rfl
      · cases stepped
  | forwardMessage index accepted =>
      simp only [step, forwardMessage, Option.bind_eq_bind,
        Option.bind_eq_some_iff, Prod.exists, Option.some.injEq,
        Prod.mk.injEq] at stepped
      obtain ⟨message, forwarding, -, pushed, command, -, rfl, rfl⟩ := stepped
      exact Still.passes ⟨rfl, rfl, rfl, rfl, fun _ _ => id⟩ rfl rfl
  | runCallback index =>
      obtain ⟨rfl, still⟩ := still_runCallback stepped
      exact still.passes rfl rfl
  | resumeCallback index activation accepted =>
      obtain ⟨rfl, still⟩ := still_resumeCallback stepped
      exact still.passes rfl rfl
  | receiveCommand index =>
      simp only [step, receiveCommand, Option.bind_eq_bind,
        Option.bind_eq_some_iff, Prod.exists, Option.some.injEq,
        Prod.mk.injEq] at stepped
      obtain ⟨command, toDesktop, -, rfl, rfl⟩ := stepped
      have received := still_commandPacketReceived
        { state with toDesktop := toDesktop } command
      exact (⟨received.calls, received.sending, received.waiting,
        received.replying, received.carried⟩ : Still state _).passes rfl rfl
  | performTask index ret lastWin32Error =>
      exact absurd rfl (notRuntime index ret lastWin32Error)
  | replyTask index => exact passes_replyTask conforms stepped
  | sendAck =>
      cases stepped
      exact (still_sendCommand state rfl).passes rfl rfl
  | sendPing =>
      cases stepped
      exact (still_sendCommand state rfl).passes rfl rfl
  | setDeviceLogging deviceLogging =>
      cases stepped
      have sent := still_sendCommand
        { state with deviceLogging := deviceLogging }
        (rfl : (messageCommand (if deviceLogging then .agentLoggingOnMsg
          else .agentLoggingOffMsg)).content.performance = none)
      exact (⟨sent.calls, sent.sending, sent.waiting, sent.replying,
        sent.carried⟩ : Still state _).passes rfl rfl
  | hciEvent array =>
      cases stepped
      exact (still_sendCommand state rfl).passes rfl rfl
  | setConnected connected =>
      cases stepped
      exact Still.passes ⟨rfl, rfl, rfl, rfl, fun _ _ => id⟩ rfl rfl

end Bridge
end BthEmul
