import BthEmul.Bridge.Invariant

/-!
# Acknowledgement of writes

Requests and replies carry no number, so a reply reaches the write it is about
only because nothing else is on its way. In every run in which writes are of a
size the bridge carries, one at a time and not across a close of the queues,
and in which the transport takes what it is given, each write is answered once,
with the result of sending its own bytes, and none waits for a reply that is
not on its way.
-/

namespace BthEmul

open Foundation Agent SerialPort

namespace Bridge

/-! ## The property -/

/-- No message is in a queue or on its way, and the agent and the plugin have
nothing to do. -/
@[mk_iff]
structure State.Quiescent (state : State) : Prop where
  sending : state.sending = []
  fromDevice : state.fromDevice = none
  toDevice : state.toDevice = none
  errorQueue : state.errorQueue = none
  forwarding : state.forwarding = []
  callbacks : state.callbacks = []
  toDesktop : state.toDesktop = []
  toAgent : state.toAgent = []
  tasks : state.tasks = []

instance (state : State) : Decidable state.Quiescent :=
  decidable_of_iff' _ (State.quiescent_iff state)

/-- What is shown of the events and the state of a run. -/
structure Acknowledged (events : List Event) (state : State) : Prop where
  /-- A write consumes the result of sending its own bytes. -/
  ownReply : ∀ call report result,
    .returned call report result ∈ events → OwnReply call report result
  /-- A write that consumed a code was answered exactly once. -/
  answered_once : ∀ call ∈ returns events, (answers events).count call = 1
  /-- No write is answered twice. -/
  answered_le : ∀ call, (answers events).count call ≤ 1
  /-- No write waits for a reply when nothing is going on. -/
  noneWaits : state.Quiescent → state.waiting = []

/-! ## The condition -/

/-- A write has a size the bridge carries. Its message enters the queue while
the queues of the agent are open and no other write waits for its reply, and
no queue is closed while a write does. The message of a write is accepted by
`PushCommand`, and the plugin is connected when it replies. -/
def Conforms (state : State) : Action → Prop
  | .callWrite array => 0 < array.length ∧ array.length ≤ payloadLimit
  | .queueMessage index =>
      OfWrite state.sending index → state.driverOpen →
        state.waiting = [] ∧ state.agentOpen
  | .forwardMessage index accepted =>
      OfWrite state.forwarding index → accepted
  | .runCallback index =>
      (∃ command ∈ state.toAgent[index]?, ClosesQueues command) →
        state.waiting = []
  | .resumeCallback index _ _ =>
      state.callbacks[index]? = some .deactivate → state.waiting = []
  | .replyTask _ => state.connected ∧ state.devId
  | _ => True

instance decidableConforms (state : State) :
    (action : Action) → Decidable (Conforms state action)
  | .callWrite _ => inferInstanceAs (Decidable (_ ∧ _))
  | .queueMessage _ =>
      inferInstanceAs (Decidable ((_ : Option WriteCall).isSome → _ → _ ∧ _))
  | .forwardMessage _ _ =>
      inferInstanceAs (Decidable ((_ : Option WriteCall).isSome → _))
  | .runCallback index =>
      inferInstanceAs (Decidable ((∃ command ∈ state.toAgent[index]?,
        command.content.id = PacketType.message.code ∧
          command.content.parameter.toDword?.bind MessageId.ofCode =
            some .agentUninitializeMsg) → _))
  | .resumeCallback _ _ _ => inferInstanceAs (Decidable (_ → _))
  | .replyTask _ => inferInstanceAs (Decidable (_ ∧ _))
  | .callOpen | .callClose | .returnWrite _ | .readPort | .takeMessage
  | .receiveCommand _ | .performTask _ _ _ | .sendAck | .sendPing
  | .setDeviceLogging _ | .hciEvent _ | .setConnected _ => isTrue trivial

/-! ## Runs -/

/-- Every action that conforms keeps the invariant. -/
theorem Owes.step
    (owes : Owes events state)
    (conforms : Conforms state action)
    (stepped : step state action = some (event, next)) :
    Owes (events ++ [event]) next := by
  cases action with
  | callWrite array => exact owes.callWrite conforms stepped
  | callOpen => exact owes.callPort stepped
  | callClose => exact owes.callPort stepped
  | queueMessage index => exact owes.queueMessage conforms stepped
  | returnWrite index => exact owes.returnWrite stepped
  | readPort => exact owes.readPort stepped
  | takeMessage => exact owes.takeMessage stepped
  | forwardMessage index accepted =>
      exact owes.forwardMessage conforms stepped
  | runCallback index => exact owes.runCallback conforms stepped
  | resumeCallback index activation accepted =>
      exact owes.resumeCallback conforms stepped
  | receiveCommand index => exact owes.receiveCommand stepped
  | performTask index ret lastWin32Error => exact owes.performTask stepped
  | replyTask index => exact owes.replyTask conforms stepped
  | sendAck =>
      cases stepped
      exact (owes.sendCommand_messageCommand _).quiet rfl rfl
  | sendPing =>
      cases stepped
      exact (owes.sendCommand_messageCommand _).quiet rfl rfl
  | setDeviceLogging deviceLogging =>
      cases stepped
      apply Owes.quiet _ rfl rfl
      apply Owes.sendCommand_messageCommand
      exact { owes with }
  | hciEvent array =>
      cases stepped
      have noReport :
          PacketType.hciData.code ≠ PacketType.hciDataError.code := by
        decide
      exact (owes.sendCommand rfl noReport).quiet rfl rfl
  | setConnected connected =>
      cases stepped
      apply Owes.quiet _ rfl rfl
      exact { owes with }

/-- The invariant gives what is to be shown. -/
theorem Owes.acknowledged
    (owes : Owes events state) :
    Acknowledged events state where
  ownReply := owes.ownReply
  answered_once call returned := by
    have consumed := List.count_pos_iff.mpr returned
    have answered := owes.answered call
    have distinct := owes.distinct call
    have conserved := owes.conserved call
    rw [State.count_owed] at conserved
    split at distinct <;> omega
  answered_le call := by
    have answered := owes.answered call
    have distinct := owes.distinct call
    have conserved := owes.conserved call
    rw [State.count_owed] at conserved
    split at distinct <;> omega
  noneWaits quiescent := by
    rw [List.eq_nil_iff_forall_not_mem]
    intro call waits
    have waiting := List.count_pos_iff.mpr waits
    rw [← owes.conserved, State.count_owed, quiescent.fromDevice,
      quiescent.forwarding, quiescent.toDesktop, quiescent.tasks,
      quiescent.toAgent, quiescent.errorQueue] at waiting
    exact absurd waiting (Nat.lt_irrefl 0)

/-- In every run of conforming actions each write is answered once, with the
result of sending its own bytes, and none waits in vain. -/
theorem acknowledged_of_run
    (devId : Bool)
    (actions : List Action)
    (events : List Event)
    (final : State)
    (conforms : bridgeMachine.Admits Conforms (start devId) actions)
    (ran : bridgeMachine.run (start devId) actions = some (events, final)) :
    Acknowledged events final := by
  have owes := Machine.holds_of_run
    (fun history state => Owes (history.map Prod.snd) state)
    (fun history state action event next owes conforms stepped => by
      rw [List.map_append]
      exact owes.step conforms stepped)
    [] (owes_start devId) conforms ran
  rw [List.nil_append,
    List.map_snd_zip (Machine.length_of_run ran).le] at owes
  exact owes.acknowledged

/-- The actions from the first message of the plugin to an open driver. -/
def opening : List Action :=
  [.sendAck, .runCallback 0, .resumeCallback 0 .skipped true,
    .receiveCommand 0, .runCallback 0, .resumeCallback 0 .registered true,
    .resumeCallback 0 .skipped true, .receiveCommand 0, .runCallback 0,
    .resumeCallback 0 .skipped true, .receiveCommand 0]

/-- The actions from a call of `BTE_Write` to the plugin. -/
def writing (array : CArray) : List Action :=
  [.callWrite array, .queueMessage 0, .takeMessage, .forwardMessage 0 true,
    .receiveCommand 0]

/-- The actions from `SendHCICommand` back to `BTE_Write`. -/
def answering : List Action :=
  [.performTask 0 1 0, .replyTask 0, .runCallback 0, .returnWrite 0]

/-- Three bytes. -/
def threeBytes : CArray where
  bytes := [1, 2, 3]
  length_lt := by decide

/-- No bytes. -/
def noBytes : CArray where
  bytes := []
  length_lt := by decide

theorem acknowledged_three_bytes :
    ∃ events final,
      bridgeMachine.run (start true)
          (opening ++ writing threeBytes ++ answering) =
        some (events, final) ∧
      Acknowledged events final := by
  obtain ⟨⟨events, final⟩, ran⟩ := Option.isSome_iff_exists.mp
    (show (bridgeMachine.run (start true)
      (opening ++ writing threeBytes ++ answering)).isSome by decide +kernel)
  exact ⟨events, final, ran,
    acknowledged_of_run true _ events final (by decide +kernel) ran⟩

/-- The plugin does not answer a write without bytes, which waits forever. -/
theorem not_acknowledged_no_bytes :
    ∃ events final,
      bridgeMachine.run (start true) (opening ++ writing noBytes) =
        some (events, final) ∧
      ¬ Acknowledged events final := by
  obtain ⟨events, final, same, quiescent, waits⟩ :
      ∃ events final,
        bridgeMachine.run (start true) (opening ++ writing noBytes) =
          some (events, final) ∧
        final.Quiescent ∧ final.waiting ≠ [] := by
    decide +kernel
  exact ⟨events, final, same, fun acknowledged =>
    waits (acknowledged.noneWaits quiescent)⟩

end Bridge
end BthEmul
