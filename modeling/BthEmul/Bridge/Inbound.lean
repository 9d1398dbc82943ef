import BthEmul.Agent.Delivery
import BthEmul.Bridge.Acknowledgement
import BthEmul.Device.SerialPackets
import BthEmul.Foundation.Mailbox
import BthEmul.Runtime.Receiver

/-!
# From the runtime to the Bluetooth stack

A thread of the runtime hands an event or an ACL packet to the plugin, which
sends it to the agent as a data command. The agent puts it on the queue to the
driver, and the transport driver reads it through the cache of the
communication driver. Everything else that goes on between the desktop and the
device may happen in between.
-/

namespace BthEmul

open Foundation Agent SerialPort Transport BthEmul.Runtime

namespace Bridge

/-- The bridge, and the cache of the communication driver. -/
structure InboundState where
  /-- The driver, the agent, the plugin and what is between them. -/
  bridge : State
  /-- The cache behind `BTE_Read`. -/
  cache : Cache

/-- A thread of the runtime calls the listener, the stack reads a packet, or
one of the parties makes progress. -/
inductive InboundAction (cSize : Nat)
  | arrive (kind : ItemKind) (item : List UInt8)
  | readPacket (pBuff : BdBuffer cSize)
  | progress (action : Action)

/-- What an action shows. -/
inductive InboundEvent (cSize : Nat)
  | silent
  | arrived (bytes : List UInt8)
  | read (result : ReadPacketResult cSize)

/-- `EventHandler` and `DataEventHandler` up to `OnHciEvent`. -/
def arrive
    (state : InboundState)
    (kind : ItemKind)
    (item : List UInt8) : Option (InboundEvent cSize × InboundState) := do
  let bytes ← kind.handler item
  if length_lt : bytes.length < 2 ^ 32 then
    some (.arrived bytes, {
      state with bridge := hciEvent state.bridge { bytes, length_lt } })
  else none

/-- `HCI_ReadPacket` on the open port, where `ReadFile` is called at most the
given number of times for one `ReadCommPort`. A call that waits for a message
has no result. `ReadMsgQueue` fails where the driver has closed its handle. -/
def readPacket
    (calls : Nat)
    (state : InboundState)
    (pBuff : BdBuffer cSize) : Option (InboundEvent cSize × InboundState) := do
  let reader : Reader := {
    queue := state.bridge.toDevice.toList
    cache := state.cache }
  let fails := !state.bridge.driverOpen
  let (result, reader) ←
    ((portDriver fails).hciReadPacket true calls reader pBuff).toOption
  some (.read result, {
    bridge := { state.bridge with toDevice := reader.queue.head? }
    cache := reader.cache })

end Bridge

namespace Bridge

/-! ## Packets on their way -/

/-- The kind of packets an item is. -/
def packetKind : ItemKind → PacketKind
  | .event => .event
  | .packet => .acl

/-- A well-formed event or ACL packet that fits the buffer of the runtime. -/
def WellFormed (kind : ItemKind) (item : List UInt8) : Prop :=
  ∃ frame : Frame (packetKind kind).format,
    item = frame.bytes ∧ item.length ≤ kind.maxSize

/-- A packet behind its type byte, of a size the runtime can have. -/
def IsPacket (bytes : List UInt8) : Prop :=
  ∃ packet : HciPacket,
    bytes = packet.bytes ∧ packet.frame.bytes.length ≤ dataMaxSize

/-- The bytes a data command carries to the agent. -/
def commandData
    (command : Tagged WriteCall DesktopCommand) : Option (List UInt8) :=
  if command.content.id = PacketType.hciData.code then
    some command.content.parameter.content
  else none

/-- What is on its way to the driver: first what the queue holds, then the data
commands. -/
def State.inbound (state : State) : List (List UInt8) :=
  state.toDevice.toList.filterMap dataOf ++
    state.toAgent.filterMap commandData

/-- The packet a call of `HCI_ReadPacket` returned, with its type byte. -/
def received (result : ReadPacketResult cSize) : Option (List UInt8) := do
  if result.returned then
    let type ← result.peType
    let content ←
      result.pBuff.pBuffer.load result.pBuff.cStart result.pBuff.bufferTotal
    some (type.code :: content)
  else none

/-- The packets read. -/
def InboundEvent.reads : InboundEvent cSize → List (List UInt8)
  | .read result => (received result).toList
  | _ => []

/-! ## The conditions -/

/-- Items are well-formed. -/
def InboundAction.Regular : InboundAction cSize → Prop
  | .arrive kind item => WellFormed kind item
  | _ => True

/-- The agent looks at the data commands in the order in which they were
sent. -/
def InOrder (state : State) : Action → Prop
  | .runCallback index =>
      ∀ command ∈ state.toAgent[index]?, (commandData command).isSome →
        ∀ earlier ∈ state.toAgent.take index, commandData earlier = none
  | _ => True

/-- Data commands find the queues of the agent open, and the queues are not
closed while there is a message for the driver. -/
def Lossless (state : State) : Action → Prop
  | .runCallback index =>
      ∀ command ∈ state.toAgent[index]?,
        ((commandData command).isSome → state.agentOpen) ∧
          (commandData command = none → state.toDevice ≠ none →
            command.content.parameter.toDword?.bind MessageId.ofCode ≠
              some .agentUninitializeMsg)
  | .resumeCallback index _ _ =>
      state.callbacks[index]? = some .deactivate → state.toDevice = none
  | _ => True

instance decidableInOrder (state : State) :
    (action : Action) → Decidable (InOrder state action)
  | .runCallback _ => inferInstanceAs (Decidable (∀ _ ∈ (_ : Option _), _))
  | .callWrite _ | .callOpen | .callClose | .queueMessage _ | .returnWrite _
  | .readPort | .takeMessage | .forwardMessage _ _ | .resumeCallback _ _ _
  | .receiveCommand _ | .performTask _ _ _ | .replyTask _ | .sendAck
  | .sendPing | .setDeviceLogging _ | .hciEvent _ | .setConnected _ =>
      isTrue trivial

instance decidableLossless (state : State) :
    (action : Action) → Decidable (Lossless state action)
  | .runCallback _ => inferInstanceAs (Decidable (∀ _ ∈ (_ : Option _), _))
  | .resumeCallback _ _ _ => inferInstanceAs (Decidable (_ → _))
  | .callWrite _ | .callOpen | .callClose | .queueMessage _ | .returnWrite _
  | .readPort | .takeMessage | .forwardMessage _ _ | .receiveCommand _
  | .performTask _ _ _ | .replyTask _ | .sendAck | .sendPing
  | .setDeviceLogging _ | .hciEvent _ | .setConnected _ =>
      isTrue trivial

/-- No action changes the order of the packets. -/
def InboundAction.InOrder (state : InboundState) : InboundAction cSize → Prop
  | .progress action => Bridge.InOrder state.bridge action
  | _ => True

/-- No action loses a packet: the plugin is connected and has a device. -/
def InboundAction.Lossless (state : InboundState) :
    InboundAction cSize → Prop
  | .arrive _ _ => state.bridge.connected ∧ state.bridge.devId
  | .progress action => Bridge.Lossless state.bridge action
  | .readPacket _ => True

instance (state : InboundState) :
    (action : InboundAction cSize) → Decidable (action.InOrder state)
  | .arrive _ _ => isTrue trivial
  | .readPacket _ => isTrue trivial
  | .progress action => decidableInOrder state.bridge action

instance (state : InboundState) :
    (action : InboundAction cSize) → Decidable (action.Lossless state)
  | .arrive _ _ => inferInstanceAs (Decidable (_ ∧ _))
  | .readPacket _ => isTrue trivial
  | .progress action => decidableLossless state.bridge action

/-! ## The invariant -/

/-- The message carries a packet. -/
def MessageHolds (message : Message) : Prop :=
  ∃ payload, message = dataMessage payload ∧ IsPacket payload.array.bytes

/-- The command carries a packet if it carries data. -/
def CommandHolds (command : Tagged WriteCall DesktopCommand) : Prop :=
  command.content.id = PacketType.hciData.code →
    ∃ array, command.content.parameter = .ofBytes array ∧
      IsPacket array.bytes

/-- What is on its way to the driver are packets. -/
structure State.Carries (state : State) : Prop where
  /-- The message on the queue is a packet. -/
  toDevice : ∀ message ∈ state.toDevice, MessageHolds message
  /-- The data commands are packets. -/
  toAgent : ∀ command ∈ state.toAgent, CommandHolds command

/-- What is on its way are packets, and nothing of a packet is left in the
cache. -/
structure InboundState.Whole (state : InboundState) : Prop where
  /-- What is on its way are packets. -/
  carries : state.bridge.Carries
  /-- The cache is ordered. -/
  ordered : state.cache.Ordered
  /-- There is no data in the cache. -/
  noData : state.cache.dwDataSize = 0

/-! ## What the bridge does with the packets -/

/-- The queue to the driver stays, and only commands without data are sent. -/
structure Stays (state next : State) : Prop where
  /-- The message on the queue stays. -/
  toDevice : next.toDevice = state.toDevice
  /-- Only commands without data are sent. -/
  toAgent : ∃ others, next.toAgent = state.toAgent ++ others ∧
    ∀ command ∈ others, commandData command = none

/-- What is on its way stays. -/
theorem Stays.inbound_eq (stays : Stays state next) :
    next.inbound = state.inbound := by
  obtain ⟨others, toAgent, noData⟩ := stays.toAgent
  have nothing : others.filterMap commandData = [] :=
    List.filterMap_eq_nil_iff.mpr noData
  rw [State.inbound, stays.toDevice, toAgent, List.filterMap_append, nothing,
    List.append_nil, State.inbound]

/-- A command without data carries no packet. -/
theorem commandHolds_of_noData
    {command : Tagged WriteCall DesktopCommand}
    (noData : commandData command = none) :
    CommandHolds command := by
  intro isData
  rw [commandData, if_pos isData] at noData
  contradiction

/-- What is on its way are packets still. -/
theorem Stays.carries
    (stays : Stays state next)
    (carries : state.Carries) :
    next.Carries where
  toDevice := by
    rw [stays.toDevice]
    exact carries.toDevice
  toAgent := by
    obtain ⟨others, toAgent, noData⟩ := stays.toAgent
    rw [toAgent]
    intro command member
    rcases List.mem_append.mp member with earlier | new
    · exact carries.toAgent command earlier
    · exact commandHolds_of_noData (noData command new)

/-- The part of the bridge the packets are in stays, except that the queue to
the driver may be closed. -/
def Clears (state next : State) : Prop :=
  next.toAgent = state.toAgent ∧
    (next.toDevice = state.toDevice ∨ next.toDevice = none)

/-- What an action of the bridge does with the packets on their way. -/
inductive Movement (state next : State) (action : Action) : Prop
  /-- They stay. -/
  | stay : Stays state next → Movement state next action
  /-- The queue to the driver may be closed. -/
  | clear :
      Clears state next →
      (Lossless state action → next.toDevice = state.toDevice) →
      Movement state next action
  /-- The agent has looked at a command without data. -/
  | skip
      (command : Tagged WriteCall DesktopCommand) :
      pick state.toAgent index = some (command, next.toAgent) →
      commandData command = none →
      (next.toDevice = state.toDevice ∨ next.toDevice = none) →
      (Lossless state action → next.toDevice = state.toDevice) →
      Movement state next action
  /-- A packet has been lost. -/
  | lose
      (command : Tagged WriteCall DesktopCommand) :
      pick state.toAgent index = some (command, next.toAgent) →
      (commandData command).isSome →
      next.toDevice = state.toDevice →
      ¬ Lossless state action →
      Movement state next action
  /-- A packet has been put on the queue. -/
  | deliver
      (command : Tagged WriteCall DesktopCommand)
      (message : Message) :
      pick state.toAgent index = some (command, next.toAgent) →
      (InOrder state action →
        ∀ earlier ∈ state.toAgent.take index, commandData earlier = none) →
      commandData command = some bytes →
      state.toDevice = none →
      next.toDevice = some message →
      MessageHolds message →
      dataOf message = some bytes →
      Movement state next action

/-- An action of the bridge leaves packets on their way. -/
theorem Movement.carries
    (movement : Movement state next action)
    (carries : state.Carries) :
    next.Carries := by
  cases movement with
  | stay stays => exact stays.carries carries
  | clear clears kept =>
      refine ⟨?_, ?_⟩
      · rcases clears.2 with same | cleared
        · rw [same]
          exact carries.toDevice
        · rw [cleared]
          simp
      · rw [clears.1]
        exact carries.toAgent
  | skip command picked noData queue kept =>
      refine ⟨?_, (forall_of_pick picked carries.toAgent).2⟩
      rcases queue with same | cleared
      · rw [same]
        exact carries.toDevice
      · rw [cleared]
        simp
  | lose command picked data same lost =>
      refine ⟨?_, (forall_of_pick picked carries.toAgent).2⟩
      rw [same]
      exact carries.toDevice
  | deliver command message picked front data empty put holds content =>
      refine ⟨?_, (forall_of_pick picked carries.toAgent).2⟩
      rw [put]
      intro other member
      cases member
      exact holds

/-- What becomes of the packets on their way: they stay in order unless the
agent looks at commands out of order, and all stay unless some are lost. -/
theorem Movement.becomes
    {becomes : List (List UInt8) → List (List UInt8) → Prop}
    (handling : Handling becomes)
    (reorders : ¬ InOrder state action →
      ∀ items others, items.Perm others → becomes items others)
    (loses : ¬ Lossless state action →
      ∀ items others, others.Sublist items → becomes items others)
    (movement : Movement state next action) :
    becomes state.inbound next.inbound := by
  have queueSublist
      (queue : next.toDevice = state.toDevice ∨ next.toDevice = none) :
      (next.toDevice.toList.filterMap dataOf).Sublist
        (state.toDevice.toList.filterMap dataOf) := by
    rcases queue with same | cleared
    · rw [same]
    · rw [cleared]
      exact List.nil_sublist _
  have queueBecomes
      (queue : next.toDevice = state.toDevice ∨ next.toDevice = none)
      (kept : Lossless state action → next.toDevice = state.toDevice)
      (same : next.toAgent.filterMap commandData =
        state.toAgent.filterMap commandData) :
      becomes state.inbound next.inbound := by
    unfold State.inbound
    rw [same]
    by_cases lossless : Lossless state action
    · rw [kept lossless]
      exact handling.refl _
    · exact loses lossless _ _ ((queueSublist queue).append_right _)
  cases movement with
  | stay stays =>
      rw [stays.inbound_eq]
      exact handling.refl _
  | clear clears kept => exact queueBecomes clears.2 kept (by rw [clears.1])
  | skip command picked noData queue kept =>
      refine queueBecomes queue kept ?_
      obtain ⟨whole, remaining⟩ := filterMap_of_pick commandData picked
      rw [whole, remaining, noData]
      rfl
  | lose command picked data same lost =>
      obtain ⟨whole, remaining⟩ := filterMap_of_pick commandData picked
      apply loses lost
      unfold State.inbound
      rw [same, whole, remaining]
      exact ((List.sublist_append_right _ _).append_left _).append_left _
  | deliver command message picked front data empty put holds content =>
      obtain ⟨whole, remaining⟩ := filterMap_of_pick commandData picked
      unfold State.inbound
      rw [empty, put, whole, remaining, data]
      simp only [Option.toList_none, Option.toList_some, List.filterMap_nil,
        List.filterMap_cons, content, List.nil_append]
      by_cases inOrder : InOrder state action
      · rw [List.filterMap_eq_nil_iff.mpr (front inOrder)]
        exact handling.refl _
      · exact reorders inOrder _ _ List.perm_middle

/-! ## Reading and arriving -/

/-- A command complete event and an ACL packet arrive, the one is put on the
queue and read, and the other is behind it. -/
def eventAndPacket : List (InboundAction 1028) :=
  opening.map .progress ++
    [.arrive .event [14, 4, 1, 3, 12, 0], .arrive .packet [1, 0, 0, 0],
      .progress (.runCallback 0), .progress .sendPing,
      .readPacket { pBuffer := Buffer.fill 1028 0, cStart := 0, cEnd := 0 },
      .progress (.runCallback 0)]

end Bridge
end BthEmul
