import BthEmul.Common.PacketContents

/-!
# Messages between the driver and the agent

The communication driver and the agent exchange packets over message queues of
the operating system. A queue takes messages of at most `cbMaxMessage` bytes;
whether it takes an empty one is left to the system.
-/

namespace BthEmul

open Foundation

/-- `MSG_BUFFER_SIZE`, which is also the `cbMaxMessage` of every queue. -/
def msgBufferSize : Nat := Packet.bufferSize

/-- `PACKET_TYPE`. -/
inductive PacketType
  | hciData
  | hciDataError
  | message
  deriving DecidableEq

/-- The value of a packet type. -/
def PacketType.code : PacketType → UInt32
  | .hciData => 0
  | .hciDataError => 1
  | .message => 2

/-- `MESSAGE_ID`. -/
inductive MessageId
  | agentAckMsg
  | agentPingMsg
  | agentInitializeMsg
  | agentUninitializeMsg
  | agentLoggingOnMsg
  | agentLoggingOffMsg
  | comOpenMsg
  | comCloseMsg
  deriving DecidableEq

/-- The value of a message id. -/
def MessageId.code : MessageId → UInt32
  | .agentAckMsg => 0
  | .agentPingMsg => 1
  | .agentInitializeMsg => 2
  | .agentUninitializeMsg => 3
  | .agentLoggingOnMsg => 4
  | .agentLoggingOffMsg => 5
  | .comOpenMsg => 6
  | .comCloseMsg => 7

/-- The message id with a value, if there is one. -/
def MessageId.ofCode (code : UInt32) : Option MessageId :=
  [.agentAckMsg, .agentPingMsg, .agentInitializeMsg, .agentUninitializeMsg,
    .agentLoggingOnMsg, .agentLoggingOffMsg, .comOpenMsg, .comCloseMsg].find?
      fun id => id.code = code

/-- A message of a queue. -/
structure Message where
  /-- The bytes of the message. -/
  bytes : List UInt8
  /-- No message is longer than `cbMaxMessage`. -/
  length_le : bytes.length ≤ msgBufferSize
  deriving DecidableEq

/-- An open message queue, as far as the sizes it takes are concerned. -/
structure MessageQueue where
  /-- Whether a write of the given size is accepted. -/
  takes : Nat → Bool
  /-- Messages up to `cbMaxMessage` are accepted. -/
  takes_of_fits : ∀ size, 0 < size → size ≤ msgBufferSize → takes size
  /-- Longer messages are refused. -/
  fits_of_takes : ∀ size, takes size → size ≤ msgBufferSize

/-- `WriteMsgQueue`: the message written, or `none` where the queue refuses
the size. The outer result is missing where the source block is overrun. -/
def MessageQueue.write
    (queue : MessageQueue)
    (buffer : Buffer UInt8 capacity)
    (size : Nat) : Option (Option Message) :=
  if taken : queue.takes size then
    match loaded : buffer.load 0 size with
    | none => none
    | some bytes =>
        some (some {
          bytes
          length_le := by
            rw [Buffer.length_of_load loaded]
            exact queue.fits_of_takes size taken })
  else some none

/-- A queue that takes empty messages as well. -/
def MessageQueue.lenient : MessageQueue where
  takes size := decide (size ≤ msgBufferSize)
  takes_of_fits _ _ fits := decide_eq_true fits
  fits_of_takes _ taken := of_decide_eq_true taken

/-- The message written is the front of the source block. -/
theorem MessageQueue.exists_write
    {queue : MessageQueue}
    {buffer : Buffer UInt8 capacity}
    (taken : queue.takes size)
    (loaded : buffer.load 0 size = some bytes) :
    ∃ message,
      queue.write buffer size = some (some message) ∧
        message.bytes = bytes := by
  unfold write
  rw [dif_pos taken]
  split
  · rename_i missing
    rw [missing] at loaded
    contradiction
  · rename_i other present
    rw [loaded] at present
    cases present
    exact ⟨_, rfl, rfl⟩

/-- A refused size leaves the queue alone. -/
theorem MessageQueue.write_of_refuses
    {queue : MessageQueue}
    {buffer : Buffer UInt8 capacity}
    (refused : ¬ queue.takes size) :
    queue.write buffer size = some none :=
  dif_neg refused

/-- A nonempty packet serialized into a block becomes a message with its
bytes. -/
theorem MessageQueue.exists_write_serialize
    (queue : MessageQueue)
    (packet : Packet)
    (nonempty : packet.written ≠ [])
    (buffer : Buffer UInt8 msgBufferSize) :
    ∃ filled message,
      packet.serialize buffer packet.length =
          some (packet.length, filled) ∧
        queue.write filled packet.length = some (some message) ∧
        message.bytes = packet.written := by
  obtain ⟨filled, serialized, loaded⟩ :=
    packet.exists_serialize buffer packet.writePos_le
  have sameLength : packet.written.length = packet.length :=
    packet.length_written
  have taken : queue.takes packet.length := by
    rw [← sameLength]
    exact queue.takes_of_fits _ (List.length_pos_of_ne_nil nonempty)
      packet.length_written_le
  obtain ⟨message, written, content⟩ := exists_write taken loaded
  exact ⟨filled, message, serialized, written, content⟩

/-- Copy a message into a block and deserialize it there. -/
def Message.deserialize (message : Message) : Option (Nat × Packet) := do
  let buffer ←
    (Buffer.fill msgBufferSize (0 : UInt8)).store 0 message.bytes
  Packet.fresh.deserialize buffer message.bytes.length

/-- The bytes of a message are the unread ones of the packet made from it. -/
theorem Message.exists_deserialize (message : Message) :
    ∃ packet,
      message.deserialize = some (message.bytes.length, packet) ∧
        packet.unread = message.bytes := by
  have fits := message.length_le
  obtain ⟨buffer, stored⟩ :=
    (Buffer.fill msgBufferSize (0 : UInt8)).exists_store 0 message.bytes
      (by omega)
  obtain ⟨packet, deserialized, unread, -⟩ :=
    Packet.fresh.exists_deserialize (Buffer.load_of_store stored) fits
  refine ⟨packet, ?_, unread⟩
  rw [deserialize, stored]
  exact deserialized

/-! ## Data packets -/

/-- The longest array that fits a packet behind a type field. -/
def payloadLimit : Nat := 4088

/-- `Packet packet; packet.writeInt( type ); packet.writeUCharArray( array,
length );`, where the results of both writes are dropped. -/
def typedPacket (type : UInt32) (array : CArray) : Option Packet := do
  let (_, typed) ← Packet.fresh.writeInt type.toInt32
  let (_, filled) ← typed.writeUCharArray array
  some filled

/-- The stored form of a type field. -/
def typeField (type : UInt32) : List UInt8 :=
  ValueType.int.toBytes type.toInt32

@[simp] theorem length_typeField (type : UInt32) :
    (typeField type).length = 4 :=
  ValueType.int.length_toBytes _

/-- A type field is not empty, whatever stands behind it. -/
theorem typeField_append_ne_nil (type : UInt32) (rest : List UInt8) :
    typeField type ++ rest ≠ [] := by
  intro empty
  have noBytes := congrArg List.length empty
  rw [List.length_append, length_typeField, List.length_nil] at noBytes
  omega

/-- A type field is not empty. -/
theorem typeField_ne_nil (type : UInt32) : typeField type ≠ [] := by
  simpa using typeField_append_ne_nil type []

/-- The type field is always written. -/
theorem exists_writeInt_type (type : UInt32) :
    ∃ typed,
      Packet.fresh.writeInt type.toInt32 = some (true, typed) ∧
        typed.written = typeField type := by
  obtain ⟨typed, done⟩ :=
    Packet.exists_writeValue ValueType.int Packet.fresh type.toInt32
      (by decide)
  refine ⟨typed, done, ?_⟩
  rw [(Packet.written_of_writeValue done).1, Packet.written_fresh,
    List.nil_append, typeField]

/-- A message id is written behind the type of messages. -/
theorem exists_writeInt_message (id : UInt32) :
    ∃ typed packet,
      Packet.fresh.writeInt PacketType.message.code.toInt32 =
          some (true, typed) ∧
        typed.writeInt id.toInt32 = some (true, packet) ∧
        packet.written = typeField PacketType.message.code ++ typeField id := by
  obtain ⟨typed, typeDone, typeWritten⟩ :=
    exists_writeInt_type PacketType.message.code
  obtain ⟨packet, idDone⟩ :=
    Packet.exists_writeValue ValueType.int typed id.toInt32 (by
      rw [typeWritten, length_typeField]
      decide)
  refine ⟨typed, packet, typeDone, idDone, ?_⟩
  rw [(Packet.written_of_writeValue idDone).1, typeWritten]
  rfl

/-- An array up to the limit is written behind the type field. -/
theorem exists_typedPacket
    (type : UInt32)
    {array : CArray}
    (fits : array.length ≤ payloadLimit) :
    ∃ packet,
      typedPacket type array = some packet ∧
        packet.written = typeField type ++ array.wire := by
  obtain ⟨typed, typeDone, typeWritten⟩ := exists_writeInt_type type
  obtain ⟨packet, arrayDone⟩ :=
    typed.exists_writeArray array (by
      rw [typeWritten, length_typeField, sizeOfSizeT, Packet.bufferSize]
      rw [payloadLimit] at fits
      omega)
  refine ⟨packet, ?_, ?_⟩
  · simp only [typedPacket, typeDone, Packet.writeUCharArray, arrayDone,
      Option.bind_eq_bind, Option.bind_some]
  · rw [(Packet.written_of_writeArray arrayDone).1, typeWritten, CArray.wire]

/-- A longer array leaves the packet with its type field alone. -/
theorem exists_typedPacket_long
    (type : UInt32)
    {array : CArray}
    (long : payloadLimit < array.length)
    (addressable : array.length + 8 < 2 ^ 32) :
    ∃ packet,
      typedPacket type array = some packet ∧
        packet.written = typeField type := by
  obtain ⟨typed, typeDone, typeWritten⟩ := exists_writeInt_type type
  have refused : typed.writeArray array = some (false, typed) := by
    apply Packet.writeArray_eq_false
    have headed : sizeAdd 4 sizeOfSizeT = 8 := rfl
    rw [payloadLimit] at long
    rw [typeWritten, length_typeField, headed, Packet.bufferSize,
      sizeAdd_eq (by omega)]
    omega
  refine ⟨typed, ?_, typeWritten⟩
  simp only [typedPacket, typeDone, Packet.writeUCharArray, refused,
    Option.bind_eq_bind, Option.bind_some]

/-- An array so long that the size computation wraps around is copied across
the end of the packet. -/
theorem typedPacket_eq_none
    (type : UInt32)
    {array : CArray}
    (wraps : 2 ^ 32 ≤ array.length + 8) :
    typedPacket type array = none := by
  obtain ⟨typed, typeDone, typeWritten⟩ := exists_writeInt_type type
  have bound : array.length < 2 ^ 32 := array.length_lt
  have leaves : typed.writeArray array = none := by
    apply Packet.writeArray_eq_none
    · rw [typeWritten, length_typeField, sizeOfSizeT, Packet.bufferSize]
      unfold sizeAdd
      omega
    · rw [typeWritten, length_typeField, sizeOfSizeT, Packet.bufferSize]
      omega
  simp only [typedPacket, typeDone, Packet.writeUCharArray, leaves,
    Option.bind_eq_bind, Option.bind_some, Option.bind_none]

end BthEmul
