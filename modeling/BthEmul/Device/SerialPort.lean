import BthEmul.Common.MessageQueue

/-!
# The communication driver

The read and write routines of the virtual serial port. A write is packed into
a message for the agent and answered over the error queue. A read is served
from a cache that is refilled from the read queue one message at a time.

A call takes what the operating system answers as arguments: the message
received by `ReadMsgQueue`, if it succeeds, and the queue behind a handle, if
the handle is not null. The routines return the bytes transferred or the error
passed to `SetLastError`.
-/

namespace BthEmul

open Foundation

namespace SerialPort

/-- `OPEN_CONTEXT`. -/
def openContext : UInt32 := 0x1451

/-- `ERROR_INVALID_HANDLE`. -/
def errorInvalidHandle : UInt32 := 6

/-- `ERROR_BAD_COMMAND`. -/
def errorBadCommand : UInt32 := 22

/-- `ERROR_NO_DATA`. -/
def errorNoData : UInt32 := 232

/-- `ERROR_TIMEOUT`. -/
def errorTimeout : UInt32 := 1460

/-- `ERROR_INVALID_USER_BUFFER`. -/
def errorInvalidUserBuffer : UInt32 := 1784

/-! ## Packets on the queues -/

/-- `WritePacket`: the message written, or `none` where it returns `FALSE`. -/
def writePacket
    (writeQueue : Option MessageQueue)
    (packet : Packet) : Option (Option Message) :=
  match writeQueue with
  | none => some none
  | some queue => do
      let (size, buffer) ←
        packet.serialize (Buffer.fill msgBufferSize 0) packet.length
      queue.write buffer size

/-- `ReadPacket`: the packet made from the message received, or `none` where
it returns `FALSE`. -/
def readPacket (received : Option Message) : Option (Option Packet) :=
  match received with
  | none => some none
  | some message => do
      let (size, packet) ← message.deserialize
      if 0 < size then some (some packet) else some none

/-! ## Writing -/

/-- What a write returns and leaves behind. -/
structure WriteOutcome where
  /-- The number of bytes written, or the error set; neither where reading the
  error queue failed, which returns `-1` without setting an error. -/
  returned : Except (Option UInt32) Nat
  /-- The message put on the write queue. -/
  queued : Option Message
  deriving DecidableEq

/-- The check of the remote operation return code, received from the error
queue if that succeeds. -/
def remoteResult
    (dwCount : Nat)
    (reply : Option UInt32) : Except (Option UInt32) Nat :=
  match reply with
  | none => .error none
  | some dwLastError =>
      if dwLastError = 0 then .ok dwCount else .error (some dwLastError)

/-- `BTE_Write`. -/
def bteWrite
    (hOpenContext : UInt32)
    (array : CArray)
    (writeQueue : Option MessageQueue)
    (reply : Option UInt32) : Option WriteOutcome :=
  if hOpenContext = openContext then do
    let packet ← typedPacket PacketType.hciData.code array
    match ← writePacket writeQueue packet with
    | some message =>
        some {
          returned := remoteResult array.length reply
          queued := some message }
    | none =>
        some { returned := .error (some errorTimeout), queued := none }
  else
    some { returned := .error (some errorInvalidUserBuffer), queued := none }

/-! ## Reading -/

/-- The cache behind the read routine. -/
structure Cache where
  /-- `g_buffer`. -/
  buffer : Buffer UInt8 msgBufferSize
  /-- `g_dwBufSize`. -/
  dwBufSize : Nat
  /-- `g_dwBufReadPos`. -/
  dwBufReadPos : Nat
  deriving DecidableEq

namespace Cache

/-- The cache before the first read. -/
def empty : Cache where
  buffer := Buffer.fill msgBufferSize 0
  dwBufSize := 0
  dwBufReadPos := 0

/-- `g_dwBufSize - g_dwBufReadPos`. -/
def dwDataSize (cache : Cache) : Nat :=
  dwordSub cache.dwBufSize cache.dwBufReadPos

/-- Copy at most `dwCount` bytes of the data in the cache to the caller. -/
def serve
    (cache : Cache)
    (dwCount : Nat) : Option (List UInt8 × Cache) := do
  let dwToRead :=
    if dwCount > cache.dwDataSize then cache.dwDataSize else dwCount
  let bytes ← cache.buffer.load cache.dwBufReadPos dwToRead
  some (bytes, {
    cache with
    dwBufReadPos := sizeAdd cache.dwBufReadPos dwToRead })

end Cache

/-- Store the array that comes next in a packet to a cleared cache. -/
def refill (packet : Packet) : Option Cache := do
  let (bytes, _) ← packet.readUCharArray (some msgBufferSize)
  let buffer ← (Buffer.fill msgBufferSize 0).store 0 bytes
  some { buffer, dwBufSize := bytes.length, dwBufReadPos := 0 }

/-- `BTE_Read`: the bytes copied to the caller, or the error set. The second
argument says whether `pBuffer` is not null. -/
def bteRead
    (hOpenContext : UInt32)
    (pBuffer : Bool)
    (dwCount : Nat)
    (received : Option Message)
    (cache : Cache) : Option (Except UInt32 (List UInt8) × Cache) :=
  if hOpenContext = openContext then
    if pBuffer ∧ 0 < dwCount then
      if 0 < cache.dwDataSize then do
        let (bytes, served) ← cache.serve dwCount
        some (.ok bytes, served)
      else do
        match ← readPacket received with
        | none => some (.error errorTimeout, cache)
        | some packet =>
            let (type, rest) ← packet.readInt
            if type = PacketType.hciData.code.toInt32 then
              let refilled ← refill rest
              if 0 < refilled.dwDataSize then
                let (bytes, served) ← refilled.serve dwCount
                some (.ok bytes, served)
              else
                some (.error errorNoData, refilled)
            else
              some (.error errorBadCommand, cache)
    else
      some (.error errorInvalidHandle, cache)
  else
    some (.error errorInvalidUserBuffer, cache)

/-- `BTE_Read` makes of a message a data packet that carries the payload. -/
def Decodes (message : Message) (payload : List UInt8) : Prop :=
  ∃ packet rest cache,
    readPacket (some message) = some (some packet) ∧
      packet.readInt = some (PacketType.hciData.code.toInt32, rest) ∧
      refill rest = some cache ∧
      cache.buffer.load cache.dwBufReadPos cache.dwDataSize = some payload

/-! ## Specification -/

/-- A nonempty packet becomes a message with its bytes. -/
theorem exists_writePacket
    (queue : MessageQueue)
    (packet : Packet)
    (nonempty : packet.written ≠ []) :
    ∃ message,
      writePacket (some queue) packet = some (some message) ∧
        message.bytes = packet.written := by
  obtain ⟨filled, message, serialized, written, content⟩ :=
    queue.exists_write_serialize packet nonempty (Buffer.fill msgBufferSize 0)
  refine ⟨message, ?_, content⟩
  rw [writePacket, serialized]
  exact written

/-- A message with at least one byte becomes a packet with its bytes. -/
theorem exists_readPacket
    (message : Message)
    (nonempty : message.bytes ≠ []) :
    ∃ packet,
      readPacket (some message) = some (some packet) ∧
        packet.unread = message.bytes := by
  obtain ⟨packet, deserialized, unread⟩ := message.exists_deserialize
  refine ⟨packet, ?_, unread⟩
  simp only [readPacket, deserialized, Option.bind_eq_bind, Option.bind_some,
    if_pos (List.length_pos_of_ne_nil nonempty)]

/-- The type field is read back. -/
theorem exists_readInt_type
    {packet : Packet}
    {type : UInt32}
    (unread : packet.unread = typeField type ++ rest) :
    ∃ result,
      packet.readInt = some (type.toInt32, result) ∧
        result.unread = rest :=
  Packet.exists_readValue unread

/-- A refilled cache holds exactly the array. -/
theorem exists_refill
    {packet : Packet}
    {array : CArray}
    (unread : packet.unread = array.wire)
    (fits : array.length ≤ msgBufferSize) :
    ∃ cache,
      refill packet = some cache ∧
        cache.dwBufReadPos = 0 ∧
        cache.dwBufSize = array.length ∧
        cache.buffer.cells.take array.length = array.bytes := by
  rw [← List.append_nil array.wire] at unread
  obtain ⟨rest, returned, -⟩ :=
    Packet.exists_readArray unread fits (by decide)
  obtain ⟨buffer, stored⟩ :=
    (Buffer.fill msgBufferSize (0 : UInt8)).exists_store 0 array.bytes
      (by rw [CArray.length] at fits; omega)
  refine ⟨⟨buffer, array.bytes.length, 0⟩, ?_, rfl, rfl, ?_⟩
  · simp only [refill, Packet.readUCharArray, returned, Option.bind_eq_bind,
      Option.bind_some, stored]
  · have front := Buffer.take_of_store stored
    rwa [Nat.zero_add, List.take_zero, List.nil_append] at front

/-- A packet that ends behind its type field refills the cache with nothing. -/
theorem exists_refill_empty
    {packet : Packet}
    (unread : packet.unread = []) :
    ∃ cache,
      refill packet = some cache ∧
        cache.dwBufReadPos = 0 ∧
        cache.dwBufSize = 0 := by
  have returned : packet.readArray (some msgBufferSize) = some ([], packet) :=
    Packet.readArray_eq_nil (by rw [unread]; decide)
  obtain ⟨buffer, stored⟩ :=
    (Buffer.fill msgBufferSize (0 : UInt8)).exists_store 0 [] (by simp)
  refine ⟨⟨buffer, 0, 0⟩, ?_, rfl, rfl⟩
  simp only [refill, Packet.readUCharArray, returned, Option.bind_eq_bind,
    Option.bind_some, stored, List.length_nil]

/-- A write to an open queue puts the packet made from the array on it. -/
theorem exists_bteWrite
    {array : CArray}
    {packet : Packet}
    (packed : typedPacket PacketType.hciData.code array = some packet)
    (nonempty : packet.written ≠ [])
    (queue : MessageQueue)
    (reply : Option UInt32) :
    ∃ message,
      bteWrite openContext array (some queue) reply =
          some {
            returned := remoteResult array.length reply
            queued := some message } ∧
        message.bytes = packet.written := by
  obtain ⟨message, written, content⟩ := exists_writePacket queue packet nonempty
  refine ⟨message, ?_, content⟩
  simp only [bteWrite, if_true, packed, Option.bind_eq_bind, Option.bind_some,
    written]

/-- A write to a queue that is not open fails and leaves no message. -/
theorem bteWrite_of_no_queue
    {array : CArray}
    {packet : Packet}
    (packed : typedPacket PacketType.hciData.code array = some packet)
    (reply : Option UInt32) :
    bteWrite openContext array none reply =
      some { returned := .error (some errorTimeout), queued := none } := by
  simp only [bteWrite, if_true, packed, Option.bind_eq_bind,
    Option.bind_some, writePacket]

/-- A message made of a data packet is decoded to its array. -/
theorem decodes_array
    {message : Message}
    {array : CArray}
    (content : message.bytes =
      typeField PacketType.hciData.code ++ array.wire) :
    Decodes message array.bytes := by
  have fits : array.length ≤ msgBufferSize := by
    have bound := message.length_le
    rw [content, CArray.wire, List.length_append, List.length_append] at bound
    rw [CArray.length]
    omega
  obtain ⟨packet, received, unread⟩ :=
    exists_readPacket message (by
      rw [content]
      exact typeField_append_ne_nil _ _)
  rw [content] at unread
  obtain ⟨rest, typeRead, behind⟩ := exists_readInt_type unread
  obtain ⟨cache, refilled, start, size, front⟩ := exists_refill behind fits
  refine ⟨packet, rest, cache, received, typeRead, refilled, ?_⟩
  have bound : array.length ≤ 4096 := fits
  rw [Cache.dwDataSize, start, size, dwordSub_eq (Nat.zero_le _),
    Nat.sub_zero, Buffer.load_eq_some _ (by omega), List.drop_zero, front]

/-- A message that ends behind the type field is decoded to no bytes only. -/
theorem eq_nil_of_decodes_typeField
    {message : Message}
    (content : message.bytes = typeField PacketType.hciData.code)
    (decodes : Decodes message payload) :
    payload = [] := by
  obtain ⟨packet, rest, cache, received, typeRead, refilled, loaded⟩ :=
    decodes
  obtain ⟨packet', received', unread⟩ :=
    exists_readPacket message (by
      rw [content]
      exact typeField_ne_nil _)
  obtain rfl : packet = packet' := by
    simpa using received.symm.trans received'
  rw [content, ← List.append_nil (typeField _)] at unread
  obtain ⟨rest', typeRead', behind⟩ := exists_readInt_type unread
  obtain rfl : rest = rest' := by
    simpa using typeRead.symm.trans typeRead'
  obtain ⟨cache', refilled', start, size⟩ := exists_refill_empty behind
  obtain rfl : cache = cache' := by
    simpa using refilled.symm.trans refilled'
  have count := Buffer.length_of_load loaded
  rw [Cache.dwDataSize, start, size, dwordSub_eq (Nat.zero_le _)]
    at count
  exact List.eq_nil_of_length_eq_zero count

end SerialPort
end BthEmul
