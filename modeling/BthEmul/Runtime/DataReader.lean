import BthEmul.Foundation.Buffer
import BthEmul.Foundation.Machine
import BthEmul.Hci.PacketFormat

/-!
# The data reader of the runtime

ACL packets are put together from successive reads of the bulk endpoint. The
size of a packet is computed once, after its first read, and the packet is
dispatched when exactly that many bytes have arrived.
-/

namespace BthEmul

open Foundation Hci

namespace Runtime

/-- `FBT_HCI_DATA_MAX_SIZE`. -/
def dataMaxSize : Nat := 1024

/-- The local variables of the reading loop. -/
structure DataReader where
  /-- `readBuffer`. -/
  readBuffer : Buffer UInt8 dataMaxSize
  /-- `nBufferPos`. -/
  nBufferPos : Nat
  /-- `nPacketSize`. -/
  nPacketSize : Nat
  deriving DecidableEq

namespace DataReader

/-- The reading loop before its first read. -/
def start : DataReader where
  readBuffer := Buffer.fill dataMaxSize 0
  nBufferPos := 0
  nPacketSize := 0

/-- The size of a packet, from the length field of its header. -/
def packetSize
    (readBuffer : Buffer UInt8 dataMaxSize) : Option Nat := do
  let field ← readBuffer.load 2 2
  some (LittleEndian.decode field + 4)

/-- The value of `nPacketSize` after a read: it is determined by the first read
of a packet, and kept by the others. -/
def nextPacketSize
    (reader : DataReader)
    (readBuffer : Buffer UInt8 dataMaxSize) : Option Nat :=
  if reader.nBufferPos = 0 then packetSize readBuffer
  else some reader.nPacketSize

/-- What the loop does with the bytes of one completed read: the packet
dispatched, if any, and the variables afterwards. -/
def step
    (reader : DataReader)
    (chunk : List UInt8) : Option (Option (List UInt8) × DataReader) := do
  let readBuffer ← reader.readBuffer.store reader.nBufferPos chunk
  let nPacketSize ← reader.nextPacketSize readBuffer
  let nBufferPos := reader.nBufferPos + chunk.length
  if nPacketSize = nBufferPos then do
    let packet ← readBuffer.load 0 nPacketSize
    some (some packet, start)
  else
    some (none, { readBuffer, nBufferPos, nPacketSize })

end DataReader

/-- The reading loop on successive reads. -/
def dataReaderMachine :
    Machine DataReader (List UInt8) (Option (List UInt8)) where
  step := DataReader.step

/-- `FBT_HCI_SYNC_ACL_DATA_PACKET`. -/
def syncAclDataPacket : UInt8 := 2

/-- `DataEventHandler`: what the listener is given for a packet. -/
def dataEventHandler (packet : List UInt8) : Option (List UInt8) := do
  let cleared : Buffer UInt8 (dataMaxSize + 1) := Buffer.fill _ 0
  let typed ← cleared.store 0 [syncAclDataPacket]
  let filled ← typed.store 1 packet
  filled.load 0 (packet.length + 1)

/-- Bytes that fit are given to the listener behind a type byte. -/
theorem load_of_typed
    {size : Nat}
    {bytes : List UInt8}
    (fits : bytes.length ≤ size)
    (type : UInt8) :
    (do
      let cleared : Buffer UInt8 (size + 1) := Buffer.fill _ 0
      let typed ← cleared.store 0 [type]
      let filled ← typed.store 1 bytes
      filled.load 0 (bytes.length + 1)) = some (type :: bytes) := by
  obtain ⟨typed, typeStored⟩ :=
    (Buffer.fill (size + 1) (0 : UInt8)).exists_store 0 [type] (by
      rw [List.length_singleton]
      omega)
  obtain ⟨filled, bytesStored⟩ := typed.exists_store 1 bytes (by omega)
  have typeFront := Buffer.take_of_store typeStored
  have front := Buffer.take_of_store bytesStored
  rw [List.take_zero, List.nil_append, List.length_singleton,
    Nat.zero_add] at typeFront
  rw [typeFront, Nat.add_comm] at front
  have loaded : filled.load 0 (bytes.length + 1) = some (type :: bytes) := by
    rw [Buffer.load_eq_some _ (by omega), List.drop_zero, front,
      List.singleton_append]
  simp only [typeStored, bytesStored, loaded, Option.bind_eq_bind,
    Option.bind_some]

/-- A packet that fits the read buffer is given to the listener behind its type
byte. -/
theorem dataEventHandler_eq
    {packet : List UInt8}
    (fits : packet.length ≤ dataMaxSize) :
    dataEventHandler packet = some (syncAclDataPacket :: packet) :=
  load_of_typed fits syncAclDataPacket

/-! ## Specification of a read -/

namespace DataReader

/-- The bytes of the packet that have arrived. -/
def pending (reader : DataReader) : List UInt8 :=
  reader.readBuffer.cells.take reader.nBufferPos

/-- The size announced by the first read of a packet: bytes that did not
arrive yet count as zero. -/
def announcedSize (chunk : List UInt8) : Nat :=
  aclFormat.announced (chunk ++ List.replicate 4 0)

/-- Between packets the buffer is cleared, and no packet is complete. -/
structure Sound (reader : DataReader) : Prop where
  /-- Between packets the buffer is cleared. -/
  cleared : reader.nBufferPos = 0 →
    reader.readBuffer = Buffer.fill dataMaxSize 0
  /-- The position stays within the buffer. -/
  pos_le : reader.nBufferPos ≤ dataMaxSize
  /-- A packet that is complete does not wait. -/
  pos_ne : reader.nBufferPos ≠ 0 → reader.nBufferPos ≠ reader.nPacketSize

/-- The size of the packet a read belongs to. -/
def sizeAfter (reader : DataReader) (chunk : List UInt8) : Nat :=
  if reader.nBufferPos = 0 then announcedSize chunk else reader.nPacketSize

theorem sound_start : start.Sound where
  cleared _ := rfl
  pos_le := Nat.zero_le _
  pos_ne positive := absurd rfl positive

/-- The size computed after the first read of a packet. -/
theorem packetSize_of_store
    {block : Buffer UInt8 dataMaxSize}
    {chunk : List UInt8}
    (stored : (Buffer.fill dataMaxSize 0).store 0 chunk = some block) :
    packetSize block = some (announcedSize chunk) := by
  have fits : 0 + chunk.length ≤ 1024 := Buffer.fits_of_store stored
  have front :
      block.cells.take 4 = (chunk ++ List.replicate 4 0).take 4 := by
    rw [Buffer.cells_of_store stored, List.take_zero, List.nil_append,
      Buffer.cells_fill, List.drop_replicate, List.take_append,
      List.take_append, List.take_replicate, List.take_replicate]
    congr 2
    rw [dataMaxSize]
    omega
  have loaded : block.load 2 2 =
      some (((chunk ++ List.replicate 4 0).take 4).drop 2) := by
    rw [Buffer.load_eq_some _ (by decide), List.take_drop, front]
  have short : (((chunk ++ List.replicate 4 0).take 4).drop 2).length ≤ 2 := by
    rw [List.length_drop, List.length_take]
    omega
  simp only [packetSize, loaded, Option.bind_eq_bind, Option.bind_some,
    announcedSize, HeaderFormat.announced, aclFormat,
    List.take_of_length_le short, Nat.add_comm]

/-- The size the loop compares with after a read. -/
theorem Sound.nextPacketSize_eq
    {reader : DataReader}
    (sound : reader.Sound)
    (stored : reader.readBuffer.store reader.nBufferPos chunk = some block) :
    reader.nextPacketSize block = some (reader.sizeAfter chunk) := by
  unfold nextPacketSize sizeAfter
  split
  · rename_i between
    rw [sound.cleared between, between] at stored
    exact packetSize_of_store stored
  · rfl

/-- What a read does, in terms of the bytes that have arrived. -/
theorem Sound.exists_step
    {reader : DataReader}
    (sound : reader.Sound)
    {chunk : List UInt8}
    (fits : reader.nBufferPos + chunk.length ≤ dataMaxSize) :
    (reader.sizeAfter chunk = reader.nBufferPos + chunk.length ∧
        reader.step chunk =
          some (some (reader.pending ++ chunk), start)) ∨
      (reader.sizeAfter chunk ≠ reader.nBufferPos + chunk.length ∧
        ∃ next,
          reader.step chunk = some (none, next) ∧
            next.Sound ∧
            next.pending = reader.pending ++ chunk ∧
            next.nBufferPos = reader.nBufferPos + chunk.length ∧
            next.nPacketSize = reader.sizeAfter chunk) := by
  obtain ⟨block, stored⟩ := reader.readBuffer.exists_store _ _ fits
  have front := Buffer.take_of_store stored
  have size := sound.nextPacketSize_eq stored
  by_cases complete : reader.sizeAfter chunk =
      reader.nBufferPos + chunk.length
  · left
    have loaded : block.load 0 (reader.sizeAfter chunk) =
        some (reader.pending ++ chunk) := by
      rw [complete, Buffer.load_eq_some _ (by omega), List.drop_zero, front]
      rfl
    refine ⟨complete, ?_⟩
    simp only [step, stored, size, Option.bind_eq_bind, Option.bind_some,
      if_pos complete, loaded]
  · right
    refine ⟨complete, {
      readBuffer := block
      nBufferPos := reader.nBufferPos + chunk.length
      nPacketSize := reader.sizeAfter chunk }, ?_, ⟨?_, fits, ?_⟩, front, rfl,
      rfl⟩
    · simp only [step, stored, size, Option.bind_eq_bind, Option.bind_some,
        if_neg complete]
    · intro noBytes
      change reader.nBufferPos + chunk.length = 0 at noBytes
      have between : reader.nBufferPos = 0 := by omega
      have empty : chunk = [] := List.eq_nil_of_length_eq_zero (by omega)
      rw [between, empty] at stored
      have same := Buffer.cells_of_store stored
      apply Buffer.ext
      rw [← sound.cleared between]
      simpa using same
    · intro _
      exact Ne.symm complete

end DataReader
end Runtime
end BthEmul
