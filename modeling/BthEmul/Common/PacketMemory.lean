import BthEmul.Common.Packet
import BthEmul.Foundation.FlatMemory
import BthEmul.Foundation.Machine

/-!
# The packet class in memory

The operations of `Packet` on the memory behind `_data` and on two `size_t`
positions, with nothing assumed of them. Every operation has a result: it says
which parts of `_data` were read or written, what was written to the memory of
the caller, what was returned, and what is left behind, whether or not the
operation stayed inside the block.
-/

namespace BthEmul

open Foundation

/-- The memory from `_data` on and the two positions in it. -/
structure RawPacket where
  /-- The bytes from `_data` on, those behind the block included. -/
  data : Nat → UInt8
  /-- `_readPos`. -/
  readPos : Nat
  /-- `_writePos`. -/
  writePos : Nat

/-- A copy into or out of `_data`. -/
structure Access where
  /-- Where it starts. -/
  start : Nat
  /-- The number of bytes. -/
  count : Nat
  deriving DecidableEq

/-- What an operation returns. -/
inductive PacketAnswer
  | flag (value : Bool)
  | value (bytes : Option (List UInt8))
  | size (count : Nat)
  deriving DecidableEq

/-- What an operation does. -/
structure PacketEffect where
  /-- The packet it leaves behind. -/
  packet : RawPacket
  /-- The copies into and out of `_data`. -/
  accesses : List Access
  /-- What is written to the memory of the caller, from its start. -/
  destination : List UInt8
  /-- What is returned. -/
  answer : PacketAnswer
  /-- The operation ends in an early return of `false`, `-1` or `0`. -/
  refused : Bool

/-- The types of the scalar operations. -/
inductive ScalarType
  | char
  | short
  | int
  | long
  | unsignedChar
  | unsignedShort
  | unsignedInt
  | unsignedLong
  | float
  | double
  deriving DecidableEq

/-- `sizeof` of a type. -/
def ScalarType.size : ScalarType → Nat
  | char => 1
  | short => 2
  | int => 4
  | long => 4
  | unsignedChar => 1
  | unsignedShort => 2
  | unsignedInt => 4
  | unsignedLong => 4
  | float => 4
  | double => 8

/-- No type is larger than `double`. -/
theorem ScalarType.size_le (type : ScalarType) : type.size ≤ 8 := by
  cases type <;> decide

/-- A value of a scalar type, as it stands in memory. -/
structure ScalarValue where
  /-- The type. -/
  type : ScalarType
  /-- The bytes. -/
  bytes : List UInt8
  /-- The value has the size of its type. -/
  length_eq : bytes.length = type.size

namespace RawPacket

/-- `Packet::Packet`, on a block in some memory. -/
def fresh (beyond : Nat → UInt8) : RawPacket where
  data := FlatMemory.ofBuffer (Buffer.fill Packet.bufferSize 0) beyond
  readPos := 0
  writePos := 0

/-- An operation that returns early. -/
def refuse (packet : RawPacket) (answer : PacketAnswer) : PacketEffect where
  packet := packet
  accesses := []
  destination := []
  answer := answer
  refused := true

/-- `memcpy( _data + _writePos, source, size ); _writePos += size`. -/
def append (packet : RawPacket) (source : List UInt8) : RawPacket where
  data := FlatMemory.write packet.data packet.writePos source
  readPos := packet.readPos
  writePos := sizeAdd packet.writePos source.length

/-- `_readPos += size`. -/
def skip (packet : RawPacket) (size : Nat) : RawPacket where
  data := packet.data
  readPos := sizeAdd packet.readPos size
  writePos := packet.writePos

/-- `WRITE_VALUE`. -/
def writeValue (packet : RawPacket) (value : ScalarValue) : PacketEffect :=
  if Packet.bufferSize < sizeAdd packet.writePos value.type.size then
    packet.refuse (.flag false)
  else {
    packet := packet.append value.bytes
    accesses := [⟨packet.writePos, value.type.size⟩]
    destination := []
    answer := .flag true
    refused := false }

/-- `WRITE_ARRAY`. -/
def writeArray (packet : RawPacket) (array : CArray) : PacketEffect :=
  if Packet.bufferSize <
      sizeAdd (sizeAdd packet.writePos sizeOfSizeT) array.length then
    packet.refuse (.flag false)
  else
    let counted :=
      packet.append (LittleEndian.encode sizeOfSizeT array.length)
    {
      packet := counted.append array.bytes
      accesses := [⟨packet.writePos, sizeOfSizeT⟩,
        ⟨counted.writePos, array.length⟩]
      destination := []
      answer := .flag true
      refused := false }

/-- `READ_VALUE`. -/
def readValue (packet : RawPacket) (type : ScalarType) : PacketEffect :=
  if packet.writePos < sizeAdd packet.readPos type.size then
    packet.refuse (.value none)
  else {
    packet := packet.skip type.size
    accesses := [⟨packet.readPos, type.size⟩]
    destination := []
    answer := .value
      (some (FlatMemory.read packet.data packet.readPos type.size))
    refused := false }

/-- The length in front of the array that comes next. -/
def strLength (packet : RawPacket) : Nat :=
  LittleEndian.decode
    (FlatMemory.read packet.data packet.readPos sizeOfSizeT)

/-- `READ_ARRAY`; a missing destination is a null pointer. -/
def readArray
    (packet : RawPacket)
    (destination : Option UInt32) : PacketEffect :=
  match destination with
  | none => packet.refuse (.size 0)
  | some length =>
      if packet.writePos < sizeAdd packet.readPos sizeOfSizeT then
        packet.refuse (.size 0)
      else
        let counted := packet.skip sizeOfSizeT
        let header : Access := ⟨packet.readPos, sizeOfSizeT⟩
        if length.toNat < sizeOfSizeT then
          { counted.refuse (.size 0) with accesses := [header] }
        else if counted.writePos <
            sizeAdd counted.readPos packet.strLength then
          { counted.refuse (.size 0) with accesses := [header] }
        else {
          packet := counted.skip packet.strLength
          accesses := [header, ⟨counted.readPos, packet.strLength⟩]
          destination :=
            FlatMemory.read packet.data counted.readPos packet.strLength
          answer := .size packet.strLength
          refused := false }

/-- `Packet::serialize`; the flag says whether the pointer is not null. -/
def serialize
    (packet : RawPacket)
    (buffer : Bool)
    (size : UInt32) : PacketEffect :=
  if buffer ∧ size.toNat ≤ packet.writePos then {
    packet := packet
    accesses := [⟨0, packet.writePos⟩]
    destination := FlatMemory.read packet.data 0 packet.writePos
    answer := .size size.toNat
    refused := false }
  else packet.refuse (.size 0)

/-- `Packet::deserialize` of some bytes; missing bytes are a null pointer. -/
def deserialize
    (packet : RawPacket)
    (buffer : Option CArray) : PacketEffect :=
  match buffer with
  | none => packet.refuse (.size 0)
  | some source =>
      if source.length ≤ Packet.bufferSize then {
        packet := {
          data := FlatMemory.write packet.data 0 source.bytes
          readPos := 0
          writePos := source.length }
        accesses := [⟨0, source.length⟩]
        destination := []
        answer := .size source.length
        refused := false }
      else packet.refuse (.size 0)

end RawPacket

/-! ## Calls -/

/-- A call of an operation. -/
inductive PacketCall
  | writeValue (value : ScalarValue)
  | writeString (value : Option CString)
  | writeWString (value : Option CWString)
  | writeUCharArray (array : CArray)
  | readValue (type : ScalarType)
  | readString (destination : Option UInt32)
  | readWString (destination : Option UInt32)
  | readUCharArray (destination : Option UInt32)
  | serialize (buffer : Bool) (size : UInt32)
  | deserialize (buffer : Option CArray)

/-- What a call does. -/
def RawPacket.perform (packet : RawPacket) : PacketCall → PacketEffect
  | .writeValue value => packet.writeValue value
  | .writeString none => packet.refuse (.flag false)
  | .writeString (some value) => packet.writeArray value.toArray
  | .writeWString none => packet.refuse (.flag false)
  | .writeWString (some value) => packet.writeArray value.toArray
  | .writeUCharArray array => packet.writeArray array
  | .readValue type => packet.readValue type
  | .readString destination => packet.readArray destination
  | .readWString destination => packet.readArray destination
  | .readUCharArray destination => packet.readArray destination
  | .serialize buffer size => packet.serialize buffer size
  | .deserialize buffer => packet.deserialize buffer

/-- A packet under successive calls. -/
def packetCallMachine : Machine RawPacket PacketCall PacketEffect where
  step packet call :=
    some (packet.perform call, (packet.perform call).packet)

/-- Every call has a result. -/
theorem packetCallMachine_step (packet : RawPacket) (call : PacketCall) :
    packetCallMachine.step packet call =
      some (packet.perform call, (packet.perform call).packet) := rfl

end BthEmul
