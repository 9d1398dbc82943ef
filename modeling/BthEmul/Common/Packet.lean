import BthEmul.Foundation.Buffer
import BthEmul.Foundation.LittleEndian

/-!
# The packet class

A `Packet` is a block of 4096 bytes with a write position and a read position.
Values are copied in and out as the 32-bit little-endian machine stores them;
an array is preceded by its `size_t` length.

Size arithmetic is that of a 32-bit `size_t`. A copy that would leave its
block has no result, so `none` stands for an access violation throughout.
-/

namespace BthEmul

open Foundation

/-- The sum of two `size_t` values. -/
def sizeAdd (left right : Nat) : Nat :=
  (left + right) % 2 ^ 32

/-- The sum of two `size_t` values is exact when it fits. -/
theorem sizeAdd_eq
    {left right : Nat}
    (fits : left + right < 2 ^ 32) :
    sizeAdd left right = left + right :=
  Nat.mod_eq_of_lt fits

/-- The difference of two `DWORD` values, which wraps around below zero. -/
def dwordSub (left right : Nat) : Nat :=
  if right ≤ left then left - right else 2 ^ 32 - (right - left)

/-- The difference of two `DWORD` values is exact when it is not negative. -/
theorem dwordSub_eq
    {left right : Nat}
    (ordered : right ≤ left) :
    dwordSub left right = left - right :=
  if_pos ordered

/-- `sizeof( size_t )`. -/
def sizeOfSizeT : Nat := 4

/-- An array argument together with its `size_t` length. -/
structure CArray where
  /-- The bytes of the array. -/
  bytes : List UInt8
  /-- The length is a `size_t` value. -/
  length_lt : bytes.length < 2 ^ 32
  deriving DecidableEq

/-- The value of the length argument that goes with an array. -/
def CArray.length (array : CArray) : Nat := array.bytes.length

/-- A null-terminated character string, without its terminator. -/
structure CString where
  /-- The characters before the terminator. -/
  characters : List UInt8
  /-- No character is the terminator. -/
  ne_zero : ∀ character ∈ characters, character ≠ 0
  /-- The string and its terminator lie in the address space. -/
  length_lt : characters.length + 1 < 2 ^ 32
  deriving DecidableEq

/-- The `( strlen( value ) + 1 ) * sizeof( value[0] )` bytes of a string. -/
def CString.toArray (string : CString) : CArray where
  bytes := string.characters ++ [0]
  length_lt := by
    simpa using string.length_lt

/-- A null-terminated wide-character string, without its terminator. -/
structure CWString where
  /-- The characters before the terminator. -/
  characters : List UInt16
  /-- No character is the terminator. -/
  ne_zero : ∀ character ∈ characters, character ≠ 0
  /-- The string and its terminator lie in the address space. -/
  length_lt : 2 * (characters.length + 1) < 2 ^ 32
  deriving DecidableEq

/-- The bytes of a list of wide characters. -/
def wideBytes : List UInt16 → List UInt8
  | [] => []
  | character :: rest =>
      LittleEndian.encode 2 character.toNat ++ wideBytes rest

@[simp] theorem length_wideBytes (characters : List UInt16) :
    (wideBytes characters).length = 2 * characters.length := by
  induction characters with
  | nil => rfl
  | cons character rest inductionHypothesis =>
      rw [wideBytes, List.length_append, LittleEndian.length_encode,
        inductionHypothesis, List.length_cons]
      omega

/-- The `( wcslen( value ) + 1 ) * sizeof( value[0] )` bytes of a string. -/
def CWString.toArray (string : CWString) : CArray where
  bytes := wideBytes (string.characters ++ [0])
  length_lt := by
    simpa using string.length_lt

/-- How the machine stores the values of one arithmetic type. -/
structure ValueType (α : Type) where
  /-- `sizeof` of the type. -/
  size : Nat
  /-- The stored bit pattern of a value. -/
  represent : α → Nat
  /-- The value of a stored bit pattern. -/
  interpret : Nat → α
  /-- The constant `-1`, converted to the type. -/
  minusOne : α
  /-- A bit pattern fits the size of the type. -/
  represent_lt : ∀ value, represent value < 256 ^ size
  /-- A stored value is recovered. -/
  interpret_represent : ∀ value, interpret (represent value) = value
  /-- No type is larger than `int`. -/
  size_le : size ≤ 4

/-- The stored bytes of a value. -/
def ValueType.toBytes (type : ValueType α) (value : α) : List UInt8 :=
  LittleEndian.encode type.size (type.represent value)

@[simp] theorem ValueType.length_toBytes (type : ValueType α) (value : α) :
    (type.toBytes value).length = type.size :=
  LittleEndian.length_encode _ _

namespace ValueType

/-- The type `char`. -/
def char : ValueType Int8 where
  size := 1
  represent value := value.toUInt8.toNat
  interpret pattern := (UInt8.ofNat pattern).toInt8
  minusOne := -1
  represent_lt value := value.toUInt8.toNat_lt
  interpret_represent value := by simp
  size_le := by decide

/-- The type `short`. -/
def short : ValueType Int16 where
  size := 2
  represent value := value.toUInt16.toNat
  interpret pattern := (UInt16.ofNat pattern).toInt16
  minusOne := -1
  represent_lt value := value.toUInt16.toNat_lt
  interpret_represent value := by simp
  size_le := by decide

/-- The types `int` and `long`. -/
def int : ValueType Int32 where
  size := 4
  represent value := value.toUInt32.toNat
  interpret pattern := (UInt32.ofNat pattern).toInt32
  minusOne := -1
  represent_lt value := value.toUInt32.toNat_lt
  interpret_represent value := by simp
  size_le := by decide

/-- The type `unsigned char`. -/
def unsignedChar : ValueType UInt8 where
  size := 1
  represent value := value.toNat
  interpret pattern := UInt8.ofNat pattern
  minusOne := -1
  represent_lt value := value.toNat_lt
  interpret_represent value := by simp
  size_le := by decide

/-- The type `unsigned short`. -/
def unsignedShort : ValueType UInt16 where
  size := 2
  represent value := value.toNat
  interpret pattern := UInt16.ofNat pattern
  minusOne := -1
  represent_lt value := value.toNat_lt
  interpret_represent value := by simp
  size_le := by decide

/-- The types `unsigned int` and `unsigned long`. -/
def unsignedInt : ValueType UInt32 where
  size := 4
  represent value := value.toNat
  interpret pattern := UInt32.ofNat pattern
  minusOne := -1
  represent_lt value := value.toNat_lt
  interpret_represent value := by simp
  size_le := by decide

end ValueType

namespace Packet

/-- `Packet::BUFFER_SIZE`. -/
def bufferSize : Nat := 4 * 1024

end Packet

/-- A packet: its data and the two positions in it. -/
structure Packet where
  /-- The bytes behind `_data`. -/
  data : Buffer UInt8 Packet.bufferSize
  /-- `_readPos`. -/
  readPos : Nat
  /-- `_writePos`. -/
  writePos : Nat
  /-- Nothing is read that was not written. -/
  readPos_le : readPos ≤ writePos
  /-- Nothing is written behind the block. -/
  writePos_le : writePos ≤ Packet.bufferSize

namespace Packet

/-- `Packet::Packet`. -/
def fresh : Packet where
  data := Buffer.fill bufferSize 0
  readPos := 0
  writePos := 0
  readPos_le := Nat.le_refl 0
  writePos_le := Nat.zero_le _

/-- `Packet::length`. -/
def length (packet : Packet) : Nat := packet.writePos

/-! ## Writing -/

/-- Copy bytes behind the written ones and advance `_writePos` over them. -/
def copyIn (packet : Packet) (source : List UInt8) : Option Packet :=
  match stored : packet.data.store packet.writePos source with
  | none => none
  | some data =>
      some {
        data
        readPos := packet.readPos
        writePos := packet.writePos + source.length
        readPos_le := Nat.le_trans packet.readPos_le (Nat.le_add_right _ _)
        writePos_le := Buffer.fits_of_store stored }

/-- `WRITE_VALUE`. -/
def writeValue
    (type : ValueType α)
    (packet : Packet)
    (value : α) : Option (Bool × Packet) :=
  if bufferSize < sizeAdd packet.writePos type.size then
    some (false, packet)
  else do
    let written ← packet.copyIn (type.toBytes value)
    some (true, written)

/-- `WRITE_ARRAY`. -/
def writeArray (packet : Packet) (array : CArray) : Option (Bool × Packet) :=
  if bufferSize <
      sizeAdd (sizeAdd packet.writePos sizeOfSizeT) array.length then
    some (false, packet)
  else do
    let announced ← packet.copyIn
      (LittleEndian.encode sizeOfSizeT array.length)
    let written ← announced.copyIn array.bytes
    some (true, written)

def writeChar := writeValue ValueType.char

def writeShort := writeValue ValueType.short

def writeInt := writeValue ValueType.int

def writeLong := writeValue ValueType.int

def writeUChar := writeValue ValueType.unsignedChar

def writeUShort := writeValue ValueType.unsignedShort

def writeUInt := writeValue ValueType.unsignedInt

def writeULong := writeValue ValueType.unsignedInt

/-- `Packet::writeString`; a missing string is a null pointer. -/
def writeString
    (packet : Packet) : Option CString → Option (Bool × Packet)
  | some value => packet.writeArray value.toArray
  | none => some (false, packet)

/-- `Packet::writeWString`; a missing string is a null pointer. -/
def writeWString
    (packet : Packet) : Option CWString → Option (Bool × Packet)
  | some value => packet.writeArray value.toArray
  | none => some (false, packet)

def writeUCharArray := writeArray

/-! ## Reading -/

/-- Copy the next bytes out and advance `_readPos` over them. -/
def copyOut (packet : Packet) (size : Nat) : Option (List UInt8 × Packet) :=
  if available : packet.readPos + size ≤ packet.writePos then do
    let bytes ← packet.data.load packet.readPos size
    some (bytes, {
      packet with
      readPos := packet.readPos + size
      readPos_le := available })
  else none

/-- `READ_VALUE`. -/
def readValue
    (type : ValueType α)
    (packet : Packet) : Option (α × Packet) :=
  if packet.writePos < sizeAdd packet.readPos type.size then
    some (type.minusOne, packet)
  else do
    let (bytes, rest) ← packet.copyOut type.size
    some (type.interpret (LittleEndian.decode bytes), rest)

/-- `READ_ARRAY` into a destination of the given size; a missing destination
is a null pointer. The returned length is that of the bytes copied out, and
only those that fit the destination can be. -/
def readArray
    (packet : Packet)
    (destination : Option Nat) : Option (List UInt8 × Packet) :=
  match destination with
  | none => some ([], packet)
  | some capacity =>
      if packet.writePos < sizeAdd packet.readPos sizeOfSizeT then
        some ([], packet)
      else do
        let (announced, counted) ← packet.copyOut sizeOfSizeT
        let arrayLength := LittleEndian.decode announced
        if capacity < sizeOfSizeT then
          some ([], counted)
        else if counted.writePos < sizeAdd counted.readPos arrayLength then
          some ([], counted)
        else if capacity < arrayLength then
          none
        else
          counted.copyOut arrayLength

def readChar := readValue ValueType.char

def readShort := readValue ValueType.short

def readInt := readValue ValueType.int

def readLong := readValue ValueType.int

def readUChar := readValue ValueType.unsignedChar

def readUShort := readValue ValueType.unsignedShort

def readUInt := readValue ValueType.unsignedInt

def readULong := readValue ValueType.unsignedInt

def readString := readArray

def readWString := readArray

def readUCharArray := readArray

/-! ## Serialization -/

/-- `Packet::serialize`: the number of bytes returned and the destination
block, into which all written bytes are copied. -/
def serialize
    (packet : Packet)
    (buffer : Buffer UInt8 capacity)
    (size : Nat) : Option (Nat × Buffer UInt8 capacity) :=
  if size ≤ packet.length then do
    let filled ← buffer.store 0 (packet.data.cells.take packet.length)
    some (size, filled)
  else
    some (0, buffer)

/-- `Packet::deserialize`: the number of bytes returned and the packet that
holds them. -/
def deserialize
    (packet : Packet)
    (buffer : Buffer UInt8 capacity)
    (size : Nat) : Option (Nat × Packet) :=
  if fits : size ≤ bufferSize then do
    let bytes ← buffer.load 0 size
    let data ← packet.data.store 0 bytes
    some (size, {
      data
      readPos := 0
      writePos := size
      readPos_le := Nat.zero_le size
      writePos_le := fits })
  else
    some (0, packet)

end Packet
end BthEmul
