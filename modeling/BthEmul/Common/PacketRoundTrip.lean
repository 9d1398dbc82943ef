import BthEmul.Common.PacketContents

/-!
# Round trips through a packet

A sequence of typed writes, the bytes it leaves in a packet, and the typed
reads that should return the written values. Reading an array compares the
size of the destination with the size of the length field in front of the
array, so a destination of fewer than four bytes receives nothing.
-/

namespace BthEmul

open Foundation

/-- A typed write. -/
inductive TypedWrite
  | char (value : Int8)
  | short (value : Int16)
  | int (value : Int32)
  | long (value : Int32)
  | uChar (value : UInt8)
  | uShort (value : UInt16)
  | uInt (value : UInt32)
  | uLong (value : UInt32)
  | string (value : Option CString)
  | wString (value : Option CWString)
  | uCharArray (array : CArray)
  deriving DecidableEq

/-- The value returned by a typed read, or the bytes it stored. -/
inductive TypedValue
  | char (value : Int8)
  | short (value : Int16)
  | int (value : Int32)
  | long (value : Int32)
  | uChar (value : UInt8)
  | uShort (value : UInt16)
  | uInt (value : UInt32)
  | uLong (value : UInt32)
  | array (bytes : List UInt8)
  deriving DecidableEq

namespace TypedWrite

/-- Call the write function of a typed write. -/
def perform : TypedWrite → Packet → Option (Bool × Packet)
  | .char value, packet => packet.writeChar value
  | .short value, packet => packet.writeShort value
  | .int value, packet => packet.writeInt value
  | .long value, packet => packet.writeLong value
  | .uChar value, packet => packet.writeUChar value
  | .uShort value, packet => packet.writeUShort value
  | .uInt value, packet => packet.writeUInt value
  | .uLong value, packet => packet.writeULong value
  | .string value, packet => packet.writeString value
  | .wString value, packet => packet.writeWString value
  | .uCharArray array, packet => packet.writeUCharArray array

/-- Call the read function that goes with a typed write; an array is read into
a destination of the given size. -/
def readBack :
    TypedWrite → Nat → Packet → Option (TypedValue × Packet)
  | .char _, _, packet => packet.readChar.map (Prod.map .char id)
  | .short _, _, packet => packet.readShort.map (Prod.map .short id)
  | .int _, _, packet => packet.readInt.map (Prod.map .int id)
  | .long _, _, packet => packet.readLong.map (Prod.map .long id)
  | .uChar _, _, packet => packet.readUChar.map (Prod.map .uChar id)
  | .uShort _, _, packet => packet.readUShort.map (Prod.map .uShort id)
  | .uInt _, _, packet => packet.readUInt.map (Prod.map .uInt id)
  | .uLong _, _, packet => packet.readULong.map (Prod.map .uLong id)
  | .string _, capacity, packet =>
      (packet.readString (some capacity)).map (Prod.map .array id)
  | .wString _, capacity, packet =>
      (packet.readWString (some capacity)).map (Prod.map .array id)
  | .uCharArray _, capacity, packet =>
      (packet.readUCharArray (some capacity)).map (Prod.map .array id)

/-- The array behind a write, if it writes one. -/
def array : TypedWrite → Option CArray
  | .string value => value.map CString.toArray
  | .wString value => value.map CWString.toArray
  | .uCharArray array => some array
  | _ => none

/-- The number of array bytes written. -/
def arrayLength (write : TypedWrite) : Nat :=
  (write.array.map CArray.length).getD 0

/-- The value a write puts into a packet. -/
def value : TypedWrite → TypedValue
  | .char value => .char value
  | .short value => .short value
  | .int value => .int value
  | .long value => .long value
  | .uChar value => .uChar value
  | .uShort value => .uShort value
  | .uInt value => .uInt value
  | .uLong value => .uLong value
  | .string value => .array ((value.map (·.toArray.bytes)).getD [])
  | .wString value => .array ((value.map (·.toArray.bytes)).getD [])
  | .uCharArray array => .array array.bytes

end TypedWrite

/-- The stored form of a write. -/
def TypedWrite.wire : TypedWrite → List UInt8
  | .char value => ValueType.char.toBytes value
  | .short value => ValueType.short.toBytes value
  | .int value => ValueType.int.toBytes value
  | .long value => ValueType.int.toBytes value
  | .uChar value => ValueType.unsignedChar.toBytes value
  | .uShort value => ValueType.unsignedShort.toBytes value
  | .uInt value => ValueType.unsignedInt.toBytes value
  | .uLong value => ValueType.unsignedInt.toBytes value
  | .string value => (value.map (·.toArray.wire)).getD []
  | .wString value => (value.map (·.toArray.wire)).getD []
  | .uCharArray array => array.wire

/-- A write together with the size of the destination of the read that goes
with it. -/
structure Exchange where
  /-- The write. -/
  write : TypedWrite
  /-- The size of the destination. -/
  capacity : Nat
  /-- The destination has room for the array. -/
  enough : write.arrayLength ≤ capacity

namespace Exchange

/-- The stored form of a sequence of writes. -/
def wires : List Exchange → List UInt8
  | [] => []
  | exchange :: rest => exchange.write.wire ++ wires rest

/-- The values of a sequence of writes. -/
def values (exchanges : List Exchange) : List TypedValue :=
  exchanges.map fun exchange => exchange.write.value

/-- The destination of a nonempty array has room for a length field. -/
def HoldsLengthField (exchange : Exchange) : Prop :=
  0 < exchange.write.arrayLength → sizeOfSizeT ≤ exchange.capacity

instance (exchange : Exchange) : Decidable exchange.HoldsLengthField :=
  inferInstanceAs (Decidable (_ → _))

end Exchange

namespace Packet

/-- The packet after a sequence of writes each of which returned true. -/
def writeAll : Packet → List Exchange → Option Packet
  | packet, [] => some packet
  | packet, exchange :: rest =>
      match exchange.write.perform packet with
      | some (true, next) => next.writeAll rest
      | _ => none

/-- The values returned by the sequence of reads. -/
def readAll :
    Packet → List Exchange → Option (List TypedValue × Packet)
  | packet, [] => some ([], packet)
  | packet, exchange :: rest => do
      let (value, next) ← exchange.write.readBack exchange.capacity packet
      let (values, final) ← next.readAll rest
      some (value :: values, final)

/-- Serializing a packet, deserializing the bytes into another one and reading
there returns the written values and consumes every byte. -/
def RoundTrips
    (packet : Packet)
    (exchanges : List Exchange)
    (other : Packet)
    (buffer : Buffer UInt8 capacity) : Prop :=
  ∃ filled received final,
    packet.serialize buffer packet.length = some (packet.length, filled) ∧
      other.deserialize filled packet.length =
        some (packet.length, received) ∧
      received.readAll exchanges =
        some (Exchange.values exchanges, final) ∧
      final.length = packet.length ∧
      final.readPos = final.length

end Packet

/-! ## Writes -/

/-- A write that returns true appends its stored form. -/
theorem TypedWrite.written_of_perform
    {write : TypedWrite}
    {packet result : Packet}
    (performed : write.perform packet = some (true, result)) :
    result.written = packet.written ++ write.wire ∧
      result.readPos = packet.readPos := by
  cases write with
  | char | short | int | long | uChar | uShort | uInt | uLong =>
      exact Packet.written_of_writeValue performed
  | string value | wString value =>
      cases value with
      | none =>
          simp [perform, Packet.writeString, Packet.writeWString] at performed
      | some value => exact Packet.written_of_writeArray performed
  | uCharArray array => exact Packet.written_of_writeArray performed

/-- Writes that all return true append their stored forms in order. -/
theorem Packet.written_of_writeAll
    {exchanges : List Exchange}
    {packet result : Packet}
    (performed : packet.writeAll exchanges = some result) :
    result.written = packet.written ++ Exchange.wires exchanges := by
  induction exchanges generalizing packet with
  | nil =>
      cases performed
      simp [Exchange.wires]
  | cons exchange rest inductionHypothesis =>
      rw [writeAll] at performed
      split at performed
      · rename_i next first
        rw [inductionHypothesis performed,
          (TypedWrite.written_of_perform first).1, Exchange.wires,
          List.append_assoc]
      · contradiction

/-! ## Reads -/

/-- The write of an array is not that of a null string. -/
def TypedWrite.Present : TypedWrite → Prop
  | .string none => False
  | .wString none => False
  | _ => True

/-- A write that returns true is not that of a null string. -/
theorem TypedWrite.present_of_perform
    {write : TypedWrite}
    {packet result : Packet}
    (performed : write.perform packet = some (true, result)) :
    write.Present := by
  cases write with
  | string value | wString value =>
      cases value with
      | none =>
          simp [perform, Packet.writeString, Packet.writeWString] at performed
      | some value => trivial
  | _ => trivial

/-- Every write of a sequence that returns true throughout is present. -/
theorem Packet.present_of_writeAll
    {exchanges : List Exchange}
    {packet result : Packet}
    (performed : packet.writeAll exchanges = some result) :
    ∀ exchange ∈ exchanges, exchange.write.Present := by
  induction exchanges generalizing packet with
  | nil => simp
  | cons exchange rest inductionHypothesis =>
      rw [writeAll] at performed
      split at performed
      · rename_i next first
        intro other member
        rcases List.mem_cons.mp member with rfl | member
        · exact TypedWrite.present_of_perform first
        · exact inductionHypothesis performed other member
      · contradiction

/-- A value that comes next is read back. -/
theorem Packet.exists_map_readValue
    {type : ValueType α}
    {packet : Packet}
    (wrap : α → TypedValue)
    (unread : packet.unread = type.toBytes value ++ rest) :
    ∃ result,
      (packet.readValue type).map (Prod.map wrap id) =
          some (wrap value, result) ∧
        result.unread = rest := by
  obtain ⟨result, returned, remaining⟩ := exists_readValue unread
  exact ⟨result, by rw [returned]; rfl, remaining⟩

namespace TypedWrite

/-- The value of a write without an array is read back. -/
theorem exists_readBack_value
    {write : TypedWrite}
    {packet : Packet}
    (noArray : write.array = none)
    (present : write.Present)
    (unread : packet.unread = write.wire ++ rest)
    (capacity : Nat) :
    ∃ result,
      write.readBack capacity packet = some (write.value, result) ∧
        result.unread = rest := by
  cases write with
  | char | short | int | long | uChar | uShort | uInt | uLong =>
      exact Packet.exists_map_readValue _ unread
  | string value | wString value =>
      cases value with
      | none => exact present.elim
      | some value => contradiction
  | uCharArray array => contradiction

/-- All writes of an array are read back by reading an array. -/
theorem readBack_array
    {write : TypedWrite}
    {content : CArray}
    (hasArray : write.array = some content) :
    write.wire = content.wire ∧
      write.value = .array content.bytes ∧
      write.arrayLength = content.length ∧
      ∀ capacity packet,
        write.readBack capacity packet =
          (packet.readArray (some capacity)).map (Prod.map .array id) := by
  cases write with
  | char | short | int | long | uChar | uShort | uInt | uLong =>
      contradiction
  | string value | wString value =>
      cases value with
      | none => contradiction
      | some value =>
          cases hasArray
          exact ⟨rfl, rfl, rfl, fun _ _ => rfl⟩
  | uCharArray array =>
      cases hasArray
      exact ⟨rfl, rfl, rfl, fun _ _ => rfl⟩

/-- Reading back leaves the written bytes alone. -/
theorem written_of_readBack
    {write : TypedWrite}
    {value : TypedValue}
    {packet result : Packet}
    (returned : write.readBack capacity packet = some (value, result)) :
    result.written = packet.written := by
  cases write with
  | char | short | int | long | uChar | uShort | uInt | uLong =>
      obtain ⟨⟨read, rest⟩, readValue, same⟩ :=
        Option.map_eq_some_iff.mp returned
      cases same
      exact Packet.written_of_readValue readValue
  | string | wString | uCharArray =>
      obtain ⟨⟨read, rest⟩, readArray, same⟩ :=
        Option.map_eq_some_iff.mp returned
      cases same
      exact Packet.written_of_readArray readArray

end TypedWrite

namespace Exchange

/-- The written value is read back where the destination of a nonempty array
has room for a length field. -/
theorem exists_readBack
    {exchange : Exchange}
    {packet : Packet}
    (present : exchange.write.Present)
    (holds : exchange.HoldsLengthField)
    (unread : packet.unread = exchange.write.wire ++ rest) :
    ∃ result,
      exchange.write.readBack exchange.capacity packet =
          some (exchange.write.value, result) ∧
        result.unread = rest := by
  cases hasArray : exchange.write.array with
  | none =>
      exact TypedWrite.exists_readBack_value hasArray present unread _
  | some array =>
      have enough := exchange.enough
      obtain ⟨wire, value, arrayLength, readBack⟩ :=
        TypedWrite.readBack_array hasArray
      rw [HoldsLengthField, arrayLength] at holds
      rw [arrayLength] at enough
      rw [wire] at unread
      rw [readBack, value]
      by_cases field : sizeOfSizeT ≤ exchange.capacity
      · obtain ⟨result, returned, remaining⟩ :=
          Packet.exists_readArray unread enough field
        exact ⟨result, by rw [returned]; rfl, remaining⟩
      · -- too small for a length field, but the array is empty
        have empty : array.bytes = [] := by
          apply List.eq_nil_of_length_eq_zero
          by_contra nonempty
          exact field (holds (Nat.pos_of_ne_zero nonempty))
        obtain ⟨result, returned, remaining⟩ :=
          Packet.exists_readArray_small unread (Nat.lt_of_not_le field)
        refine ⟨result, by rw [returned, empty]; rfl, ?_⟩
        rw [remaining, empty, List.nil_append]

/-- A destination without room for a length field receives no bytes of a
nonempty array. -/
theorem readBack_ne_value
    {exchange : Exchange}
    {packet result : Packet}
    (fails : ¬ exchange.HoldsLengthField)
    (unread : packet.unread = exchange.write.wire ++ rest)
    (returned : exchange.write.readBack exchange.capacity packet =
      some (value, result)) :
    value ≠ exchange.write.value := by
  rw [HoldsLengthField, Classical.not_imp, Nat.not_le] at fails
  obtain ⟨nonempty, small⟩ := fails
  cases hasArray : exchange.write.array with
  | none => simp [TypedWrite.arrayLength, hasArray] at nonempty
  | some array =>
      obtain ⟨wire, written, arrayLength, readBack⟩ :=
        TypedWrite.readBack_array hasArray
      rw [wire] at unread
      obtain ⟨counted, nothing, -⟩ :=
        Packet.exists_readArray_small unread small
      rw [readBack, nothing] at returned
      cases returned
      rw [written]
      intro sameValue
      rw [arrayLength, CArray.length,
        ← TypedValue.array.inj sameValue] at nonempty
      simp at nonempty

end Exchange

/-- The sequence of reads returns the written values exactly when every
destination of a nonempty array has room for a length field, and then it
consumes exactly the bytes of the writes. -/
theorem Packet.exists_readAll_iff
    {exchanges : List Exchange}
    {packet : Packet}
    (present : ∀ exchange ∈ exchanges, exchange.write.Present)
    (unread : packet.unread = Exchange.wires exchanges ++ rest) :
    (∃ final,
      packet.readAll exchanges = some (Exchange.values exchanges, final) ∧
        final.unread = rest) ↔
      ∀ exchange ∈ exchanges, exchange.HoldsLengthField := by
  induction exchanges generalizing packet with
  | nil => simpa [readAll, Exchange.values, Exchange.wires] using unread
  | cons exchange others inductionHypothesis =>
      have headPresent := present exchange List.mem_cons_self
      have othersPresent : ∀ other ∈ others, other.write.Present :=
        fun other member => present other (List.mem_cons_of_mem _ member)
      rw [Exchange.wires, List.append_assoc] at unread
      rw [List.forall_mem_cons]
      by_cases holds : exchange.HoldsLengthField
      · obtain ⟨next, returned, remaining⟩ :=
          Exchange.exists_readBack headPresent holds unread
        rw [← inductionHypothesis othersPresent remaining]
        simp only [readAll, returned, Exchange.values, List.map_cons,
          Option.bind_eq_bind, Option.bind_some, Option.bind_eq_some_iff,
          Option.some.injEq, Prod.mk.injEq, List.cons.injEq, true_and,
          Prod.exists, holds]
        constructor
        · rintro ⟨final, ⟨values, last, readRest, rfl, rfl⟩, consumed⟩
          exact ⟨last, readRest, consumed⟩
        · rintro ⟨final, readRest, consumed⟩
          exact ⟨final, ⟨_, final, readRest, rfl, rfl⟩, consumed⟩
      · constructor
        · rintro ⟨final, readBack, -⟩
          simp only [readAll, Exchange.values, List.map_cons,
            Option.bind_eq_bind, Option.bind_eq_some_iff, Option.some.injEq,
            Prod.mk.injEq, List.cons.injEq, Prod.exists] at readBack
          obtain ⟨value, next, returned, values, last, -, ⟨sameValue, -⟩, -⟩ :=
            readBack
          exact absurd sameValue
            (Exchange.readBack_ne_value holds unread returned)
        · rintro ⟨headHolds, -⟩
          exact absurd headHolds holds

/-- The sequence of reads leaves the written bytes alone. -/
theorem Packet.written_of_readAll
    {exchanges : List Exchange}
    {packet result : Packet}
    (returned : packet.readAll exchanges = some (values, result)) :
    result.written = packet.written := by
  induction exchanges generalizing packet values with
  | nil =>
      cases returned
      rfl
  | cons exchange others inductionHypothesis =>
      simp only [readAll, Option.bind_eq_bind, Option.bind_eq_some_iff,
        Option.some.injEq, Prod.mk.injEq, Prod.exists] at returned
      obtain ⟨value, next, first, values, last, readRest, -, rfl⟩ := returned
      exact (inductionHypothesis readRest).trans
        (TypedWrite.written_of_readBack first)

/-- After serialization and deserialization the written bytes come next. -/
theorem Packet.exists_received
    (packet other : Packet)
    (buffer : Buffer UInt8 capacity)
    (room : packet.length ≤ capacity) :
    ∃ filled received,
      packet.serialize buffer packet.length =
          some (packet.length, filled) ∧
        other.deserialize filled packet.length =
          some (packet.length, received) ∧
        received.unread = packet.written ∧
        received.length = packet.length := by
  obtain ⟨filled, serialized, loaded⟩ := packet.exists_serialize buffer room
  have sameLength : packet.written.length = packet.length :=
    packet.length_written
  rw [← sameLength] at loaded
  obtain ⟨received, deserialized, unread, length⟩ :=
    other.exists_deserialize loaded packet.length_written_le
  rw [sameLength] at deserialized length
  exact ⟨filled, received, serialized, deserialized, unread, length⟩

/-- A packet that holds the stored forms of some writes makes the round trip
exactly when every destination of a nonempty array has room for a length
field. -/
theorem Packet.roundTrips_iff
    {exchanges : List Exchange}
    {packet : Packet}
    (content : packet.written = Exchange.wires exchanges)
    (present : ∀ exchange ∈ exchanges, exchange.write.Present)
    (other : Packet)
    (buffer : Buffer UInt8 capacity)
    (room : packet.length ≤ capacity) :
    packet.RoundTrips exchanges other buffer ↔
      ∀ exchange ∈ exchanges, exchange.HoldsLengthField := by
  obtain ⟨filled, received, serialized, deserialized, unread, length⟩ :=
    packet.exists_received other buffer room
  rw [content, ← List.append_nil (Exchange.wires exchanges)] at unread
  rw [← Packet.exists_readAll_iff present unread]
  constructor
  · rintro ⟨filled', received', final, serialized', deserialized', readBack, -,
      consumed⟩
    obtain ⟨-, rfl⟩ :=
      Prod.mk.inj (Option.some.inj (serialized.symm.trans serialized'))
    obtain ⟨-, rfl⟩ :=
      Prod.mk.inj (Option.some.inj (deserialized.symm.trans deserialized'))
    exact ⟨final, readBack, (Packet.unread_eq_nil_iff final).mpr consumed⟩
  · rintro ⟨final, readBack, consumed⟩
    have sameContent :=
      congrArg List.length (Packet.written_of_readAll readBack)
    rw [Packet.length_written, Packet.length_written] at sameContent
    exact ⟨filled, received, final, serialized, deserialized, readBack,
      sameContent.trans length, (Packet.unread_eq_nil_iff final).mp consumed⟩

/-- Whatever was written to a fresh packet in writes that all returned true
makes the round trip exactly when every destination of a nonempty array has
room for a length field. -/
theorem roundTrips_iff_forall_holdsLengthField
    {exchanges : List Exchange}
    {packet : Packet}
    (performed : Packet.fresh.writeAll exchanges = some packet)
    (other : Packet)
    (buffer : Buffer UInt8 capacity)
    (room : packet.length ≤ capacity) :
    packet.RoundTrips exchanges other buffer ↔
      ∀ exchange ∈ exchanges, exchange.HoldsLengthField := by
  have content := Packet.written_of_writeAll performed
  rw [Packet.written_fresh, List.nil_append] at content
  exact Packet.roundTrips_iff content
    (Packet.present_of_writeAll performed) other buffer room

/-- A type field and five bytes, read into a destination of exactly five. -/
def fiveBytes : List Exchange :=
  [{ write := .int 0, capacity := 0, enough := by decide },
    { write := .uCharArray ⟨[1, 2, 3, 4, 5], by decide⟩, capacity := 5,
      enough := by decide }]

theorem roundTrips_fiveBytes :
    ∃ packet, Packet.fresh.writeAll fiveBytes = some packet ∧
      packet.RoundTrips fiveBytes Packet.fresh
        (Buffer.fill Packet.bufferSize 0) := by
  have performs : (Packet.fresh.writeAll fiveBytes).isSome := by
    decide +kernel
  obtain ⟨packet, performed⟩ := Option.isSome_iff_exists.mp performs
  refine ⟨packet, performed, ?_⟩
  rw [roundTrips_iff_forall_holdsLengthField performed _ _
    packet.writePos_le]
  intro exchange member
  simp only [fiveBytes, List.mem_cons, List.not_mem_nil, or_false] at member
  rcases member with rfl | rfl <;> decide

/-- One byte, read into a destination of exactly one byte. -/
def oneByte : List Exchange :=
  [{ write := .uCharArray ⟨[7], by decide⟩, capacity := 1,
     enough := by decide }]

/-- The array read returns 0 for one byte and a destination of one byte. -/
theorem not_roundTrips_oneByte :
    ∃ packet, Packet.fresh.writeAll oneByte = some packet ∧
      ¬ packet.RoundTrips oneByte Packet.fresh
        (Buffer.fill Packet.bufferSize 0) := by
  have performs : (Packet.fresh.writeAll oneByte).isSome := by
    decide +kernel
  obtain ⟨packet, performed⟩ := Option.isSome_iff_exists.mp performs
  refine ⟨packet, performed, ?_⟩
  rw [Packet.roundTrips_iff (Packet.written_of_writeAll performed)
    (Packet.present_of_writeAll performed) _ _ packet.writePos_le]
  intro allHold
  exact absurd (allHold _ List.mem_cons_self) (by decide)

end BthEmul
