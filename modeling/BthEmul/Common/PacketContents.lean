import BthEmul.Common.Packet

/-!
# What a packet holds

A packet is summarized by the bytes written to it and by those of them not read
yet. Each operation of the class is described once in these terms; the data
block and the two positions do not occur in the users of this module.
-/

namespace BthEmul

open Foundation

/-- The stored form of an array: its length, then its bytes. -/
def CArray.wire (array : CArray) : List UInt8 :=
  LittleEndian.encode sizeOfSizeT array.length ++ array.bytes

namespace Packet

/-- All bytes written to the packet. -/
def written (packet : Packet) : List UInt8 :=
  packet.data.cells.take packet.writePos

/-- The written bytes that were not read yet. -/
def unread (packet : Packet) : List UInt8 :=
  packet.written.drop packet.readPos

@[simp] theorem length_written (packet : Packet) :
    packet.written.length = packet.writePos := by
  simp only [written, List.length_take, packet.data.length_eq]
  exact Nat.min_eq_left packet.writePos_le

/-- The number of unread bytes is the distance of the two positions. -/
theorem length_unread (packet : Packet) :
    packet.unread.length = packet.writePos - packet.readPos := by
  rw [unread, List.length_drop, length_written]

@[simp] theorem written_fresh : fresh.written = [] := rfl

/-- The write position stays within the block. -/
theorem length_written_le (packet : Packet) :
    packet.written.length ≤ bufferSize := by
  rw [length_written]
  exact packet.writePos_le

/-- Everything was read exactly when the two positions meet. -/
theorem unread_eq_nil_iff (packet : Packet) :
    packet.unread = [] ↔ packet.readPos = packet.length := by
  have ordered := packet.readPos_le
  rw [← List.length_eq_zero_iff, length_unread, length]
  omega

/-! ## Writing -/

/-- A copy into a packet appends to the written bytes. -/
theorem written_of_copyIn
    {packet result : Packet}
    (copied : packet.copyIn source = some result) :
    result.written = packet.written ++ source ∧
      result.readPos = packet.readPos := by
  unfold copyIn at copied
  split at copied
  · contradiction
  · rename_i data stored
    cases copied
    exact ⟨Buffer.take_of_store stored, rfl⟩

/-- A copy into a packet succeeds when the bytes fit behind the written ones. -/
theorem exists_copyIn
    (packet : Packet)
    (source : List UInt8)
    (fits : packet.written.length + source.length ≤ bufferSize) :
    ∃ result, packet.copyIn source = some result := by
  rw [length_written] at fits
  obtain ⟨data, stored⟩ := packet.data.exists_store _ _ fits
  unfold copyIn
  split
  · rename_i missing
    rw [missing] at stored
    contradiction
  · exact ⟨_, rfl⟩

/-- A copy that does not fit behind the written bytes leaves the block. -/
theorem copyIn_eq_none
    {packet : Packet}
    (leaves : bufferSize < packet.written.length + source.length) :
    packet.copyIn source = none := by
  rw [length_written] at leaves
  unfold copyIn
  split
  · rfl
  · rename_i data stored
    have fits := Buffer.fits_of_store stored
    omega

/-- `WRITE_VALUE` appends the stored value where it returns true. -/
theorem written_of_writeValue
    {type : ValueType α}
    {packet result : Packet}
    (done : packet.writeValue type value = some (true, result)) :
    result.written = packet.written ++ type.toBytes value ∧
      result.readPos = packet.readPos := by
  unfold writeValue at done
  split at done
  · simp at done
  · simp only [Option.bind_eq_bind, Option.bind_eq_some_iff,
      Option.some.injEq, Prod.mk.injEq, true_and] at done
    obtain ⟨written, copied, rfl⟩ := done
    exact written_of_copyIn copied

/-- `WRITE_VALUE` returns true where the value fits. -/
theorem exists_writeValue
    (type : ValueType α)
    (packet : Packet)
    (value : α)
    (fits : packet.written.length + type.size ≤ bufferSize) :
    ∃ result, packet.writeValue type value = some (true, result) := by
  obtain ⟨result, copied⟩ :=
    packet.exists_copyIn (type.toBytes value) (by rwa [type.length_toBytes])
  rw [length_written, bufferSize] at fits
  refine ⟨result, ?_⟩
  rw [writeValue, sizeAdd_eq (by omega), if_neg (by rw [bufferSize]; omega),
    copied]
  rfl

/-- `WRITE_ARRAY` appends the length and the bytes where it returns true. -/
theorem written_of_writeArray
    {packet result : Packet}
    {array : CArray}
    (done : packet.writeArray array = some (true, result)) :
    result.written =
        packet.written ++ array.wire ∧
      result.readPos = packet.readPos := by
  unfold writeArray at done
  split at done
  · simp at done
  · simp only [Option.bind_eq_bind, Option.bind_eq_some_iff,
      Option.some.injEq, Prod.mk.injEq, true_and] at done
    obtain ⟨announced, lengthCopied, written, bytesCopied, rfl⟩ := done
    obtain ⟨lengthWritten, lengthRead⟩ := written_of_copyIn lengthCopied
    obtain ⟨bytesWritten, bytesRead⟩ := written_of_copyIn bytesCopied
    rw [bytesWritten, lengthWritten, bytesRead, lengthRead,
      List.append_assoc, CArray.wire]
    exact ⟨rfl, rfl⟩

/-- `WRITE_ARRAY` returns true where the length and the bytes fit. -/
theorem exists_writeArray
    (packet : Packet)
    (array : CArray)
    (fits : packet.written.length + sizeOfSizeT + array.length ≤ bufferSize) :
    ∃ result, packet.writeArray array = some (true, result) := by
  have lengthFits :
      packet.written.length +
          (LittleEndian.encode sizeOfSizeT array.length).length ≤
        bufferSize := by
    rw [LittleEndian.length_encode]
    omega
  obtain ⟨announced, lengthCopied⟩ := packet.exists_copyIn _ lengthFits
  have bytesFit :
      announced.written.length + array.bytes.length ≤ bufferSize := by
    rw [(written_of_copyIn lengthCopied).1, List.length_append,
      LittleEndian.length_encode]
    exact fits
  obtain ⟨result, bytesCopied⟩ := announced.exists_copyIn _ bytesFit
  rw [length_written, bufferSize, sizeOfSizeT] at fits
  refine ⟨result, ?_⟩
  have headed : sizeAdd packet.writePos sizeOfSizeT = packet.writePos + 4 :=
    sizeAdd_eq (by rw [sizeOfSizeT]; omega)
  rw [writeArray, headed, sizeAdd_eq (by omega),
    if_neg (by rw [bufferSize]; omega), lengthCopied]
  simp only [Option.bind_eq_bind, Option.bind_some, bytesCopied]

/-- `WRITE_ARRAY` returns false and writes nothing where the size it computes
exceeds the block. -/
theorem writeArray_eq_false
    {packet : Packet}
    {array : CArray}
    (exceeds : bufferSize <
      sizeAdd (sizeAdd packet.written.length sizeOfSizeT) array.length) :
    packet.writeArray array = some (false, packet) := by
  rw [length_written] at exceeds
  exact if_pos exceeds

/-- Where the size of `WRITE_ARRAY` wraps around to a small one, the copy of
the array leaves the block. -/
theorem writeArray_eq_none
    {packet : Packet}
    {array : CArray}
    (accepted : sizeAdd (sizeAdd packet.written.length sizeOfSizeT)
      array.length ≤ bufferSize)
    (leaves : bufferSize <
      packet.written.length + sizeOfSizeT + array.length) :
    packet.writeArray array = none := by
  rw [length_written] at accepted
  rw [writeArray, if_neg (by omega)]
  cases lengthCopied :
      packet.copyIn (LittleEndian.encode sizeOfSizeT array.length) with
  | none => rfl
  | some announced =>
      have bytesLeave :
          bufferSize < announced.written.length + array.bytes.length := by
        rw [(written_of_copyIn lengthCopied).1, List.length_append,
          LittleEndian.length_encode]
        exact leaves
      simp only [Option.bind_eq_bind, Option.bind_some,
        copyIn_eq_none bytesLeave, Option.bind_none]

/-! ## Reading -/

/-- A copy out of a packet takes the next unread bytes. -/
theorem exists_copyOut
    {packet : Packet}
    (unread : packet.unread = bytes ++ rest) :
    ∃ result,
      packet.copyOut bytes.length = some (bytes, result) ∧
        result.unread = rest := by
  have ordered := packet.readPos_le
  have bounded := packet.writePos_le
  have available : packet.readPos + bytes.length ≤ packet.writePos := by
    have total := packet.length_unread
    rw [unread, List.length_append] at total
    omega
  have loaded :
      packet.data.load packet.readPos bytes.length = some bytes := by
    rw [Buffer.load_eq_some _ (Nat.le_trans available bounded)]
    have next := congrArg (List.take bytes.length) unread
    rw [List.take_left, Packet.unread, written, List.take_drop,
      List.take_take, Nat.min_eq_left available] at next
    rw [List.take_drop, next]
  let result : Packet := {
    packet with
    readPos := packet.readPos + bytes.length
    readPos_le := available }
  refine ⟨result, ?_, ?_⟩
  · rw [copyOut, dif_pos available, loaded]
    rfl
  · have behind := congrArg (List.drop bytes.length) unread
    rw [List.drop_left, Packet.unread, List.drop_drop] at behind
    exact behind

/-- A copy out of a packet splits the unread bytes. -/
theorem unread_of_copyOut
    {packet result : Packet}
    (copied : packet.copyOut size = some (bytes, result)) :
    packet.unread = bytes ++ result.unread ∧ bytes.length = size := by
  have enough : size ≤ packet.unread.length := by
    rw [length_unread]
    unfold copyOut at copied
    split at copied
    · omega
    · contradiction
  have split := (List.take_append_drop size packet.unread).symm
  obtain ⟨result', copied', remaining⟩ := exists_copyOut split
  have taken : (packet.unread.take size).length = size :=
    List.length_take_of_le enough
  rw [taken, copied] at copied'
  cases copied'
  rw [remaining]
  exact ⟨split, taken⟩

/-- A copy out of a packet leaves the written bytes alone. -/
theorem written_of_copyOut
    {packet result : Packet}
    (copied : packet.copyOut size = some (bytes, result)) :
    result.written = packet.written := by
  unfold copyOut at copied
  split at copied
  · simp only [Option.bind_eq_bind, Option.bind_eq_some_iff,
      Option.some.injEq, Prod.mk.injEq] at copied
    obtain ⟨loaded, -, -, rfl⟩ := copied
    rfl
  · contradiction

/-- `READ_VALUE` leaves the written bytes alone. -/
theorem written_of_readValue
    {type : ValueType α}
    {packet result : Packet}
    (returned : packet.readValue type = some (value, result)) :
    result.written = packet.written := by
  unfold readValue at returned
  split at returned
  · cases returned
    rfl
  · simp only [Option.bind_eq_bind, Option.bind_eq_some_iff,
      Option.some.injEq, Prod.mk.injEq, Prod.exists] at returned
    obtain ⟨bytes, rest, copied, -, rfl⟩ := returned
    exact written_of_copyOut copied

/-- `READ_VALUE` returns `-1` and reads nothing, or consumes the value. -/
theorem unread_of_readValue
    {type : ValueType α}
    {packet result : Packet}
    (returned : packet.readValue type = some (value, result)) :
    (value = type.minusOne ∧ result = packet) ∨
      packet.unread.length = type.size + result.unread.length := by
  unfold readValue at returned
  split at returned
  · cases returned
    exact Or.inl ⟨rfl, rfl⟩
  · simp only [Option.bind_eq_bind, Option.bind_eq_some_iff,
      Option.some.injEq, Prod.mk.injEq, Prod.exists] at returned
    obtain ⟨bytes, rest, copied, -, rfl⟩ := returned
    obtain ⟨split, taken⟩ := unread_of_copyOut copied
    right
    rw [split, List.length_append, taken]

/-- `READ_ARRAY` returns no bytes, or as many as stand behind a length field. -/
theorem length_of_readArray
    {packet result : Packet}
    (returned : packet.readArray destination = some (bytes, result)) :
    bytes = [] ∨ sizeOfSizeT + bytes.length ≤ packet.unread.length := by
  cases destination with
  | none =>
      cases returned
      exact Or.inl rfl
  | some capacity =>
      simp only [readArray] at returned
      split at returned
      · cases returned
        exact Or.inl rfl
      · simp only [Option.bind_eq_bind, Option.bind_eq_some_iff,
          Prod.exists] at returned
        obtain ⟨announced, counted, lengthCopied, returned⟩ := returned
        obtain ⟨headSplit, headTaken⟩ := unread_of_copyOut lengthCopied
        split at returned
        · cases returned
          exact Or.inl rfl
        · split at returned
          · cases returned
            exact Or.inl rfl
          · split at returned
            · contradiction
            · obtain ⟨bytesSplit, -⟩ := unread_of_copyOut returned
              right
              rw [headSplit, bytesSplit, List.length_append,
                List.length_append, headTaken]
              omega

/-- `READ_ARRAY` leaves the written bytes alone. -/
theorem written_of_readArray
    {packet result : Packet}
    (returned : packet.readArray destination = some (bytes, result)) :
    result.written = packet.written := by
  cases destination with
  | none =>
      cases returned
      rfl
  | some capacity =>
      simp only [readArray] at returned
      split at returned
      · cases returned
        rfl
      · simp only [Option.bind_eq_bind, Option.bind_eq_some_iff,
          Prod.exists] at returned
        obtain ⟨announced, counted, lengthCopied, returned⟩ := returned
        have sameLength := written_of_copyOut lengthCopied
        split at returned
        · cases returned
          exact sameLength
        · split at returned
          · cases returned
            exact sameLength
          · split at returned
            · contradiction
            · exact (written_of_copyOut returned).trans sameLength

/-- `READ_VALUE` returns a stored value that comes next. -/
theorem exists_readValue
    {type : ValueType α}
    {packet : Packet}
    (unread : packet.unread = type.toBytes value ++ rest) :
    ∃ result,
      packet.readValue type = some (value, result) ∧
        result.unread = rest := by
  obtain ⟨result, copied, remaining⟩ := exists_copyOut unread
  have ordered := packet.readPos_le
  have bounded : packet.writePos ≤ 4096 := packet.writePos_le
  have available : packet.readPos + type.size ≤ packet.writePos := by
    have total := packet.length_unread
    rw [unread, List.length_append, type.length_toBytes] at total
    have positive := type.size_le
    omega
  refine ⟨result, ?_, remaining⟩
  rw [type.length_toBytes] at copied
  rw [readValue, sizeAdd_eq (by omega), if_neg (by omega), copied]
  simp only [Option.bind_eq_bind, Option.bind_some, ValueType.toBytes,
    LittleEndian.decode_encode_of_lt (type.represent_lt value),
    type.interpret_represent]

/-- `READ_ARRAY` begins with the length in front of an array. -/
theorem exists_copyOut_length
    {packet : Packet}
    {array : CArray}
    (unread : packet.unread =
      LittleEndian.encode sizeOfSizeT array.length ++ rest) :
    ¬ packet.writePos < sizeAdd packet.readPos sizeOfSizeT ∧
      ∃ counted,
        packet.copyOut sizeOfSizeT =
            some (LittleEndian.encode sizeOfSizeT array.length, counted) ∧
          counted.unread = rest := by
  obtain ⟨counted, copied, remaining⟩ := exists_copyOut unread
  rw [LittleEndian.length_encode] at copied
  refine ⟨?_, counted, copied, remaining⟩
  have ordered := packet.readPos_le
  have bounded : packet.writePos ≤ 4096 := packet.writePos_le
  have total := packet.length_unread
  rw [unread, List.length_append, LittleEndian.length_encode,
    sizeOfSizeT] at total
  rw [sizeOfSizeT, sizeAdd_eq (by omega)]
  omega

/-- The length in front of an array is decoded exactly. -/
theorem decode_length (array : CArray) :
    LittleEndian.decode (LittleEndian.encode sizeOfSizeT array.length) =
      array.length :=
  LittleEndian.decode_encode_of_lt array.length_lt

/-- `READ_ARRAY` returns the array that comes next where the destination has
room for it and for a length field. -/
theorem exists_readArray
    {packet : Packet}
    {array : CArray}
    (unread : packet.unread = array.wire ++ rest)
    (room : array.length ≤ capacity)
    (field : sizeOfSizeT ≤ capacity) :
    ∃ result,
      packet.readArray (some capacity) = some (array.bytes, result) ∧
        result.unread = rest := by
  rw [CArray.wire, List.append_assoc] at unread
  obtain ⟨accepted, counted, copied, remaining⟩ :=
    exists_copyOut_length unread
  obtain ⟨result, bytesCopied, behind⟩ := exists_copyOut remaining
  have ordered := counted.readPos_le
  have bounded : counted.writePos ≤ 4096 := counted.writePos_le
  have total := counted.length_unread
  rw [remaining, List.length_append] at total
  have positions : counted.readPos + array.length ≤ counted.writePos ∨
      array.length = 0 := by
    rw [CArray.length]
    omega
  refine ⟨result, ?_, behind⟩
  simp only [readArray, accepted, if_false, copied, Option.bind_eq_bind,
    Option.bind_some, decode_length]
  rw [if_neg (by omega), sizeAdd_eq (by omega), if_neg (by omega),
    if_neg (by omega)]
  exact bytesCopied

/-- `READ_ARRAY` returns no bytes where the destination is smaller than a
length field, whatever the length of the array. -/
theorem exists_readArray_small
    {packet : Packet}
    {array : CArray}
    (unread : packet.unread = array.wire ++ rest)
    (small : capacity < sizeOfSizeT) :
    ∃ result,
      packet.readArray (some capacity) = some ([], result) ∧
        result.unread = array.bytes ++ rest := by
  rw [CArray.wire, List.append_assoc] at unread
  obtain ⟨accepted, counted, copied, remaining⟩ :=
    exists_copyOut_length unread
  refine ⟨counted, ?_, remaining⟩
  simp only [readArray, accepted, if_false, copied, Option.bind_eq_bind,
    Option.bind_some, if_pos small]

/-- `READ_ARRAY` returns no bytes where too few are left for a length field. -/
theorem readArray_eq_nil
    {packet : Packet}
    (short : packet.unread.length < sizeOfSizeT) :
    packet.readArray (some capacity) = some ([], packet) := by
  have ordered := packet.readPos_le
  have bounded : packet.writePos ≤ 4096 := packet.writePos_le
  rw [length_unread, sizeOfSizeT] at short
  have headed : sizeAdd packet.readPos sizeOfSizeT = packet.readPos + 4 :=
    sizeAdd_eq (by rw [sizeOfSizeT]; omega)
  rw [readArray, headed, if_pos (by omega)]

/-! ## Serialization -/

/-- `serialize( buffer, length() )` fills a large enough block with the written
bytes. -/
theorem exists_serialize
    (packet : Packet)
    (buffer : Buffer UInt8 capacity)
    (room : packet.length ≤ capacity) :
    ∃ filled,
      packet.serialize buffer packet.length =
          some (packet.length, filled) ∧
        filled.load 0 packet.length = some packet.written := by
  obtain ⟨filled, stored⟩ :=
    buffer.exists_store 0 packet.written (by rwa [length_written, Nat.zero_add])
  refine ⟨filled, ?_, ?_⟩
  · rw [serialize, if_pos (Nat.le_refl _)]
    change (buffer.store 0 packet.written).bind _ = _
    rw [stored]
    rfl
  · have reloaded := Buffer.load_of_store stored
    rwa [length_written] at reloaded

/-- `deserialize` makes the bytes of a block the unread ones, whatever the
packet held before. -/
theorem exists_deserialize
    (packet : Packet)
    {buffer : Buffer UInt8 capacity}
    (loaded : buffer.load 0 bytes.length = some bytes)
    (fits : bytes.length ≤ bufferSize) :
    ∃ result,
      packet.deserialize buffer bytes.length =
          some (bytes.length, result) ∧
        result.unread = bytes ∧
        result.length = bytes.length := by
  obtain ⟨data, stored⟩ :=
    packet.data.exists_store 0 bytes (by omega)
  let result : Packet := {
    data
    readPos := 0
    writePos := bytes.length
    readPos_le := Nat.zero_le _
    writePos_le := fits }
  refine ⟨result, ?_, ?_, rfl⟩
  · rw [deserialize, dif_pos fits, loaded]
    simp only [Option.bind_eq_bind, Option.bind_some, stored]
    rfl
  · have front := Buffer.take_of_store stored
    rw [Nat.zero_add, List.take_zero, List.nil_append] at front
    rw [unread, List.drop_zero, written, front]

end Packet
end BthEmul
