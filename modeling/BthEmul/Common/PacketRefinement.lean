import BthEmul.Common.PacketMemory
import BthEmul.Common.PacketRoundTrip

/-!
# The packet class and its memory

Where an operation of the checked packet has a result, the operation on the
memory behind `_data` has the same result, whatever lies behind the block. The
two agree on what is written and read, on the positions and on what is
returned, after one operation and after any sequence of typed writes and reads.
-/

namespace BthEmul

open Foundation

namespace Packet

/-- The memory that holds a packet, and what lies behind its block. -/
def inMemory (packet : Packet) (beyond : Nat → UInt8) : RawPacket where
  data := FlatMemory.ofBuffer packet.data beyond
  readPos := packet.readPos
  writePos := packet.writePos

@[simp] theorem inMemory_readPos (packet : Packet) (beyond : Nat → UInt8) :
    (packet.inMemory beyond).readPos = packet.readPos := rfl

@[simp] theorem inMemory_writePos (packet : Packet) (beyond : Nat → UInt8) :
    (packet.inMemory beyond).writePos = packet.writePos := rfl

/-- A new packet is the same in memory. -/
theorem inMemory_fresh (beyond : Nat → UInt8) :
    fresh.inMemory beyond = RawPacket.fresh beyond := rfl

/-! ## Copies -/

/-- Bytes copied into a packet are appended in memory. -/
theorem inMemory_of_copyIn
    {packet result : Packet}
    (beyond : Nat → UInt8)
    (copied : packet.copyIn source = some result) :
    result.inMemory beyond = (packet.inMemory beyond).append source := by
  unfold copyIn at copied
  split at copied
  · contradiction
  · rename_i data stored
    cases copied
    have fits := Buffer.fits_of_store stored
    have exact : sizeAdd packet.writePos source.length =
        packet.writePos + source.length :=
      sizeAdd_eq (by rw [bufferSize] at fits; omega)
    simp only [inMemory, RawPacket.append, exact,
      FlatMemory.ofBuffer_store beyond stored]

/-- Bytes copied out of a packet are read and skipped in memory. -/
theorem inMemory_of_copyOut
    {packet result : Packet}
    (beyond : Nat → UInt8)
    (copied : packet.copyOut size = some (bytes, result)) :
    result.inMemory beyond = (packet.inMemory beyond).skip size ∧
      FlatMemory.read (packet.inMemory beyond).data packet.readPos size =
        bytes := by
  unfold copyOut at copied
  split at copied
  · rename_i available
    simp only [Option.bind_eq_bind, Option.bind_eq_some_iff,
      Option.some.injEq, Prod.mk.injEq] at copied
    obtain ⟨loaded, found, rfl, rfl⟩ := copied
    have bounded := packet.writePos_le
    have exact : sizeAdd packet.readPos size = packet.readPos + size :=
      sizeAdd_eq (by rw [bufferSize] at bounded; omega)
    refine ⟨?_, FlatMemory.read_ofBuffer beyond found⟩
    simp only [inMemory, RawPacket.skip, exact]
  · contradiction

/-! ## Operations -/

/-- `WRITE_VALUE` has the same effect in memory. -/
theorem inMemory_of_writeValue
    {packet result : Packet}
    {type : ValueType α}
    {value : α}
    {stored : ScalarValue}
    (beyond : Nat → UInt8)
    (size : stored.type.size = type.size)
    (bytes : stored.bytes = type.toBytes value)
    (written : packet.writeValue type value = some (done, result)) :
    ((packet.inMemory beyond).writeValue stored).packet =
        result.inMemory beyond ∧
      ((packet.inMemory beyond).writeValue stored).answer = .flag done := by
  unfold writeValue at written
  unfold RawPacket.writeValue
  rw [size, bytes, inMemory_writePos]
  split at written
  · rename_i full
    cases written
    rw [if_pos full]
    exact ⟨rfl, rfl⟩
  · rename_i room
    simp only [Option.bind_eq_bind, Option.bind_eq_some_iff,
      Option.some.injEq, Prod.mk.injEq] at written
    obtain ⟨next, copied, rfl, rfl⟩ := written
    rw [if_neg room]
    exact ⟨(inMemory_of_copyIn beyond copied).symm, rfl⟩

/-- `WRITE_ARRAY` has the same effect in memory. -/
theorem inMemory_of_writeArray
    {packet result : Packet}
    {array : CArray}
    (beyond : Nat → UInt8)
    (written : packet.writeArray array = some (done, result)) :
    ((packet.inMemory beyond).writeArray array).packet =
        result.inMemory beyond ∧
      ((packet.inMemory beyond).writeArray array).answer = .flag done := by
  unfold writeArray at written
  unfold RawPacket.writeArray
  rw [inMemory_writePos]
  split at written
  · rename_i full
    cases written
    rw [if_pos full]
    exact ⟨rfl, rfl⟩
  · rename_i room
    simp only [Option.bind_eq_bind, Option.bind_eq_some_iff,
      Option.some.injEq, Prod.mk.injEq] at written
    obtain ⟨announced, lengthCopied, next, copied, rfl, rfl⟩ := written
    rw [if_neg room]
    refine ⟨?_, rfl⟩
    rw [inMemory_of_copyIn beyond copied,
      inMemory_of_copyIn beyond lengthCopied]

/-- `READ_VALUE` has the same effect in memory: it returns `-1` and nothing
changes, or it returns the value behind the bytes that are read there. -/
theorem inMemory_of_readValue
    {packet result : Packet}
    {type : ValueType α}
    {value : α}
    {scalar : ScalarType}
    (beyond : Nat → UInt8)
    (size : scalar.size = type.size)
    (returned : packet.readValue type = some (value, result)) :
    ((packet.inMemory beyond).readValue scalar).packet =
        result.inMemory beyond ∧
      ∃ bytes,
        ((packet.inMemory beyond).readValue scalar).answer = .value bytes ∧
          value = (bytes.map fun stored =>
            type.interpret (LittleEndian.decode stored)).getD
              type.minusOne := by
  unfold readValue at returned
  unfold RawPacket.readValue
  rw [size, inMemory_readPos, inMemory_writePos]
  split at returned
  · rename_i short
    cases returned
    rw [if_pos short]
    exact ⟨rfl, none, rfl, rfl⟩
  · rename_i available
    simp only [Option.bind_eq_bind, Option.bind_eq_some_iff,
      Option.some.injEq, Prod.mk.injEq, Prod.exists] at returned
    obtain ⟨bytes, rest, copied, rfl, rfl⟩ := returned
    obtain ⟨same, loaded⟩ := inMemory_of_copyOut beyond copied
    rw [if_neg available]
    refine ⟨same.symm, some bytes, ?_, rfl⟩
    rw [← loaded]

/-- `READ_ARRAY` has the same effect in memory, where the checked packet lets
the array into its destination. -/
theorem inMemory_of_readArray
    {packet result : Packet}
    {length : UInt32}
    (beyond : Nat → UInt8)
    (returned : packet.readArray (some length.toNat) =
      some (bytes, result)) :
    ((packet.inMemory beyond).readArray (some length)).packet =
        result.inMemory beyond ∧
      ((packet.inMemory beyond).readArray (some length)).destination =
        bytes := by
  unfold readArray at returned
  simp only [RawPacket.readArray] at returned ⊢
  split at returned
  · rename_i short
    change (packet.inMemory beyond).writePos <
      sizeAdd (packet.inMemory beyond).readPos sizeOfSizeT at short
    cases returned
    rw [if_pos short]
    exact ⟨rfl, rfl⟩
  · rename_i available
    change ¬ (packet.inMemory beyond).writePos <
      sizeAdd (packet.inMemory beyond).readPos sizeOfSizeT at available
    simp only [Option.bind_eq_bind, Option.bind_eq_some_iff,
      Prod.exists] at returned
    obtain ⟨announced, counted, lengthCopied, returned⟩ := returned
    obtain ⟨skipped, loaded⟩ := inMemory_of_copyOut beyond lengthCopied
    have announcedLength : (packet.inMemory beyond).strLength =
        LittleEndian.decode announced := by
      rw [← loaded]
      rfl
    rw [if_neg available, ← skipped, announcedLength]
    split at returned
    · rename_i small
      cases returned
      rw [if_pos small]
      exact ⟨rfl, rfl⟩
    · rename_i large
      rw [if_neg large]
      split at returned
      · rename_i truncated
        change (counted.inMemory beyond).writePos <
          sizeAdd (counted.inMemory beyond).readPos
            (LittleEndian.decode announced) at truncated
        cases returned
        rw [if_pos truncated]
        exact ⟨rfl, rfl⟩
      · rename_i complete
        change ¬ (counted.inMemory beyond).writePos <
          sizeAdd (counted.inMemory beyond).readPos
            (LittleEndian.decode announced) at complete
        rw [if_neg complete]
        split at returned
        · contradiction
        · obtain ⟨behind, content⟩ := inMemory_of_copyOut beyond returned
          refine ⟨behind.symm, ?_⟩
          have sameData : (counted.inMemory beyond).data =
              (packet.inMemory beyond).data := by
            rw [skipped]
            rfl
          rw [← content, sameData]
          rfl

/-- `Packet::serialize` copies the same bytes out of the memory. -/
theorem inMemory_of_serialize
    {packet : Packet}
    {size : UInt32}
    {buffer filled : Buffer UInt8 capacity}
    (beyond : Nat → UInt8)
    (serialized : packet.serialize buffer size.toNat = some (count, filled)) :
    ((packet.inMemory beyond).serialize true size).packet =
        packet.inMemory beyond ∧
      ((packet.inMemory beyond).serialize true size).answer = .size count ∧
      (size.toNat ≤ packet.length → buffer.store 0
        ((packet.inMemory beyond).serialize true size).destination =
          some filled) := by
  unfold serialize at serialized
  unfold RawPacket.serialize
  split at serialized
  · rename_i wanted
    simp only [Option.bind_eq_bind, Option.bind_eq_some_iff,
      Option.some.injEq, Prod.mk.injEq] at serialized
    obtain ⟨result, stored, rfl, rfl⟩ := serialized
    have loaded := packet.data.load_eq_some
      (show 0 + packet.length ≤ bufferSize by
        rw [Nat.zero_add]
        exact packet.writePos_le)
    rw [if_pos ⟨rfl, wanted⟩]
    refine ⟨rfl, rfl, fun _ => ?_⟩
    rw [show FlatMemory.read (packet.inMemory beyond).data 0
      (packet.inMemory beyond).writePos = _ from
        FlatMemory.read_ofBuffer beyond loaded]
    exact stored
  · rename_i tooLong
    cases serialized
    rw [if_neg fun both => tooLong both.2]
    exact ⟨rfl, rfl, fun fits => absurd fits tooLong⟩

/-- `Packet::deserialize` has the same effect in memory. -/
theorem inMemory_of_deserialize
    {packet result : Packet}
    {source : CArray}
    {buffer : Buffer UInt8 capacity}
    (beyond : Nat → UInt8)
    (bytes : buffer.load 0 source.length = some source.bytes)
    (filled : packet.deserialize buffer source.length =
      some (count, result)) :
    ((packet.inMemory beyond).deserialize (some source)).packet =
        result.inMemory beyond ∧
      ((packet.inMemory beyond).deserialize (some source)).answer =
        .size count := by
  unfold deserialize at filled
  simp only [RawPacket.deserialize]
  split at filled
  · rename_i fits
    simp only [Option.bind_eq_bind, Option.bind_eq_some_iff,
      Option.some.injEq, Prod.mk.injEq] at filled
    obtain ⟨loaded, found, data, stored, rfl, rfl⟩ := filled
    rw [bytes] at found
    cases found
    rw [if_pos fits]
    refine ⟨?_, rfl⟩
    simp only [inMemory, FlatMemory.ofBuffer_store beyond stored]
  · rename_i exceeds
    cases filled
    rw [if_neg exceeds]
    exact ⟨rfl, rfl⟩

end Packet

/-! ## Sequences of operations -/

/-- A value of a type of `Packet`, as it stands in memory. -/
def ScalarValue.of
    (scalar : ScalarType)
    (type : ValueType α)
    (size : scalar.size = type.size)
    (value : α) : ScalarValue where
  type := scalar
  bytes := type.toBytes value
  length_eq := by rw [ValueType.length_toBytes, size]

namespace TypedWrite

/-- The call of a typed write. -/
def call : TypedWrite → PacketCall
  | .char value => .writeValue (.of .char .char rfl value)
  | .short value => .writeValue (.of .short .short rfl value)
  | .int value => .writeValue (.of .int .int rfl value)
  | .long value => .writeValue (.of .long .int rfl value)
  | .uChar value => .writeValue (.of .unsignedChar .unsignedChar rfl value)
  | .uShort value => .writeValue (.of .unsignedShort .unsignedShort rfl value)
  | .uInt value => .writeValue (.of .unsignedInt .unsignedInt rfl value)
  | .uLong value => .writeValue (.of .unsignedLong .unsignedInt rfl value)
  | .string value => .writeString value
  | .wString value => .writeWString value
  | .uCharArray array => .writeUCharArray array

/-- The call of the read that goes with a typed write. -/
def readCall (length : UInt32) : TypedWrite → PacketCall
  | .char _ => .readValue .char
  | .short _ => .readValue .short
  | .int _ => .readValue .int
  | .long _ => .readValue .long
  | .uChar _ => .readValue .unsignedChar
  | .uShort _ => .readValue .unsignedShort
  | .uInt _ => .readValue .unsignedInt
  | .uLong _ => .readValue .unsignedLong
  | .string _ => .readString (some length)
  | .wString _ => .readWString (some length)
  | .uCharArray _ => .readUCharArray (some length)

/-- A typed write has the same effect in memory. -/
theorem inMemory_of_perform
    {write : TypedWrite}
    {packet result : Packet}
    (beyond : Nat → UInt8)
    (performed : write.perform packet = some (done, result)) :
    ((packet.inMemory beyond).perform write.call).packet =
        result.inMemory beyond ∧
      ((packet.inMemory beyond).perform write.call).answer = .flag done := by
  cases write with
  | char | short | int | long | uChar | uShort | uInt | uLong =>
      exact Packet.inMemory_of_writeValue beyond rfl rfl performed
  | string value | wString value =>
      cases value with
      | none =>
          cases performed
          exact ⟨rfl, rfl⟩
      | some value => exact Packet.inMemory_of_writeArray beyond performed
  | uCharArray array => exact Packet.inMemory_of_writeArray beyond performed

end TypedWrite

/-- A scalar is returned that was read, or `-1`. -/
def ReturnsScalar
    (type : ValueType α)
    (value : α)
    (effect : PacketEffect) : Prop :=
  ∃ bytes, effect.answer = .value bytes ∧
    value = (bytes.map fun stored =>
      type.interpret (LittleEndian.decode stored)).getD type.minusOne

/-- What a call returns or stores is a value. -/
def TypedValue.Returned (effect : PacketEffect) : TypedValue → Prop
  | .char value => ReturnsScalar .char value effect
  | .short value => ReturnsScalar .short value effect
  | .int value => ReturnsScalar .int value effect
  | .long value => ReturnsScalar .int value effect
  | .uChar value => ReturnsScalar .unsignedChar value effect
  | .uShort value => ReturnsScalar .unsignedShort value effect
  | .uInt value => ReturnsScalar .unsignedInt value effect
  | .uLong value => ReturnsScalar .unsignedInt value effect
  | .array bytes => effect.destination = bytes

/-- A typed read has the same effect in memory. -/
theorem TypedWrite.inMemory_of_readBack
    {write : TypedWrite}
    {packet result : Packet}
    {length : UInt32}
    {value : TypedValue}
    (beyond : Nat → UInt8)
    (returned : write.readBack length.toNat packet = some (value, result)) :
    ((packet.inMemory beyond).perform (write.readCall length)).packet =
        result.inMemory beyond ∧
      value.Returned
        ((packet.inMemory beyond).perform (write.readCall length)) := by
  cases write with
  | char | short | int | long | uChar | uShort | uInt | uLong =>
      obtain ⟨⟨read, rest⟩, found, same⟩ := Option.map_eq_some_iff.mp returned
      cases same
      exact Packet.inMemory_of_readValue beyond rfl found
  | string | wString | uCharArray =>
      obtain ⟨⟨read, rest⟩, found, same⟩ := Option.map_eq_some_iff.mp returned
      cases same
      exact Packet.inMemory_of_readArray beyond found

namespace Packet

/-- Typed writes that all return true do so in memory, and leave there what
they leave in the packet. -/
theorem inMemory_of_writeAll
    {exchanges : List Exchange}
    {packet result : Packet}
    (beyond : Nat → UInt8)
    (written : packet.writeAll exchanges = some result) :
    ∃ effects,
      packetCallMachine.run (packet.inMemory beyond)
          (exchanges.map fun exchange => exchange.write.call) =
        some (effects, result.inMemory beyond) ∧
      ∀ effect ∈ effects, effect.answer = .flag true := by
  induction exchanges generalizing packet with
  | nil =>
      cases written
      exact ⟨[], rfl, nofun⟩
  | cons exchange rest inductionHypothesis =>
      rw [writeAll] at written
      split at written
      · rename_i next first
        obtain ⟨moved, answer⟩ :=
          TypedWrite.inMemory_of_perform beyond first
        obtain ⟨effects, ran, answers⟩ := inductionHypothesis written
        rw [← moved] at ran
        refine ⟨_ :: effects, Machine.run_cons_eq_some_iff.mpr
          ⟨_, _, effects, packetCallMachine_step _ _, ran, rfl⟩, ?_⟩
        exact List.forall_mem_cons.mpr ⟨answer, answers⟩
      · contradiction

/-- Typed reads return the same values in memory, and leave there what they
leave in the packet, where their destinations have a `size_t` size. -/
theorem inMemory_of_readAll
    {exchanges : List Exchange}
    {packet result : Packet}
    (beyond : Nat → UInt8)
    (sizes : ∀ exchange ∈ exchanges, exchange.capacity < 2 ^ 32)
    (returned : packet.readAll exchanges = some (values, result)) :
    ∃ effects,
      packetCallMachine.run (packet.inMemory beyond)
          (exchanges.map fun exchange =>
            exchange.write.readCall (UInt32.ofNat exchange.capacity)) =
        some (effects, result.inMemory beyond) ∧
      List.Forall₂ (fun value effect => value.Returned effect)
        values effects := by
  induction exchanges generalizing packet values with
  | nil =>
      cases returned
      exact ⟨[], rfl, .nil⟩
  | cons exchange rest inductionHypothesis =>
      obtain ⟨size, sizes⟩ := List.forall_mem_cons.mp sizes
      simp only [readAll, Option.bind_eq_bind, Option.bind_eq_some_iff,
        Prod.exists, Option.some.injEq, Prod.mk.injEq] at returned
      obtain ⟨value, next, first, later, final, others, rfl, rfl⟩ := returned
      have capacity : (UInt32.ofNat exchange.capacity).toNat =
          exchange.capacity := UInt32.toNat_ofNat_of_lt size
      rw [← capacity] at first
      obtain ⟨moved, value⟩ := TypedWrite.inMemory_of_readBack beyond first
      obtain ⟨effects, ran, values⟩ := inductionHypothesis sizes others
      rw [← moved] at ran
      exact ⟨_ :: effects, Machine.run_cons_eq_some_iff.mpr
        ⟨_, _, effects, packetCallMachine_step _ _, ran, rfl⟩,
        .cons value values⟩

end Packet
end BthEmul
