import BthEmul.Common.PacketMemory

/-!
# Packets and their callers

A reader of an array is given a destination and its size, `serialize` a block
and the number of bytes wanted. The size is compared with the size of a length
field only, and all written bytes are copied whatever number is wanted. An
operation that fails leaves the packet as it was, except that a reader has
skipped the length of the array when it looks at the size of the destination
and at the payload.
-/

namespace BthEmul

open Foundation

namespace RawPacket

/-- `READ_ARRAY` accepts the length field of the array that comes next. -/
def AcceptsHeader (packet : RawPacket) : Prop :=
  ¬ packet.writePos < sizeAdd packet.readPos sizeOfSizeT

/-- `READ_ARRAY` accepts the payload of the array that comes next. -/
def AcceptsPayload (packet : RawPacket) : Prop :=
  ¬ packet.writePos <
    sizeAdd (sizeAdd packet.readPos sizeOfSizeT) packet.strLength

/-- The size of the destination of a reader of an array. -/
def arrayDestination : PacketCall → Option UInt32
  | .readString destination => destination
  | .readWString destination => destination
  | .readUCharArray destination => destination
  | _ => none

/-- The readers of an array do the same with a destination. -/
theorem perform_of_arrayDestination
    (packet : RawPacket)
    {call : PacketCall}
    (reader : arrayDestination call = some length) :
    packet.perform call = packet.readArray (some length) := by
  cases call with
  | readString destination => exact congrArg packet.readArray reader
  | readWString destination => exact congrArg packet.readArray reader
  | readUCharArray destination => exact congrArg packet.readArray reader
  | _ => contradiction

/-- What a reader with a destination does with the array that comes next. -/
theorem readArray_cases
    (packet : RawPacket)
    (length : UInt32) :
    (¬ packet.AcceptsHeader ∧
        packet.readArray (some length) = packet.refuse (.size 0)) ∨
      (packet.AcceptsHeader ∧
        (length.toNat < sizeOfSizeT ∨ ¬ packet.AcceptsPayload) ∧
        (packet.readArray (some length)).refused = true ∧
        (packet.readArray (some length)).packet = packet.skip sizeOfSizeT ∧
        (packet.readArray (some length)).destination = [] ∧
        (packet.readArray (some length)).answer = .size 0) ∨
      (packet.AcceptsHeader ∧ sizeOfSizeT ≤ length.toNat ∧
        packet.AcceptsPayload ∧
        (packet.readArray (some length)).refused = false ∧
        (packet.readArray (some length)).destination.length =
          packet.strLength) := by
  simp only [readArray]
  by_cases header : packet.writePos < sizeAdd packet.readPos sizeOfSizeT
  · rw [if_pos header]
    exact .inl ⟨fun accepted => accepted header, rfl⟩
  · rw [if_neg header]
    refine .inr ?_
    by_cases small : length.toNat < sizeOfSizeT
    · rw [if_pos small]
      exact .inl ⟨header, .inl small, rfl, rfl, rfl, rfl⟩
    · rw [if_neg small]
      by_cases short : (packet.skip sizeOfSizeT).writePos <
          sizeAdd (packet.skip sizeOfSizeT).readPos packet.strLength
      · rw [if_pos short]
        exact .inl ⟨header, .inr fun accepted => accepted short, rfl, rfl,
          rfl, rfl⟩
      · rw [if_neg short]
        exact .inr ⟨header, Nat.le_of_not_lt small, short, rfl,
          FlatMemory.length_read _ _ _⟩

/-! ## The memory of the caller -/

/-- What a call promises about the memory of its caller: a reader writes no
more than the destination holds, and nothing where the stored array is longer;
`serialize` writes the bytes that are wanted and no others. -/
def SparesCaller
    (packet : RawPacket)
    (call : PacketCall)
    (effect : PacketEffect) : Prop :=
  (∀ length, arrayDestination call = some length →
    effect.destination.length ≤ length.toNat ∧
      (packet.readPos + sizeOfSizeT ≤ packet.writePos →
        length.toNat < packet.strLength →
          effect.answer = .size 0 ∧ effect.destination = [])) ∧
    ∀ size, call = .serialize true size → size.toNat ≤ packet.writePos →
      effect.destination = FlatMemory.read packet.data 0 size.toNat

/-- The array that a reader copies fits its destination, and `serialize` is
asked for all that was written. -/
def FitsCaller (packet : RawPacket) (call : PacketCall) : Prop :=
  (∀ length, arrayDestination call = some length →
    packet.AcceptsHeader → sizeOfSizeT ≤ length.toNat →
      packet.AcceptsPayload → packet.strLength ≤ length.toNat) ∧
    ∀ size, call = .serialize true size → size.toNat ≤ packet.writePos →
      size.toNat = packet.writePos

/-- A reader spares its caller exactly where an array that it copies fits. -/
theorem sparesCaller_readArray_iff
    (packet : RawPacket)
    (length : UInt32) :
    ((packet.readArray (some length)).destination.length ≤ length.toNat ∧
        (packet.readPos + sizeOfSizeT ≤ packet.writePos →
          length.toNat < packet.strLength →
            (packet.readArray (some length)).answer = .size 0 ∧
              (packet.readArray (some length)).destination = [])) ↔
      (packet.AcceptsHeader → sizeOfSizeT ≤ length.toNat →
        packet.AcceptsPayload → packet.strLength ≤ length.toNat) := by
  rcases packet.readArray_cases length with
    ⟨header, same⟩ | ⟨header, refused, -, -, destination, answer⟩ |
      ⟨header, large, payload, -, copied⟩
  · rw [same]
    refine iff_of_true ⟨Nat.zero_le _, fun _ _ => ⟨rfl, rfl⟩⟩ ?_
    intro accepted
    exact absurd accepted header
  · rw [destination, answer]
    refine iff_of_true ⟨Nat.zero_le _, fun _ _ => ⟨rfl, rfl⟩⟩ ?_
    intro _ large payload
    rcases refused with small | short
    · omega
    · exact absurd payload short
  · rw [copied]
    constructor
    · rintro ⟨fits, -⟩ _ _ _
      exact fits
    · intro fits
      have room := fits header large payload
      exact ⟨room, fun _ longer => absurd room (by omega)⟩

/-- `serialize` writes the wanted bytes exactly where they are all. -/
theorem sparesCaller_serialize_iff
    (packet : RawPacket)
    (size : UInt32) :
    (size.toNat ≤ packet.writePos →
        (packet.serialize true size).destination =
          FlatMemory.read packet.data 0 size.toNat) ↔
      (size.toNat ≤ packet.writePos → size.toNat = packet.writePos) := by
  refine forall_congr' fun wanted => ?_
  have copied : (packet.serialize true size).destination =
      FlatMemory.read packet.data 0 packet.writePos := by
    rw [serialize, if_pos ⟨rfl, wanted⟩]
  rw [copied]
  constructor
  · intro same
    have lengths := congrArg List.length same
    rw [FlatMemory.length_read, FlatMemory.length_read] at lengths
    exact lengths.symm
  · intro all
    rw [all]

/-- A call spares its caller exactly where what it copies fits. -/
theorem sparesCaller_iff
    (packet : RawPacket)
    (call : PacketCall) :
    packet.SparesCaller call (packet.perform call) ↔
      packet.FitsCaller call := by
  unfold SparesCaller FitsCaller
  refine and_congr ?_ ?_
  · refine forall_congr' fun length => forall_congr' fun destination => ?_
    rw [packet.perform_of_arrayDestination destination]
    exact packet.sparesCaller_readArray_iff length
  · refine forall_congr' fun size => forall_congr' fun serialized => ?_
    rw [serialized]
    exact packet.sparesCaller_serialize_iff size

/-- Every call of a run spares its caller exactly where every array that is
copied fits its destination and `serialize` is always asked for all that was
written. -/
theorem always_sparesCaller_iff
    (beyond : Nat → UInt8)
    (calls : List PacketCall) :
    packetCallMachine.Always
        (fun packet call effect _ => packet.SparesCaller call effect)
        (fresh beyond) calls ↔
      packetCallMachine.Admits FitsCaller (fresh beyond) calls := by
  refine Machine.always_iff_admits_of_total packetCallMachine_step
    (fun _ => True) ?_ (fun _ _ _ _ => trivial) trivial calls
  intro packet call _
  exact packet.sparesCaller_iff call

theorem five_lt : [1, 2, 3, 4, (5 : UInt8)].length < 2 ^ 32 := by decide

/-- An array of five bytes. -/
def fiveBytes : CArray where
  bytes := [1, 2, 3, 4, 5]
  length_lt := five_lt

/-- A stored array of five bytes is copied to a destination of four. -/
theorem not_always_sparesCaller :
    (((fresh fun _ => 0).perform (.writeUCharArray fiveBytes)).packet.perform
        (.readUCharArray (some 4))).destination = [1, 2, 3, 4, 5] ∧
      ¬ packetCallMachine.Always
        (fun packet call effect _ => packet.SparesCaller call effect)
        (fresh fun _ => 0)
        [.writeUCharArray fiveBytes, .readUCharArray (some 4)] := by
  have copied : (((fresh fun _ => 0).perform
      (.writeUCharArray fiveBytes)).packet.perform
        (.readUCharArray (some 4))).destination = [1, 2, 3, 4, 5] := by
    decide +kernel
  refine ⟨copied, ?_⟩
  intro always
  have second := (always _ _ rfl).2 _ _ rfl
  have fits := (second.1.1 4 rfl).1
  rw [copied] at fits
  exact absurd fits (by decide)

/-! ## Failures -/

/-- A call reports a failure: it returns early, or `deserialize` returns
zero. -/
def ReportsFailure (call : PacketCall) (effect : PacketEffect) : Prop :=
  effect.refused = true ∨
    ((∃ buffer, call = .deserialize buffer) ∧ effect.answer = .size 0)

/-- A call that reports a failure leaves the packet as it was. -/
def FailsAtomically
    (packet : RawPacket)
    (call : PacketCall)
    (effect : PacketEffect) : Prop :=
  ReportsFailure call effect → effect.packet = packet

/-- A reader that accepts a length field also accepts its destination and the
payload, and no bytes are deserialized into an empty packet only. -/
def FailsEarly (packet : RawPacket) (call : PacketCall) : Prop :=
  (∀ length, arrayDestination call = some length →
    packet.AcceptsHeader →
      sizeOfSizeT ≤ length.toNat ∧ packet.AcceptsPayload) ∧
    ∀ source, call = .deserialize (some source) → source.length = 0 →
      packet.readPos = 0 ∧ packet.writePos = 0

/-- Skipping a length field moves the read position. -/
theorem skip_ne (packet : RawPacket) : packet.skip sizeOfSizeT ≠ packet := by
  intro same
  have position : (packet.readPos + 4) % 2 ^ 32 = packet.readPos :=
    congrArg RawPacket.readPos same
  omega

/-- A reader fails atomically exactly where it does not fail behind the length
field. -/
theorem failsAtomically_readArray_iff
    (packet : RawPacket)
    (length : UInt32) :
    ((packet.readArray (some length)).refused = true →
        (packet.readArray (some length)).packet = packet) ↔
      (packet.AcceptsHeader →
        sizeOfSizeT ≤ length.toNat ∧ packet.AcceptsPayload) := by
  rcases packet.readArray_cases length with
    ⟨header, same⟩ | ⟨header, reason, refused, moved, -, -⟩ |
      ⟨header, large, payload, done, -⟩
  · rw [same]
    exact iff_of_true (fun _ => rfl) fun accepted => absurd accepted header
  · rw [refused, moved]
    refine iff_of_false (fun kept => packet.skip_ne (kept rfl)) ?_
    intro early
    obtain ⟨large, payload⟩ := early header
    rcases reason with small | short
    · omega
    · exact short payload
  · rw [done]
    exact iff_of_true nofun fun _ => ⟨large, payload⟩

/-- `deserialize` returns zero without a change exactly where it is not given
zero bytes, or the packet is empty. -/
theorem failsAtomically_deserialize_iff
    (packet : RawPacket)
    (source : CArray) :
    packet.FailsAtomically (.deserialize (some source))
        (packet.deserialize (some source)) ↔
      (source.length = 0 → packet.readPos = 0 ∧ packet.writePos = 0) := by
  unfold FailsAtomically ReportsFailure
  simp only [deserialize]
  split
  · rename_i fits
    constructor
    · intro kept empty
      have same := kept (.inr ⟨⟨_, rfl⟩, by rw [empty]⟩)
      exact ⟨(congrArg RawPacket.readPos same).symm,
        (congrArg RawPacket.writePos same).symm.trans empty⟩
    · rintro unread (refused | ⟨-, answer⟩)
      · contradiction
      · have empty : source.length = 0 := PacketAnswer.size.inj answer
        have none : source.bytes = [] := List.eq_nil_of_length_eq_zero empty
        obtain ⟨readPos, writePos⟩ := unread empty
        rw [none, FlatMemory.write_nil, empty]
        cases packet
        cases readPos
        cases writePos
        rfl
  · rename_i exceeds
    refine iff_of_true (fun _ => rfl) fun empty => ?_
    rw [empty] at exceeds
    exact absurd (Nat.zero_le _) exceeds

/-- An early return of a write or of a scalar read changes nothing. -/
theorem packet_of_refused
    {packet : RawPacket}
    {call : PacketCall}
    (noArray : arrayDestination call = none)
    (refused : (packet.perform call).refused = true) :
    (packet.perform call).packet = packet := by
  have array : ∀ source, (packet.writeArray source).refused = true →
      (packet.writeArray source).packet = packet := by
    intro source
    unfold writeArray
    split
    · exact fun _ => rfl
    · exact nofun
  cases call with
  | writeValue value =>
      revert refused
      simp only [perform, writeValue]
      split
      · exact fun _ => rfl
      · exact nofun
  | writeString value =>
      cases value with
      | none => rfl
      | some value => exact array value.toArray refused
  | writeWString value =>
      cases value with
      | none => rfl
      | some value => exact array value.toArray refused
  | writeUCharArray source => exact array source refused
  | readValue type =>
      revert refused
      simp only [perform, readValue]
      split
      · exact fun _ => rfl
      · exact nofun
  | readString destination => rw [show destination = none from noArray]; rfl
  | readWString destination => rw [show destination = none from noArray]; rfl
  | readUCharArray destination =>
      rw [show destination = none from noArray]; rfl
  | serialize buffer size =>
      simp only [perform, serialize]
      split <;> rfl
  | deserialize buffer =>
      cases buffer with
      | none => rfl
      | some source =>
          revert refused
          simp only [perform, deserialize]
          split
          · exact nofun
          · exact fun _ => rfl

/-- A call fails atomically exactly where it fails before it changes the
packet. -/
theorem failsAtomically_iff
    (packet : RawPacket)
    (call : PacketCall) :
    packet.FailsAtomically call (packet.perform call) ↔
      packet.FailsEarly call := by
  cases reader : arrayDestination call with
  | some length =>
      have performed := packet.perform_of_arrayDestination reader
      have noSource : ∀ buffer, call ≠ .deserialize buffer := by
        rintro buffer rfl
        contradiction
      rw [FailsAtomically, ReportsFailure, performed]
      constructor
      · intro kept
        refine ⟨?_, fun source same => absurd same (noSource _)⟩
        rintro other found
        rw [reader, Option.some.injEq] at found
        subst found
        exact (packet.failsAtomically_readArray_iff length).mp
          fun refused => kept (.inl refused)
      · rintro ⟨early, -⟩ (refused | ⟨⟨buffer, same⟩, -⟩)
        · exact (packet.failsAtomically_readArray_iff length).mpr
            (early length reader) refused
        · exact absurd same (noSource buffer)
  | none =>
      have noArray : ∀ length, arrayDestination call ≠ some length := by
        intro length found
        rw [reader] at found
        contradiction
      by_cases deserialized : ∃ source, call = .deserialize (some source)
      · obtain ⟨source, rfl⟩ := deserialized
        rw [show packet.perform (.deserialize (some source)) =
          packet.deserialize (some source) from rfl,
          failsAtomically_deserialize_iff]
        constructor
        · intro unread
          refine ⟨fun length found => absurd found (noArray length), ?_⟩
          intro other same
          cases same
          exact unread
        · rintro ⟨-, unread⟩
          exact unread source rfl
      · refine iff_of_true ?_
          ⟨fun length found => absurd found (noArray length),
            fun source same => absurd ⟨source, same⟩ deserialized⟩
        rintro (refused | ⟨⟨buffer, rfl⟩, -⟩)
        · exact packet_of_refused reader refused
        · cases buffer with
          | none => rfl
          | some source => exact absurd ⟨source, rfl⟩ deserialized

/-- Every call of a run that reports a failure leaves the packet as it was
exactly where no reader fails behind a length field and no packet but an empty
one is given zero bytes. -/
theorem always_failsAtomically_iff
    (beyond : Nat → UInt8)
    (calls : List PacketCall) :
    packetCallMachine.Always
        (fun packet call effect _ => packet.FailsAtomically call effect)
        (fresh beyond) calls ↔
      packetCallMachine.Admits FailsEarly (fresh beyond) calls := by
  refine Machine.always_iff_admits_of_total packetCallMachine_step
    (fun _ => True) ?_ (fun _ _ _ _ => trivial) trivial calls
  intro packet call _
  exact packet.failsAtomically_iff call

/-- A destination of two bytes is refused behind the length field of the array,
so that the next reader starts in the middle of it. -/
theorem not_always_failsAtomically :
    (((fresh fun _ => 0).perform (.writeUCharArray fiveBytes)).packet.perform
        (.readUCharArray (some 2))).answer = .size 0 ∧
      (((fresh fun _ => 0).perform (.writeUCharArray fiveBytes)).packet.perform
        (.readUCharArray (some 2))).packet.readPos = 4 ∧
      ¬ packetCallMachine.Always
        (fun packet call effect _ => packet.FailsAtomically call effect)
        (fresh fun _ => 0)
        [.writeUCharArray fiveBytes, .readUCharArray (some 2)] := by
  have refused : (((fresh fun _ => 0).perform
      (.writeUCharArray fiveBytes)).packet.perform
        (.readUCharArray (some 2))).refused = true := by
    decide +kernel
  have moved : (((fresh fun _ => 0).perform
      (.writeUCharArray fiveBytes)).packet.perform
        (.readUCharArray (some 2))).packet.readPos = 4 := by
    decide +kernel
  refine ⟨by decide +kernel, moved, ?_⟩
  intro always
  have second := (always _ _ rfl).2 _ _ rfl
  have kept := congrArg RawPacket.readPos (second.1 (.inl refused))
  rw [moved] at kept
  exact absurd kept (by decide +kernel)

end RawPacket
end BthEmul
