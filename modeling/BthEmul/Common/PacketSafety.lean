import BthEmul.Common.PacketMemory

/-!
# What the packet class keeps

The size tests of the class are sums of `size_t` values. Where a sum does not
wrap around, the test keeps the operation inside the block and the positions in
order. Whether an operation stays inside the memory of its caller, and whether
one that fails leaves the packet as it was, are questions of their own.
-/

namespace BthEmul

open Foundation

namespace RawPacket

/-! ## Positions -/

/-- The positions are in order and inside the block. -/
structure WellPlaced (packet : RawPacket) : Prop where
  /-- Nothing is read that was not written. -/
  readPos_le : packet.readPos ≤ packet.writePos
  /-- Nothing is written behind the block. -/
  writePos_le : packet.writePos ≤ Packet.bufferSize

/-- A new packet has its positions at the start. -/
theorem wellPlaced_fresh (beyond : Nat → UInt8) :
    (fresh beyond).WellPlaced :=
  ⟨Nat.le_refl 0, Nat.zero_le _⟩

/-- A sum does not wrap around where neither part exceeds the block. -/
theorem sizeAdd_of_inside
    {position size : Nat}
    (inside : position ≤ Packet.bufferSize)
    (small : size ≤ Packet.bufferSize) :
    sizeAdd position size = position + size := by
  rw [Packet.bufferSize] at inside small
  exact sizeAdd_eq (by omega)

/-- No scalar and no length field exceeds the block. -/
theorem le_bufferSize
    {size : Nat}
    (small : size ≤ 8) :
    size ≤ Packet.bufferSize :=
  Nat.le_trans small (by decide)

/-- Bytes that fit behind the written ones are appended there. -/
theorem wellPlaced_append
    {packet : RawPacket}
    (placed : packet.WellPlaced)
    {source : List UInt8}
    (fits : packet.writePos + source.length ≤ Packet.bufferSize) :
    (packet.append source).WellPlaced ∧
      (packet.append source).writePos =
        packet.writePos + source.length := by
  have exact : sizeAdd packet.writePos source.length =
      packet.writePos + source.length :=
    sizeAdd_of_inside placed.writePos_le
      (Nat.le_trans (Nat.le_add_left _ _) fits)
  have behind : (packet.append source).writePos =
      packet.writePos + source.length := exact
  refine ⟨⟨?_, ?_⟩, behind⟩
  · rw [behind]
    exact Nat.le_trans placed.readPos_le (Nat.le_add_right _ _)
  · rw [behind]
    exact fits

/-- Bytes that were written can be skipped. -/
theorem wellPlaced_skip
    {packet : RawPacket}
    (placed : packet.WellPlaced)
    {size : Nat}
    (available : packet.readPos + size ≤ packet.writePos) :
    (packet.skip size).WellPlaced ∧
      (packet.skip size).readPos = packet.readPos + size := by
  have bounded := placed.writePos_le
  have exact : sizeAdd packet.readPos size = packet.readPos + size :=
    sizeAdd_of_inside (Nat.le_trans placed.readPos_le bounded)
      (Nat.le_trans (Nat.le_add_left _ _)
        (Nat.le_trans available bounded))
  have behind : (packet.skip size).readPos = packet.readPos + size := exact
  refine ⟨⟨?_, bounded⟩, behind⟩
  rw [behind]
  exact available

end RawPacket

/-- The copies into and out of `_data` stay inside the block. -/
def PacketEffect.Inside (effect : PacketEffect) : Prop :=
  ∀ access ∈ effect.accesses,
    access.start + access.count ≤ Packet.bufferSize

namespace RawPacket

/-! ## Sums that do not wrap around -/

/-- The sum of a position inside the block, the size of a length field and a
length does not wrap around to a value that a test against the limit
accepts. -/
def Unwrapped (position length limit : Nat) : Prop :=
  position + sizeOfSizeT + length < 2 ^ 32 ∨
    2 ^ 32 + limit < position + sizeOfSizeT + length

/-- The test of such a sum is exact where the sum does not wrap around, and
accepts a length behind the limit where it does. -/
theorem accepted_iff
    {position length limit : Nat}
    (inside : position ≤ Packet.bufferSize)
    (size : length < 2 ^ 32)
    (limited : limit ≤ Packet.bufferSize) :
    ¬ limit < sizeAdd (sizeAdd position sizeOfSizeT) length ↔
      position + sizeOfSizeT + length ≤ limit ∨
        ¬ Unwrapped position length limit := by
  have headed : sizeAdd position sizeOfSizeT = position + sizeOfSizeT :=
    sizeAdd_of_inside inside (by decide)
  rw [Packet.bufferSize] at inside limited
  rw [headed, sizeAdd, Unwrapped, sizeOfSizeT]
  omega

/-- The length of the array that comes next does not wrap around, where a
reader gets as far as testing it. -/
def ReadsExactly (packet : RawPacket) (length : UInt32) : Prop :=
  packet.readPos + sizeOfSizeT ≤ packet.writePos →
    sizeOfSizeT ≤ length.toNat →
      Unwrapped packet.readPos packet.strLength packet.writePos

/-- The length of an array does not wrap around where it is written. -/
def WritesExactly (packet : RawPacket) (array : CArray) : Prop :=
  Unwrapped packet.writePos array.length Packet.bufferSize

/-- The sums a call computes do not wrap around to values that its tests
accept. -/
def Exact (packet : RawPacket) : PacketCall → Prop
  | .writeString (some value) => packet.WritesExactly value.toArray
  | .writeWString (some value) => packet.WritesExactly value.toArray
  | .writeUCharArray array => packet.WritesExactly array
  | .readString (some length) => packet.ReadsExactly length
  | .readWString (some length) => packet.ReadsExactly length
  | .readUCharArray (some length) => packet.ReadsExactly length
  | _ => True

/-! ## One call -/

/-- What is promised of a call: it stays inside the block and leaves the
positions in order. -/
def Keeps (effect : PacketEffect) : Prop :=
  effect.Inside ∧ effect.packet.WellPlaced

/-- An early return does not touch the block. -/
theorem keeps_refuse
    {packet : RawPacket}
    (placed : packet.WellPlaced)
    (answer : PacketAnswer) :
    Keeps (packet.refuse answer) :=
  ⟨nofun, placed⟩

/-- `WRITE_VALUE` keeps the positions in order. -/
theorem keeps_writeValue
    {packet : RawPacket}
    (placed : packet.WellPlaced)
    (value : ScalarValue) :
    Keeps (packet.writeValue value) := by
  unfold writeValue
  split
  · exact keeps_refuse placed _
  · rename_i accepted
    rw [sizeAdd_of_inside placed.writePos_le
      (le_bufferSize value.type.size_le)] at accepted
    have fits : packet.writePos + value.bytes.length ≤ Packet.bufferSize := by
      rw [value.length_eq]
      omega
    refine ⟨?_, (wellPlaced_append placed fits).1⟩
    intro access member
    rw [List.mem_singleton.mp member]
    exact Nat.le_of_not_lt accepted

/-- `READ_VALUE` keeps the positions in order. -/
theorem keeps_readValue
    {packet : RawPacket}
    (placed : packet.WellPlaced)
    (type : ScalarType) :
    Keeps (packet.readValue type) := by
  have bounded := placed.writePos_le
  unfold readValue
  split
  · exact keeps_refuse placed _
  · rename_i accepted
    rw [sizeAdd_of_inside (Nat.le_trans placed.readPos_le bounded)
      (le_bufferSize type.size_le)] at accepted
    refine ⟨?_, (wellPlaced_skip placed (Nat.le_of_not_lt accepted)).1⟩
    intro access member
    rw [List.mem_singleton.mp member]
    exact Nat.le_trans (Nat.le_of_not_lt accepted) bounded

/-- `WRITE_ARRAY` keeps the positions in order exactly where its sum does not
wrap around to a value that is accepted. -/
theorem keeps_writeArray_iff
    {packet : RawPacket}
    (placed : packet.WellPlaced)
    (array : CArray) :
    Keeps (packet.writeArray array) ↔ packet.WritesExactly array := by
  have accepts := accepted_iff placed.writePos_le array.length_lt
    (Nat.le_refl Packet.bufferSize)
  unfold writeArray
  split
  · rename_i rejected
    refine iff_of_true (keeps_refuse placed _) ?_
    by_contra wraps
    exact accepts.mpr (.inr wraps) rejected
  · rename_i accepted
    constructor
    · rintro ⟨inside, -⟩
      have last := inside _ (List.mem_cons_of_mem _ List.mem_cons_self)
      have counted : sizeAdd packet.writePos sizeOfSizeT =
          packet.writePos + sizeOfSizeT :=
        sizeAdd_of_inside placed.writePos_le (by decide)
      simp only [append, LittleEndian.length_encode, counted,
        Packet.bufferSize] at last
      exact .inl (by omega)
    · intro exact
      rcases accepts.mp accepted with fits | wraps
      · change packet.writePos + sizeOfSizeT + array.bytes.length ≤ _ at fits
        have lengthFits : packet.writePos +
            (LittleEndian.encode sizeOfSizeT array.length).length ≤
              Packet.bufferSize := by
          rw [LittleEndian.length_encode]
          omega
        obtain ⟨placedCounted, counted⟩ := wellPlaced_append placed lengthFits
        rw [LittleEndian.length_encode] at counted
        have bytesFit : (packet.append (LittleEndian.encode sizeOfSizeT
            array.length)).writePos + array.bytes.length ≤
              Packet.bufferSize := by
          rw [counted]
          exact fits
        obtain ⟨placedWhole, -⟩ := wellPlaced_append placedCounted bytesFit
        refine ⟨?_, placedWhole⟩
        intro access member
        rcases List.mem_cons.mp member with rfl | second
        · change packet.writePos + sizeOfSizeT ≤ Packet.bufferSize
          omega
        · rw [List.mem_singleton.mp second, counted]
          exact fits
      · exact absurd exact wraps

/-- A reader that fails behind the length field keeps the positions in
order. -/
theorem keeps_header
    {packet : RawPacket}
    (placed : packet.WellPlaced)
    (available : packet.readPos + sizeOfSizeT ≤ packet.writePos)
    (answer : PacketAnswer) :
    Keeps { (packet.skip sizeOfSizeT).refuse answer with
      accesses := [⟨packet.readPos, sizeOfSizeT⟩] } := by
  refine ⟨?_, (wellPlaced_skip placed available).1⟩
  intro access member
  rw [List.mem_singleton.mp member]
  exact Nat.le_trans available placed.writePos_le

/-- `READ_ARRAY` keeps the positions in order exactly where its sum does not
wrap around to a value that is accepted. -/
theorem keeps_readArray_iff
    {packet : RawPacket}
    (placed : packet.WellPlaced)
    (length : UInt32) :
    Keeps (packet.readArray (some length)) ↔ packet.ReadsExactly length := by
  have bounded := placed.writePos_le
  have ordered := placed.readPos_le
  have announced : packet.strLength < 2 ^ 32 :=
    LittleEndian.decode_lt (FlatMemory.length_read _ _ _)
  have accepts := accepted_iff (Nat.le_trans ordered bounded) announced bounded
  have header : sizeAdd packet.readPos sizeOfSizeT =
      packet.readPos + sizeOfSizeT :=
    sizeAdd_of_inside (Nat.le_trans ordered bounded) (by decide)
  have counted : (packet.skip sizeOfSizeT).readPos =
      packet.readPos + sizeOfSizeT := header
  simp only [readArray]
  by_cases available : packet.readPos + sizeOfSizeT ≤ packet.writePos
  · rw [if_neg (by rw [header]; omega)]
    obtain ⟨placedCounted, -⟩ := wellPlaced_skip placed available
    by_cases small : length.toNat < sizeOfSizeT
    · rw [if_pos small]
      refine iff_of_true (keeps_header placed available _) ?_
      intro _ large
      omega
    · rw [if_neg small]
      split
      · rename_i rejected
        refine iff_of_true (keeps_header placed available _) ?_
        intro _ _
        by_contra wraps
        exact accepts.mpr (.inr wraps) rejected
      · rename_i accepted
        constructor
        · rintro ⟨insideAll, -⟩ _ _
          have last := insideAll _
            (List.mem_cons_of_mem _ List.mem_cons_self)
          simp only [counted, Packet.bufferSize] at last
          exact .inl (by omega)
        · intro exact
          rcases accepts.mp accepted with fits | wraps
          · have payload : (packet.skip sizeOfSizeT).readPos +
                packet.strLength ≤ (packet.skip sizeOfSizeT).writePos := by
              rw [counted]
              exact fits
            refine ⟨?_, (wellPlaced_skip placedCounted payload).1⟩
            intro access member
            rcases List.mem_cons.mp member with rfl | second
            · exact Nat.le_trans available bounded
            · rw [List.mem_singleton.mp second]
              exact Nat.le_trans payload bounded
          · exact absurd (exact available (by omega)) wraps
  · rw [if_pos (by rw [header]; omega)]
    exact iff_of_true (keeps_refuse placed _)
      fun reached => absurd reached available

/-- `serialize` keeps the positions in order. -/
theorem keeps_serialize
    {packet : RawPacket}
    (placed : packet.WellPlaced)
    (buffer : Bool)
    (size : UInt32) :
    Keeps (packet.serialize buffer size) := by
  unfold serialize
  split
  · refine ⟨?_, placed⟩
    intro access member
    rw [List.mem_singleton.mp member, Nat.zero_add]
    exact placed.writePos_le
  · exact keeps_refuse placed _

/-- `deserialize` leaves the positions in order. -/
theorem keeps_deserialize
    {packet : RawPacket}
    (placed : packet.WellPlaced)
    (buffer : Option CArray) :
    Keeps (packet.deserialize buffer) := by
  cases buffer with
  | none => exact keeps_refuse placed _
  | some source =>
      simp only [deserialize]
      split
      · rename_i fits
        refine ⟨?_, ⟨Nat.zero_le _, fits⟩⟩
        intro access member
        rw [List.mem_singleton.mp member, Nat.zero_add]
        exact fits
      · exact keeps_refuse placed _

/-- A call stays inside the block and leaves the positions in order exactly
where its sums do not wrap around to values that its tests accept. -/
theorem keeps_perform_iff
    {packet : RawPacket}
    (placed : packet.WellPlaced)
    (call : PacketCall) :
    Keeps (packet.perform call) ↔ packet.Exact call := by
  cases call with
  | writeValue value => exact iff_of_true (keeps_writeValue placed value) trivial
  | writeString value =>
      cases value with
      | none => exact iff_of_true (keeps_refuse placed _) trivial
      | some value => exact keeps_writeArray_iff placed value.toArray
  | writeWString value =>
      cases value with
      | none => exact iff_of_true (keeps_refuse placed _) trivial
      | some value => exact keeps_writeArray_iff placed value.toArray
  | writeUCharArray array => exact keeps_writeArray_iff placed array
  | readValue type => exact iff_of_true (keeps_readValue placed type) trivial
  | readString destination =>
      cases destination with
      | none => exact iff_of_true (keeps_refuse placed _) trivial
      | some length => exact keeps_readArray_iff placed length
  | readWString destination =>
      cases destination with
      | none => exact iff_of_true (keeps_refuse placed _) trivial
      | some length => exact keeps_readArray_iff placed length
  | readUCharArray destination =>
      cases destination with
      | none => exact iff_of_true (keeps_refuse placed _) trivial
      | some length => exact keeps_readArray_iff placed length
  | serialize buffer size =>
      exact iff_of_true (keeps_serialize placed buffer size) trivial
  | deserialize buffer =>
      exact iff_of_true (keeps_deserialize placed buffer) trivial

/-! ## Runs -/

/-- Every operation of a run stays inside the block and leaves the positions
in order exactly where no sum it computes wraps around to a value that its
tests accept. -/
theorem always_keeps_iff
    (beyond : Nat → UInt8)
    (calls : List PacketCall) :
    packetCallMachine.Always (fun _ _ effect _ => Keeps effect)
        (fresh beyond) calls ↔
      packetCallMachine.Admits Exact (fresh beyond) calls := by
  refine Machine.always_iff_admits_of_total packetCallMachine_step WellPlaced
    ?_ ?_ (wellPlaced_fresh beyond) calls
  · intro packet call placed
    exact keeps_perform_iff placed call
  · intro packet call placed exact
    exact ((keeps_perform_iff placed call).mpr exact).2

/-- The bytes of another process that announce an array of almost the size of
the address space. -/
def hugeArray : CArray where
  bytes := [0xfc, 0xff, 0xff, 0xff]
  length_lt := by decide

/-- The length of such an array wraps the sum of `READ_ARRAY` around to zero,
and four gigabytes are copied from behind the length. -/
theorem not_always_keeps_readString :
    ((((fresh fun _ => 0).perform (.deserialize (some hugeArray))).packet.perform
      (.readString (some 4096))).accesses = [⟨0, 4⟩, ⟨4, 4294967292⟩]) ∧
      ¬ packetCallMachine.Always (fun _ _ effect _ => Keeps effect)
        (fresh fun _ => 0)
        [.deserialize (some hugeArray), .readString (some 4096)] := by
  have copies : (((fresh fun _ => 0).perform
      (.deserialize (some hugeArray))).packet.perform
        (.readString (some 4096))).accesses =
          [⟨0, 4⟩, ⟨4, 4294967292⟩] := by
    decide +kernel
  refine ⟨copies, ?_⟩
  intro always
  have second := (always _ _ rfl).2 _ _ rfl
  have inside := second.1.1 ⟨4, 4294967292⟩
    (by rw [copies]; exact List.mem_cons_of_mem _ List.mem_cons_self)
  exact absurd inside (by decide)

end RawPacket
end BthEmul
