import BthEmul.Hci.EventStructures

/-!
# The layout of inquiry results

The handler of inquiry results looks at the arrays of a structure that has
room for one response. With more responses the first array extends over those
that follow it, so its elements are read where other fields stand.
-/

namespace BthEmul

open Foundation

namespace Hci
namespace CHci

/-- The offsets of the bytes of an address. -/
theorem mem_offsets_addressBytes
    {bdAddr offset : Nat}
    {memory : Nat → UInt8} :
    offset ∈ (addressBytes bdAddr).offsets memory ↔
      bdAddr ≤ offset ∧ offset < bdAddr + 6 := by
  simp only [addressBytes, Reading.offsets_each, Reading.offsets_bind,
    Reading.offsets_byte, Reading.offsets_pure, List.append_nil,
    List.mem_flatMap, List.mem_cons, List.not_mem_nil, or_false,
    exists_eq_or_imp, exists_eq_left]
  omega

/-- An element of an array is read as a whole and nothing else is. -/
theorem mem_offsets_readElement
    {arrays : InquiryField → Nat}
    {index offset : Nat}
    {memory : Nat → UInt8}
    (field : InquiryField) :
    offset ∈ (readElement arrays index field).offsets memory ↔
      element arrays index field ≤ offset ∧
        offset < element arrays index field + field.width := by
  cases field with
  | bdAddr => exact mem_offsets_addressBytes
  | _ =>
      rw [readElement, Reading.offsets_bind, Reading.offsets_block,
        Reading.offsets_pure, List.append_nil, List.mem_range'_1]
      intro same
      contradiction

/-- Every array is looked at. -/
theorem InquiryField.mem_all (field : InquiryField) :
    field ∈ InquiryField.all := by
  cases field <;> decide

/-- The handler reads the elements of all arrays, one for each response. -/
theorem mem_offsets_onInquiryResult
    {arrays : InquiryField → Nat}
    {offset : Nat}
    {memory : Nat → UInt8}
    (numResponses : UInt8) :
    offset ∈ (onInquiryResult numResponses arrays).offsets memory ↔
      ∃ index < numResponses.toNat, ∃ field,
        offset ∈ (readElement arrays index field).offsets memory := by
  unfold onInquiryResult
  split
  · rename_i empty
    subst empty
    simp
  · simp only [Reading.offsets_bind, Reading.offsets_pure, List.append_nil,
      Reading.offsets_each, List.mem_flatMap, List.mem_range]
    refine exists_congr fun index => and_congr Iff.rfl (exists_congr ?_)
    intro field
    exact and_iff_right (InquiryField.mem_all field)

/-! ## Fields apart from each other -/

/-- The event's responses are decoded apart from each other: no byte is read
for two fields, and the bytes that are read are those behind the count. -/
structure DecodesApart (memory : Nat → UInt8) : Prop where
  /-- No byte is read for two fields. -/
  disjoint : ∀ first < (memory 2).toNat, ∀ second < (memory 2).toNat,
    ∀ field other, (first, field) ≠ (second, other) →
      ∀ offset ∈ (readElement inquiryArrays first field).offsets memory,
        offset ∉ (readElement inquiryArrays second other).offsets memory
  /-- The bytes behind the count are read and no others. -/
  covers : ∀ offset,
    offset ∈ (onInquiryResult (memory 2) inquiryArrays).offsets memory ↔
      3 ≤ offset ∧ offset < 3 + 14 * (memory 2).toNat

/-- Where the fields of the first response end. -/
def firstEnd : InquiryField → Nat
  | .bdAddr => 9
  | .pageScanRepetitionMode => 10
  | .pageScanPeriodMode => 11
  | .pageScanMode => 12
  | .classOfDevice => 15
  | .clockOffset => 17

/-- The fields of the first response are read where the structure has them. -/
theorem mem_offsets_first
    {offset : Nat}
    {memory : Nat → UInt8}
    (field : InquiryField) :
    offset ∈ (readElement inquiryArrays 0 field).offsets memory ↔
      inquiryArrays field ≤ offset ∧ offset < firstEnd field := by
  have ends : inquiryArrays field + field.width = firstEnd field := by
    cases field <;> decide
  rw [mem_offsets_readElement, element, Nat.mul_zero, Nat.add_zero, ends]

/-- The fields of the first response do not overlap. -/
theorem first_apart
    {field other : InquiryField}
    (distinct : field ≠ other) :
    firstEnd field ≤ inquiryArrays other ∨
      firstEnd other ≤ inquiryArrays field := by
  cases field <;> cases other <;> first | decide | exact absurd rfl distinct

/-- The address of a second response is read where the page scan repetition
mode of the first stands. -/
theorem not_decodesApart
    {memory : Nat → UInt8}
    (several : 2 ≤ (memory 2).toNat) :
    ¬ DecodesApart memory := by
  intro apart
  have address : 9 ∈
      (readElement inquiryArrays 1 .bdAddr).offsets memory := by
    rw [mem_offsets_readElement, element, inquiryArrays_eq.1]
    decide
  have mode : 9 ∈ (readElement inquiryArrays 0
      .pageScanRepetitionMode).offsets memory := by
    rw [mem_offsets_readElement, element, inquiryArrays_eq.2.1]
    decide
  exact apart.disjoint 1 (by omega) 0 (by omega) .bdAddr
    .pageScanRepetitionMode (by decide) 9 address mode

/-- One response is decoded as the structure lays it out. -/
theorem decodesApart_of_one
    {memory : Nat → UInt8}
    (one : (memory 2).toNat = 1) :
    DecodesApart memory := by
  obtain ⟨bdAddr, repetition, period, mode, classOfDevice, clockOffset⟩ :=
    inquiryArrays_eq
  constructor
  · intro first isFirst second isSecond field other differ offset read
    have firstZero : first = 0 := by omega
    have secondZero : second = 0 := by omega
    subst firstZero secondZero
    rw [mem_offsets_first] at read ⊢
    have distinct : field ≠ other := fun same => differ (by rw [same])
    have apart := first_apart distinct
    omega
  · intro offset
    rw [mem_offsets_onInquiryResult, one]
    constructor
    · rintro ⟨index, isFirst, field, read⟩
      have indexZero : index = 0 := by omega
      subst indexZero
      rw [mem_offsets_first] at read
      cases field <;> simp only [firstEnd] at read <;> omega
    · rintro ⟨above, below⟩
      refine ⟨0, Nat.one_pos, ?_⟩
      simp only [mem_offsets_first]
      have place : offset < 9 ∨ offset = 9 ∨ offset = 10 ∨ offset = 11 ∨
          (12 ≤ offset ∧ offset < 15) ∨ 15 ≤ offset := by
        omega
      rcases place with address | rfl | rfl | rfl | device | clock
      · exact ⟨.bdAddr, by omega, address⟩
      · exact ⟨.pageScanRepetitionMode, by omega, by decide⟩
      · exact ⟨.pageScanPeriodMode, by omega, by decide⟩
      · exact ⟨.pageScanMode, by omega, by decide⟩
      · exact ⟨.classOfDevice, by omega, device.2⟩
      · exact ⟨.clockOffset, by omega, below⟩

/-- The responses of an inquiry result are decoded apart from each other
exactly when there is one. -/
theorem decodesApart_iff
    (memory : Nat → UInt8)
    (responses : 1 ≤ (memory 2).toNat) :
    DecodesApart memory ↔ (memory 2).toNat = 1 := by
  constructor
  · intro apart
    by_contra several
    exact not_decodesApart (by omega) apart
  · exact decodesApart_of_one

/-- An inquiry result with one response is decoded apart. -/
theorem decodesApart_one :
    DecodesApart fun offset => [0x02, 15, 1].getD offset 0xaa :=
  (decodesApart_iff (fun offset => [0x02, 15, 1].getD offset 0xaa)
    (by decide)).mpr (by decide)

/-- In an inquiry result with two responses the address of the second is not
where it was received but where the single bytes and the classes of device
stand. -/
theorem not_decodesApart_two :
    (readElement inquiryArrays 1 .bdAddr).offsets
        (fun offset => [0x02, 29, 2].getD offset 0xaa) =
        [14, 13, 12, 11, 10, 9] ∧
      ¬ DecodesApart fun offset => [0x02, 29, 2].getD offset 0xaa :=
  ⟨by decide, not_decodesApart (by decide)⟩

end CHci
end Hci
end BthEmul
