import Mathlib.Data.List.ReduceOption
import BthEmul.Runtime.DataReader

/-!
# Reassembly of conforming reads

When no read spans two packets and the first nonempty read of each packet
holds its header, the data reader dispatches exactly the packets sent, each by
the read that completes it.
-/

namespace BthEmul

open Foundation Hci

namespace Runtime
namespace DataReader

/-- The first nonempty read holds at least the header. -/
def HeaderFirst : List (List UInt8) → Prop
  | [] => True
  | read :: rest =>
      if read = [] then HeaderFirst rest
      else aclFormat.headerLength ≤ read.length

/-- A packet and the reads that carry it: any number of reads, empty ones
included, before the one that completes it. -/
structure Delivery where
  /-- The packet. -/
  packet : Frame aclFormat
  /-- The packet fits the read buffer. -/
  fits : packet.bytes.length ≤ dataMaxSize
  /-- The reads before the last one. -/
  before : List (List UInt8)
  /-- The read that completes the packet. -/
  last : List UInt8
  /-- The read that completes the packet is not empty. -/
  last_ne_nil : last ≠ []
  /-- The reads carry the packet. -/
  whole : before.flatten ++ last = packet.bytes
  /-- The first nonempty read holds the header. -/
  headerFirst : HeaderFirst (before ++ [last])

namespace Delivery

/-- The reads of a delivery. -/
def reads (delivery : Delivery) : List (List UInt8) :=
  delivery.before ++ [delivery.last]

/-- The packet is dispatched by the read that completes it. -/
def outputs (delivery : Delivery) : List (Option (List UInt8)) :=
  List.replicate delivery.before.length none ++ [some delivery.packet.bytes]

end Delivery

/-- Some bytes of a packet have arrived. -/
structure Holds
    (packet : Frame aclFormat)
    (consumed : List UInt8)
    (reader : DataReader) : Prop where
  /-- The state is sound. -/
  sound : reader.Sound
  /-- The buffer holds the bytes. -/
  pending_eq : reader.pending = consumed
  /-- The position counts the bytes. -/
  pos_eq : reader.nBufferPos = consumed.length
  /-- The size is that of the packet after its first bytes. -/
  packetSize_eq : consumed ≠ [] → reader.nPacketSize = packet.bytes.length

theorem holds_start (packet : Frame aclFormat) :
    Holds packet [] start where
  sound := sound_start
  pending_eq := rfl
  pos_eq := rfl
  packetSize_eq nonempty := absurd rfl nonempty

theorem announcedSize_nil : announcedSize [] = 4 := rfl

/-- A read that begins or continues a packet is compared with its size. -/
theorem Holds.sizeAfter_eq
    {reader : DataReader}
    (holds : Holds packet consumed reader)
    (whole : consumed ++ chunk ++ rest = packet.bytes)
    (headerFirst : consumed = [] → aclFormat.headerLength ≤ chunk.length) :
    reader.sizeAfter chunk = packet.bytes.length := by
  unfold sizeAfter
  split
  · rename_i between
    rw [holds.pos_eq] at between
    have nothing := List.eq_nil_of_length_eq_zero between
    have header := headerFirst nothing
    rw [nothing, List.nil_append] at whole
    apply Frame.announced_eq
    rw [List.take_append_of_le_length header, ← packet.take_bytes, ← whole,
      List.take_append_of_le_length header]
  · rename_i positive
    apply holds.packetSize_eq
    intro nothing
    rw [holds.pos_eq, nothing] at positive
    exact positive rfl

/-- An empty read is never the last one of a packet. -/
theorem Holds.step_nil
    {reader : DataReader}
    (holds : Holds packet consumed reader)
    (fits : packet.bytes.length ≤ dataMaxSize)
    (whole : consumed ++ rest = packet.bytes)
    (incomplete : rest ≠ []) :
    ∃ next,
      reader.step [] = some (none, next) ∧ Holds packet consumed next := by
  have total := congrArg List.length whole
  rw [List.length_append] at total
  have remaining := List.length_pos_iff.mpr incomplete
  have room : reader.nBufferPos + ([] : List UInt8).length ≤ dataMaxSize := by
    rw [holds.pos_eq, List.length_nil]
    omega
  have size (nonempty : consumed ≠ []) :
      reader.sizeAfter [] = packet.bytes.length := by
    have whole' : consumed ++ [] ++ rest = packet.bytes := by
      rwa [List.append_nil]
    exact holds.sizeAfter_eq whole' (fun nothing => absurd nothing nonempty)
  rcases holds.sound.exists_step room with ⟨complete, -⟩ |
    ⟨-, next, stepped, sound, pending, pos, packetSize⟩
  · exfalso
    rw [holds.pos_eq, List.length_nil] at complete
    by_cases nothing : consumed = []
    · have between : reader.nBufferPos = 0 := by
        rw [holds.pos_eq, nothing, List.length_nil]
      rw [sizeAfter, if_pos between, announcedSize_nil, nothing,
        List.length_nil] at complete
      omega
    · rw [size nothing] at complete
      omega
  · rw [List.append_nil, holds.pending_eq] at pending
    rw [holds.pos_eq] at pos
    exact ⟨next, stepped, sound, pending, pos,
      fun nonempty => packetSize.trans (size nonempty)⟩

/-- A nonempty read that ends before its packet does is added to it. -/
theorem Holds.step_within
    {reader : DataReader}
    (holds : Holds packet consumed reader)
    (fits : packet.bytes.length ≤ dataMaxSize)
    (whole : consumed ++ chunk ++ rest = packet.bytes)
    (headerFirst : consumed = [] → aclFormat.headerLength ≤ chunk.length)
    (incomplete : rest ≠ []) :
    ∃ next,
      reader.step chunk = some (none, next) ∧
        Holds packet (consumed ++ chunk) next := by
  have total := congrArg List.length whole
  rw [List.length_append, List.length_append] at total
  have remaining := List.length_pos_iff.mpr incomplete
  have size := holds.sizeAfter_eq whole headerFirst
  have room : reader.nBufferPos + chunk.length ≤ dataMaxSize := by
    rw [holds.pos_eq]
    omega
  rcases holds.sound.exists_step room with
    ⟨complete, -⟩ | ⟨-, next, stepped, sound, pending, pos, packetSize⟩
  · rw [size, holds.pos_eq] at complete
    omega
  · refine ⟨next, stepped, sound, ?_, ?_, fun _ => packetSize.trans size⟩
    · rw [pending, holds.pending_eq]
    · rw [pos, holds.pos_eq, List.length_append]

/-- A read that ends with its packet dispatches it. -/
theorem Holds.step_last
    {reader : DataReader}
    (holds : Holds packet consumed reader)
    (fits : packet.bytes.length ≤ dataMaxSize)
    (whole : consumed ++ chunk = packet.bytes)
    (headerFirst : consumed = [] → aclFormat.headerLength ≤ chunk.length) :
    reader.step chunk = some (some packet.bytes, start) := by
  have total := congrArg List.length whole
  rw [List.length_append] at total
  have exact : consumed ++ chunk ++ [] = packet.bytes := by
    rwa [List.append_nil]
  have size := holds.sizeAfter_eq exact headerFirst
  have room : reader.nBufferPos + chunk.length ≤ dataMaxSize := by
    rw [holds.pos_eq]
    omega
  rcases holds.sound.exists_step room with
    ⟨-, stepped⟩ | ⟨incomplete, -⟩
  · rw [stepped, holds.pending_eq, whole]
  · rw [size, holds.pos_eq, total] at incomplete
    exact absurd rfl incomplete

/-- The reads of a packet dispatch it at its last read. -/
theorem Holds.run_reads
    {reader : DataReader}
    (holds : Holds packet consumed reader)
    (fits : packet.bytes.length ≤ dataMaxSize)
    (lastNonempty : last ≠ [])
    (whole : consumed ++ before.flatten ++ last = packet.bytes)
    (headerFirst : consumed = [] → HeaderFirst (before ++ [last])) :
    dataReaderMachine.run reader (before ++ [last]) =
      some (List.replicate before.length none ++ [some packet.bytes],
        start) := by
  induction before generalizing reader consumed with
  | nil =>
      rw [List.flatten_nil, List.append_nil] at whole
      have stepped := holds.step_last fits whole (fun nothing => by
        have first := headerFirst nothing
        rwa [List.nil_append, HeaderFirst, if_neg lastNonempty] at first)
      rw [List.nil_append, Machine.run_cons_eq_some_iff]
      exact ⟨_, _, [], stepped, rfl, rfl⟩
  | cons chunk before inductionHypothesis =>
      have incomplete : before.flatten ++ last ≠ [] := by
        intro nothing
        exact lastNonempty (List.append_eq_nil_iff.mp nothing).2
      rw [List.flatten_cons, ← List.append_assoc, List.append_assoc] at whole
      rw [List.cons_append, Machine.run_cons_eq_some_iff]
      by_cases empty : chunk = []
      · rw [empty, List.append_nil] at whole
        obtain ⟨next, stepped, nextHolds⟩ :=
          holds.step_nil fits whole incomplete
        refine ⟨none, next, _, by rwa [empty], inductionHypothesis nextHolds
          (by rwa [List.append_assoc]) (fun nothing => ?_), rfl⟩
        have first := headerFirst nothing
        rwa [List.cons_append, HeaderFirst, if_pos empty] at first
      · obtain ⟨next, stepped, nextHolds⟩ :=
          holds.step_within fits whole (fun nothing => by
            have first := headerFirst nothing
            rwa [List.cons_append, HeaderFirst, if_neg empty] at first)
            incomplete
        refine ⟨none, next, _, stepped, inductionHypothesis nextHolds
          (by rwa [List.append_assoc]) (fun nothing => ?_), rfl⟩
        exact absurd (List.append_eq_nil_iff.mp nothing).2 empty

/-- The reads of a delivery dispatch its packet, by the last of them. -/
theorem Delivery.run_reads (delivery : Delivery) :
    dataReaderMachine.run start delivery.reads =
      some (delivery.outputs, start) := by
  apply (holds_start delivery.packet).run_reads delivery.fits
    delivery.last_ne_nil
  · rw [List.nil_append, delivery.whole]
  · intro _
    exact delivery.headerFirst

/-- The reads of successive deliveries dispatch their packets. -/
theorem run_deliveries (deliveries : List Delivery) :
    dataReaderMachine.run start (deliveries.flatMap Delivery.reads) =
      some (deliveries.flatMap Delivery.outputs, start) := by
  induction deliveries with
  | nil => rfl
  | cons delivery deliveries inductionHypothesis =>
      rw [List.flatMap_cons, List.flatMap_cons, Machine.run_append_eq_some_iff]
      exact ⟨_, _, _, delivery.run_reads, inductionHypothesis, rfl⟩

/-- Empty reads between packets dispatch nothing. -/
theorem run_empty_reads
    {reader : DataReader}
    (sound : reader.Sound)
    (between : reader.nBufferPos = 0)
    (count : Nat) :
    ∃ final,
      dataReaderMachine.run reader (List.replicate count []) =
        some (List.replicate count none, final) := by
  induction count generalizing reader with
  | zero => exact ⟨reader, rfl⟩
  | succ count inductionHypothesis =>
      have size : reader.sizeAfter [] = 4 := by
        rw [sizeAfter, if_pos between, announcedSize_nil]
      have room : reader.nBufferPos + ([] : List UInt8).length ≤ dataMaxSize :=
        sound.pos_le
      rcases sound.exists_step room with ⟨complete, -⟩ |
        ⟨-, next, stepped, nextSound, -, pos, -⟩
      · rw [size, between] at complete
        contradiction
      · rw [between] at pos
        obtain ⟨final, ran⟩ := inductionHypothesis nextSound pos
        refine ⟨final, ?_⟩
        rw [List.replicate_succ, List.replicate_succ,
          Machine.run_cons_eq_some_iff]
        exact ⟨_, _, _, stepped, ran, rfl⟩

/-- Only the last read of a delivery dispatches a packet. -/
theorem Delivery.reduceOption_outputs (delivery : Delivery) :
    delivery.outputs.reduceOption = [delivery.packet.bytes] := by
  rw [outputs, List.reduceOption_append, List.reduceOption_replicate_none,
    List.reduceOption_singleton]
  rfl

/-- The packets dispatched are the packets delivered, in order. -/
theorem reduceOption_outputs (deliveries : List Delivery) :
    (deliveries.flatMap Delivery.outputs).reduceOption =
      deliveries.map fun delivery => delivery.packet.bytes := by
  induction deliveries with
  | nil => rfl
  | cons delivery deliveries inductionHypothesis =>
      rw [List.flatMap_cons, List.reduceOption_append,
        delivery.reduceOption_outputs, inductionHypothesis, List.map_cons,
        List.singleton_append]

/-- On conforming reads the packets dispatched are exactly those sent, in
order, each by the read that completes it. -/
theorem exists_run_deliveries
    (deliveries : List Delivery)
    (trailing : Nat) :
    ∃ dispatched final,
      dataReaderMachine.run start
          (deliveries.flatMap Delivery.reads ++ List.replicate trailing []) =
        some (dispatched, final) ∧
      dispatched = deliveries.flatMap Delivery.outputs ++
        List.replicate trailing none ∧
      dispatched.reduceOption =
        deliveries.map fun delivery => delivery.packet.bytes := by
  obtain ⟨final, ran⟩ := run_empty_reads sound_start rfl trailing
  refine ⟨_, final, ?_, rfl, ?_⟩
  · rw [Machine.run_append_eq_some_iff]
    exact ⟨_, _, _, run_deliveries deliveries, ran, rfl⟩
  · rw [List.reduceOption_append, reduceOption_outputs,
      List.reduceOption_replicate_none, List.append_nil]

end DataReader
end Runtime
end BthEmul
