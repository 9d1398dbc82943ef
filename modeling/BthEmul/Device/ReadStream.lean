import BthEmul.Device.SerialPort
import BthEmul.Foundation.Machine

/-!
# The byte stream behind the read routine

Payloads arrive on the read queue one message at a time and leave through reads
of any size. The bytes already returned, followed by the unread ones of the
cache, are always the payloads taken off the queue.
-/

namespace BthEmul

open Foundation

namespace SerialPort

/-- An array that fits a data packet and is not empty. -/
structure Payload where
  /-- The array. -/
  array : CArray
  /-- There is at least one byte. -/
  nonempty : 0 < array.length
  /-- The array fits a packet behind a type field. -/
  fits : array.length ≤ payloadLimit

/-- The message that carries a payload as a data packet. -/
def dataMessage (payload : Payload) : Message where
  bytes := typeField PacketType.hciData.code ++ payload.array.wire
  length_le := by
    have fits := payload.fits
    rw [CArray.length, payloadLimit] at fits
    rw [CArray.wire, List.length_append, List.length_append,
      LittleEndian.length_encode, length_typeField, sizeOfSizeT,
      msgBufferSize, Packet.bufferSize]
    omega

@[simp] theorem bytes_dataMessage (payload : Payload) :
    (dataMessage payload).bytes =
      typeField PacketType.hciData.code ++ payload.array.wire := rfl

/-- The bytes of some payloads, one after the other. -/
def payloadBytes (payloads : List Payload) : List UInt8 :=
  payloads.flatMap fun payload => payload.array.bytes

/-- The read queue and the cache behind the read routine. -/
structure Reader where
  /-- The messages not taken off the queue yet. -/
  queue : List Message
  /-- The cache. -/
  cache : Cache

/-- A call of the read routine on the open context. -/
structure ReadCall where
  /-- The number of bytes asked for. -/
  dwCount : Nat
  /-- At least one byte is asked for. -/
  positive : 0 < dwCount
  /-- Whether `ReadMsgQueue`, if it is called, fails. -/
  fails : Bool

/-- What becomes of a call. -/
inductive ReadOutcome
  | returned (bytes : List UInt8)
  | failed (error : UInt32)
  | waiting

/-- The outcome of a call that returns. -/
def ReadOutcome.ofResult : Except UInt32 (List UInt8) → ReadOutcome
  | .ok bytes => .returned bytes
  | .error error => .failed error

/-- A call takes a message off the queue when the cache has no data. It waits
when there is no message, and takes none when `ReadMsgQueue` fails. -/
def readStep
    (reader : Reader)
    (call : ReadCall) : Option (ReadOutcome × Reader) :=
  if reader.cache.dwDataSize = 0 ∧ ¬ call.fails then
    match reader.queue with
    | [] => some (.waiting, reader)
    | message :: queue => do
        let (result, cache) ←
          bteRead openContext true call.dwCount (some message) reader.cache
        some (.ofResult result, { queue, cache })
  else do
    let (result, cache) ←
      bteRead openContext true call.dwCount none reader.cache
    some (.ofResult result, { reader with cache })

/-- Successive calls of the read routine. -/
def readMachine : Machine Reader ReadCall ReadOutcome where
  step := readStep

/-- The queue holds some payloads, and nothing was read yet. -/
def Reader.start (payloads : List Payload) : Reader where
  queue := payloads.map dataMessage
  cache := Cache.empty

/-- The bytes returned by a call. -/
def ReadOutcome.bytes : ReadOutcome → List UInt8
  | .returned bytes => bytes
  | _ => []

/-! ## The cache -/

namespace Cache

/-- The read position does not pass the data, nor the data the buffer. -/
structure Ordered (cache : Cache) : Prop where
  /-- The read position does not pass the data. -/
  readPos_le : cache.dwBufReadPos ≤ cache.dwBufSize
  /-- The data do not pass the buffer. -/
  size_le : cache.dwBufSize ≤ msgBufferSize

/-- The data not returned yet. -/
def unread (cache : Cache) : List UInt8 :=
  (cache.buffer.cells.take cache.dwBufSize).drop cache.dwBufReadPos

theorem ordered_empty : Cache.empty.Ordered where
  readPos_le := Nat.le_refl 0
  size_le := Nat.zero_le _

/-- The difference of the positions is exact in an ordered cache. -/
theorem Ordered.dwDataSize_eq
    {cache : Cache}
    (ordered : cache.Ordered) :
    cache.dwDataSize = cache.dwBufSize - cache.dwBufReadPos :=
  dwordSub_eq ordered.readPos_le

/-- The difference of the positions counts the unread data. -/
theorem Ordered.length_unread
    {cache : Cache}
    (ordered : cache.Ordered) :
    cache.unread.length = cache.dwDataSize := by
  have size := ordered.size_le
  rw [ordered.dwDataSize_eq, unread, List.length_drop, List.length_take,
    cache.buffer.length_eq, Nat.min_eq_left size]

/-- The unread data lie between the two positions. -/
theorem Ordered.load_unread
    {cache : Cache}
    (ordered : cache.Ordered) :
    cache.buffer.load cache.dwBufReadPos cache.dwDataSize =
      some cache.unread := by
  have position := ordered.readPos_le
  have size := ordered.size_le
  rw [ordered.dwDataSize_eq, Buffer.load_eq_some _ (by omega), unread,
    List.drop_take]

/-- Serving a call returns the first unread data, as many as it asks for. -/
theorem Ordered.exists_serve
    {cache : Cache}
    (ordered : cache.Ordered)
    (dwCount : Nat) :
    ∃ served,
      cache.serve dwCount = some (cache.unread.take dwCount, served) ∧
        served.Ordered ∧
        served.unread = cache.unread.drop dwCount := by
  have position := ordered.readPos_le
  have size : cache.dwBufSize ≤ 4096 := ordered.size_le
  have counted := ordered.dwDataSize_eq
  have clipped :
      (if dwCount > cache.dwDataSize then cache.dwDataSize else dwCount) =
        min dwCount cache.dwDataSize := by
    split <;> omega
  have available : cache.dwBufReadPos + min dwCount cache.dwDataSize ≤
      cache.dwBufSize := by omega
  have moved : sizeAdd cache.dwBufReadPos (min dwCount cache.dwDataSize) =
      cache.dwBufReadPos + min dwCount cache.dwDataSize :=
    sizeAdd_eq (by omega)
  have loaded :
      cache.buffer.load cache.dwBufReadPos (min dwCount cache.dwDataSize) =
        some (cache.unread.take dwCount) := by
    rw [Buffer.load_eq_some _ (Nat.le_trans available ordered.size_le),
      unread, List.drop_take, List.take_take, counted]
  refine ⟨{ cache with
    dwBufReadPos := cache.dwBufReadPos + min dwCount cache.dwDataSize },
    ?_, ⟨available, ordered.size_le⟩, ?_⟩
  · simp only [serve, clipped, loaded, Option.bind_eq_bind, Option.bind_some,
      moved]
  · simp only [unread, List.drop_drop]
    rcases Nat.le_total dwCount cache.dwDataSize with few | many
    · rw [Nat.min_eq_left few]
    · rw [Nat.min_eq_right many]
      have consumed (count : Nat) (all : cache.dwDataSize ≤ count) :
          (cache.buffer.cells.take cache.dwBufSize).drop
            (cache.dwBufReadPos + count) = [] := by
        apply List.drop_eq_nil_of_le
        rw [List.length_take]
        omega
      rw [consumed _ (Nat.le_refl _), consumed _ many]

end Cache

/-! ## One call -/

/-- A call on a cache with data is served from it. -/
theorem exists_bteRead_of_data
    {cache : Cache}
    (ordered : cache.Ordered)
    (data : cache.dwDataSize ≠ 0)
    (call : ReadCall)
    (received : Option Message) :
    ∃ served,
      bteRead openContext true call.dwCount received cache =
          some (.ok (cache.unread.take call.dwCount), served) ∧
        served.Ordered ∧
        served.unread = cache.unread.drop call.dwCount := by
  obtain ⟨served, done, servedOrdered, behind⟩ :=
    ordered.exists_serve call.dwCount
  refine ⟨served, ?_, servedOrdered, behind⟩
  simp only [bteRead, if_true, call.positive, and_self,
    Nat.pos_of_ne_zero data, done, Option.bind_eq_bind, Option.bind_some]

/-- A call on a cache without data fails when no message is received. -/
theorem bteRead_of_failure
    {cache : Cache}
    (noData : cache.dwDataSize = 0)
    (call : ReadCall) :
    bteRead openContext true call.dwCount none cache =
      some (.error errorTimeout, cache) := by
  simp only [bteRead, if_true, call.positive, and_self, noData,
    Nat.lt_irrefl, if_false, readPacket, Option.bind_eq_bind,
    Option.bind_some]

/-- A call on a cache without data is served from the payload received. -/
theorem exists_bteRead_of_message
    {cache : Cache}
    (noData : cache.dwDataSize = 0)
    (call : ReadCall)
    (payload : Payload) :
    ∃ served,
      bteRead openContext true call.dwCount (some (dataMessage payload))
          cache =
          some (.ok (payload.array.bytes.take call.dwCount), served) ∧
        served.Ordered ∧
        served.unread = payload.array.bytes.drop call.dwCount := by
  have fits : payload.array.length ≤ msgBufferSize :=
    Nat.le_trans payload.fits (by decide)
  obtain ⟨packet, received, unread⟩ :=
    exists_readPacket (dataMessage payload) (by
      rw [bytes_dataMessage]
      exact typeField_append_ne_nil _ _)
  rw [bytes_dataMessage] at unread
  obtain ⟨rest, typeRead, behind⟩ := exists_readInt_type unread
  obtain ⟨filled, refilled, start, size, front⟩ := exists_refill behind fits
  have ordered : filled.Ordered :=
    ⟨by rw [start]; exact Nat.zero_le _, by rwa [size]⟩
  have content : filled.unread = payload.array.bytes := by
    rw [Cache.unread, start, size, List.drop_zero, front]
  have positive : 0 < filled.dwDataSize := by
    rw [← ordered.length_unread, content]
    exact payload.nonempty
  obtain ⟨served, done, servedOrdered, remaining⟩ :=
    ordered.exists_serve call.dwCount
  rw [content] at done remaining
  refine ⟨served, ?_, servedOrdered, remaining⟩
  simp only [bteRead, if_true, call.positive, and_self, noData,
    Nat.lt_irrefl, if_false, received, typeRead, refilled, positive, done,
    Option.bind_eq_bind, Option.bind_some]

/-! ## Runs of calls -/

/-- The payloads split into those taken off the queue, whose bytes were
returned or are unread in the cache, and those still on the queue. -/
structure Conserves
    (payloads : List Payload)
    (history : List (ReadCall × ReadOutcome))
    (reader : Reader) : Prop where
  /-- The cache is ordered. -/
  ordered : reader.cache.Ordered
  /-- No byte is lost, duplicated or reordered. -/
  conserved : ∃ taken waiting,
    payloads = taken ++ waiting ∧
      reader.queue = waiting.map dataMessage ∧
      history.flatMap (fun entry => entry.2.bytes) ++ reader.cache.unread =
        payloadBytes taken
  /-- Successful calls return at least one byte and at most what they ask. -/
  counted : ∀ entry ∈ history, ∀ bytes, entry.2 = .returned bytes →
    1 ≤ bytes.length ∧ bytes.length ≤ entry.1.dwCount

theorem conserves_start (payloads : List Payload) :
    Conserves payloads [] (Reader.start payloads) where
  ordered := Cache.ordered_empty
  conserved := ⟨[], payloads, rfl, rfl, rfl⟩
  counted := by simp

/-- A call that returns nothing and leaves queue and cache alone conserves the
stream. -/
theorem Conserves.idle
    {reader : Reader}
    {outcome : ReadOutcome}
    (conserves : Conserves payloads history reader)
    (call : ReadCall)
    (nothing : ∀ bytes, outcome ≠ .returned bytes) :
    Conserves payloads (history ++ [(call, outcome)]) reader where
  ordered := conserves.ordered
  conserved := by
    have noBytes : outcome.bytes = [] := by
      cases outcome with
      | returned bytes => exact absurd rfl (nothing bytes)
      | failed error | waiting => rfl
    obtain ⟨taken, waiting, parts, queue, stream⟩ := conserves.conserved
    refine ⟨taken, waiting, parts, queue, ?_⟩
    simpa [noBytes] using stream
  counted := by
    intro entry member bytes returned
    rcases List.mem_append.mp member with earlier | last
    · exact conserves.counted entry earlier bytes returned
    · rw [List.mem_singleton.mp last] at returned
      exact absurd returned (nothing bytes)

/-- A call that returns the first of some bytes and leaves the others in the
cache conserves the stream. -/
theorem Conserves.serve
    {reader next : Reader}
    {bytes : List UInt8}
    (conserves : Conserves payloads history reader)
    (call : ReadCall)
    (nonempty : bytes ≠ [])
    (ordered : next.cache.Ordered)
    (unread : next.cache.unread = bytes.drop call.dwCount)
    (conserved : ∃ taken waiting,
      payloads = taken ++ waiting ∧
        next.queue = waiting.map dataMessage ∧
        history.flatMap (fun entry => entry.2.bytes) ++ bytes =
          payloadBytes taken) :
    Conserves payloads
      (history ++ [(call, .returned (bytes.take call.dwCount))]) next where
  ordered := ordered
  conserved := by
    obtain ⟨taken, waiting, parts, queue, stream⟩ := conserved
    refine ⟨taken, waiting, parts, queue, ?_⟩
    rw [← stream, unread]
    simp [ReadOutcome.bytes, List.append_assoc]
  counted := by
    intro entry member bytes' returned
    rcases List.mem_append.mp member with earlier | last
    · exact conserves.counted entry earlier bytes' returned
    · rw [List.mem_singleton.mp last] at returned ⊢
      cases returned
      have positive := call.positive
      have length := List.length_pos_iff.mpr nonempty
      rw [List.length_take]
      exact ⟨Nat.le_min.mpr ⟨positive, length⟩, Nat.min_le_left _ _⟩

/-- Every call conserves the stream. -/
theorem Conserves.step
    {reader : Reader}
    (conserves : Conserves payloads history reader)
    (call : ReadCall) :
    ∃ outcome next,
      readStep reader call = some (outcome, next) ∧
        Conserves payloads (history ++ [(call, outcome)]) next := by
  have ordered := conserves.ordered
  by_cases noData : reader.cache.dwDataSize = 0
  · by_cases fails : call.fails
    · refine ⟨.failed errorTimeout, reader, ?_, conserves.idle call (by simp)⟩
      simp only [readStep, fails, not_true, and_false, if_false,
        bteRead_of_failure noData, Option.bind_eq_bind, Option.bind_some,
        ReadOutcome.ofResult]
    · obtain ⟨taken, waiting, parts, queue, stream⟩ := conserves.conserved
      cases waiting with
      | nil =>
          refine ⟨.waiting, reader, ?_, conserves.idle call (by simp)⟩
          rw [List.map_nil] at queue
          rw [readStep, if_pos ⟨noData, fails⟩, queue]
      | cons payload waiting =>
          obtain ⟨served, done, servedOrdered, remaining⟩ :=
            exists_bteRead_of_message noData call payload
          have empty : reader.cache.unread = [] := by
            rw [← List.length_eq_zero_iff, ordered.length_unread, noData]
          rw [List.map_cons] at queue
          refine ⟨.returned (payload.array.bytes.take call.dwCount),
            { queue := waiting.map dataMessage, cache := served }, ?_, ?_⟩
          · rw [readStep, if_pos ⟨noData, fails⟩, queue]
            simp only [done, Option.bind_eq_bind, Option.bind_some,
              ReadOutcome.ofResult]
          · refine conserves.serve call
              (List.ne_nil_of_length_pos payload.nonempty) servedOrdered
              remaining ⟨taken ++ [payload], waiting, ?_, rfl, ?_⟩
            · rw [parts, List.append_assoc, List.singleton_append]
            · rw [empty, List.append_nil] at stream
              simp [stream, payloadBytes]
  · obtain ⟨served, done, servedOrdered, remaining⟩ :=
      exists_bteRead_of_data ordered noData call none
    refine ⟨.returned (reader.cache.unread.take call.dwCount),
      { reader with cache := served }, ?_, ?_⟩
    · simp only [readStep, noData, false_and, if_false, done,
        Option.bind_eq_bind, Option.bind_some, ReadOutcome.ofResult]
    · refine conserves.serve call ?_ servedOrdered remaining
        conserves.conserved
      rw [← List.length_pos_iff, ordered.length_unread]
      exact Nat.pos_of_ne_zero noData

/-- A call takes a message off the queue only when all data were returned. -/
theorem readPos_eq_size_of_queue_ne
    {reader next : Reader}
    (ordered : reader.cache.Ordered)
    (stepped : readStep reader call = some (outcome, next))
    (taken : next.queue ≠ reader.queue) :
    reader.cache.dwBufReadPos = reader.cache.dwBufSize := by
  unfold readStep at stepped
  split at stepped
  · rename_i noData
    have position := ordered.readPos_le
    have counted := ordered.dwDataSize_eq
    omega
  · simp only [Option.bind_eq_bind, Option.bind_eq_some_iff,
      Option.some.injEq, Prod.mk.injEq, Prod.exists] at stepped
    obtain ⟨result, cache, -, -, rfl⟩ := stepped
    exact absurd rfl taken

/-- Every sequence of calls returns a prefix of the payloads in queue order: the
bytes returned and those still in the cache are the payloads taken off the queue.
Each successful call returns between one byte and what it asks for, with the
positions of the cache in order; a message is only taken off the queue when all
data before it were returned. -/
theorem exists_reads_stream
    (payloads : List Payload)
    (calls : List ReadCall) :
    ∃ outcomes final,
      readMachine.run (Reader.start payloads) calls =
          some (outcomes, final) ∧
        (∀ entry ∈ calls.zip outcomes, ∀ bytes,
          entry.2 = .returned bytes →
            1 ≤ bytes.length ∧ bytes.length ≤ entry.1.dwCount) ∧
        outcomes.flatMap ReadOutcome.bytes <+: payloadBytes payloads ∧
        (∃ taken waiting,
          payloads = taken ++ waiting ∧
            final.queue = waiting.map dataMessage ∧
            outcomes.flatMap ReadOutcome.bytes ++ final.cache.unread =
              payloadBytes taken) ∧
        final.cache.dwBufReadPos ≤ final.cache.dwBufSize ∧
        final.cache.dwBufSize ≤ msgBufferSize ∧
        ∀ call outcome next,
          readStep final call = some (outcome, next) →
            next.queue ≠ final.queue →
              final.cache.dwBufReadPos = final.cache.dwBufSize := by
  obtain ⟨outcomes, final, ran, conserves⟩ :=
    readMachine.exists_run_of_history (Conserves payloads)
      (fun _ _ call conserves _ => conserves.step call)
      [] (conserves_start payloads)
      (Machine.admits_of_forall (fun _ _ => trivial) _ calls)
  rw [List.nil_append] at conserves
  obtain ⟨taken, waiting, parts, queue, stream⟩ := conserves.conserved
  have answers : (calls.zip outcomes).map Prod.snd = outcomes :=
    List.map_snd_zip (Nat.le_of_eq (Machine.length_of_run ran))
  have returned : outcomes.flatMap ReadOutcome.bytes =
      (calls.zip outcomes).flatMap fun entry => entry.2.bytes := by
    conv_lhs => rw [← answers]
    rw [List.flatMap_map]
  rw [← returned] at stream
  refine ⟨outcomes, final, ran, conserves.counted, ?_,
    ⟨taken, waiting, parts, queue, stream⟩, conserves.ordered.readPos_le,
    conserves.ordered.size_le,
    fun _ _ _ => readPos_eq_size_of_queue_ne conserves.ordered⟩
  refine ⟨final.cache.unread ++ payloadBytes waiting, ?_⟩
  rw [← List.append_assoc, stream, parts, payloadBytes, payloadBytes,
    payloadBytes, List.flatMap_append]

end SerialPort
end BthEmul
