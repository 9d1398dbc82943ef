import BthEmul.Device.PortDriver
import BthEmul.Device.Session

/-!
# Packets through the communication driver

The port of the transport driver is the virtual serial port: a call of
`ReadFile` is one of `BTE_Read`, and the `-1` of a failed read is a call that
fails and hands over nothing. The messages on the read queue need not be cut
where the packets are.
-/

namespace BthEmul

open Foundation Transport

namespace SerialPort

/-- What `ReadFile` makes of a call of `BTE_Read` that returns. -/
def ReadOutcome.toAnswer : ReadOutcome → Option Answer
  | .returned bytes => some { succeeds := true, bytes := bytes }
  | .failed _ => some { succeeds := false, bytes := [] }
  | .waiting => none

/-- `ReadFile` on the open port; the first argument says whether
`ReadMsgQueue` fails where it is called. -/
def portReadFile
    (fails : Bool)
    (reader : Reader)
    (requested : Nat) : Option (Answer × Reader) :=
  if positive : 0 < requested then do
    let (outcome, next) ←
      readStep reader { dwCount := requested, positive, fails }
    let answer ← outcome.toAnswer
    some (answer, next)
  else some ({ succeeds := false, bytes := [] }, reader)

/-- The cache serves no more bytes than asked for. -/
theorem length_le_of_serve
    {cache : Cache}
    (served : cache.serve dwCount = some (bytes, next)) :
    bytes.length ≤ dwCount := by
  simp only [Cache.serve, Option.bind_eq_bind, Option.bind_eq_some_iff,
    Option.some.injEq, Prod.mk.injEq] at served
  obtain ⟨loaded, load, rfl, -⟩ := served
  rw [Buffer.length_of_load load]
  split <;> omega

/-- A read returns no more bytes than asked for. -/
theorem length_le_of_bteRead
    {cache : Cache}
    (positive : 0 < dwCount)
    (read : bteRead openContext true dwCount received cache =
      some (.ok bytes, next)) :
    bytes.length ≤ dwCount := by
  by_cases data : 0 < cache.dwDataSize
  · simp only [bteRead, if_true, positive, and_self, data,
      Option.bind_eq_bind, Option.bind_eq_some_iff, Option.some.injEq,
      Prod.mk.injEq, Except.ok.injEq, Prod.exists] at read
    obtain ⟨_, _, served, rfl, rfl⟩ := read
    exact length_le_of_serve served
  · have noData : cache.dwDataSize = 0 := by omega
    rw [bteRead_of_noData noData positive] at read
    obtain ⟨-, message, payload, -, -, rfl, -⟩ := decodes_of_receiveData read
    exact List.length_take_le _ _

/-- A call that returns bytes has bytes for its result. -/
theorem eq_ok_of_ofResult
    (returned : ReadOutcome.ofResult result = .returned bytes) :
    result = .ok bytes := by
  cases result with
  | ok others =>
      cases returned
      rfl
  | error error => cases returned

/-- What a step returns are the bytes of a read. -/
theorem exists_bteRead_of_readStep
    {call : ReadCall}
    (stepped : readStep reader call = some (.returned bytes, next)) :
    ∃ received cache,
      bteRead openContext true call.dwCount received reader.cache =
        some (.ok bytes, cache) := by
  unfold readStep at stepped
  split at stepped
  · split at stepped
    · cases stepped
    · simp only [Option.bind_eq_bind, Option.bind_eq_some_iff,
        Option.some.injEq, Prod.mk.injEq, Prod.exists] at stepped
      obtain ⟨result, cache, read, returned, -⟩ := stepped
      exact ⟨_, cache, eq_ok_of_ofResult returned ▸ read⟩
  · simp only [Option.bind_eq_bind, Option.bind_eq_some_iff,
      Option.some.injEq, Prod.mk.injEq, Prod.exists] at stepped
    obtain ⟨result, cache, read, returned, -⟩ := stepped
    exact ⟨_, cache, eq_ok_of_ofResult returned ▸ read⟩

/-- No more bytes are handed over than asked for. -/
theorem length_le_of_portReadFile
    (handed : portReadFile fails reader requested = some (answer, next)) :
    answer.bytes.length ≤ requested := by
  unfold portReadFile at handed
  split at handed
  · rename_i positive
    simp only [Option.bind_eq_bind, Option.bind_eq_some_iff,
      Option.some.injEq, Prod.mk.injEq, Prod.exists] at handed
    obtain ⟨outcome, after, stepped, answer, answered, rfl, -⟩ := handed
    cases outcome with
    | returned bytes =>
        cases answered
        obtain ⟨received, cache, read⟩ := exists_bteRead_of_readStep stepped
        exact length_le_of_bteRead positive read
    | failed error =>
        cases answered
        exact Nat.zero_le _
    | waiting => cases answered
  · cases handed
    exact Nat.zero_le _

/-- The communication driver behind the port. -/
def portDriver (fails : Bool) : PortDriver Reader where
  readFile := portReadFile fails
  length_le := length_le_of_portReadFile

/-- The data of the cache and those of the messages on the queue, in this
order. -/
def Reader.Shows (reader : Reader) (stream : List UInt8) : Prop :=
  reader.cache.Ordered ∧
    ∃ payloads,
      reader.queue = payloads.map dataMessage ∧
        stream = reader.cache.unread ++ payloadBytes payloads

/-- A call on a cache with data hands over the first of them. -/
theorem exists_readStep_of_data
    {reader : Reader}
    (ordered : reader.cache.Ordered)
    (data : reader.cache.dwDataSize ≠ 0)
    (call : ReadCall) :
    ∃ served,
      readStep reader call =
          some (.returned (reader.cache.unread.take call.dwCount),
            { reader with cache := served }) ∧
        served.Ordered ∧
        served.unread = reader.cache.unread.drop call.dwCount := by
  obtain ⟨served, done, servedOrdered, behind⟩ :=
    exists_bteRead_of_data ordered data call none
  refine ⟨served, ?_, servedOrdered, behind⟩
  simp only [readStep, data, false_and, if_false, done, Option.bind_eq_bind,
    Option.bind_some, ReadOutcome.ofResult]

/-- A call on a cache without data hands over the first data of the message
that comes next. -/
theorem exists_readStep_of_message
    {reader : Reader}
    (noData : reader.cache.dwDataSize = 0)
    (call : ReadCall)
    (succeeds : call.fails = false)
    (queue : reader.queue = dataMessage payload :: others) :
    ∃ served,
      readStep reader call =
          some (.returned (payload.array.bytes.take call.dwCount),
            { queue := others, cache := served }) ∧
        served.Ordered ∧
        served.unread = payload.array.bytes.drop call.dwCount := by
  obtain ⟨served, done, servedOrdered, remaining⟩ :=
    exists_bteRead_of_message noData call payload
  refine ⟨served, ?_, servedOrdered, remaining⟩
  rw [readStep, if_pos ⟨noData, by rw [succeeds]; exact Bool.false_ne_true⟩,
    queue]
  simp only [done, Option.bind_eq_bind, Option.bind_some,
    ReadOutcome.ofResult]

/-- The communication driver hands over the data of the cache and the queue:
the cache is only refilled when all its data were returned. -/
theorem portDriver_handsOver :
    (portDriver false).HandsOver Reader.Shows := by
  intro reader stream requested shown nonempty positive
  obtain ⟨ordered, payloads, queue, rfl⟩ := shown
  let call : ReadCall := { dwCount := requested, positive, fails := false }
  by_cases noData : reader.cache.dwDataSize = 0
  · have empty : reader.cache.unread = [] := by
      rw [← List.length_eq_zero_iff, ordered.length_unread, noData]
    cases payloads with
    | nil =>
        rw [empty] at nonempty
        exact absurd rfl nonempty
    | cons payload payloads =>
        obtain ⟨served, stepped, servedOrdered, behind⟩ :=
          exists_readStep_of_message noData call rfl queue
        refine ⟨payload.array.bytes.take requested,
          payload.array.bytes.drop requested ++ payloadBytes payloads,
          { queue := payloads.map dataMessage, cache := served }, ?_, ?_, ?_,
          servedOrdered, payloads, rfl, ?_⟩
        · simp only [portDriver, portReadFile, dif_pos positive]
          rw [show readStep reader call = _ from stepped]
          rfl
        · apply List.ne_nil_of_length_pos
          have size := payload.nonempty
          rw [List.length_take]
          exact Nat.lt_min.mpr ⟨positive, size⟩
        · rw [empty, List.nil_append, ← List.append_assoc,
            List.take_append_drop]
          rfl
        · rw [behind]
  · obtain ⟨served, stepped, servedOrdered, behind⟩ :=
      exists_readStep_of_data ordered noData call
    refine ⟨reader.cache.unread.take requested,
      reader.cache.unread.drop requested ++ payloadBytes payloads,
      { reader with cache := served }, ?_, ?_, ?_,
      servedOrdered, payloads, queue, ?_⟩
    · simp only [portDriver, portReadFile, dif_pos positive]
      rw [show readStep reader call = _ from stepped]
      rfl
    · apply List.ne_nil_of_length_pos
      rw [List.length_take, ordered.length_unread]
      exact Nat.lt_min.mpr ⟨positive, Nat.pos_of_ne_zero noData⟩
    · rw [← List.append_assoc, List.take_append_drop]
    · rw [behind]

/-- However the packets are cut into messages, successive calls of
`HCI_ReadPacket` return them one after the other, and what is left in the cache
and on the queue are the packets not returned yet. -/
theorem exists_run_serialPackets
    (first second : List HciPacket)
    (payloads : List Payload)
    (buffers : List (BdBuffer cSize))
    (enough : cSize ≤ calls)
    (large : 260 ≤ cSize)
    (fits : ∀ packet ∈ first, 4 + packet.frame.bytes.length ≤ cSize)
    (one : buffers.length = first.length)
    (cut : payloadBytes payloads = packetBytes (first ++ second)) :
    ∃ results final,
      ((portDriver false).packetMachine cSize calls).run
          (Reader.start payloads) buffers = some (results, final) ∧
        List.Forall₂ Returns first results ∧
        final.Shows (packetBytes second) :=
  portDriver_handsOver.exists_run_packets first second buffers enough
    large fits one
    ⟨Cache.ordered_empty, payloads, rfl, cut.symm⟩

/-- The bytes of an event and an ACL packet, cut behind the type byte of the
event and in the header of the ACL packet. -/
def cutPayloads : List Payload :=
  [⟨⟨[4], by decide⟩, by decide, by decide⟩,
    ⟨⟨[0x0e, 1, 7, 2, 1], by decide⟩, by decide, by decide⟩,
    ⟨⟨[0, 0, 0], by decide⟩, by decide, by decide⟩]

theorem exists_run_serialPackets_cut :
    ∃ results final,
      ((portDriver false).packetMachine 260 260).run
          (Reader.start cutPayloads)
          (List.replicate 2
            { pBuffer := Buffer.fill 260 0, cStart := 0, cEnd := 0 }) =
          some (results, final) ∧
        List.Forall₂ Returns twoPackets results ∧
        final.Shows (packetBytes []) :=
  exists_run_serialPackets twoPackets [] cutPayloads _ (by decide) (by decide)
    (by decide) rfl rfl

end SerialPort
end BthEmul
