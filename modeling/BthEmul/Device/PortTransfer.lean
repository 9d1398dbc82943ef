import BthEmul.Device.CommPort
import BthEmul.Foundation.TransferLoop

/-!
# The transfer loops of the port

`ReadCommPort` and `WriteCommPort` call the port until all bytes are
transferred, and give up where a call both fails and transfers no byte. A call
that succeeds without a byte is made again and again.
-/

namespace BthEmul

open Foundation

namespace Transport

/-! ## Reading -/

/-- What `ReadCommPort` works on. -/
structure ReadState (size : Nat) where
  /-- The bytes still to come. -/
  stream : List UInt8
  /-- The block read into. -/
  block : Buffer UInt8 size

/-- One call of `ReadFile` in `ReadCommPort`. -/
def readRequest
    (start : Nat)
    (outcome : Outcome)
    (dwFilledSoFar requested : Nat)
    (state : ReadState size) : Option (Nat × ReadState size) :=
  match readFile outcome state.stream state.block
      (start + dwFilledSoFar) requested with
  | .error _ => none
  | .ok transfer =>
      some (transfer.dwRead,
        { stream := transfer.stream, block := transfer.block })

/-- What a call of `ReadFile` that stays inside the block does. -/
theorem readFile_cases
    (outcome : Outcome)
    (stream : List UInt8)
    (block : Buffer UInt8 size)
    (start requested : Nat) :
    (size < start + requested ∧
        readFile outcome stream block start requested = .error .overrun) ∨
      ∃ count block',
        readFile outcome stream block start requested =
            .ok { dwRead := count, block := block', stream := stream.drop count } ∧
          count ≤ requested ∧
          (stream.take count).length = count ∧
          block.store start (stream.take count) = some block' := by
  unfold readFile
  by_cases fits : start + requested ≤ size
  · rw [if_pos fits]
    have short : min outcome.size (min requested stream.length) ≤ requested :=
      Nat.le_trans (Nat.min_le_right _ _) (Nat.min_le_left _ _)
    have taken : (stream.take
        (min outcome.size (min requested stream.length))).length =
          min outcome.size (min requested stream.length) :=
      List.length_take_of_le
        (Nat.le_trans (Nat.min_le_right _ _) (Nat.min_le_right _ _))
    obtain ⟨block', stored⟩ := block.exists_store start
      (stream.take (min outcome.size (min requested stream.length)))
      (by rw [taken]; omega)
    refine .inr ⟨_, block', ?_, short, taken, stored⟩
    simp only [stored]
  · rw [if_neg fits]
    exact .inl ⟨Nat.lt_of_not_le fits, rfl⟩

/-- A call hands over the next bytes of the stream. -/
theorem readRequest_eq_some
    {state next : ReadState size}
    (requested : readRequest start outcome dwFilledSoFar missing state =
      some (count, next)) :
    count ≤ missing ∧
      (state.stream.take count).length = count ∧
      next.stream = state.stream.drop count ∧
      state.block.store (start + dwFilledSoFar) (state.stream.take count) =
        some next.block := by
  unfold readRequest at requested
  rcases readFile_cases outcome state.stream state.block
      (start + dwFilledSoFar) missing with
    ⟨-, failed⟩ | ⟨count', block', transferred, short, taken, stored⟩
  · rw [failed] at requested
    contradiction
  · rw [transferred] at requested
    cases requested
    exact ⟨short, taken, rfl, stored⟩

/-- The loop of `ReadCommPort`, into a block from `start` on. -/
def readCommPortLoop
    (size start : Nat)
    (dwLen : Nat) : TransferLoop (ReadState size) Outcome where
  wanted := dwLen
  more dwFilledSoFar := dwFilledSoFar < dwLen
  more_iff _ _ := decide_eq_true_iff
  succeeds outcome := outcome.succeeds
  request := readRequest start
  request_le requested := (readRequest_eq_some requested).1

/-- The next bytes of the stream were stored in the block. -/
def StoredIn
    (start : Nat)
    (initial : ReadState size)
    (count : Nat)
    (state : ReadState size) : Prop :=
  ∃ taken, taken.length = count ∧
    initial.stream = taken ++ state.stream ∧
    initial.block.store start taken = some state.block

/-- Before the first call nothing was stored. -/
theorem storedIn_zero
    (initial : ReadState size)
    (inside : start ≤ size) :
    StoredIn start initial 0 initial :=
  ⟨[], rfl, rfl, initial.block.store_nil inside⟩

/-- A call stores the bytes it hands over behind those stored before. -/
theorem StoredIn.request
    {initial state next : ReadState size}
    (stored : StoredIn start initial dwFilledSoFar state)
    (requested : readRequest start outcome dwFilledSoFar missing state =
      some (count, next)) :
    StoredIn start initial (dwFilledSoFar + count) next := by
  obtain ⟨taken, length, stream, filled⟩ := stored
  obtain ⟨-, handed, rest, behind⟩ := readRequest_eq_some requested
  refine ⟨taken ++ state.stream.take count, ?_, ?_, ?_⟩
  · rw [List.length_append, length, handed]
  · rw [stream, rest, List.append_assoc, List.take_append_drop]
  · rw [← length] at behind
    exact Buffer.store_append filled behind

/-- A call for bytes that fit the block has a result. -/
theorem total_readCommPortLoop
    (fits : start + dwLen ≤ size) :
    (readCommPortLoop size start dwLen).Total := by
  intro outcome dwFilledSoFar missing state split
  change dwFilledSoFar + missing = dwLen at split
  change (readRequest start outcome dwFilledSoFar missing state).isSome
  unfold readRequest
  rcases readFile_cases outcome state.stream state.block
      (start + dwFilledSoFar) missing with
    ⟨leaves, -⟩ | ⟨count, block, transferred, -, -, -⟩
  · omega
  · rw [transferred]
    rfl

/-- `ReadCommPort` reads as its loop does. -/
def ReadsAs
    (result : Except Stop (Bool × Buffer UInt8 size × Port))
    (ran : Option (List (Option TransferLoop.Request) ×
      TransferLoop.Progress (ReadState size))) : Prop :=
  match result with
  | .error .overrun => ran = none
  | .error .waiting =>
      ∃ made final, ran = some (made, final) ∧ final.returned = none
  | .ok (done, block, port) =>
      ∃ made final, ran = some (made, final) ∧
        final.returned = some done ∧
        final.state = { stream := port.stream, block := block }

/-- A function reads as a loop that makes a call first. -/
theorem readsAs_of_step
    {progress next : TransferLoop.Progress (ReadState size)}
    (stepped : (readCommPortLoop size start dwLen).machine.step progress
      outcome = some (made, next))
    (reads : ReadsAs result
      ((readCommPortLoop size start dwLen).machine.run next outcomes)) :
    ReadsAs result
      ((readCommPortLoop size start dwLen).machine.run progress
        (outcome :: outcomes)) := by
  unfold ReadsAs at reads ⊢
  split
  · simp only at reads
    simp only [Machine.run, stepped, Option.bind_eq_bind, Option.bind_some,
      reads, Option.bind_none]
  · obtain ⟨others, final, ran, running⟩ := reads
    exact ⟨made :: others, final,
      Machine.run_cons_eq_some_iff.mpr ⟨_, _, _, stepped, ran, rfl⟩, running⟩
  · obtain ⟨others, final, ran, returned⟩ := reads
    exact ⟨made :: others, final,
      Machine.run_cons_eq_some_iff.mpr ⟨_, _, _, stepped, ran, rfl⟩, returned⟩

/-- A call of `ReadFile` without a result is a request without one. -/
theorem request_eq_none_of_readFile
    {block : Buffer UInt8 size}
    (failed : readFile outcome stream block (start + dwFilledSoFar) missing =
      .error stop) :
    (readCommPortLoop size start dwLen).request outcome dwFilledSoFar missing
        { stream := stream, block := block } = none := by
  simp only [readCommPortLoop, readRequest, failed]

/-- A call of `ReadFile` with a result is a request with the same. -/
theorem request_of_readFile
    {block : Buffer UInt8 size}
    {transfer : Transfer size}
    (transferred : readFile outcome stream block (start + dwFilledSoFar)
      missing = .ok transfer) :
    (readCommPortLoop size start dwLen).request outcome dwFilledSoFar missing
        { stream := stream, block := block } =
      some (transfer.dwRead,
        { stream := transfer.stream, block := transfer.block }) := by
  simp only [readCommPortLoop, readRequest, transferred]

/-- The loop of `ReadCommPort` after some bytes reads as its iterations do. -/
theorem readsAs_readRemaining
    (outcomes : List Outcome)
    (dwFilledSoFar : Nat)
    (stream : List UInt8)
    (block : Buffer UInt8 size) :
    ReadsAs
      (readRemaining dwLen start dwFilledSoFar stream block outcomes)
      ((readCommPortLoop size start dwLen).machine.run
        ((readCommPortLoop size start dwLen).enter dwFilledSoFar
          { stream := stream, block := block }) outcomes) := by
  induction outcomes generalizing dwFilledSoFar stream block with
  | nil =>
      by_cases missing : dwFilledSoFar < dwLen
      · rw [readRemaining, if_pos missing,
          TransferLoop.enter_of_more _ (decide_eq_true missing)]
        exact ⟨_, _, rfl, rfl⟩
      · rw [readRemaining, if_neg missing,
          TransferLoop.enter_of_not_more _ (mt of_decide_eq_true missing)]
        exact ⟨_, _, rfl, rfl, rfl⟩
  | cons outcome outcomes inductionHypothesis =>
      by_cases missing : dwFilledSoFar < dwLen
      · rw [readRemaining, if_pos missing,
          TransferLoop.enter_of_more _ (decide_eq_true missing)]
        rcases readFile_cases outcome stream block (start + dwFilledSoFar)
            (dwLen - dwFilledSoFar) with
          ⟨-, failed⟩ | ⟨count, block', transferred, -, -, -⟩
        · rw [failed]
          have stuck : (readCommPortLoop size start dwLen).machine.step
              { filled := dwFilledSoFar, returned := none,
                state := { stream := stream, block := block } } outcome =
                none :=
            TransferLoop.step_eq_none (request_eq_none_of_readFile failed)
          change (readCommPortLoop size start dwLen).machine.run _ _ = none
          simp only [Machine.run, stuck, Option.bind_eq_bind,
            Option.bind_none]
        · rw [transferred]
          refine readsAs_of_step (TransferLoop.step_of_request
            (request_of_readFile transferred)) ?_
          change ReadsAs (if ¬ outcome.succeeds = true ∧ count = 0 then _
            else _) _
          by_cases gaveUp : ¬ outcome.succeeds = true ∧ count = 0
          · rw [if_pos gaveUp, TransferLoop.resume,
              if_pos ⟨eq_false_of_ne_true gaveUp.1, gaveUp.2⟩]
            obtain ⟨made, ran⟩ :=
              (readCommPortLoop size start dwLen).exists_run_of_returned
                dwFilledSoFar false
                { stream := stream.drop count, block := block' } outcomes
            exact ⟨made, _, ran, rfl, rfl⟩
          · rw [if_neg gaveUp, TransferLoop.resume, if_neg fun both =>
              gaveUp ⟨ne_true_of_eq_false both.1, both.2⟩]
            exact inductionHypothesis _ _ _
      · rw [readRemaining, if_neg missing,
          TransferLoop.enter_of_not_more _ (mt of_decide_eq_true missing)]
        obtain ⟨made, ran⟩ :=
          (readCommPortLoop size start dwLen).exists_run_of_returned
            dwFilledSoFar true { stream := stream, block := block }
            (outcome :: outcomes)
        exact ⟨made, _, ran, rfl, rfl⟩

/-- `ReadCommPort` reads as its loop does. -/
theorem readsAs_readCommPort
    (port : Port)
    (block : Buffer UInt8 size) :
    ReadsAs (readCommPort port block start dwLen)
      ((readCommPortLoop size start dwLen).machine.run
        ((readCommPortLoop size start dwLen).enter 0
          { stream := port.stream, block := block }) port.outcomes) :=
  readsAs_readRemaining port.outcomes 0 port.stream block

/-- What a call of `ReadCommPort` for bytes that fit the block does, whatever
the port reports: it stores the next bytes of the stream, and all that are
asked for if it returns true. -/
theorem readCommPort_cases
    (port : Port)
    (block : Buffer UInt8 size)
    (fits : start + dwLen ≤ size) :
    readCommPort port block start dwLen = .error .waiting ∨
      ∃ done block' port' taken,
        readCommPort port block start dwLen =
            .ok (done, block', port') ∧
          port.stream = taken ++ port'.stream ∧
          block.store start taken = some block' ∧
          (done = true → taken.length = dwLen) := by
  let loop := readCommPortLoop size start dwLen
  let initial : ReadState size := { stream := port.stream, block := block }
  have reads : ReadsAs (readCommPort port block start dwLen)
      (loop.machine.run (loop.enter 0 initial) port.outcomes) :=
    readsAs_readCommPort port block
  obtain ⟨_, _, total, sound⟩ :=
    TransferLoop.exists_run (total_readCommPortLoop fits)
      (loop.sound_enter initial (Nat.zero_le _)) port.outcomes
  revert reads
  rcases readCommPort port block start dwLen with
    (_ | _) | ⟨done, block', port'⟩
  · exact fun _ => .inl rfl
  · intro overrun
    rw [ReadsAs, total] at overrun
    contradiction
  · rintro ⟨made, final, ran, returned, state⟩
    have stored : StoredIn start initial final.filled final.state :=
      TransferLoop.moved_of_run (fun _ _ _ _ _ _ => StoredIn.request)
        (storedIn_zero initial (Nat.le_trans (Nat.le_add_right _ _) fits)) ran
    obtain ⟨taken, length, stream, filled⟩ := stored
    rw [ran] at total
    cases total
    rw [state] at stream filled
    refine .inr ⟨done, block', port', taken, rfl, stream, filled, ?_⟩
    rintro rfl
    rw [length]
    exact sound.complete returned

/-! ## Writing -/

/-- The test `(int)dwFilledSoFar < cSize`: the signed value is converted back
before it is compared. -/
def belowSize (dwFilledSoFar : Nat) (cSize : UInt32) : Bool :=
  (UInt32.ofNat dwFilledSoFar).toInt32.toUInt32 < cSize

/-- The conversions do not matter. -/
theorem belowSize_iff
    {cSize : UInt32}
    (short : dwFilledSoFar ≤ cSize.toNat) :
    belowSize dwFilledSoFar cSize = true ↔ dwFilledSoFar < cSize.toNat := by
  have small : dwFilledSoFar < 2 ^ 32 :=
    Nat.lt_of_le_of_lt short cSize.toNat_lt
  rw [belowSize, decide_eq_true_iff, UInt32.toUInt32_toInt32,
    UInt32.lt_iff_toNat_lt, UInt32.toNat_ofNat_of_lt' small]

/-- One call of `WriteFile` in `WriteCommPort`; the bytes it takes are appended
to those the port has taken. -/
def writeRequest
    (block : Buffer UInt8 size)
    (start : Nat)
    (outcome : Outcome)
    (dwFilledSoFar requested : Nat)
    (written : List UInt8) : Option (Nat × List UInt8) :=
  if start + dwFilledSoFar + requested ≤ size then do
    let dwWrit := min outcome.size requested
    let bytes ← block.load (start + dwFilledSoFar) dwWrit
    some (dwWrit, written ++ bytes)
  else none

/-- A call takes the next bytes of the block. -/
theorem writeRequest_eq_some
    {block : Buffer UInt8 size}
    (requested : writeRequest block start outcome dwFilledSoFar missing
      written = some (count, next)) :
    count ≤ missing ∧
      ∃ bytes, block.load (start + dwFilledSoFar) count = some bytes ∧
        next = written ++ bytes := by
  unfold writeRequest at requested
  split at requested
  · simp only [Option.bind_eq_bind, Option.bind_eq_some_iff,
      Option.some.injEq, Prod.mk.injEq] at requested
    obtain ⟨bytes, loaded, rfl, rfl⟩ := requested
    exact ⟨Nat.min_le_right _ _, bytes, loaded, rfl⟩
  · contradiction

/-- The loop of `WriteCommPort`, out of a block from `start` on. -/
def writeCommPortLoop
    (block : Buffer UInt8 size)
    (start : Nat)
    (cSize : UInt32) : TransferLoop (List UInt8) Outcome where
  wanted := cSize.toNat
  more dwFilledSoFar := belowSize dwFilledSoFar cSize
  more_iff _ short := belowSize_iff short
  succeeds outcome := outcome.succeeds
  request := writeRequest block start
  request_le requested := (writeRequest_eq_some requested).1

/-- The port has taken the first bytes from `start` on. -/
def TakenFrom
    (block : Buffer UInt8 size)
    (start : Nat)
    (initial : List UInt8)
    (count : Nat)
    (written : List UInt8) : Prop :=
  ∃ bytes, block.load start count = some bytes ∧ written = initial ++ bytes

/-- Before the first call the port has taken nothing. -/
theorem takenFrom_zero
    (block : Buffer UInt8 size)
    (initial : List UInt8)
    (inside : start ≤ size) :
    TakenFrom block start initial 0 initial := by
  refine ⟨[], ?_, (List.append_nil initial).symm⟩
  rw [block.load_eq_some (Nat.add_zero start ▸ inside), List.take_zero]

/-- A call takes the bytes behind those taken before. -/
theorem TakenFrom.request
    {block : Buffer UInt8 size}
    (taken : TakenFrom block start initial dwFilledSoFar written)
    (requested : writeRequest block start outcome dwFilledSoFar missing
      written = some (count, next)) :
    TakenFrom block start initial (dwFilledSoFar + count) next := by
  obtain ⟨early, loaded, rfl⟩ := taken
  obtain ⟨-, late, behind, rfl⟩ := writeRequest_eq_some requested
  refine ⟨early ++ late, ?_, List.append_assoc _ _ _⟩
  have length := Buffer.length_of_load loaded
  rw [← length] at loaded behind ⊢
  exact Buffer.load_append loaded behind

/-- A call for bytes that are in the block has a result. -/
theorem total_writeCommPortLoop
    {block : Buffer UInt8 size}
    {cSize : UInt32}
    (fits : start + cSize.toNat ≤ size) :
    (writeCommPortLoop block start cSize).Total := by
  intro outcome dwFilledSoFar missing written split
  change dwFilledSoFar + missing = cSize.toNat at split
  change (writeRequest block start outcome dwFilledSoFar missing
    written).isSome
  have short := Nat.min_le_right outcome.size missing
  have inside : start + dwFilledSoFar + missing ≤ size := by omega
  have loaded := block.load_eq_some
    (Nat.le_trans (Nat.add_le_add_left short (start + dwFilledSoFar)) inside)
  simp only [writeRequest, if_pos inside, loaded]
  rfl

/-! ## Transfers -/

/-- Whatever the port reports, `ReadCommPort` and `WriteCommPort` stay inside
their block, advance with every call, end, and return true only when exactly
the bytes asked for were transferred in order, exactly where no call that is
made reports a success without a byte. -/
theorem transfers_iff_delivers
    (dwLen : Nat)
    (cSize : UInt32)
    (initial : ReadState (start + dwLen + behind))
    (block : Buffer UInt8 (first + cSize.toNat + rest))
    (written : List UInt8)
    (outcomes : Stream' Outcome) :
    ((readCommPortLoop _ start dwLen).Transfers (StoredIn start initial)
        initial outcomes ↔
      ∀ count,
        (readCommPortLoop _ start dwLen).machine.Admits
          (readCommPortLoop _ start dwLen).Delivers
          ((readCommPortLoop _ start dwLen).enter 0 initial)
          (outcomes.take count)) ∧
    ((writeCommPortLoop block first cSize).Transfers
        (TakenFrom block first written) written outcomes ↔
      ∀ count,
        (writeCommPortLoop block first cSize).machine.Admits
          (writeCommPortLoop block first cSize).Delivers
          ((writeCommPortLoop block first cSize).enter 0 written)
          (outcomes.take count)) := by
  constructor
  · refine TransferLoop.transfers_iff
      (total_readCommPortLoop (Nat.le_add_right _ _))
      (fun _ _ _ _ _ _ => StoredIn.request) ?_ outcomes
    exact storedIn_zero initial (by omega)
  · refine TransferLoop.transfers_iff
      (total_writeCommPortLoop (Nat.le_add_right _ _))
      (fun _ _ _ _ _ _ => TakenFrom.request) ?_ outcomes
    exact takenFrom_zero block written (by omega)

/-- A call that succeeds without a byte. -/
def emptySuccess : Outcome where
  succeeds := true
  size := 0

/-- Where every call succeeds without a byte, neither function returns. -/
theorem not_transfers_emptySuccess :
    ¬ (readCommPortLoop 1 0 1).Transfers
        (StoredIn 0 ⟨[7], Buffer.fill 1 0⟩) ⟨[7], Buffer.fill 1 0⟩
        (Stream'.const emptySuccess) ∧
      ¬ (writeCommPortLoop (Buffer.fill 1 0) 0 1).Transfers
        (TakenFrom (Buffer.fill 1 0) 0 []) []
        (Stream'.const emptySuccess) :=
  ⟨TransferLoop.not_transfers_of_stall _ _ _ _ rfl rfl rfl,
    TransferLoop.not_transfers_of_stall _ _ _ _ rfl rfl rfl⟩

end Transport
end BthEmul
