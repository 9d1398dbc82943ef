import BthEmul.Foundation.Buffer

/-!
# Reading from the emulated port

`ReadFile` hands over some of the bytes that arrive at the port. How many, and
whether it reports success, is up to the system; the sequence of its outcomes
is part of the state of the port. A request that leaves the block it reads into
is an overrun, and a call without a further outcome waits.
-/

namespace BthEmul

open Foundation

namespace Transport

/-- What one call of `ReadFile` reports. -/
structure Outcome where
  /-- Whether the call succeeds. -/
  succeeds : Bool
  /-- The number of bytes it is willing to hand over. -/
  size : Nat
  deriving DecidableEq

/-- The port: the bytes still to come and the outcomes of the calls. -/
structure Port where
  /-- The bytes not handed over yet. -/
  stream : List UInt8
  /-- The outcomes of the next calls. -/
  outcomes : List Outcome
  deriving DecidableEq

/-- Why a call does not return. -/
inductive Stop
  | waiting
  | overrun
  deriving DecidableEq

/-- What a call of `ReadFile` leaves behind. -/
structure Transfer (size : Nat) where
  /-- The number of bytes handed over. -/
  dwRead : Nat
  /-- The block read into. -/
  block : Buffer UInt8 size
  /-- The bytes still to come. -/
  stream : List UInt8

/-- `ReadFile` with a given outcome. -/
def readFile
    (outcome : Outcome)
    (stream : List UInt8)
    (block : Buffer UInt8 size)
    (start requested : Nat) : Except Stop (Transfer size) :=
  if start + requested ≤ size then
    let dwRead := min outcome.size (min requested stream.length)
    match block.store start (stream.take dwRead) with
    | none => .error .overrun
    | some block => .ok { dwRead, block, stream := stream.drop dwRead }
  else .error .overrun

/-- The loop of `ReadCommPort` after some bytes were filled in. -/
def readRemaining
    (dwLen start dwFilledSoFar : Nat)
    (stream : List UInt8)
    (block : Buffer UInt8 size) :
    List Outcome → Except Stop (Bool × Buffer UInt8 size × Port)
  | [] =>
      if dwFilledSoFar < dwLen then .error .waiting
      else .ok (true, block, { stream, outcomes := [] })
  | outcome :: outcomes =>
      if dwFilledSoFar < dwLen then do
        let transfer ← readFile outcome stream block
          (start + dwFilledSoFar) (dwLen - dwFilledSoFar)
        if ¬ outcome.succeeds ∧ transfer.dwRead = 0 then
          .ok (false, transfer.block, { stream := transfer.stream, outcomes })
        else
          readRemaining dwLen start (dwFilledSoFar + transfer.dwRead)
            transfer.stream transfer.block outcomes
      else .ok (true, block, { stream, outcomes := outcome :: outcomes })

/-- `ReadCommPort`. -/
def readCommPort
    (port : Port)
    (block : Buffer UInt8 size)
    (start dwLen : Nat) :
    Except Stop (Bool × Buffer UInt8 size × Port) :=
  readRemaining dwLen start 0 port.stream block port.outcomes

/-! ## Successful partial reads -/

/-- All calls succeed and hand over at least one byte, and there are enough of
them for the given number of bytes. -/
structure Supplies (outcomes : List Outcome) (count : Nat) : Prop where
  /-- All calls succeed and hand over at least one byte. -/
  conforms : ∀ outcome ∈ outcomes, outcome.succeeds ∧ 0 < outcome.size
  /-- There are enough calls. -/
  enough : count ≤ outcomes.length

/-- A successful partial read hands over the next bytes. -/
theorem exists_readFile
    {outcome : Outcome}
    (positive : 0 < outcome.size)
    (block : Buffer UInt8 size)
    (wantedNonempty : wanted ≠ [])
    (rest : List UInt8)
    (fits : start + wanted.length ≤ size) :
    ∃ count block',
      readFile outcome (wanted ++ rest) block start wanted.length =
          .ok {
            dwRead := count
            block := block'
            stream := wanted.drop count ++ rest } ∧
        0 < count ∧ count ≤ wanted.length ∧
        block'.cells.take (start + count) =
          block.cells.take start ++ wanted.take count := by
  have nonempty := List.length_pos_iff.mpr wantedNonempty
  have count : min outcome.size (min wanted.length (wanted ++ rest).length) =
      min outcome.size wanted.length := by
    rw [List.length_append, Nat.min_eq_left (Nat.le_add_right _ _)]
  have short : min outcome.size wanted.length ≤ wanted.length :=
    Nat.min_le_right _ _
  have taken : (wanted ++ rest).take (min outcome.size wanted.length) =
      wanted.take (min outcome.size wanted.length) :=
    List.take_append_of_le_length short
  obtain ⟨block', stored⟩ := block.exists_store start
    (wanted.take (min outcome.size wanted.length))
    (by rw [List.length_take]; omega)
  refine ⟨min outcome.size wanted.length, block', ?_,
    Nat.lt_min.mpr ⟨positive, nonempty⟩, short, ?_⟩
  · simp only [readFile, if_pos fits, count, taken, stored]
    rw [List.drop_append_of_le_length short]
  · have front := Buffer.take_of_store stored
    rwa [List.length_take_of_le short] at front

/-- Successful partial reads fill the block with exactly the bytes asked for,
however they split them. -/
theorem exists_readRemaining
    {outcomes : List Outcome}
    (supplies : Supplies outcomes (wanted.length + later))
    (block : Buffer UInt8 size)
    (rest : List UInt8)
    (fits : start + dwFilledSoFar + wanted.length ≤ size) :
    ∃ block' outcomes',
      readRemaining (dwFilledSoFar + wanted.length) start dwFilledSoFar
          (wanted ++ rest) block outcomes =
          .ok (true, block', { stream := rest, outcomes := outcomes' }) ∧
        block'.cells.take (start + dwFilledSoFar + wanted.length) =
          block.cells.take (start + dwFilledSoFar) ++ wanted ∧
        Supplies outcomes' later := by
  induction outcomes generalizing dwFilledSoFar wanted block with
  | nil =>
      have noBytes : wanted = [] := by
        have enough := supplies.enough
        rw [List.length_nil] at enough
        exact List.eq_nil_of_length_eq_zero (by omega)
      subst noBytes
      refine ⟨block, [], ?_, by simp, ?_⟩
      · simp [readRemaining]
      · have enough := supplies.enough
        exact ⟨supplies.conforms, by simpa using enough⟩
  | cons outcome outcomes inductionHypothesis =>
      by_cases wantedEmpty : wanted = []
      · subst wantedEmpty
        refine ⟨block, outcome :: outcomes, ?_, by simp, ?_⟩
        · simp [readRemaining]
        · have enough := supplies.enough
          exact ⟨supplies.conforms, by simpa using enough⟩
      · obtain ⟨succeeds, positive⟩ :=
          supplies.conforms outcome List.mem_cons_self
        obtain ⟨count, middle, transferred, progress, short, front⟩ :=
          exists_readFile positive block wantedEmpty rest fits
        have split : dwFilledSoFar + wanted.length =
            dwFilledSoFar + count + (wanted.drop count).length := by
          rw [List.length_drop]
          omega
        have nonempty := List.length_pos_iff.mpr wantedEmpty
        have suppliesRest :
            Supplies outcomes ((wanted.drop count).length + later) := by
          refine ⟨fun other member =>
            supplies.conforms other (List.mem_cons_of_mem _ member), ?_⟩
          have enough := supplies.enough
          rw [List.length_cons] at enough
          rw [List.length_drop]
          omega
        have fitsRest : start + (dwFilledSoFar + count) +
            (wanted.drop count).length ≤ size := by
          rw [List.length_drop]
          omega
        obtain ⟨block', outcomes', filled, content, supplied⟩ :=
          inductionHypothesis suppliesRest middle fitsRest
        refine ⟨block', outcomes', ?_, ?_, supplied⟩
        · rw [readRemaining, if_pos (by omega), Nat.add_sub_cancel_left,
            transferred]
          rw [← split] at filled
          simpa [succeeds, bind, Except.bind] using filled
        · rw [← Nat.add_assoc, Nat.add_assoc start, Nat.add_assoc start,
            ← split] at content
          rw [Nat.add_assoc start, content, ← Nat.add_assoc, front,
            List.append_assoc, List.take_append_drop]

/-- `ReadCommPort` fills the block with exactly the next bytes of the stream
and consumes them. -/
theorem exists_readCommPort
    {port : Port}
    (block : Buffer UInt8 size)
    (stream : port.stream = wanted ++ rest)
    (supplies : Supplies port.outcomes (wanted.length + later))
    (fits : start + wanted.length ≤ size) :
    ∃ block' port',
      readCommPort port block start wanted.length =
          .ok (true, block', port') ∧
        block'.cells.take (start + wanted.length) =
          block.cells.take start ++ wanted ∧
        port'.stream = rest ∧
        Supplies port'.outcomes later := by
  obtain ⟨block', outcomes', filled, content, supplied⟩ :=
    exists_readRemaining supplies block rest
      (by rwa [Nat.add_zero] : start + 0 + wanted.length ≤ size)
  rw [Nat.zero_add] at filled
  refine ⟨block', ⟨rest, outcomes'⟩, ?_, content, rfl, supplied⟩
  rw [readCommPort, stream, filled]

end Transport
end BthEmul
