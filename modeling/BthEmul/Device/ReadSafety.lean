import BthEmul.Device.PortTransfer
import BthEmul.Device.Transport

/-!
# Reading packets from any stream

The port may hand over any bytes in any pieces, end or fail at any point.
Reading a packet then still stays inside the buffer it is given and inside the
block an unknown packet is dumped to, and a packet that is returned was read
from the stream by the same call.
-/

namespace BthEmul

open Foundation Hci

namespace Transport

/-- A packet that is returned was read behind a type byte of the stream, stands
in the buffer from `cStart = 4` up to `cEnd`, and has a type. -/
structure ReadFrom
    (stream rest : List UInt8)
    (result : ReadPacketResult cSize) : Prop where
  /-- The type of the packet is stored. -/
  peType : result.peType.isSome
  /-- The packet starts behind four bytes. -/
  cStart : result.pBuff.cStart = 4
  /-- The packet does not end before it starts. -/
  cStart_le : result.pBuff.cStart ≤ result.pBuff.cEnd
  /-- The packet ends inside the buffer. -/
  cEnd_le : result.pBuff.cEnd ≤ cSize
  /-- The bytes of the packet come from the stream. -/
  content : ∃ type bytes,
    stream = type :: bytes ++ rest ∧
      result.pBuff.pBuffer.load result.pBuff.cStart
        result.pBuff.bufferTotal = some bytes

/-- A call stays inside its blocks, and what it returns is as it should be. -/
def StaysInside
    (Proper : ReadPacketResult cSize → Port → Prop) :
    Except Stop (ReadPacketResult cSize × Port) → Prop
  | .error .overrun => False
  | .error .waiting => True
  | .ok (result, port) => result.returned = true → Proper result port

/-- What is as it should be is also as a weaker condition asks. -/
theorem StaysInside.mono
    {Proper Weaker : ReadPacketResult cSize → Port → Prop}
    (weaker : ∀ result port, Proper result port → Weaker result port)
    {answer : Except Stop (ReadPacketResult cSize × Port)}
    (inside : StaysInside Proper answer) :
    StaysInside Weaker answer := by
  match answer with
  | .error .overrun => exact inside
  | .error .waiting => trivial
  | .ok (result, port) =>
      exact fun returned => weaker result port (inside returned)

/-- A call that returns `FALSE` stays inside its blocks. -/
theorem staysInside_failed
    (Proper : ReadPacketResult cSize → Port → Prop)
    (pBuff : BdBuffer cSize)
    (port : Port) :
    StaysInside Proper (.ok (.failed pBuff, port)) :=
  nofun

/-- The body of a packet: some bytes of the stream that are stored from
`cStart` on and end at `cEnd`. -/
structure BodyFrom
    (type : HciType)
    (port : Port)
    (pBuff : BdBuffer cSize)
    (result : ReadPacketResult cSize)
    (port' : Port) : Prop where
  /-- The type of the packet is stored. -/
  peType : result.peType = some type
  /-- The packet starts where it should. -/
  cStart : result.pBuff.cStart = pBuff.cStart
  /-- The packet ends inside the buffer. -/
  cEnd_le : result.pBuff.cEnd ≤ cSize
  /-- The bytes of the packet come from the stream. -/
  content : ∃ bytes, port.stream = bytes ++ port'.stream ∧
    result.pBuff.cEnd = pBuff.cStart + bytes.length ∧
    pBuff.pBuffer.store pBuff.cStart bytes = some result.pBuff.pBuffer

/-- Reading the body of a packet stays inside the buffer, whatever length the
header announces. -/
theorem staysInside_readBody
    (type : HciType)
    (format : HeaderFormat)
    (port : Port)
    (pBuff : BdBuffer cSize)
    (roomy : pBuff.cStart + format.headerLength ≤ cSize) :
    StaysInside (BodyFrom type port pBuff)
      (readBody type format port pBuff) := by
  rcases readCommPort_cases port pBuff.pBuffer roomy with
    waits | ⟨done, block, port₁, header, headerRead, headerStream,
      headerStored, whole⟩
  · simp only [readBody, waits, bind, Except.bind]
    trivial
  · simp only [readBody, headerRead, bind, Except.bind]
    cases done with
    | false => exact staysInside_failed _ _ _
    | true =>
        have headerLength := whole rfl
        have headerLoaded := Buffer.load_of_store headerStored
        rw [headerLength] at headerLoaded
        rw [if_neg (fun absent => absent rfl), headerLoaded]
        simp only
        split
        · exact staysInside_failed _ _ _
        · rename_i fits
          have cEnd_le := Nat.le_of_not_lt fits
          simp only [BdBuffer.bufferTotal] at cEnd_le ⊢
          rw [Nat.add_assoc, Nat.add_sub_cancel_left, Nat.add_sub_cancel_left]
          rcases readCommPort_cases port₁ block cEnd_le with
            waits | ⟨done, block', port₂, payload, payloadRead, payloadStream,
              payloadStored, whole⟩
          · rw [waits]
            trivial
          · rw [payloadRead]
            cases done with
            | false => exact staysInside_failed _ _ _
            | true =>
                have payloadLength := whole rfl
                rw [← headerLength] at payloadStored
                intro _
                refine ⟨rfl, rfl, ?_, header ++ payload, ?_, ?_,
                  Buffer.store_append headerStored payloadStored⟩
                · rw [Nat.add_assoc] at cEnd_le
                  exact cEnd_le
                · rw [headerStream, payloadStream, List.append_assoc]
                · change pBuff.cStart + (_ + _) = _
                  rw [List.length_append, headerLength, payloadLength]

/-! ## Unknown packets -/

/-- Dumping what follows an unknown type byte stays inside its block. -/
theorem drainRemaining_ne_overrun
    (outcomes : List Outcome)
    (buffOffset : Nat)
    (stream : List UInt8)
    (buff : Buffer UInt8 buffSize) :
    drainRemaining buffOffset stream buff outcomes ≠ .error .overrun := by
  induction outcomes generalizing buffOffset stream buff with
  | nil =>
      rw [drainRemaining]
      split <;> nofun
  | cons outcome outcomes inductionHypothesis =>
      rw [drainRemaining]
      split
      · rename_i missing
        rcases readFile_cases outcome stream buff buffOffset
            (buffSize - buffOffset) with
          ⟨leaves, -⟩ | ⟨count, buff', transferred, -, -, -⟩
        · omega
        · rw [transferred]
          simp only [bind, Except.bind]
          split
          · nofun
          · split
            · nofun
            · exact inductionHypothesis _ _ _
      · nofun

/-- The loop that dumps an unknown packet, which also ends where a call
succeeds without a byte, returns after at most as many calls as bytes fit. -/
theorem exists_drainRemaining
    (outcomes : List Outcome)
    (buffOffset : Nat)
    (stream : List UInt8)
    (buff : Buffer UInt8 buffSize)
    (enough : buffSize ≤ buffOffset + outcomes.length) :
    ∃ port, drainRemaining buffOffset stream buff outcomes = .ok port := by
  induction outcomes generalizing buffOffset stream buff with
  | nil =>
      have full : buffSize ≤ buffOffset := enough
      rw [drainRemaining, if_neg (Nat.not_lt_of_le full)]
      exact ⟨_, rfl⟩
  | cons outcome outcomes inductionHypothesis =>
      rw [drainRemaining]
      split
      · rename_i missing
        rcases readFile_cases outcome stream buff buffOffset
            (buffSize - buffOffset) with
          ⟨leaves, -⟩ | ⟨count, buff', transferred, -, -, -⟩
        · omega
        · rw [transferred]
          simp only [bind, Except.bind]
          split
          · exact ⟨_, rfl⟩
          · split
            · exact ⟨_, rfl⟩
            · rename_i further
              rw [List.length_cons] at enough
              exact inductionHypothesis _ _ _ (by omega)
      · exact ⟨_, rfl⟩

/-- Dumping an unknown packet stays inside its block. -/
theorem drain_ne_overrun
    (port : Port)
    (type : UInt8) :
    drain port type ≠ .error .overrun := by
  have roomy : 0 + [type].length ≤ buffSize :=
    show 0 + 1 ≤ buffSize by decide
  obtain ⟨buff, stored⟩ :=
    (Buffer.fill buffSize (0 : UInt8)).exists_store 0 [type] roomy
  rw [drain, stored]
  exact drainRemaining_ne_overrun _ _ _ _

/-! ## Packets -/

/-- The size of a buffer is tested as the difference of two `int` values, which
is negative for a buffer that ends before the first byte is read. -/
theorem bufferTotal_lt_iff (pBuff : BdBuffer cSize) :
    pBuff.bufferTotal < 257 ↔ (pBuff.cEnd : Int) - pBuff.cStart < 257 := by
  rw [BdBuffer.bufferTotal]
  omega

/-- A body behind a type byte is a packet of the stream. -/
theorem BodyFrom.readFrom
    {port port₁ port' : Port}
    {pBuff : BdBuffer cSize}
    {result : ReadPacketResult cSize}
    {byte : UInt8}
    (body : BodyFrom type port₁ pBuff result port')
    (stream : port.stream = byte :: port₁.stream)
    (cStart : pBuff.cStart = 4) :
    ReadFrom port.stream port'.stream result := by
  obtain ⟨bytes, rest, cEnd, stored⟩ := body.content
  have start := body.cStart
  refine ⟨by rw [body.peType]; rfl, start.trans cStart, ?_, body.cEnd_le,
    byte, bytes, ?_, ?_⟩
  · rw [start, cEnd]
    exact Nat.le_add_right _ _
  · rw [stream, rest]
    rfl
  · rw [BdBuffer.bufferTotal, start, cEnd, Nat.add_sub_cancel_left]
    exact Buffer.load_of_store stored

/-- `HCI_ReadPacket` stays inside its blocks on any stream, and a packet that
it returns was read from the stream. -/
theorem staysInside_hciReadPacket
    (active : Bool)
    (port : Port)
    (pBuff : BdBuffer cSize) :
    StaysInside (fun result port' =>
        ReadFrom port.stream port'.stream result)
      (hciReadPacket active port pBuff) := by
  unfold hciReadPacket
  by_cases isActive : ¬ active = true
  · rw [if_pos isActive]
    exact staysInside_failed _ _ _
  · rw [if_neg isActive]
    simp only [BdBuffer.bufferTotal]
    by_cases small : cSize - 3 < 257
    · rw [if_pos small]
      exact staysInside_failed _ _ _
    · rw [if_neg small]
      have typeFits : 3 + 1 ≤ cSize := by omega
      rcases readCommPort_cases port pBuff.pBuffer typeFits with
        waits | ⟨done, block, port₁, taken, typeRead, stream, stored, whole⟩
      · rw [waits]
        trivial
      · rw [typeRead]
        simp only [bind, Except.bind]
        cases done with
        | false => exact staysInside_failed _ _ _
        | true =>
            obtain ⟨byte, rfl⟩ := List.length_eq_one_iff.mp (whole rfl)
            have loaded : block.load 3 1 = some [byte] :=
              Buffer.load_of_store stored
            rw [if_neg (fun absent => absent rfl)]
            simp only [Nat.add_sub_cancel, loaded]
            have body : ∀ type format,
                4 + format.headerLength ≤ cSize →
                  StaysInside (fun result port' =>
                      ReadFrom port.stream port'.stream result)
                    (readBody type format port₁
                      { pBuffer := block, cStart := 3 + 1, cEnd := cSize }) := by
              intro type format roomy
              refine (staysInside_readBody type format port₁
                { pBuffer := block, cStart := 3 + 1, cEnd := cSize }
                roomy).mono ?_
              intro result port' fromBody
              exact fromBody.readFrom stream rfl
            split
            · exact body _ aclFormat (show 4 + 4 ≤ cSize by omega)
            · split
              · exact body _ scoFormat (show 4 + 3 ≤ cSize by omega)
              · split
                · exact body _ eventFormat (show 4 + 2 ≤ cSize by omega)
                · have dumps := drain_ne_overrun port₁ byte
                  revert dumps
                  rcases drain port₁ byte with (_ | _) | port₂
                  · exact fun _ => trivial
                  · exact fun dumps => absurd rfl dumps
                  · exact fun _ => staysInside_failed _ _ _

/-- On any stream, handed over in any pieces, ending or failing at any point,
and for a buffer of any size, `HCI_ReadPacket` never asks the port to write
outside the buffer or the block an unknown packet is dumped to; and where it
returns `TRUE`, the type is stored, `4 = cStart ≤ cEnd ≤ cSize`, and the bytes
between were read from the stream by the call. -/
theorem hciReadPacket_safe
    (active : Bool)
    (port : Port)
    (pBuff : BdBuffer cSize) :
    hciReadPacket active port pBuff ≠ .error .overrun ∧
      ∀ result port',
        hciReadPacket active port pBuff = .ok (result, port') →
          result.returned = true →
            ReadFrom port.stream port'.stream result := by
  have inside := staysInside_hciReadPacket active port pBuff
  constructor
  · intro overrun
    rw [overrun] at inside
    exact inside
  · intro result port' answered
    rw [answered] at inside
    exact inside

end Transport
end BthEmul
