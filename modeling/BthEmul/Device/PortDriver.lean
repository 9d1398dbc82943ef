import BthEmul.Device.PortTransfer
import BthEmul.Device.Transport

/-!
# The transport driver over a serial driver

What `ReadFile` hands over is decided by the driver behind the port. The
transport driver is the same whatever that driver is: it reads the type byte,
the header and the payload of a packet by calling it as often as needed.

The calls a read makes are counted down, and a read that has none left waits.
Where every call hands over a byte, as many calls as bytes are enough.
-/

namespace BthEmul

open Foundation Hci

namespace Transport

/-- What a call of `ReadFile` returns. -/
structure Answer where
  /-- Whether the call succeeds. -/
  succeeds : Bool
  /-- The bytes handed over. -/
  bytes : List UInt8
  deriving DecidableEq

/-- The driver behind a port. -/
structure PortDriver (State : Type) where
  /-- `ReadFile` of some bytes; a call that waits has no result. -/
  readFile : State → Nat → Option (Answer × State)
  /-- No more bytes are handed over than asked for. -/
  length_le : ∀ {state requested answer next},
    readFile state requested = some (answer, next) →
      answer.bytes.length ≤ requested

namespace PortDriver

variable {State : Type}

/-- A call of `ReadFile` into a block. -/
def readInto
    (driver : PortDriver State)
    (state : State)
    (block : Buffer UInt8 size)
    (start requested : Nat) :
    Except Stop (Answer × Buffer UInt8 size × State) :=
  match driver.readFile state requested with
  | none => .error .waiting
  | some (answer, next) =>
      if start + requested ≤ size then
        match block.store start answer.bytes with
        | none => .error .overrun
        | some block => .ok (answer, block, next)
      else .error .overrun

/-- The loop of `ReadCommPort` after some bytes were filled in. -/
def readRemaining
    (driver : PortDriver State)
    (dwLen start dwFilledSoFar : Nat)
    (state : State)
    (block : Buffer UInt8 size) :
    Nat → Except Stop (Bool × Buffer UInt8 size × State)
  | 0 =>
      if dwFilledSoFar < dwLen then .error .waiting
      else .ok (true, block, state)
  | calls + 1 =>
      if dwFilledSoFar < dwLen then do
        let (answer, block, next) ← driver.readInto state block
          (start + dwFilledSoFar) (dwLen - dwFilledSoFar)
        let dwRead := answer.bytes.length
        if ¬ answer.succeeds ∧ dwRead = 0 then .ok (false, block, next)
        else
          driver.readRemaining dwLen start (dwFilledSoFar + dwRead) next block
            calls
      else .ok (true, block, state)

/-- `ReadCommPort`. -/
def readCommPort
    (driver : PortDriver State)
    (calls : Nat)
    (state : State)
    (block : Buffer UInt8 size)
    (start dwLen : Nat) : Except Stop (Bool × Buffer UInt8 size × State) :=
  driver.readRemaining dwLen start 0 state block calls

/-- Read the header of a packet, set `cEnd` from the length it announces, and
read the payload. -/
def readBody
    (driver : PortDriver State)
    (calls : Nat)
    (type : HciType)
    (format : HeaderFormat)
    (state : State)
    (pBuff : BdBuffer cSize) :
    Except Stop (ReadPacketResult cSize × State) := do
  let (filled, pBuffer, state) ← driver.readCommPort calls state
    pBuff.pBuffer pBuff.cStart format.headerLength
  let pBuff := { pBuff with pBuffer }
  if ¬ filled then .ok (.failed pBuff, state)
  else
    match pBuff.pBuffer.load pBuff.cStart format.headerLength with
    | none => .error .overrun
    | some header =>
        let pBuff := {
          pBuff with
          cEnd := pBuff.cStart + format.headerLength +
            format.payloadLength header }
        if pBuff.cEnd > cSize then .ok (.failed pBuff, state)
        else
          let (filled, pBuffer, state) ← driver.readCommPort calls state
            pBuff.pBuffer (pBuff.cStart + format.headerLength)
            (pBuff.bufferTotal - format.headerLength)
          let pBuff := { pBuff with pBuffer }
          if ¬ filled then .ok (.failed pBuff, state)
          else .ok ({ returned := true, peType := some type, pBuff }, state)

/-- The loop that dumps what follows an unknown type byte. -/
def drainRemaining
    (driver : PortDriver State)
    (buffOffset : Nat)
    (state : State)
    (buff : Buffer UInt8 buffSize) : Nat → Except Stop State
  | 0 =>
      if buffOffset < buffSize then .error .waiting
      else .ok state
  | calls + 1 =>
      if buffOffset < buffSize then do
        let (answer, buff, next) ← driver.readInto state buff buffOffset
          (buffSize - buffOffset)
        let dwRead := answer.bytes.length
        if ¬ answer.succeeds ∧ dwRead = 0 then .ok next
        else if dwRead = 0 then .ok next
        else driver.drainRemaining (buffOffset + dwRead) next buff calls
      else .ok state

/-- Dump an unknown type byte and what follows it. -/
def drain
    (driver : PortDriver State)
    (calls : Nat)
    (state : State)
    (type : UInt8) : Except Stop State :=
  match (Buffer.fill buffSize 0).store 0 [type] with
  | none => .error .overrun
  | some buff => driver.drainRemaining 1 state buff calls

/-- `HCI_ReadPacket`; the first argument says whether `g_hFile` is valid. -/
def hciReadPacket
    (driver : PortDriver State)
    (active : Bool)
    (calls : Nat)
    (state : State)
    (pBuff : BdBuffer cSize) :
    Except Stop (ReadPacketResult cSize × State) :=
  if ¬ active then .ok (.failed pBuff, state)
  else
    let pBuff := { pBuff with cStart := 3, cEnd := cSize }
    if pBuff.bufferTotal < 257 then .ok (.failed pBuff, state)
    else do
      let (filled, pBuffer, state) ←
        driver.readCommPort calls state pBuff.pBuffer pBuff.cStart 1
      if ¬ filled then .ok (.failed { pBuff with pBuffer }, state)
      else
        let pBuff := { pBuff with pBuffer, cStart := pBuff.cStart + 1 }
        match pBuff.pBuffer.load (pBuff.cStart - 1) 1 with
        | some [type] =>
            if type = HciType.dataPacketAcl.code then
              driver.readBody calls .dataPacketAcl aclFormat state pBuff
            else if type = HciType.dataPacketSco.code then
              driver.readBody calls .dataPacketSco scoFormat state pBuff
            else if type = HciType.eventPacket.code then
              driver.readBody calls .eventPacket eventFormat state pBuff
            else
              let state ← driver.drain calls state type
              .ok (.failed pBuff, state)
        | _ => .error .overrun

/-! ## Drivers that hand over a stream -/

/-- A driver that has the bytes of a stream for its states: as long as there
are any, every call hands over at least one of those that come next. -/
def HandsOver
    (driver : PortDriver State)
    (shows : State → List UInt8 → Prop) : Prop :=
  ∀ state stream requested,
    shows state stream → stream ≠ [] → 0 < requested →
      ∃ bytes rest next,
        driver.readFile state requested =
            some ({ succeeds := true, bytes := bytes }, next) ∧
          bytes ≠ [] ∧
          stream = bytes ++ rest ∧
          shows next rest

variable {driver : PortDriver State} {shows : State → List UInt8 → Prop}

/-- A call hands over some of the bytes wanted. -/
theorem HandsOver.exists_readInto
    (handsOver : driver.HandsOver shows)
    {wanted : List UInt8}
    (shown : shows state (wanted ++ rest))
    (wantedNonempty : wanted ≠ [])
    (block : Buffer UInt8 size)
    (fits : start + wanted.length ≤ size) :
    ∃ bytes later block' next,
      driver.readInto state block start wanted.length =
          .ok ({ succeeds := true, bytes := bytes }, block', next) ∧
        wanted = bytes ++ later ∧
        bytes ≠ [] ∧
        block'.cells.take (start + bytes.length) =
          block.cells.take start ++ bytes ∧
        shows next (later ++ rest) := by
  obtain ⟨bytes, behind, next, handed, nonempty, split, shownNext⟩ :=
    handsOver state _ wanted.length shown
      (List.append_ne_nil_of_left_ne_nil wantedNonempty rest)
      (List.length_pos_iff.mpr wantedNonempty)
  have short : bytes.length ≤ wanted.length := driver.length_le handed
  obtain ⟨later, rfl⟩ : bytes <+: wanted :=
    List.prefix_of_prefix_length_le ⟨behind, split.symm⟩
      (List.prefix_append wanted rest) short
  rw [List.append_assoc, List.append_cancel_left_eq] at split
  obtain ⟨block', stored⟩ := block.exists_store start bytes (by omega)
  refine ⟨bytes, later, block', next, ?_, rfl, nonempty,
    Buffer.take_of_store stored, split ▸ shownNext⟩
  simp only [readInto, handed, if_pos fits, stored]

/-- The loop of `ReadCommPort` fills the block with exactly the bytes wanted. -/
theorem HandsOver.exists_readRemaining
    (handsOver : driver.HandsOver shows)
    {wanted : List UInt8}
    (shown : shows state (wanted ++ rest))
    (enough : wanted.length ≤ calls)
    (block : Buffer UInt8 size)
    (fits : start + dwFilledSoFar + wanted.length ≤ size) :
    ∃ block' next,
      driver.readRemaining (dwFilledSoFar + wanted.length) start dwFilledSoFar
          state block calls = .ok (true, block', next) ∧
        block'.cells.take (start + dwFilledSoFar + wanted.length) =
          block.cells.take (start + dwFilledSoFar) ++ wanted ∧
        shows next rest := by
  induction calls generalizing dwFilledSoFar wanted state block with
  | zero =>
      have noBytes : wanted = [] :=
        List.eq_nil_of_length_eq_zero (Nat.le_zero.mp enough)
      subst noBytes
      refine ⟨block, state, ?_, by simp, shown⟩
      simp [readRemaining]
  | succ calls inductionHypothesis =>
      by_cases wantedEmpty : wanted = []
      · subst wantedEmpty
        refine ⟨block, state, ?_, by simp, shown⟩
        simp [readRemaining]
      · obtain ⟨bytes, later, middle, next, handed, rfl, nonempty, front,
          shownNext⟩ :=
          handsOver.exists_readInto shown wantedEmpty block fits
        have progress := List.length_pos_iff.mpr nonempty
        rw [List.length_append] at enough fits handed ⊢
        obtain ⟨block', final, filled, content, shownFinal⟩ :=
          inductionHypothesis shownNext (by omega) middle
            (by omega :
              start + (dwFilledSoFar + bytes.length) + later.length ≤ size)
        refine ⟨block', final, ?_, ?_, shownFinal⟩
        · rw [readRemaining, if_pos (by omega), Nat.add_sub_cancel_left,
            handed]
          rw [Nat.add_assoc] at filled
          simpa [bind, Except.bind] using filled
        · rw [← Nat.add_assoc] at content
          rw [← Nat.add_assoc, content, front, List.append_assoc]

/-- `ReadCommPort` fills the block with exactly the bytes wanted. -/
theorem HandsOver.exists_readCommPort
    (handsOver : driver.HandsOver shows)
    {wanted : List UInt8}
    (shown : shows state (wanted ++ rest))
    (enough : wanted.length ≤ calls)
    (block : Buffer UInt8 size)
    (fits : start + wanted.length ≤ size) :
    ∃ block' next,
      driver.readCommPort calls state block start wanted.length =
          .ok (true, block', next) ∧
        block'.cells.take (start + wanted.length) =
          block.cells.take start ++ wanted ∧
        shows next rest := by
  obtain ⟨block', next, filled, content, shownNext⟩ :=
    handsOver.exists_readRemaining shown enough block
      (by rwa [Nat.add_zero] : start + 0 + wanted.length ≤ size)
  rw [Nat.zero_add] at filled
  exact ⟨block', next, filled, content, shownNext⟩

/-- Reading the body of a packet that comes next returns it. -/
theorem HandsOver.exists_readBody
    (handsOver : driver.HandsOver shows)
    {format : HeaderFormat}
    (type : HciType)
    (frame : Frame format)
    (shown : shows state (frame.bytes ++ rest))
    (enough : frame.bytes.length ≤ calls)
    (pBuff : BdBuffer cSize)
    (fits : pBuff.cStart + frame.bytes.length ≤ cSize) :
    ∃ result next,
      driver.readBody calls type format state pBuff = .ok (result, next) ∧
        result.returned = true ∧
        result.peType = some type ∧
        result.pBuff.cStart = pBuff.cStart ∧
        result.pBuff.pBuffer.load pBuff.cStart result.pBuff.bufferTotal =
          some frame.bytes ∧
        shows next rest := by
  have total := frame.length_bytes
  have headerLength := frame.length_header
  have payloadLength := frame.length_payload
  rw [Frame.bytes, List.append_assoc] at shown
  have headerFits : pBuff.cStart + frame.header.length ≤ cSize := by omega
  have payloadFits : pBuff.cStart + format.headerLength +
      frame.payload.length ≤ cSize := by omega
  have headerEnough : frame.header.length ≤ calls := by omega
  have payloadEnough : frame.payload.length ≤ calls := by omega
  obtain ⟨block, state₁, headerRead, headerFront, shown₁⟩ :=
    handsOver.exists_readCommPort shown headerEnough pBuff.pBuffer headerFits
  obtain ⟨block', state₂, payloadRead, payloadFront, shown₂⟩ :=
    handsOver.exists_readCommPort shown₁ payloadEnough block payloadFits
  have headerLoaded := Buffer.load_of_take headerFront headerFits
  have bytesFront :
      block'.cells.take (pBuff.cStart + frame.bytes.length) =
        pBuff.pBuffer.cells.take pBuff.cStart ++ frame.bytes := by
    rw [Frame.bytes, List.length_append, ← Nat.add_assoc, headerLength,
      payloadFront, ← headerLength, headerFront, List.append_assoc]
  have cEnd : pBuff.cStart + format.headerLength +
      format.payloadLength frame.header =
        pBuff.cStart + frame.bytes.length := by omega
  have remaining : pBuff.cStart + frame.bytes.length - pBuff.cStart -
      format.headerLength = frame.payload.length := by omega
  rw [headerLength] at headerRead headerLoaded
  refine ⟨{
    returned := true
    peType := some type
    pBuff := {
      pBuffer := block'
      cStart := pBuff.cStart
      cEnd := pBuff.cStart + frame.bytes.length } }, state₂, ?_, rfl, rfl,
    rfl, ?_, shown₂⟩
  · simp only [readBody, headerRead, headerLoaded, cEnd, payloadRead,
      BdBuffer.bufferTotal, remaining, bind, Except.bind, not_true, if_false,
      if_neg (Nat.not_lt_of_le fits)]
  · rw [BdBuffer.bufferTotal, Nat.add_sub_cancel_left]
    exact Buffer.load_of_take bytesFront fits

/-- Each kind of packets is told apart by its type byte. -/
theorem hciReadPacket_body
    (kind : PacketKind)
    (large : 260 ≤ cSize)
    {pBuff : BdBuffer cSize}
    (typeRead : driver.readCommPort calls state pBuff.pBuffer 3 1 =
      .ok (true, block, next))
    (typeLoaded : block.load 3 1 = some [kind.type.code]) :
    driver.hciReadPacket true calls state pBuff =
      driver.readBody calls kind.type kind.format next
        { pBuffer := block, cStart := 4, cEnd := cSize } := by
  have roomy : ¬ cSize - 3 < 257 := by omega
  cases kind <;>
    simp [hciReadPacket, BdBuffer.bufferTotal, roomy, typeRead, bind,
      Except.bind, typeLoaded, PacketKind.type, PacketKind.format,
      HciType.code]

/-- A call returns the packet that comes next and takes its bytes off the
stream. -/
theorem HandsOver.exists_hciReadPacket
    (handsOver : driver.HandsOver shows)
    (packet : HciPacket)
    (shown : shows state (packet.bytes ++ rest))
    (enough : cSize ≤ calls)
    (pBuff : BdBuffer cSize)
    (large : 260 ≤ cSize)
    (fits : 4 + packet.frame.bytes.length ≤ cSize) :
    ∃ result next,
      driver.hciReadPacket true calls state pBuff = .ok (result, next) ∧
        Returns packet result ∧
        shows next rest := by
  have typeShown :
      shows state ([packet.kind.type.code] ++ (packet.frame.bytes ++ rest)) :=
    shown
  have typeEnough : [packet.kind.type.code].length ≤ calls := by
    rw [List.length_singleton]
    omega
  have bodyEnough : packet.frame.bytes.length ≤ calls := by omega
  obtain ⟨block, state₁, typeRead, typeFront, shown₁⟩ :=
    handsOver.exists_readCommPort typeShown typeEnough pBuff.pBuffer
      (by rw [List.length_singleton]; omega : 3 + _ ≤ cSize)
  have typeLoaded := Buffer.load_of_take typeFront
    (by rw [List.length_singleton]; omega)
  obtain ⟨result, state₂, bodyRead, returned, peType, cStart, content,
    shown₂⟩ :=
    handsOver.exists_readBody packet.kind.type packet.frame shown₁ bodyEnough
      { pBuffer := block, cStart := 4, cEnd := cSize } fits
  refine ⟨result, state₂, ?_, ⟨returned, peType, cStart, ?_⟩, shown₂⟩
  · rw [hciReadPacket_body packet.kind large typeRead typeLoaded, bodyRead]
  · rw [cStart]
    exact content

/-- Successive calls, each with a buffer of its own. -/
def packetMachine
    (driver : PortDriver State)
    (cSize calls : Nat) :
    Machine State (BdBuffer cSize) (ReadPacketResult cSize) where
  step state pBuff := (driver.hciReadPacket true calls state pBuff).toOption

/-- Successive calls return the packets of the stream one after the other. -/
theorem HandsOver.exists_run_packets
    (handsOver : driver.HandsOver shows)
    (first second : List HciPacket)
    (buffers : List (BdBuffer cSize))
    (enough : cSize ≤ calls)
    (large : 260 ≤ cSize)
    (fits : ∀ packet ∈ first, 4 + packet.frame.bytes.length ≤ cSize)
    (one : buffers.length = first.length)
    (shown : shows state (packetBytes (first ++ second))) :
    ∃ results final,
      (driver.packetMachine cSize calls).run state buffers =
          some (results, final) ∧
        List.Forall₂ Returns first results ∧
        shows final (packetBytes second) := by
  induction first generalizing buffers state with
  | nil =>
      rw [List.eq_nil_of_length_eq_zero one]
      exact ⟨[], state, rfl, List.Forall₂.nil, shown⟩
  | cons packet others inductionHypothesis =>
      cases buffers with
      | nil => contradiction
      | cons pBuff buffers =>
          have next : shows state
              (packet.bytes ++ packetBytes (others ++ second)) := shown
          obtain ⟨result, middle, returned, returns, shownMiddle⟩ :=
            handsOver.exists_hciReadPacket packet next enough pBuff large
              (fits packet List.mem_cons_self)
          obtain ⟨results, final, ran, returnsOthers, shownFinal⟩ :=
            inductionHypothesis buffers
              (fun other member => fits other (List.mem_cons_of_mem _ member))
              (Nat.succ.inj one) shownMiddle
          refine ⟨result :: results, final, ?_,
            List.Forall₂.cons returns returnsOthers, shownFinal⟩
          refine Machine.run_cons_eq_some_iff.mpr
            ⟨result, middle, results, ?_, ran, rfl⟩
          simp only [packetMachine, returned, Except.toOption]

end PortDriver

/-! ## A port whose calls have given outcomes -/

/-- `ReadFile` with the outcome that comes next. -/
def readNext (port : Port) (requested : Nat) : Option (Answer × Port) :=
  match port.outcomes with
  | [] => none
  | outcome :: outcomes =>
      let dwRead := min outcome.size (min requested port.stream.length)
      some ({
        succeeds := outcome.succeeds
        bytes := port.stream.take dwRead }, {
        stream := port.stream.drop dwRead
        outcomes := outcomes })

/-- No more bytes are handed over than asked for. -/
theorem length_le_of_readNext
    {port : Port}
    (handed : readNext port requested = some (answer, next)) :
    answer.bytes.length ≤ requested := by
  unfold readNext at handed
  split at handed
  · cases handed
  · cases handed
    rw [List.length_take]
    omega

/-- The driver behind a port whose calls have given outcomes. -/
def outcomesDriver : PortDriver Port where
  readFile := readNext
  length_le := length_le_of_readNext

/-- A call that has an outcome does what `readFile` does with it. -/
theorem readInto_outcomesDriver
    (outcome : Outcome)
    (outcomes : List Outcome)
    (stream : List UInt8)
    (block : Buffer UInt8 size)
    (start requested : Nat) :
    outcomesDriver.readInto
        { stream := stream, outcomes := outcome :: outcomes } block start
        requested =
      (readFile outcome stream block start requested).map fun transfer =>
        ({ succeeds := outcome.succeeds
           bytes := stream.take transfer.dwRead },
          transfer.block,
          { stream := transfer.stream, outcomes := outcomes }) := by
  unfold PortDriver.readInto readFile
  simp only [outcomesDriver, readNext]
  by_cases fits : start + requested ≤ size
  · rw [if_pos fits, if_pos fits]
    cases block.store start
        (stream.take (min outcome.size (min requested stream.length))) with
    | none => rfl
    | some block' => rfl
  · rw [if_neg fits, if_neg fits]
    rfl

/-- A call hands over as many bytes as it reports. -/
theorem length_take_of_readFile
    {block : Buffer UInt8 size}
    {transfer : Transfer size}
    (transferred : readFile outcome stream block start requested =
      .ok transfer) :
    (stream.take transfer.dwRead).length = transfer.dwRead := by
  rcases readFile_cases outcome stream block start requested with
    ⟨-, failed⟩ | ⟨count, block', handed, -, length, -⟩
  · rw [failed] at transferred
    contradiction
  · rw [handed] at transferred
    cases transferred
    exact length

/-- The loop of `ReadCommPort` is the same where the outcomes are given. -/
theorem readRemaining_outcomesDriver
    {outcomes : List Outcome}
    (enough : outcomes.length ≤ calls)
    (dwLen start dwFilledSoFar : Nat)
    (stream : List UInt8)
    (block : Buffer UInt8 size) :
    outcomesDriver.readRemaining dwLen start dwFilledSoFar
        { stream := stream, outcomes := outcomes } block calls =
      readRemaining dwLen start dwFilledSoFar stream block outcomes := by
  induction outcomes generalizing calls dwFilledSoFar stream block with
  | nil =>
      cases calls with
      | zero => rfl
      | succ calls => rfl
  | cons outcome outcomes inductionHypothesis =>
      cases calls with
      | zero => exact absurd enough (Nat.not_succ_le_zero _)
      | succ calls =>
          rw [PortDriver.readRemaining, readRemaining,
            readInto_outcomesDriver]
          split
          · cases transferred : readFile outcome stream block
                (start + dwFilledSoFar) (dwLen - dwFilledSoFar) with
            | error stop => rfl
            | ok transfer =>
                have counted := length_take_of_readFile transferred
                simp only [Except.map, bind, Except.bind, counted]
                split
                · rfl
                · exact inductionHypothesis
                    (Nat.le_of_succ_le_succ enough) _ _ _
          · rfl

/-- A read leaves no more outcomes than there were. -/
theorem length_le_of_readRemaining
    {outcomes : List Outcome}
    {block : Buffer UInt8 size}
    (read : readRemaining dwLen start dwFilledSoFar stream block outcomes =
      .ok (done, block', port)) :
    port.outcomes.length ≤ outcomes.length := by
  induction outcomes generalizing dwFilledSoFar stream block with
  | nil =>
      rw [readRemaining] at read
      split at read
      · contradiction
      · cases read
        exact Nat.le_refl _
  | cons outcome outcomes inductionHypothesis =>
      rw [readRemaining] at read
      split at read
      · cases transferred : readFile outcome stream block
            (start + dwFilledSoFar) (dwLen - dwFilledSoFar) with
        | error stop =>
            rw [transferred] at read
            contradiction
        | ok transfer =>
            simp only [transferred, bind, Except.bind] at read
            split at read
            · cases read
              exact Nat.le_succ _
            · exact Nat.le_succ_of_le (inductionHypothesis read)
      · cases read
        exact Nat.le_refl _

/-- `ReadCommPort` is the same where the outcomes are given. -/
theorem readCommPort_outcomesDriver
    {port : Port}
    (enough : port.outcomes.length ≤ calls)
    (block : Buffer UInt8 size)
    (start dwLen : Nat) :
    outcomesDriver.readCommPort calls port block start dwLen =
      readCommPort port block start dwLen :=
  readRemaining_outcomesDriver enough dwLen start 0 port.stream block

/-- Reading the body of a packet is the same where the outcomes are given. -/
theorem readBody_outcomesDriver
    {port : Port}
    (enough : port.outcomes.length ≤ calls)
    (type : HciType)
    (format : HeaderFormat)
    (pBuff : BdBuffer cSize) :
    outcomesDriver.readBody calls type format port pBuff =
      readBody type format port pBuff := by
  unfold PortDriver.readBody readBody
  rw [readCommPort_outcomesDriver enough]
  cases headerRead : readCommPort port pBuff.pBuffer pBuff.cStart
      format.headerLength with
  | error stop => rfl
  | ok read =>
      obtain ⟨filled, block, port'⟩ := read
      have fewer : port'.outcomes.length ≤ calls :=
        Nat.le_trans (length_le_of_readRemaining headerRead) enough
      have later : outcomesDriver.readCommPort calls port' block =
          readCommPort port' block := by
        funext start dwLen
        exact readCommPort_outcomesDriver fewer block start dwLen
      dsimp only [bind, Except.bind]
      exact later ▸ rfl

/-- Dumping what follows an unknown type byte is the same where the outcomes
are given. -/
theorem drainRemaining_outcomesDriver
    {outcomes : List Outcome}
    (enough : outcomes.length ≤ calls)
    (buffOffset : Nat)
    (stream : List UInt8)
    (buff : Buffer UInt8 buffSize) :
    outcomesDriver.drainRemaining buffOffset
        { stream := stream, outcomes := outcomes } buff calls =
      drainRemaining buffOffset stream buff outcomes := by
  induction outcomes generalizing calls buffOffset stream buff with
  | nil =>
      cases calls with
      | zero => rfl
      | succ calls => rfl
  | cons outcome outcomes inductionHypothesis =>
      cases calls with
      | zero => exact absurd enough (Nat.not_succ_le_zero _)
      | succ calls =>
          rw [PortDriver.drainRemaining, drainRemaining,
            readInto_outcomesDriver]
          split
          · cases transferred : readFile outcome stream buff buffOffset
                (buffSize - buffOffset) with
            | error stop => rfl
            | ok transfer =>
                have counted := length_take_of_readFile transferred
                simp only [Except.map, bind, Except.bind, counted]
                split
                · rfl
                · split
                  · rfl
                  · exact inductionHypothesis
                      (Nat.le_of_succ_le_succ enough) _ _ _
          · rfl

/-- Dumping an unknown type byte is the same where the outcomes are given. -/
theorem drain_outcomesDriver
    {port : Port}
    (enough : port.outcomes.length ≤ calls)
    (type : UInt8) :
    outcomesDriver.drain calls port type = drain port type := by
  unfold PortDriver.drain drain
  cases (Buffer.fill buffSize 0).store 0 [type] with
  | none => rfl
  | some buff => exact drainRemaining_outcomesDriver enough 1 port.stream buff

/-- `HCI_ReadPacket` is the same where the outcomes are given. -/
theorem hciReadPacket_outcomesDriver
    {port : Port}
    (enough : port.outcomes.length ≤ calls)
    (active : Bool)
    (pBuff : BdBuffer cSize) :
    outcomesDriver.hciReadPacket active calls port pBuff =
      hciReadPacket active port pBuff := by
  unfold PortDriver.hciReadPacket hciReadPacket
  simp only [readCommPort_outcomesDriver enough]
  cases typeRead : readCommPort port pBuff.pBuffer 3 1 with
  | error stop => rfl
  | ok read =>
      obtain ⟨filled, block, port'⟩ := read
      have fewer : port'.outcomes.length ≤ calls :=
        Nat.le_trans (length_le_of_readRemaining typeRead) enough
      have dumped : outcomesDriver.drain calls port' = drain port' := by
        funext type
        exact drain_outcomesDriver fewer type
      dsimp only [bind, Except.bind]
      rw [readBody_outcomesDriver fewer, readBody_outcomesDriver fewer,
        readBody_outcomesDriver fewer]
      exact dumped ▸ rfl

end Transport
end BthEmul
