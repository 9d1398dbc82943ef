import BthEmul.Device.CommPort
import BthEmul.Hci.PacketFormat
import BthEmul.Foundation.Machine

/-!
# The transport driver

Packets arrive at the port as a type byte followed by a header and the payload
it announces. Reading a packet takes the type byte and the header first and
then exactly the announced payload, so successive calls stay in step with the
packets of the stream.
-/

namespace BthEmul

open Foundation Hci

namespace Transport

/-- `HCI_TYPE`. -/
inductive HciType
  | commandPacket
  | dataPacketAcl
  | dataPacketSco
  | eventPacket
  deriving DecidableEq

/-- The type byte in front of a packet. -/
def HciType.code : HciType → UInt8
  | .commandPacket => 1
  | .dataPacketAcl => 2
  | .dataPacketSco => 3
  | .eventPacket => 4

/-- `BD_BUFFER`. -/
structure BdBuffer (cSize : Nat) where
  /-- The bytes of the buffer. -/
  pBuffer : Buffer UInt8 cSize
  /-- The first byte of the packet. -/
  cStart : Nat
  /-- The end of the packet. -/
  cEnd : Nat

/-- `BufferTotal`. -/
def BdBuffer.bufferTotal (pBuff : BdBuffer cSize) : Nat :=
  pBuff.cEnd - pBuff.cStart

/-- What reading a packet returns and leaves behind. -/
structure ReadPacketResult (cSize : Nat) where
  /-- Whether the call returns `TRUE`. -/
  returned : Bool
  /-- The type stored through `peType`, if one is. -/
  peType : Option HciType
  /-- The buffer. -/
  pBuff : BdBuffer cSize

/-- The result of a call that returns `FALSE`. -/
def ReadPacketResult.failed
    (pBuff : BdBuffer cSize) : ReadPacketResult cSize where
  returned := false
  peType := none
  pBuff := pBuff

/-- Read the header of a packet, set `cEnd` from the length it announces, and
read the payload. -/
def readBody
    (type : HciType)
    (format : HeaderFormat)
    (port : Port)
    (pBuff : BdBuffer cSize) :
    Except Stop (ReadPacketResult cSize × Port) := do
  let (filled, pBuffer, port) ←
    readCommPort port pBuff.pBuffer pBuff.cStart format.headerLength
  let pBuff := { pBuff with pBuffer }
  if ¬ filled then .ok (.failed pBuff, port)
  else
    match pBuff.pBuffer.load pBuff.cStart format.headerLength with
    | none => .error .overrun
    | some header =>
        let pBuff := {
          pBuff with
          cEnd := pBuff.cStart + format.headerLength +
            format.payloadLength header }
        if pBuff.cEnd > cSize then .ok (.failed pBuff, port)
        else
          let (filled, pBuffer, port) ←
            readCommPort port pBuff.pBuffer
              (pBuff.cStart + format.headerLength)
              (pBuff.bufferTotal - format.headerLength)
          let pBuff := { pBuff with pBuffer }
          if ¬ filled then .ok (.failed pBuff, port)
          else .ok ({ returned := true, peType := some type, pBuff }, port)

/-- `buff_size` of the buffer an unknown packet is dumped to. -/
def buffSize : Nat := 128

/-- The loop that dumps what follows an unknown type byte. -/
def drainRemaining
    (buffOffset : Nat)
    (stream : List UInt8)
    (buff : Buffer UInt8 buffSize) : List Outcome → Except Stop Port
  | [] =>
      if buffOffset < buffSize then .error .waiting
      else .ok { stream, outcomes := [] }
  | outcome :: outcomes =>
      if buffOffset < buffSize then do
        let transfer ← readFile outcome stream buff buffOffset
          (buffSize - buffOffset)
        if ¬ outcome.succeeds ∧ transfer.dwRead = 0 then
          .ok { stream := transfer.stream, outcomes }
        else if transfer.dwRead = 0 then
          .ok { stream := transfer.stream, outcomes }
        else
          drainRemaining (buffOffset + transfer.dwRead) transfer.stream
            transfer.block outcomes
      else .ok { stream, outcomes := outcome :: outcomes }

/-- Dump an unknown type byte and what follows it. -/
def drain (port : Port) (type : UInt8) : Except Stop Port :=
  match (Buffer.fill buffSize 0).store 0 [type] with
  | none => .error .overrun
  | some buff => drainRemaining 1 port.stream buff port.outcomes

/-- `HCI_ReadPacket`; the first argument says whether `g_hFile` is valid. -/
def hciReadPacket
    (active : Bool)
    (port : Port)
    (pBuff : BdBuffer cSize) :
    Except Stop (ReadPacketResult cSize × Port) :=
  if ¬ active then .ok (.failed pBuff, port)
  else
    let pBuff := { pBuff with cStart := 3, cEnd := cSize }
    if pBuff.bufferTotal < 257 then .ok (.failed pBuff, port)
    else do
      let (filled, pBuffer, port) ←
        readCommPort port pBuff.pBuffer pBuff.cStart 1
      if ¬ filled then .ok (.failed { pBuff with pBuffer }, port)
      else
        let pBuff := { pBuff with pBuffer, cStart := pBuff.cStart + 1 }
        match pBuff.pBuffer.load (pBuff.cStart - 1) 1 with
        | some [type] =>
            if type = HciType.dataPacketAcl.code then
              readBody .dataPacketAcl aclFormat port pBuff
            else if type = HciType.dataPacketSco.code then
              readBody .dataPacketSco scoFormat port pBuff
            else if type = HciType.eventPacket.code then
              readBody .eventPacket eventFormat port pBuff
            else
              let port ← drain port type
              .ok (.failed pBuff, port)
        | _ => .error .overrun

/-! ## Packets in the stream -/

/-- The packets the transport driver reads. -/
inductive PacketKind
  | acl
  | sco
  | event
  deriving DecidableEq

/-- The type of a kind of packets. -/
def PacketKind.type : PacketKind → HciType
  | .acl => .dataPacketAcl
  | .sco => .dataPacketSco
  | .event => .eventPacket

/-- The header format of a kind of packets. -/
def PacketKind.format : PacketKind → HeaderFormat
  | .acl => aclFormat
  | .sco => scoFormat
  | .event => eventFormat

/-- A well-formed packet: its kind and its frame. -/
structure HciPacket where
  /-- The kind of the packet. -/
  kind : PacketKind
  /-- The header and the payload it announces. -/
  frame : Frame kind.format

/-- The bytes of a packet in the stream: its type byte, then its frame. -/
def HciPacket.bytes (packet : HciPacket) : List UInt8 :=
  packet.kind.type.code :: packet.frame.bytes

/-- The bytes of some packets, one after the other. -/
def packetBytes (packets : List HciPacket) : List UInt8 :=
  packets.flatMap HciPacket.bytes

/-- The call returns `TRUE` with the type of the packet, and its header and
payload stand in the buffer from `cStart = 4` up to `cEnd`. -/
structure Returns
    (packet : HciPacket)
    (result : ReadPacketResult cSize) : Prop where
  /-- The call returns `TRUE`. -/
  returned : result.returned = true
  /-- The type of the packet is stored. -/
  peType : result.peType = some packet.kind.type
  /-- The packet starts behind four bytes. -/
  cStart : result.pBuff.cStart = 4
  /-- The buffer holds the header and the payload. -/
  content : result.pBuff.pBuffer.load result.pBuff.cStart
    result.pBuff.bufferTotal = some packet.frame.bytes

/-- Reading the body of a packet that comes next returns it and consumes its
frame. -/
theorem exists_readBody
    {format : HeaderFormat}
    {port : Port}
    (type : HciType)
    (frame : Frame format)
    (pBuff : BdBuffer cSize)
    (stream : port.stream = frame.bytes ++ rest)
    (supplies : Supplies port.outcomes (frame.bytes.length + later))
    (fits : pBuff.cStart + frame.bytes.length ≤ cSize) :
    ∃ result port',
      readBody type format port pBuff = .ok (result, port') ∧
        result.returned = true ∧
        result.peType = some type ∧
        result.pBuff.cStart = pBuff.cStart ∧
        result.pBuff.pBuffer.load pBuff.cStart result.pBuff.bufferTotal =
          some frame.bytes ∧
        port'.stream = rest ∧
        Supplies port'.outcomes later := by
  have total := frame.length_bytes
  have headerLength := frame.length_header
  have payloadLength := frame.length_payload
  rw [Frame.bytes, List.append_assoc] at stream
  rw [Frame.bytes, List.length_append, Nat.add_assoc] at supplies
  have headerFits : pBuff.cStart + frame.header.length ≤ cSize := by omega
  have payloadFits : pBuff.cStart + format.headerLength +
      frame.payload.length ≤ cSize := by omega
  obtain ⟨block, port₁, headerRead, headerFront, stream₁, supplies₁⟩ :=
    exists_readCommPort pBuff.pBuffer stream supplies headerFits
  obtain ⟨block', port₂, payloadRead, payloadFront, stream₂, supplies₂⟩ :=
    exists_readCommPort block stream₁ supplies₁ payloadFits
  have headerLoaded := Buffer.load_of_take headerFront headerFits
  have bytesFront :
      block'.cells.take (pBuff.cStart + frame.bytes.length) =
        pBuff.pBuffer.cells.take pBuff.cStart ++ frame.bytes := by
    rw [Frame.bytes, List.length_append, ← Nat.add_assoc, headerLength,
      payloadFront, ← headerLength, headerFront, List.append_assoc]
  have cEnd : pBuff.cStart + format.headerLength +
      format.payloadLength frame.header =
        pBuff.cStart + frame.bytes.length := by omega
  have remaining : pBuff.cStart + frame.bytes.length - pBuff.cStart -
      format.headerLength = frame.payload.length := by omega
  rw [headerLength] at headerRead headerLoaded
  refine ⟨{
    returned := true
    peType := some type
    pBuff := {
      pBuffer := block'
      cStart := pBuff.cStart
      cEnd := pBuff.cStart + frame.bytes.length } }, port₂, ?_, rfl, rfl,
    rfl, ?_, stream₂, supplies₂⟩
  · simp only [readBody, headerRead, headerLoaded, cEnd, payloadRead,
      BdBuffer.bufferTotal, remaining, bind, Except.bind, not_true, if_false,
      if_neg (Nat.not_lt_of_le fits)]
  · rw [BdBuffer.bufferTotal, Nat.add_sub_cancel_left]
    exact Buffer.load_of_take bytesFront fits

/-- Each kind of packets is told apart by its type byte. -/
theorem hciReadPacket_body
    {port port' : Port}
    {pBuff : BdBuffer cSize}
    (kind : PacketKind)
    (large : 260 ≤ cSize)
    (typeRead : readCommPort port pBuff.pBuffer 3 1 =
      .ok (true, block, port'))
    (typeLoaded : block.load 3 1 = some [kind.type.code]) :
    hciReadPacket true port pBuff =
      readBody kind.type kind.format port'
        { pBuffer := block, cStart := 4, cEnd := cSize } := by
  have roomy : ¬ cSize - 3 < 257 := by omega
  cases kind <;>
    simp [hciReadPacket, BdBuffer.bufferTotal, roomy, typeRead, bind,
      Except.bind, typeLoaded, PacketKind.type, PacketKind.format,
      HciType.code]

/-- A call returns the packet that comes next and consumes its bytes. -/
theorem exists_hciReadPacket
    {port : Port}
    (packet : HciPacket)
    (pBuff : BdBuffer cSize)
    (large : 260 ≤ cSize)
    (fits : 4 + packet.frame.bytes.length ≤ cSize)
    (stream : port.stream = packet.bytes ++ rest)
    (supplies : Supplies port.outcomes (packet.bytes.length + later)) :
    ∃ result port',
      hciReadPacket true port pBuff = .ok (result, port') ∧
        Returns packet result ∧
        port'.stream = rest ∧
        Supplies port'.outcomes later := by
  have typeStream : port.stream =
      [packet.kind.type.code] ++ (packet.frame.bytes ++ rest) := stream
  have typeSupplies : Supplies port.outcomes
      ([packet.kind.type.code].length +
        (packet.frame.bytes.length + later)) := by
    rw [← Nat.add_assoc, ← List.length_append]
    exact supplies
  obtain ⟨block, port₁, typeRead, typeFront, stream₁, supplies₁⟩ :=
    exists_readCommPort pBuff.pBuffer typeStream typeSupplies
      (by rw [List.length_singleton]; omega : 3 + _ ≤ cSize)
  have typeLoaded := Buffer.load_of_take typeFront
    (by rw [List.length_singleton]; omega)
  obtain ⟨result, port₂, bodyRead, returned, peType, cStart, content, stream₂,
    supplies₂⟩ :=
    exists_readBody packet.kind.type packet.frame
      { pBuffer := block, cStart := 4, cEnd := cSize } stream₁ supplies₁ fits
  refine ⟨result, port₂, ?_, ⟨returned, peType, cStart, ?_⟩, stream₂,
    supplies₂⟩
  · rw [hciReadPacket_body packet.kind large typeRead typeLoaded, bodyRead]
  · rw [cStart]
    exact content

/-! ## Successive calls -/

/-- Successive calls, each with a buffer of its own. -/
def packetMachine (cSize : Nat) :
    Machine Port (BdBuffer cSize) (ReadPacketResult cSize) where
  step port pBuff := (hciReadPacket true port pBuff).toOption

/-- However the port splits a stream of well-formed packets into successful
partial reads, successive calls return the successive packets, and each call
consumes the bytes of its own packet: after any number of calls the packets
not returned yet are what is left of the stream. -/
theorem exists_run_packetMachine
    (first second : List HciPacket)
    (buffers : List (BdBuffer cSize))
    (port : Port)
    (large : 260 ≤ cSize)
    (fits : ∀ packet ∈ first ++ second,
      4 + packet.frame.bytes.length ≤ cSize)
    (calls : buffers.length = first.length)
    (stream : port.stream = packetBytes (first ++ second))
    (supplies : Supplies port.outcomes port.stream.length) :
    ∃ results port',
      (packetMachine cSize).run port buffers = some (results, port') ∧
        List.Forall₂ Returns first results ∧
        port'.stream = packetBytes second := by
  induction first generalizing buffers port with
  | nil =>
      rw [List.eq_nil_of_length_eq_zero calls]
      exact ⟨[], port, rfl, List.Forall₂.nil, stream⟩
  | cons packet others inductionHypothesis =>
      cases buffers with
      | nil => contradiction
      | cons pBuff buffers =>
          have split : port.stream =
              packet.bytes ++ packetBytes (others ++ second) := stream
          have enough := supplies
          rw [split, List.length_append] at enough
          obtain ⟨result, port₁, returned, returns, stream₁, supplies₁⟩ :=
            exists_hciReadPacket packet pBuff large
              (fits packet List.mem_cons_self) split enough
          rw [← stream₁] at supplies₁
          obtain ⟨results, port₂, ran, returnsOthers, stream₂⟩ :=
            inductionHypothesis buffers port₁
              (fun other member => fits other (List.mem_cons_of_mem _ member))
              (Nat.succ.inj calls) stream₁ supplies₁
          refine ⟨result :: results, port₂, ?_,
            List.Forall₂.cons returns returnsOthers, stream₂⟩
          rw [Machine.run_cons_eq_some_iff]
          refine ⟨result, port₁, results, ?_, ran, rfl⟩
          simp only [packetMachine, returned, Except.toOption]

/-- An event with one parameter and an ACL packet without payload. -/
def twoPackets : List HciPacket :=
  [{ kind := .event
     frame := {
       header := [0x0e, 1]
       payload := [7]
       length_header := rfl
       length_payload := rfl } },
    { kind := .acl
      frame := {
        header := [1, 0, 0, 0]
        payload := []
        length_header := rfl
        length_payload := rfl } }]

/-- The port hands over the packets byte by byte. -/
def bytewisePort : Port where
  stream := packetBytes twoPackets
  outcomes := List.replicate 9 { succeeds := true, size := 1 }

theorem exists_run_packetMachine_bytewise :
    ∃ results port',
      (packetMachine 260).run bytewisePort
          (List.replicate 2
            { pBuffer := Buffer.fill 260 0, cStart := 0, cEnd := 0 }) =
          some (results, port') ∧
        List.Forall₂ Returns twoPackets results ∧
        port'.stream = packetBytes [] :=
  exists_run_packetMachine twoPackets [] _ bytewisePort (by decide)
    (by decide) (by decide) (by decide)
    ⟨by decide, by decide⟩

end Transport
end BthEmul
