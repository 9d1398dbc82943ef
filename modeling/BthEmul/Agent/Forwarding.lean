import BthEmul.Device.SerialPort

/-!
# The agent

The agent on the device forwards messages of the driver to the desktop and
commands of the desktop to the driver. All commands to the desktop are built in
one command object, which is kept between them.

What the remote tools library answers is taken as an argument: the first
parameter of an incoming command, if there is one, and whether an outgoing
command is accepted.
-/

namespace BthEmul

open Foundation

namespace Agent

/-- The data types of command parameters. -/
inductive DataType
  | endMark
  | dword
  | bytes
  | other (code : Nat)
  deriving DecidableEq

/-- The first parameter of a command from the desktop. -/
@[ext] structure InParameter where
  /-- The type reported by `GetNextParameterType`. -/
  dataType : DataType
  /-- The bytes of the parameter; their number is the size reported. -/
  content : List UInt8
  /-- Whether the parameter can be fetched. -/
  fetches : Bool
  /-- The size is a `DWORD`. -/
  length_lt : content.length < 2 ^ 32

instance : DecidableEq InParameter := fun _ _ =>
  decidable_of_iff _ InParameter.ext_iff.symm

/-- The parameter as an array. -/
def InParameter.toArray (parameter : InParameter) : CArray where
  bytes := parameter.content
  length_lt := parameter.length_lt

/-- A parameter added with `AddParameterDWORD`. -/
def InParameter.ofDword (value : UInt32) : InParameter where
  dataType := .dword
  content := LittleEndian.encode 4 value.toNat
  fetches := true
  length_lt := by
    rw [LittleEndian.length_encode]
    decide

/-- A parameter added with `AddParameterBytes`. -/
def InParameter.ofBytes (array : CArray) : InParameter where
  dataType := .bytes
  content := array.bytes
  fetches := true
  length_lt := array.length_lt

/-- The value the command callback fetches: the parameter is a nonempty
`DWORD`. -/
def InParameter.toDword? (parameter : InParameter) : Option UInt32 :=
  if parameter.dataType = .dword ∧ 0 < parameter.content.length ∧
      parameter.fetches then
    some (UInt32.ofNat (LittleEndian.decode parameter.content))
  else none

/-- A parameter of a command to the desktop. -/
inductive Parameter
  | dword (value : UInt32)
  | bytes (content : List UInt8)
  deriving DecidableEq

/-- The parameters a command object holds. -/
abbrev CommandPacket := List Parameter

/-- A command pushed to the desktop. -/
structure Command where
  /-- The command id. -/
  id : UInt32
  /-- The parameters of the command object at that time. -/
  parameters : CommandPacket
  deriving DecidableEq

/-- What sending a command returns and leaves behind. -/
structure SendOutcome where
  /-- Whether the command was accepted. -/
  returned : Bool
  /-- The command handed to `PushCommand`. -/
  pushed : Option Command
  /-- The object behind `g_pCmd` afterwards. -/
  command : Option CommandPacket
  deriving DecidableEq

/-! ## Sending commands -/

/-- `PushCommand` of the command object. -/
def pushCommand
    (dwCmd : UInt32)
    (command : CommandPacket)
    (accepted : Bool) : SendOutcome where
  returned := accepted
  pushed := some { id := dwCmd, parameters := command }
  command := some command

/-- `SendCommand` of a message id. -/
def sendCommandMessage
    (dwCmd dwMsgId : UInt32)
    (accepted : Bool)
    (pCmd : Option CommandPacket) : SendOutcome :=
  match pCmd with
  | none => { returned := false, pushed := none, command := none }
  | some _ => pushCommand dwCmd [.dword dwMsgId] accepted

/-- `SendCommand` of a data buffer; the command object is only reset when
there are data. -/
def sendCommandData
    (dwCmd : UInt32)
    (pData : List UInt8)
    (accepted : Bool)
    (pCmd : Option CommandPacket) : SendOutcome :=
  match pCmd with
  | none => { returned := false, pushed := none, command := none }
  | some command =>
      if pData.length ≠ 0 then
        pushCommand dwCmd [.bytes pData] accepted
      else
        pushCommand dwCmd command accepted

/-! ## Forwarding -/

/-- `ReadDesktopWriteDevicePacket`: the message written to the device queue.
The buffer starts out cleared, and what is in it when the command was looked
at is written whether or not the command was accepted. -/
def readDesktopWriteDevicePacket
    (dwCmd : UInt32)
    (pCmdDataIn : Option InParameter)
    (writeQueue : Option MessageQueue) : Option (Option Message) :=
  match writeQueue, pCmdDataIn with
  | some queue, some parameter => do
      let cleared : Buffer UInt8 msgBufferSize := Buffer.fill msgBufferSize 0
      let dwSize := parameter.content.length
      let (buffer, size) ←
        if dwCmd = PacketType.message.code then
          if parameter.dataType = .dword ∧ 0 < dwSize ∧
              parameter.fetches then do
            let dwMsgId := UInt32.ofNat (LittleEndian.decode parameter.content)
            let (_, typed) ← Packet.fresh.writeInt dwCmd.toInt32
            let (_, packet) ← typed.writeInt dwMsgId.toInt32
            let (size, serialized) ← packet.serialize cleared packet.length
            some (serialized, size)
          else some (cleared, dwSize)
        else if dwCmd = PacketType.hciData.code then
          if parameter.dataType = .bytes ∧ 0 < dwSize ∧
              dwSize < msgBufferSize ∧ parameter.fetches then do
            let fetched ← cleared.store 0 parameter.content
            let packet ← typedPacket dwCmd parameter.toArray
            let (size, serialized) ← packet.serialize fetched packet.length
            some (serialized, size)
          else some (cleared, dwSize)
        else some (cleared, dwSize)
      queue.write buffer size
  | _, _ => some none

/-- `ReadDeviceWriteDesktop`: the command pushed for a message received, and
the command object afterwards. -/
def readDeviceWriteDesktop
    (received : Option Message)
    (accepted : Bool)
    (pCmd : Option CommandPacket) :
    Option (Option Command × Option CommandPacket) :=
  match received with
  | none => some (none, pCmd)
  | some message => do
      let (_, packet) ← message.deserialize
      let (type, rest) ← packet.readInt
      let dwCmd := type.toUInt32
      if dwCmd = PacketType.message.code then do
        let (id, _) ← rest.readInt
        let sent := sendCommandMessage dwCmd id.toUInt32 accepted pCmd
        some (sent.pushed, sent.command)
      else if dwCmd = PacketType.hciData.code then do
        let (bytes, _) ← rest.readUCharArray (some msgBufferSize)
        let sent := sendCommandData dwCmd bytes accepted pCmd
        some (sent.pushed, sent.command)
      else
        some (none, pCmd)

/-- The objects `g_pCmd` can point to while the agent runs: it is created
empty, the command callback sends message ids with it, and the working thread
forwards messages with it. -/
inductive ReachableCommand : Option CommandPacket → Prop
  | created : ReachableCommand (some [])
  | answered (dwMsgId : UInt32) (accepted : Bool) :
      ReachableCommand pCmd →
      ReachableCommand
        (sendCommandMessage PacketType.message.code dwMsgId accepted
          pCmd).command
  | forwarded (message : Message) (accepted : Bool) :
      ReachableCommand pCmd →
      readDeviceWriteDesktop (some message) accepted pCmd =
        some (pushed, pCmd') →
      ReachableCommand pCmd'

/-! ## Specification -/

/-- What a command object can hold as its only array: some bytes that fitted a
packet behind a type field. -/
def CommandPacket.Bounded (command : CommandPacket) : Prop :=
  ∀ content, command = [.bytes content] →
    0 < content.length ∧ content.length ≤ payloadLimit

/-- Sending data keeps the command object bounded. -/
theorem bounded_sendCommandData
    {command : CommandPacket}
    (bounded : command.Bounded)
    (fits : pData.length ≤ payloadLimit)
    (dwCmd : UInt32)
    (accepted : Bool) :
    ∃ result,
      (sendCommandData dwCmd pData accepted (some command)).command =
          some result ∧
        result.Bounded := by
  by_cases hasData : pData.length ≠ 0
  · refine ⟨[.bytes pData], by simp [sendCommandData, hasData, pushCommand],
      ?_⟩
    intro content same
    cases same
    exact ⟨Nat.pos_of_ne_zero hasData, fits⟩
  · exact ⟨command, by simp [sendCommandData, hasData, pushCommand], bounded⟩

/-- Forwarding any message keeps the command object bounded. -/
theorem bounded_readDeviceWriteDesktop
    {command : CommandPacket}
    (bounded : command.Bounded)
    (forwarded : readDeviceWriteDesktop (some message) accepted
      (some command) = some (pushed, pCmd)) :
    ∃ result, pCmd = some result ∧ result.Bounded := by
  obtain ⟨packet, deserialized, unread⟩ := message.exists_deserialize
  simp only [readDeviceWriteDesktop, deserialized, Option.bind_eq_bind,
    Option.bind_some, Option.bind_eq_some_iff, Prod.exists] at forwarded
  obtain ⟨type, rest, typeRead, forwarded⟩ := forwarded
  split at forwarded
  · simp only [Option.bind_eq_some_iff, Prod.exists, Option.some.injEq,
      Prod.mk.injEq] at forwarded
    obtain ⟨id, behind, -, -, rfl⟩ := forwarded
    refine ⟨[.dword id.toUInt32], rfl, ?_⟩
    intro content same
    simp at same
  · split at forwarded
    · rename_i isData
      simp only [Option.bind_eq_some_iff, Prod.exists, Option.some.injEq,
        Prod.mk.injEq] at forwarded
      obtain ⟨bytes, behind, arrayRead, -, rfl⟩ := forwarded
      apply bounded_sendCommandData bounded
      have bound : packet.unread.length ≤ 4096 := by
        rw [unread]
        exact message.length_le
      rcases Packet.unread_of_readValue typeRead with ⟨failed, -⟩ | consumed
      · -- a message without a type field is not a data message
        rw [failed] at isData
        exact absurd isData (by decide)
      · change packet.unread.length = 4 + _ at consumed
        rcases Packet.length_of_readArray arrayRead with rfl | counted
        · exact Nat.zero_le _
        · rw [sizeOfSizeT] at counted
          rw [payloadLimit]
          omega
    · cases forwarded
      exact ⟨command, rfl, bounded⟩

/-- The command object always exists and is bounded. -/
theorem ReachableCommand.exists_bounded
    {pCmd : Option CommandPacket}
    (reachable : ReachableCommand pCmd) :
    ∃ command, pCmd = some command ∧ command.Bounded := by
  induction reachable with
  | created => exact ⟨[], rfl, fun content same => by simp at same⟩
  | answered dwMsgId accepted _ inductionHypothesis =>
      obtain ⟨command, rfl, -⟩ := inductionHypothesis
      exact ⟨[.dword dwMsgId], rfl, fun content same => by simp at same⟩
  | forwarded message accepted _ forwarded inductionHypothesis =>
      obtain ⟨command, rfl, bounded⟩ := inductionHypothesis
      exact bounded_readDeviceWriteDesktop bounded forwarded

/-- A data message makes the agent send its array as a data command. -/
theorem readDeviceWriteDesktop_of_array
    {message : Message}
    {array : CArray}
    (content : message.bytes =
      typeField PacketType.hciData.code ++ array.wire)
    (accepted : Bool)
    (pCmd : Option CommandPacket) :
    readDeviceWriteDesktop (some message) accepted pCmd =
      let sent := sendCommandData PacketType.hciData.code array.bytes
        accepted pCmd
      some (sent.pushed, sent.command) := by
  obtain ⟨packet, deserialized, unread⟩ := message.exists_deserialize
  rw [content] at unread
  obtain ⟨rest, typeRead, behind⟩ := SerialPort.exists_readInt_type unread
  have fits : array.length ≤ msgBufferSize := by
    have bound := message.length_le
    rw [content, CArray.wire, List.length_append, List.length_append] at bound
    rw [CArray.length]
    omega
  rw [← List.append_nil array.wire] at behind
  obtain ⟨final, arrayRead, -⟩ :=
    Packet.exists_readArray behind fits (by decide)
  simp only [readDeviceWriteDesktop, deserialized, Option.bind_eq_bind,
    Option.bind_some, typeRead, UInt32.toUInt32_toInt32,
    Packet.readUCharArray, arrayRead]
  rfl

/-- A message that ends behind the type field makes the agent send a data
command without data. -/
theorem readDeviceWriteDesktop_of_typeField
    {message : Message}
    (content : message.bytes = typeField PacketType.hciData.code)
    (accepted : Bool)
    (pCmd : Option CommandPacket) :
    readDeviceWriteDesktop (some message) accepted pCmd =
      let sent := sendCommandData PacketType.hciData.code [] accepted pCmd
      some (sent.pushed, sent.command) := by
  obtain ⟨packet, deserialized, unread⟩ := message.exists_deserialize
  rw [content, ← List.append_nil (typeField _)] at unread
  obtain ⟨rest, typeRead, behind⟩ := SerialPort.exists_readInt_type unread
  have arrayRead : rest.readArray (some msgBufferSize) = some ([], rest) :=
    Packet.readArray_eq_nil (by rw [behind]; decide)
  simp only [readDeviceWriteDesktop, deserialized, Option.bind_eq_bind,
    Option.bind_some, typeRead, UInt32.toUInt32_toInt32,
    Packet.readUCharArray, arrayRead]
  rfl

end Agent
end BthEmul
