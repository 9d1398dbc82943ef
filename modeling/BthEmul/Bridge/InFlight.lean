import BthEmul.Bridge.Protocol

/-!
# What is in flight

A write is passed on as a message, a command and a task of the plugin, and its
result comes back as a command and a message on the error queue. Each of them
carries the bytes of the write or the result of sending them, and is made from
the one before.
-/

namespace BthEmul

open Foundation Agent SerialPort

namespace Bridge

/-- The bridge carries the bytes. -/
def WriteCall.Fits (call : WriteCall) : Prop :=
  0 < call.array.length ∧ call.array.length ≤ payloadLimit

/-- A message of a write carries its bytes, any other one a message id. -/
def MessageCarries (message : Tagged WriteCall Message) : Prop :=
  match message.origin with
  | some call =>
      call.Fits ∧
        message.content.bytes =
          typeField PacketType.hciData.code ++ call.array.wire
  | none =>
      ∃ id : MessageId,
        message.content.bytes =
          typeField PacketType.message.code ++ typeField id.code

/-- A command of a write has its bytes as only parameter, any other one is a
message. -/
def CommandCarries (command : Tagged WriteCall Command) : Prop :=
  match command.origin with
  | some call =>
      call.Fits ∧
        command.content = {
          id := PacketType.hciData.code
          parameters := [.bytes call.array.bytes] }
  | none => command.content.id = PacketType.message.code

/-- A task is about the bytes of a write. -/
def TaskCarries (task : Tagged WriteCall Task) : Prop :=
  ∃ call,
    task.origin = some call ∧
      (task.content = .sending call.array.bytes [] ∨
        ∃ performance,
          performance.bytes = call.array.bytes ∧
            task.content = .replying performance [])

/-- A command for a write reports the result of sending its bytes, any other
one is not a report. -/
def ReplyCarries (command : Tagged WriteCall DesktopCommand) : Prop :=
  match command.origin with
  | some call =>
      ∃ performance,
        performance.bytes = call.array.bytes ∧
          command.content = (errorCommand performance (some call)).content
  | none => command.content.id ≠ PacketType.hciDataError.code

/-- A message on the error queue is the result of sending the bytes of a
write. -/
def ReportCarries (report : Tagged WriteCall ErrorReport) : Prop :=
  ∃ call performance,
    report.origin = some call ∧
      performance.bytes = call.array.bytes ∧
      report.content = {
        dwLastError := performance.lastError
        performance := some performance }

/-- A `DWORD` parameter is fetched as it was added. -/
@[simp] theorem toDword?_ofDword (value : UInt32) :
    (InParameter.ofDword value).toDword? = some value := by
  have length : (InParameter.ofDword value).content.length = 4 :=
    LittleEndian.length_encode _ _
  have decoded : LittleEndian.decode (InParameter.ofDword value).content =
      value.toNat :=
    LittleEndian.decode_encode_of_lt value.toNat_lt
  have passes : (InParameter.ofDword value).dataType = .dword ∧
      0 < (InParameter.ofDword value).content.length ∧
      (InParameter.ofDword value).fetches := by
    rw [length]
    exact ⟨rfl, by decide, rfl⟩
  rw [InParameter.toDword?, if_pos passes, decoded, UInt32.ofNat_toNat]

/-- The message of a write that fits carries its bytes. -/
theorem exists_writtenMessage
    (call : WriteCall)
    (fits : call.Fits) :
    ∃ message,
      writtenMessage call.array = some message ∧
        MessageCarries ⟨message, some call⟩ := by
  obtain ⟨packet, packed, written⟩ :=
    exists_typedPacket PacketType.hciData.code fits.2
  have nonempty : packet.written ≠ [] := by
    rw [written]
    exact typeField_append_ne_nil _ _
  obtain ⟨message, sent, content⟩ :=
    exists_bteWrite packed nonempty .lenient none
  refine ⟨message, ?_, fits, by rw [content, written]⟩
  rw [writtenMessage, sent]
  rfl

/-- A write that fits returns what the code it consumed stands for. -/
theorem returned_of_bteWrite
    {call : WriteCall}
    (fits : call.Fits)
    (returned : bteWrite openContext call.array (some .lenient) reply =
      some outcome) :
    outcome.returned = remoteResult call.array.length reply := by
  obtain ⟨packet, packed, written⟩ :=
    exists_typedPacket PacketType.hciData.code fits.2
  have nonempty : packet.written ≠ [] := by
    rw [written]
    exact typeField_append_ne_nil _ _
  obtain ⟨message, sent, -⟩ :=
    exists_bteWrite packed nonempty .lenient reply
  rw [sent] at returned
  cases returned
  rfl

/-- The message of an open or close carries its message id. -/
theorem exists_portMessage (id : MessageId) :
    ∃ message,
      portMessage id = some message ∧ MessageCarries ⟨message, none⟩ := by
  obtain ⟨typed, packet, typeDone, idDone, written⟩ :=
    exists_writeInt_message id.code
  have nonempty : packet.written ≠ [] := by
    rw [written]
    exact typeField_append_ne_nil _ _
  obtain ⟨message, sent, content⟩ :=
    exists_writePacket .lenient packet nonempty
  refine ⟨message, ?_, id, content.trans written⟩
  simp only [portMessage, typeDone, idDone, sent, Option.bind_eq_bind,
    Option.bind_some]

/-- A message with a message id makes the agent send it. -/
theorem readDeviceWriteDesktop_of_message
    {message : Message}
    {id : UInt32}
    (content : message.bytes =
      typeField PacketType.message.code ++ typeField id)
    (accepted : Bool)
    (pCmd : Option CommandPacket) :
    readDeviceWriteDesktop (some message) accepted pCmd =
      let sent := sendCommandMessage PacketType.message.code id accepted pCmd
      some (sent.pushed, sent.command) := by
  obtain ⟨packet, deserialized, unread⟩ := message.exists_deserialize
  rw [content] at unread
  obtain ⟨rest, typeRead, behind⟩ := exists_readInt_type unread
  rw [← List.append_nil (typeField id)] at behind
  obtain ⟨last, idRead, -⟩ := exists_readInt_type behind
  simp only [readDeviceWriteDesktop, deserialized, Option.bind_eq_bind,
    Option.bind_some, typeRead, UInt32.toUInt32_toInt32, if_true, idRead]

/-- A message is forwarded as a command that carries the same. -/
theorem exists_readDeviceWriteDesktop
    {message : Tagged WriteCall Message}
    (carries : MessageCarries message)
    (accepted : Bool)
    (command : CommandPacket) :
    ∃ pushed pCmd,
      readDeviceWriteDesktop (some message.content) accepted (some command) =
          some (some pushed, some pCmd) ∧
        CommandCarries ⟨pushed, message.origin⟩ := by
  unfold MessageCarries at carries
  cases origin : message.origin with
  | some call =>
      rw [origin] at carries
      obtain ⟨fits, content⟩ := carries
      have hasData : call.array.bytes.length ≠ 0 :=
        Nat.ne_of_gt fits.1
      refine ⟨_, [.bytes call.array.bytes], ?_, fits, rfl⟩
      rw [readDeviceWriteDesktop_of_array content]
      simp only [sendCommandData, if_pos hasData]
      rfl
  | none =>
      rw [origin] at carries
      obtain ⟨id, content⟩ := carries
      refine ⟨⟨PacketType.message.code, [.dword id.code]⟩, [.dword id.code],
        ?_, rfl⟩
      rw [readDeviceWriteDesktop_of_message content]
      rfl

end Bridge
end BthEmul
