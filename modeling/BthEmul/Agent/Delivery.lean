import BthEmul.Agent.Forwarding

/-!
# Delivery between the driver and the desktop

Both directions pack an array behind a type field without looking at the
results of the two packet writes. An array is delivered when it fits the
packet; otherwise the message that ends behind the type field goes out in its
place. An empty array arrives as a command with stale parameters.
-/

namespace BthEmul

open Foundation

namespace Agent

open SerialPort

/-! ## From the device to the desktop -/

/-- A write that is refused leaves no message, and the message of any other
write is pushed to the desktop as one data command with exactly its bytes. -/
def DeliversWrite
    (array : CArray)
    (writeQueue : Option MessageQueue)
    (reply : Option UInt32)
    (accepted : Bool)
    (pCmd : Option CommandPacket) : Prop :=
  ∃ outcome,
    bteWrite openContext array writeQueue reply = some outcome ∧
      match outcome.queued with
      | none => ∃ error, outcome.returned = .error error
      | some message =>
          ∃ pCmd',
            readDeviceWriteDesktop (some message) accepted pCmd =
              some (some {
                id := PacketType.hciData.code
                parameters := [.bytes array.bytes] }, pCmd')

/-- The array is not empty and fits a packet; without a queue, the size
computation does not wrap around. -/
def WriteFits (array : CArray) : Option MessageQueue → Prop
  | some _ => 0 < array.length ∧ array.length ≤ payloadLimit
  | none => array.length + 8 < 2 ^ 32

/-- Every array is packed, or its size computation wraps around. -/
theorem exists_typedPacket_or_none (type : UInt32) (array : CArray) :
    (array.length + 8 < 2 ^ 32 ∧
        ∃ packet, typedPacket type array = some packet) ∨
      (2 ^ 32 ≤ array.length + 8 ∧ typedPacket type array = none) := by
  by_cases wraps : 2 ^ 32 ≤ array.length + 8
  · exact Or.inr ⟨wraps, typedPacket_eq_none type wraps⟩
  · refine Or.inl ⟨Nat.lt_of_not_le wraps, ?_⟩
    by_cases fits : array.length ≤ payloadLimit
    · obtain ⟨packet, packed, -⟩ := exists_typedPacket type fits
      exact ⟨packet, packed⟩
    · obtain ⟨packet, packed, -⟩ := exists_typedPacket_long type
        (Nat.lt_of_not_le fits) (Nat.lt_of_not_le wraps)
      exact ⟨packet, packed⟩

/-- A write whose size computation wraps around has no outcome. -/
theorem bteWrite_eq_none
    {array : CArray}
    (wraps : 2 ^ 32 ≤ array.length + 8)
    (writeQueue : Option MessageQueue)
    (reply : Option UInt32) :
    bteWrite openContext array writeQueue reply = none := by
  simp only [bteWrite, if_true, typedPacket_eq_none _ wraps,
    Option.bind_eq_bind, Option.bind_none]

/-- A data command carries exactly the data when there are any, and never an
empty array. -/
theorem pushed_sendCommandData_iff
    {command : CommandPacket}
    (bounded : command.Bounded)
    (dwCmd : UInt32)
    (pData : List UInt8)
    (accepted : Bool) :
    (sendCommandData dwCmd pData accepted (some command)).pushed =
        some { id := dwCmd, parameters := [.bytes pData] } ↔
      pData ≠ [] := by
  by_cases hasData : pData = []
  · subst hasData
    simp only [sendCommandData, List.length_nil, ne_eq, not_true, if_false,
      pushCommand, Option.some.injEq, Command.mk.injEq, true_and, iff_false]
    intro same
    exact absurd (bounded [] same).1 (Nat.lt_irrefl 0)
  · simp [sendCommandData, hasData, pushCommand]

/-- With an open queue an array that fits the packet is delivered exactly when
it is not empty. -/
theorem deliversWrite_of_fits
    {array : CArray}
    {command : CommandPacket}
    (bounded : command.Bounded)
    (fits : array.length ≤ payloadLimit)
    (queue : MessageQueue)
    (reply : Option UInt32)
    (accepted : Bool) :
    DeliversWrite array (some queue) reply accepted (some command) ↔
      array.bytes ≠ [] := by
  obtain ⟨packet, packed, content⟩ :=
    exists_typedPacket PacketType.hciData.code fits
  obtain ⟨message, done, bytes⟩ := exists_bteWrite packed
    (by rw [content]; exact typeField_append_ne_nil _ _) queue reply
  rw [content] at bytes
  rw [← pushed_sendCommandData_iff bounded PacketType.hciData.code
    array.bytes accepted]
  simp only [DeliversWrite, done, Option.some.injEq, exists_eq_left',
    readDeviceWriteDesktop_of_array bytes, Prod.mk.injEq]
  constructor
  · rintro ⟨pCmd', pushed, -⟩
    exact pushed
  · intro pushed
    exact ⟨_, pushed, rfl⟩

/-- With an open queue an array that does not fit the packet is not
delivered: the agent sends what the command object held. -/
theorem not_deliversWrite_of_long
    {array : CArray}
    {command : CommandPacket}
    (bounded : command.Bounded)
    (long : payloadLimit < array.length)
    (queue : MessageQueue)
    (reply : Option UInt32)
    (accepted : Bool) :
    ¬ DeliversWrite array (some queue) reply accepted (some command) := by
  by_cases wraps : 2 ^ 32 ≤ array.length + 8
  · rintro ⟨outcome, done, -⟩
    rw [bteWrite_eq_none wraps] at done
    contradiction
  · obtain ⟨packet, packed, content⟩ :=
      exists_typedPacket_long PacketType.hciData.code long
        (Nat.lt_of_not_le wraps)
    obtain ⟨message, done, bytes⟩ := exists_bteWrite packed
      (by rw [content]; exact typeField_ne_nil _) queue reply
    rw [content] at bytes
    simp only [DeliversWrite, done, Option.some.injEq, exists_eq_left',
      readDeviceWriteDesktop_of_typeField bytes, sendCommandData,
      List.length_nil, ne_eq, not_true, if_false, pushCommand, Prod.mk.injEq,
      Command.mk.injEq, true_and]
    rintro ⟨pCmd', stale, -⟩
    have short := (bounded array.bytes stale).2
    rw [CArray.length] at long
    omega

/-- A write is delivered or refused as a whole exactly when its array is not
empty and fits a packet; without a queue it is refused unless its size
computation wraps around. -/
theorem deliversWrite_iff_writeFits
    {pCmd : Option CommandPacket}
    (reachable : ReachableCommand pCmd)
    (array : CArray)
    (writeQueue : Option MessageQueue)
    (reply : Option UInt32)
    (accepted : Bool) :
    DeliversWrite array writeQueue reply accepted pCmd ↔
      WriteFits array writeQueue := by
  obtain ⟨command, rfl, bounded⟩ := reachable.exists_bounded
  cases writeQueue with
  | none =>
      rcases exists_typedPacket_or_none PacketType.hciData.code array with
        ⟨addressable, packet, packed⟩ | ⟨wraps, -⟩
      · refine iff_of_true ?_ addressable
        exact ⟨_, bteWrite_of_no_queue packed reply, _, rfl⟩
      · refine iff_of_false ?_ (Nat.not_lt_of_le wraps)
        rintro ⟨outcome, done, -⟩
        rw [bteWrite_eq_none wraps] at done
        contradiction
  | some queue =>
      by_cases fits : array.length ≤ payloadLimit
      · rw [deliversWrite_of_fits bounded fits, WriteFits,
          ← List.length_pos_iff]
        exact (and_iff_left fits).symm
      · refine iff_of_false ?_ (fun both => fits both.2)
        exact not_deliversWrite_of_long bounded (Nat.lt_of_not_le fits) queue
          reply accepted

/-- Three bytes written to an open queue before the agent sent anything. -/
theorem deliversWrite_three_bytes :
    DeliversWrite ⟨[1, 3, 0], by decide⟩ (some MessageQueue.lenient) (some 0)
      true (some []) :=
  (deliversWrite_iff_writeFits ReachableCommand.created _ _ _ _).mpr
    ⟨by decide, by decide⟩

/-- No bytes written right after the agent has acknowledged its start: the
desktop receives a data command with the message id. -/
theorem not_deliversWrite_no_bytes :
    ReachableCommand (some [.dword 2]) ∧
      ¬ DeliversWrite ⟨[], by decide⟩ (some MessageQueue.lenient) (some 0)
        true (some [.dword 2]) := by
  have reachable : ReachableCommand (some [.dword 2]) :=
    ReachableCommand.answered 2 true ReachableCommand.created
  refine ⟨reachable, ?_⟩
  obtain ⟨command, same, bounded⟩ := reachable.exists_bounded
  cases same
  rw [deliversWrite_of_fits bounded (by decide)]
  simp

/-! ## From the desktop to the device -/

/-- A byte parameter that can be fetched and passes the size check. -/
def InParameter.Passes (parameter : InParameter) : Prop :=
  parameter.dataType = .bytes ∧ 0 < parameter.content.length ∧
    parameter.content.length < msgBufferSize ∧ parameter.fetches

instance (parameter : InParameter) : Decidable parameter.Passes :=
  inferInstanceAs (Decidable (_ ∧ _))

/-- A parameter that passes is written as one message the driver decodes to
its bytes, and any other parameter writes nothing. -/
def ForwardsParameter
    (parameter : InParameter)
    (writeQueue : Option MessageQueue) : Prop :=
  ∃ written,
    readDesktopWriteDevicePacket PacketType.hciData.code (some parameter)
        writeQueue = some written ∧
      if parameter.Passes then
        ∃ message, written = some message ∧
          Decodes message parameter.content
      else written = none

/-- A parameter that passes fits a packet, and any other one has a size the
queue refuses; without a queue no parameter passes. -/
def ParameterFits
    (parameter : InParameter) : Option MessageQueue → Prop
  | some queue =>
      if parameter.Passes then parameter.content.length ≤ payloadLimit
      else
        msgBufferSize < parameter.content.length ∨
          (parameter.content.length = 0 ∧ ¬ queue.takes 0)
  | none => ¬ parameter.Passes

/-- The sizes an open queue refuses. -/
theorem refuses_iff (queue : MessageQueue) (size : Nat) :
    ¬ queue.takes size ↔
      msgBufferSize < size ∨ (size = 0 ∧ ¬ queue.takes 0) := by
  constructor
  · intro refused
    by_cases long : msgBufferSize < size
    · exact Or.inl long
    · have empty : size = 0 := by
        by_contra nonempty
        exact refused (queue.takes_of_fits size (Nat.pos_of_ne_zero nonempty)
          (Nat.le_of_not_lt long))
      rw [empty] at refused
      exact Or.inr ⟨empty, refused⟩
  · rintro (long | ⟨rfl, refused⟩)
    · intro taken
      exact absurd (queue.fits_of_takes size taken) (Nat.not_le_of_lt long)
    · exact refused

/-- A rejected parameter writes as many cleared bytes as it is long, unless
the queue refuses the size. -/
theorem readDesktopWriteDevicePacket_of_rejected
    {parameter : InParameter}
    (rejected : ¬ parameter.Passes)
    (queue : MessageQueue) :
    readDesktopWriteDevicePacket PacketType.hciData.code (some parameter)
        (some queue) =
      queue.write (Buffer.fill msgBufferSize 0) parameter.content.length := by
  have notMessage : PacketType.hciData.code ≠ PacketType.message.code := by
    decide
  rw [InParameter.Passes] at rejected
  simp only [readDesktopWriteDevicePacket, notMessage, if_false, if_true,
    rejected, Option.bind_eq_bind, Option.bind_some]

/-- A rejected parameter writes nothing exactly when the queue refuses its
size. -/
theorem forwardsParameter_of_rejected
    {parameter : InParameter}
    (rejected : ¬ parameter.Passes)
    (queue : MessageQueue) :
    ForwardsParameter parameter (some queue) ↔
      ¬ queue.takes parameter.content.length := by
  simp only [ForwardsParameter, if_neg rejected,
    readDesktopWriteDevicePacket_of_rejected rejected]
  by_cases taken : queue.takes parameter.content.length
  · have fits := queue.fits_of_takes _ taken
    have loaded := (Buffer.fill msgBufferSize (0 : UInt8)).load_eq_some
      (Nat.zero_add _ ▸ fits : 0 + parameter.content.length ≤ _)
    obtain ⟨message, written, -⟩ := MessageQueue.exists_write taken loaded
    simp [written, taken]
  · simp [MessageQueue.write_of_refuses taken, taken]

/-- A parameter that passes is packed and written. -/
theorem exists_readDesktopWriteDevicePacket
    {parameter : InParameter}
    {packet : Packet}
    (passes : parameter.Passes)
    (packed : typedPacket PacketType.hciData.code parameter.toArray =
      some packet)
    (nonempty : packet.written ≠ [])
    (queue : MessageQueue) :
    ∃ message,
      readDesktopWriteDevicePacket PacketType.hciData.code (some parameter)
          (some queue) = some (some message) ∧
        message.bytes = packet.written := by
  have notMessage : PacketType.hciData.code ≠ PacketType.message.code := by
    decide
  have short := passes.2.2.1
  obtain ⟨fetched, stored⟩ :=
    (Buffer.fill msgBufferSize (0 : UInt8)).exists_store 0 parameter.content
      (by omega)
  obtain ⟨filled, message, serialized, written, content⟩ :=
    queue.exists_write_serialize packet nonempty fetched
  refine ⟨message, ?_, content⟩
  rw [InParameter.Passes] at passes
  simp only [readDesktopWriteDevicePacket, notMessage, if_false, if_true,
    passes, and_self, stored, packed, serialized, Option.bind_eq_bind,
    Option.bind_some, written]

/-- A parameter that passes reaches the device exactly when it fits a
packet. -/
theorem forwardsParameter_of_passes
    {parameter : InParameter}
    (passes : parameter.Passes)
    (queue : MessageQueue) :
    ForwardsParameter parameter (some queue) ↔
      parameter.content.length ≤ payloadLimit := by
  simp only [ForwardsParameter, if_pos passes]
  by_cases fits : parameter.content.length ≤ payloadLimit
  · have arrayFits : parameter.toArray.length ≤ payloadLimit := fits
    obtain ⟨packet, packed, content⟩ :=
      exists_typedPacket PacketType.hciData.code arrayFits
    obtain ⟨message, written, bytes⟩ :=
      exists_readDesktopWriteDevicePacket passes packed
        (by rw [content]; exact typeField_append_ne_nil _ _) queue
    refine iff_of_true ⟨_, written, message, rfl, ?_⟩ fits
    exact decodes_array (bytes.trans content)
  · have short : parameter.content.length < 4096 := passes.2.2.1
    have arrayLong : payloadLimit < parameter.toArray.length :=
      Nat.lt_of_not_le fits
    obtain ⟨packet, packed, content⟩ :=
      exists_typedPacket_long PacketType.hciData.code arrayLong
        (by change parameter.content.length + 8 < 2 ^ 32; omega)
    obtain ⟨message, written, bytes⟩ :=
      exists_readDesktopWriteDevicePacket passes packed
        (by rw [content]; exact typeField_ne_nil _) queue
    refine iff_of_false ?_ fits
    rintro ⟨written', same, message', rfl, decodes⟩
    rw [written] at same
    cases same
    have lost := eq_nil_of_decodes_typeField (bytes.trans content) decodes
    have nonempty := passes.2.1
    rw [lost] at nonempty
    exact absurd nonempty (Nat.lt_irrefl 0)

/-- A data command of the desktop reaches the device as it is, or not at all,
exactly when a parameter that passes the size check fits a packet, and one that
does not pass has a size the queue refuses. -/
theorem forwardsParameter_iff_parameterFits
    (parameter : InParameter)
    (writeQueue : Option MessageQueue) :
    ForwardsParameter parameter writeQueue ↔
      ParameterFits parameter writeQueue := by
  cases writeQueue with
  | none =>
      by_cases passes : parameter.Passes <;>
        simp [ForwardsParameter, ParameterFits, readDesktopWriteDevicePacket,
          passes]
  | some queue =>
      by_cases passes : parameter.Passes
      · rw [forwardsParameter_of_passes passes, ParameterFits,
          if_pos passes]
      · rw [forwardsParameter_of_rejected passes, ParameterFits,
          if_neg passes, refuses_iff]

/-- A parameter of another type than bytes. -/
def dwordParameter : InParameter where
  dataType := .dword
  content := [1, 0, 0, 0]
  fetches := true
  length_lt := by decide

/-- A parameter of 4089 bytes, which passes the size check. -/
def longParameter : InParameter where
  dataType := .bytes
  content := List.replicate 4089 7
  fetches := true
  length_lt := by rw [List.length_replicate]; decide

/-- For the one, four cleared bytes are written to the device; for the other,
the message that ends behind its type field. -/
theorem not_forwardsParameter_dword_long :
    ¬ ForwardsParameter dwordParameter (some MessageQueue.lenient) ∧
      ¬ ForwardsParameter longParameter (some MessageQueue.lenient) := by
  have length : longParameter.content.length = 4089 :=
    List.length_replicate
  have passes : longParameter.Passes := by
    refine ⟨rfl, ?_, ?_, rfl⟩ <;> rw [length] <;> decide
  constructor
  · rw [forwardsParameter_of_rejected (by decide)]
    decide
  · rw [forwardsParameter_of_passes passes, length]
    decide

end Agent
end BthEmul
