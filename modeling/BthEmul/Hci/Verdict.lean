import BthEmul.Hci.Answer

/-!
# What the wrappers report

A wrapper reports the status that the controller answers with exactly when the
answer reaches its slot and has the layout that the wrapper expects. The layout
it expects depends on the wrapper, the layout of the answer on the kind of
event.
-/

namespace BthEmul

open Foundation

namespace Hci

/-! ## Wrappers -/

/-- The forms that the result of a wrapper has. -/
inductive ResultForm
  | statusByte
  | commandStatus
  | completion (size : Nat)
  | classOfDevice
  | localName
  deriving DecidableEq

namespace ResultForm

/-- The size of the memory of the caller for the result. -/
def size : ResultForm → Nat
  | .statusByte => 0
  | .commandStatus => 0
  | .completion size => size
  | .classOfDevice => deviceClassSize
  | .localName => nameSize

/-- The return parameter that the result of the caller begins with. -/
def offset : ResultForm → Nat
  | .statusByte => 0
  | .commandStatus => 0
  | .completion _ => 0
  | .classOfDevice => 1
  | .localName => 1

end ResultForm

/-- The wrappers and their arguments, apart from the memory for the result. -/
inductive Wrapper
  | sendSetEventFilter
      (filterType filterConditionType : UInt8)
      (condition : List UInt8)
      (conditionBytes : UInt8)
  | sendInquiry (lap : UInt32) (inquiryLength numResponses : UInt8)
  | sendInquiryCancel
  | sendCreateConnection
      (bdAddr : Buffer UInt8 bdAddrSize)
      (packetType : UInt16)
      (pageScanRepetitionMode pageScanMode : UInt8)
      (clockOffset : UInt16)
      (allowRoleSwitch : UInt8)
  | sendDisconnect (connectionHandle : UInt16) (reason : UInt8)
  | sendSwitchRole (bdAddr : Buffer UInt8 bdAddrSize) (role : UInt8)
  | sendRemoteNameRequest
      (bdAddr : Buffer UInt8 bdAddrSize)
      (pageScanRepetitionMode pageScanMode : UInt8)
      (clockOffset : UInt16)
  | sendReset
  | sendWriteClassOfDevice (classOfDevice : Buffer UInt8 deviceClassSize)
  | sendReadLocalVersionInformation
  | sendReadBDADDR
  | sendReadBufferSize
  | readClassOfDevice
  | readLocalName

namespace Wrapper

/-- The form of the result. -/
def form : Wrapper → ResultForm
  | .sendSetEventFilter _ _ _ _ => .statusByte
  | .sendInquiry _ _ _ => .commandStatus
  | .sendInquiryCancel => .statusByte
  | .sendCreateConnection _ _ _ _ _ _ => .commandStatus
  | .sendDisconnect _ _ => .commandStatus
  | .sendSwitchRole _ _ => .commandStatus
  | .sendRemoteNameRequest _ _ _ _ => .commandStatus
  | .sendReset => .statusByte
  | .sendWriteClassOfDevice _ => .statusByte
  | .sendReadLocalVersionInformation =>
      .completion CHciLocal.sizeOfReadLocalVersionInformationComplete
  | .sendReadBDADDR => .completion CHciLocal.sizeOfReadBDADDRComplete
  | .sendReadBufferSize => .completion CHciLocal.sizeOfReadBufferSizeComplete
  | .readClassOfDevice => .classOfDevice
  | .readLocalName => .localName

/-- The wrapper with the memory for its result and with what the memory of a
local name holds before it is read. -/
def sync
    (wrapper : Wrapper)
    (memory : Buffer UInt8 wrapper.form.size)
    (uninitialised : Buffer UInt8 (1 + nameSize)) : SyncCommand :=
  match wrapper with
  | .sendSetEventFilter filterType filterConditionType condition
      conditionBytes =>
      CHciLocal.sendSetEventFilter filterType filterConditionType condition
        conditionBytes
  | .sendInquiry lap inquiryLength numResponses =>
      CHciLocal.sendInquiry lap inquiryLength numResponses
  | .sendInquiryCancel => CHciLocal.sendInquiryCancel
  | .sendCreateConnection bdAddr packetType pageScanRepetitionMode
      pageScanMode clockOffset allowRoleSwitch =>
      CHciLocal.sendCreateConnection bdAddr packetType
        pageScanRepetitionMode pageScanMode clockOffset allowRoleSwitch
  | .sendDisconnect connectionHandle reason =>
      CHciLocal.sendDisconnect connectionHandle reason
  | .sendSwitchRole bdAddr role => CHciLocal.sendSwitchRole bdAddr role
  | .sendRemoteNameRequest bdAddr pageScanRepetitionMode pageScanMode
      clockOffset =>
      CHciLocal.sendRemoteNameRequest bdAddr pageScanRepetitionMode
        pageScanMode clockOffset
  | .sendReset => CHciLocal.sendReset
  | .sendWriteClassOfDevice classOfDevice =>
      CHciLocal.sendWriteClassOfDevice classOfDevice
  | .sendReadLocalVersionInformation =>
      CHciLocal.sendReadLocalVersionInformation memory
  | .sendReadBDADDR => CHciLocal.sendReadBDADDR memory
  | .sendReadBufferSize => CHciLocal.sendReadBufferSize memory
  | .readClassOfDevice => CHciRoundTrip.readClassOfDevice memory
  | .readLocalName => CHciRoundTrip.readLocalName memory uninitialised

/-- What is sent, which does not depend on the memory. -/
def command (wrapper : Wrapper) : Option HciCommand :=
  (wrapper.sync (.fill _ 0) (.fill _ 0)).command

theorem command_sync
    (wrapper : Wrapper)
    (memory : Buffer UInt8 wrapper.form.size)
    (uninitialised : Buffer UInt8 (1 + nameSize)) :
    (wrapper.sync memory uninitialised).command = wrapper.command := by
  cases wrapper <;> rfl

end Wrapper

/-! ## Answers that a wrapper expects -/

/-- The answers with a status that a wrapper expects: a Command Complete event
with a status byte only, a Command Status event, or a Command Complete event
whose parameters fit the result, and are all there if it is a local name. A
Command Complete event may pass for a Command Status event. -/
def ResultForm.Accepts
    (form : ResultForm)
    (event : CommandEvent)
    (status : UInt8) : Prop :=
  match form, event with
  | .statusByte, .complete _ _ parameters => parameters.bytes.length = 1
  | .statusByte, .status _ _ _ => False
  | .commandStatus, .complete _ _ parameters =>
      parameters.bytes.length ≤ sizeOfCommandStatus ∧
        parameters.bytes.getD statusOffset 0 = status
  | .commandStatus, .status _ _ _ => True
  | .completion size, .complete _ _ parameters =>
      parameters.bytes.length ≤ size
  | .completion _, .status _ _ _ => False
  | .classOfDevice, _ => False
  | .localName, .complete _ _ parameters =>
      parameters.bytes.length ≤ 1 + nameSize ∧
        (status = 0 → parameters.bytes.length = 1 + nameSize)
  | .localName, .status _ _ _ => False

/-- The bytes of a block whose front is overwritten. -/
theorem getElem?_overwritten
    (front block : List UInt8)
    (index : Nat) :
    (front ++ block.drop front.length)[index]? =
      if index < front.length then front[index]? else block[index]? := by
  split
  · rename_i before
    rw [List.getElem?_append_left before]
  · rename_i behind
    rw [List.getElem?_append_right (Nat.le_of_not_lt behind),
      List.getElem?_drop]
    congr 1
    omega

/-- No byte is its own successor. -/
theorem succ_ne_self (status : UInt8) : status + 1 ≠ status := by
  intro same
  have values := congrArg UInt8.toNat same
  have small := status.toNat_lt
  rw [UInt8.toNat_add, UInt8.toNat_one] at values
  omega

namespace CommandEvent

/-- An empty result needs no explanation. -/
theorem explains_nil
    (event : CommandEvent)
    (offset : Nat)
    (before : List UInt8) :
    event.Explains offset before [] := by
  intro index byte present
  cases present

/-- What return parameters leave in a block is explained by them. -/
theorem explains_overwritten
    (numPackets : UInt8)
    (opCode : UInt16)
    (parameters : ReturnParameters)
    (before : List UInt8) :
    (complete numPackets opCode parameters).Explains 0 before
      (parameters.bytes ++ before.drop parameters.bytes.length) := by
  intro index byte present
  rw [getElem?_overwritten] at present
  split at present
  · right
    rw [Nat.zero_add]
    exact present
  · left
    exact present

end CommandEvent

namespace SyncCommand

/-- A wrapper concludes from the block that an event which fits overwrites. -/
theorem concludes_iff
    {sync : SyncCommand}
    {event : CommandEvent} :
    sync.Concludes event status offset ↔
      event.Fits (.queued 0 sync.pResultBuffer) ∧
        ∃ result,
          sync.conclude (event.overwrite sync.pResultBuffer) =
            some (status.toUInt32, result) ∧
          event.Explains offset sync.result result := by
  rw [Concludes, CommandEvent.block]
  split
  · rename_i fits
    simp only [Option.some.injEq, exists_and_left, exists_eq_left']
    exact ⟨fun concluded => ⟨fits, concluded⟩, fun fitting => fitting.2⟩
  · rename_i exceeds
    refine iff_of_false ?_ fun fitting => exceeds fitting.1
    rintro ⟨_, _, absent, -⟩
    cases absent

/-- What a wrapper concludes from return parameters. -/
theorem concludes_complete_iff
    {sync : SyncCommand}
    {parameters : ReturnParameters} :
    sync.Concludes (.complete numPackets opCode parameters) status offset ↔
      parameters.bytes.length ≤ sync.pResultBuffer.length ∧
        ∃ result,
          sync.conclude (parameters.bytes ++
              sync.pResultBuffer.drop parameters.bytes.length) =
            some (status.toUInt32, result) ∧
          CommandEvent.Explains (.complete numPackets opCode parameters)
            offset sync.result result :=
  concludes_iff

/-- What a wrapper concludes from a status. -/
theorem concludes_status_iff
    {sync : SyncCommand} :
    sync.Concludes (.status nStatus numPackets opCode) status offset ↔
      sizeOfCommandStatus ≤ sync.pResultBuffer.length ∧
        ∃ result,
          sync.conclude (sync.pResultBuffer.set statusOffset nStatus) =
            some (status.toUInt32, result) ∧
          CommandEvent.Explains (.status nStatus numPackets opCode)
            offset sync.result result :=
  concludes_iff

/-- The status that stands first in return parameters stands first in the block
that they leave. -/
theorem head_overwritten
    {parameters : ReturnParameters}
    (verdict : parameters.bytes.head? = some status)
    (block : List UInt8) :
    (parameters.bytes ++ block.drop parameters.bytes.length)[0]? =
      some status := by
  rw [getElem?_overwritten]
  obtain ⟨rest, bytes⟩ := List.head?_eq_some_iff.mp verdict
  rw [bytes]
  rfl

/-- A wrapper with a status byte takes Command Complete events that bring
nothing else. -/
theorem concludes_ofStatusByte_iff
    {event : CommandEvent}
    (nCommand : UInt16)
    (command : Option HciCommand)
    (verdict : event.verdict = some status) :
    (ofStatusByte nCommand command).Concludes event status 0 ↔
      ResultForm.statusByte.Accepts event status := by
  cases event with
  | complete numPackets opCode parameters =>
      rw [concludes_complete_iff, ResultForm.Accepts]
      obtain ⟨rest, bytes⟩ := List.head?_eq_some_iff.mp verdict
      have count : parameters.bytes.length = rest.length + 1 := by
        rw [bytes, List.length_cons]
      constructor
      · rintro ⟨fits, -⟩
        have single : parameters.bytes.length ≤ 1 := fits
        omega
      · intro single
        refine ⟨Nat.le_of_eq single, [], ?_,
          CommandEvent.explains_nil _ _ _⟩
        simp only [ofStatusByte, head_overwritten verdict,
          Option.bind_eq_bind, Option.bind_some]
  | status nStatus numPackets opCode =>
      rw [concludes_status_iff, ResultForm.Accepts, iff_false]
      rintro ⟨fits, -⟩
      have enough : sizeOfCommandStatus ≤ 1 := fits
      exact absurd enough (by decide)

/-- A wrapper that waits for a Command Status event takes all of them. -/
theorem concludes_ofCommandStatus_iff
    {event : CommandEvent}
    (nCommand : UInt16)
    (command : HciCommand)
    (verdict : event.verdict = some status) :
    (ofCommandStatus nCommand command).Concludes event status 0 ↔
      ResultForm.commandStatus.Accepts event status := by
  cases event with
  | complete numPackets opCode parameters =>
      rw [concludes_complete_iff, ResultForm.Accepts]
      have read : (parameters.bytes ++ (List.replicate sizeOfCommandStatus
          0).drop parameters.bytes.length)[statusOffset]? =
            some (parameters.bytes.getD statusOffset 0) := by
        rw [getElem?_overwritten, List.getD_eq_getElem?_getD]
        split
        · rename_i inside
          rw [List.getElem?_eq_getElem inside, Option.getD_some]
        · rename_i outside
          rw [List.getElem?_eq_none (Nat.le_of_not_lt outside)]
          rfl
      simp only [ofCommandStatus, List.length_replicate, read,
        Option.bind_eq_bind, Option.bind_some, Option.some.injEq,
        Prod.mk.injEq, UInt8.toUInt32_inj]
      constructor
      · rintro ⟨fits, result, ⟨same, -⟩, -⟩
        exact ⟨fits, same⟩
      · rintro ⟨fits, same⟩
        exact ⟨fits, [], ⟨same, rfl⟩, CommandEvent.explains_nil _ _ _⟩
  | status nStatus numPackets opCode =>
      rw [concludes_status_iff, ResultForm.Accepts]
      cases verdict
      exact iff_of_true
        ⟨Nat.le_refl _, [], rfl, CommandEvent.explains_nil _ _ _⟩ trivial

/-- A status does not change how a block begins. -/
theorem first_of_status
    (nStatus value : UInt8)
    (fits : sizeOfCommandStatus ≤
      (Buffer.fill size value).cells.length) :
    ((Buffer.fill size value).cells.set statusOffset nStatus)[0]? =
      some value := by
  have positive : 0 < size := by
    rw [Buffer.length_eq, sizeOfCommandStatus] at fits
    omega
  rw [List.getElem?_set_ne (by decide), Buffer.cells_fill,
    List.getElem?_replicate, if_pos positive]

/-- A wrapper with a structure of the caller takes Command Complete events that
fit the structure, and no Command Status event whatever the structure holds. -/
theorem forall_concludes_ofResult_iff
    {event : CommandEvent}
    (nCommand : UInt16)
    (command : HciCommand)
    (size : Nat)
    (verdict : event.verdict = some status) :
    (∀ memory : Buffer UInt8 size,
        (ofResult nCommand command memory.cells).Concludes event status 0) ↔
      (ResultForm.completion size).Accepts event status := by
  cases event with
  | complete numPackets opCode parameters =>
      simp only [concludes_complete_iff, ResultForm.Accepts]
      constructor
      · intro concludes
        have fits := (concludes (.fill size 0)).1
        rw [ofResult, Buffer.length_eq] at fits
        exact fits
      · intro fits memory
        refine ⟨?_, _, ?_, CommandEvent.explains_overwritten _ _ _ _⟩
        · rw [ofResult, Buffer.length_eq]
          exact fits
        · simp only [ofResult, head_overwritten verdict,
            Option.bind_eq_bind, Option.bind_some]
  | status nStatus numPackets opCode =>
      rw [ResultForm.Accepts, iff_false]
      intro concludes
      obtain ⟨fits, result, concluded, -⟩ :=
        concludes_status_iff.mp (concludes (.fill size (status + 1)))
      have front := first_of_status nStatus (status + 1) fits
      simp only [ofResult, front, Option.bind_eq_bind, Option.bind_some,
        Option.some.injEq, Prod.mk.injEq, UInt8.toUInt32_inj] at concluded
      exact succ_ne_self status concluded.1

/-- The wrapper for local names returns the byte that its result begins with,
and copies the name behind it when the byte is zero. -/
theorem conclude_readLocalName
    {block : List UInt8}
    (name : Buffer UInt8 nameSize)
    (result : Buffer UInt8 (1 + nameSize))
    (front : block[0]? = some nStatus) :
    (CHciRoundTrip.readLocalName name result).conclude block =
      some (nStatus.toUInt32,
        if nStatus = 0 then (block.drop 1).take nameSize
        else name.cells) := by
  simp only [CHciRoundTrip.readLocalName, front, Option.bind_eq_bind,
    Option.bind_some, ne_eq, ite_not]
  split
  · rename_i zero
    rw [zero]
    rfl
  · rfl

/-- A whole name is explained by the return parameters. -/
theorem explains_name
    {parameters : ReturnParameters}
    (numPackets : UInt8)
    (opCode : UInt16)
    (before : List UInt8) :
    CommandEvent.Explains (.complete numPackets opCode parameters) 1 before
      ((parameters.bytes.drop 1).take nameSize) := by
  intro index byte present
  right
  rw [List.getElem?_take] at present
  split at present
  · rw [List.getElem?_drop] at present
    exact present
  · cases present

/-- A wrapper for local names that takes a zero status has the whole name: the
last byte of a shorter one comes from the memory of the result. -/
theorem whole_of_concludes_readLocalName
    {parameters : ReturnParameters}
    (verdict : parameters.bytes.head? = some 0)
    (concludes : (CHciRoundTrip.readLocalName (.fill _ 0)
      (.fill _ 1)).Concludes (.complete numPackets opCode parameters) 0 1) :
    1 + nameSize ≤ parameters.bytes.length := by
  obtain ⟨-, result, concluded, explained⟩ :=
    concludes_complete_iff.mp concludes
  by_contra notWhole
  have short : parameters.bytes.length ≤ 248 :=
    Nat.le_of_lt_succ (Nat.lt_of_not_le notWhole)
  have copied := (conclude_readLocalName (.fill _ 0) (.fill _ 1)
    (head_overwritten verdict _)).symm.trans concluded
  rw [if_pos rfl, Option.some.injEq, Prod.mk.injEq] at copied
  have last : result[247]? = some 1 := by
    rw [← copied.2, List.getElem?_take_of_lt (by decide),
      List.getElem?_drop, getElem?_overwritten,
      if_neg (Nat.not_lt_of_le short)]
    rfl
  have missing : parameters.bytes[1 + 247]? = none :=
    List.getElem?_eq_none short
  rcases explained 247 1 last with unchanged | given
  · exact absurd unchanged (by decide)
  · rw [CommandEvent.parameters, missing] at given
    cases given

/-- The wrapper for local names takes Command Complete events that fit its
result, with the whole name if they bring one, and no Command Status event
whatever its result holds. -/
theorem forall_concludes_readLocalName_iff
    {event : CommandEvent}
    (verdict : event.verdict = some status) :
    (∀ name result, (CHciRoundTrip.readLocalName name result).Concludes
        event status 1) ↔
      ResultForm.localName.Accepts event status := by
  cases event with
  | complete numPackets opCode parameters =>
      rw [ResultForm.Accepts]
      constructor
      · intro concludes
        have fits :=
          (concludes_complete_iff.mp (concludes (.fill _ 0) (.fill _ 1))).1
        rw [CHciRoundTrip.readLocalName, Buffer.length_eq] at fits
        refine ⟨fits, ?_⟩
        intro zero
        rw [zero] at verdict concludes
        exact Nat.le_antisymm fits
          (whole_of_concludes_readLocalName verdict (concludes _ _))
      · rintro ⟨fits, whole⟩ name result
        rw [concludes_complete_iff]
        refine ⟨?_, _, conclude_readLocalName name result
          (head_overwritten verdict _), ?_⟩
        · rw [CHciRoundTrip.readLocalName, Buffer.length_eq]
          exact fits
        · split
          · rename_i zero
            have behind : (CHciRoundTrip.readLocalName name
                result).pResultBuffer.drop parameters.bytes.length = [] := by
              rw [whole zero]
              exact List.drop_of_length_le (Nat.le_of_eq result.length_eq)
            rw [behind, List.append_nil]
            exact explains_name _ _ _
          · exact fun index byte present => Or.inl present
  | status nStatus numPackets opCode =>
      rw [ResultForm.Accepts, iff_false]
      intro concludes
      obtain ⟨fits, result, concluded, -⟩ := concludes_status_iff.mp
        (concludes (.fill _ 0) (.fill _ (status + 1)))
      have front := first_of_status nStatus (status + 1) fits
      have returned := (conclude_readLocalName (.fill _ 0)
        (.fill _ (status + 1)) front).symm.trans concluded
      simp only [Option.some.injEq, Prod.mk.injEq,
        UInt8.toUInt32_inj] at returned
      exact succ_ne_self status returned.1

end SyncCommand

/-! ## The opcode that is sent -/

/-- The opcode stands first in a command. -/
theorem field16_buffer
    (opCode : UInt16)
    (parameterLength : UInt8)
    (parameters : List UInt8) :
    CommandQueue.field16
        (HciCommand.buffer opCode parameterLength parameters) 0 =
      some opCode :=
  CommandEvent.field16_append [] opCode (parameterLength :: parameters)

theorem HciCommand.opCode_of
    (opCode : UInt16)
    (parameters : List UInt8) :
    (HciCommand.of opCode parameters).opCode = some opCode :=
  field16_buffer opCode _ parameters

/-- The event filter is sent with its opcode, however long its condition. -/
theorem opCode_sendSetEventFilter
    {hciCommand : HciCommand}
    (built : CHci.sendSetEventFilter filterType filterConditionType condition
      conditionBytes = some hciCommand) :
    hciCommand.opCode = some cmdSetEventFilter := by
  unfold CHci.sendSetEventFilter at built
  split at built
  · rename_i enough
    obtain ⟨field, stored, sent⟩ := Option.bind_eq_some_iff.mp built
    have fits := Buffer.fits_of_store stored
    rw [List.length_take, Nat.min_eq_left enough, maxConditionSize] at fits
    have bounded : conditionBytes ≤ 7 := by
      rw [UInt8.le_iff_toNat_le]
      exact (Nat.le_add_left _ 0).trans fits
    have unused : 7 - conditionBytes ≤ 12 := by
      rw [UInt8.le_iff_toNat_le, UInt8.toNat_sub_of_le _ _ bounded]
      exact (Nat.sub_le _ _).trans (by decide)
    have size : 2 ≤ (12 - (7 - conditionBytes)).toNat := by
      rw [UInt8.toNat_sub_of_le _ _ unused,
        UInt8.toNat_sub_of_le _ _ bounded]
      change 2 ≤ 12 - (7 - conditionBytes.toNat)
      omega
    cases sent
    have header : (LittleEndian.encode 2 cmdSetEventFilter.toNat).take
        (12 - (7 - conditionBytes)).toNat =
          LittleEndian.encode 2 cmdSetEventFilter.toNat :=
      List.take_of_length_le size
    rw [HciCommand.opCode, HciCommand.buffer, List.take_append, header]
    exact CommandEvent.field16_append [] cmdSetEventFilter _
  · cases built

/-! ## The verdict -/

namespace Wrapper

/-- The command of a wrapper is sent, and the controller answers its opcode
with a status. -/
structure Answered
    (wrapper : Wrapper)
    (sender : Sender)
    (event : CommandEvent)
    (status : UInt8) : Prop where
  /-- The driver takes the command, which has the opcode of the event. -/
  sent : ∃ hciCommand, wrapper.command = some hciCommand ∧
    sender.sendHciCommand hciCommand.commandBuffer = errorSuccess ∧
    hciCommand.opCode = some event.opCode
  /-- The event brings the status. -/
  verdict : event.verdict = some status

/-- Whatever the memory for the result holds before, the wrapper returns the
status and writes nothing but return parameters to the result. -/
def ReportsVerdict
    (wrapper : Wrapper)
    (sender : Sender)
    (host : Host)
    (event : CommandEvent)
    (status : UInt8) : Prop :=
  ∀ memory uninitialised, (wrapper.sync memory uninitialised).Reports sender
    host event status wrapper.form.offset

/-- A wrapper queues the opcode that it sends, unless it reads the class of
device. -/
theorem nCommand_sync
    {wrapper : Wrapper}
    {hciCommand : HciCommand}
    (notMisqueued : wrapper.form ≠ .classOfDevice)
    (built : wrapper.command = some hciCommand)
    (opCode : hciCommand.opCode = some sent)
    (memory : Buffer UInt8 wrapper.form.size)
    (uninitialised : Buffer UInt8 (1 + nameSize)) :
    (wrapper.sync memory uninitialised).nCommand = sent := by
  apply Option.some.inj
  rw [← opCode]
  cases wrapper with
  | sendSetEventFilter => exact (opCode_sendSetEventFilter built).symm
  | readClassOfDevice => exact absurd rfl notMisqueued
  | readLocalName =>
      cases built
      exact (field16_buffer _ _ _).symm
  | _ =>
      cases built
      exact (HciCommand.opCode_of _ _).symm

/-- A wrapper concludes the status from an answer, whatever the memory for the
result holds, exactly when it expects the answer. -/
theorem forall_concludes_iff
    {event : CommandEvent}
    (wrapper : Wrapper)
    (notMisqueued : wrapper.form ≠ .classOfDevice)
    (verdict : event.verdict = some status) :
    (∀ memory uninitialised, (wrapper.sync memory uninitialised).Concludes
        event status wrapper.form.offset) ↔
      wrapper.form.Accepts event status := by
  have constant : ∀ {size} {concludes : Prop},
      (Buffer UInt8 size → Buffer UInt8 (1 + nameSize) → concludes) ↔
        concludes :=
    ⟨fun each => each (.fill _ 0) (.fill _ 0), fun always _ _ => always⟩
  have ofMemory : ∀ {size} {concludes : Buffer UInt8 size → Prop},
      (∀ memory, Buffer UInt8 (1 + nameSize) → concludes memory) ↔
        ∀ memory, concludes memory :=
    ⟨fun each memory => each memory (.fill _ 0),
      fun always memory _ => always memory⟩
  cases wrapper with
  | sendSetEventFilter | sendInquiryCancel | sendReset
  | sendWriteClassOfDevice =>
      exact constant.trans (SyncCommand.concludes_ofStatusByte_iff _ _ verdict)
  | sendInquiry | sendCreateConnection | sendDisconnect | sendSwitchRole
  | sendRemoteNameRequest =>
      exact constant.trans
        (SyncCommand.concludes_ofCommandStatus_iff _ _ verdict)
  | sendReadLocalVersionInformation | sendReadBDADDR | sendReadBufferSize =>
      exact ofMemory.trans
        (SyncCommand.forall_concludes_ofResult_iff _ _ _ verdict)
  | readClassOfDevice => exact absurd rfl notMisqueued
  | readLocalName =>
      exact SyncCommand.forall_concludes_readLocalName_iff verdict

/-- When the command of a wrapper is sent and one event answers its opcode with
a status, the wrapper reports the status exactly when the event reaches its slot
and is an answer that the wrapper expects. -/
theorem reportsVerdict_iff
    (wrapper : Wrapper)
    (sender : Sender)
    (host : Host)
    (event : CommandEvent)
    (status : UInt8)
    (answered : wrapper.Answered sender event status) :
    wrapper.ReportsVerdict sender host event status ↔
      host.Hears event.opCode event ∧
        wrapper.form.Accepts event status := by
  obtain ⟨hciCommand, built, sent, opCode⟩ := answered.sent
  have reports : ∀ memory uninitialised,
      (wrapper.sync memory uninitialised).Reports sender host event status
          wrapper.form.offset ↔
        host.Hears (wrapper.sync memory uninitialised).nCommand event ∧
          (wrapper.sync memory uninitialised).Concludes event status
            wrapper.form.offset :=
    fun memory uninitialised => SyncCommand.reports_iff
      ((wrapper.command_sync memory uninitialised).trans built)
      (HciCommand.send_eq_errorSuccess sent)
  by_cases misqueued : wrapper.form = .classOfDevice
  · have accepts : ¬ wrapper.form.Accepts event status := by
      rw [misqueued]
      exact id
    refine iff_of_false ?_ fun expected => accepts expected.2
    intro reported
    have heard := ((reports (.fill _ 0) (.fill _ 0)).mp
      (reported (.fill _ 0) (.fill _ 0))).1.opCode
    cases wrapper with
    | readClassOfDevice =>
        cases built
        have sentOpCode : some cmdReadClassOfDevice = some event.opCode :=
          (HciCommand.opCode_of _ _).symm.trans opCode
        rw [← Option.some.inj sentOpCode] at heard
        exact absurd heard (by decide)
    | _ => cases misqueued
  · have queues := nCommand_sync misqueued built opCode
    rw [← forall_concludes_iff wrapper misqueued answered.verdict]
    constructor
    · intro reported
      refine ⟨?_, fun memory uninitialised =>
        ((reports memory uninitialised).mp
          (reported memory uninitialised)).2⟩
      have heard := ((reports (.fill _ 0) (.fill _ 0)).mp
        (reported (.fill _ 0) (.fill _ 0))).1
      rw [queues] at heard
      exact heard
    · rintro ⟨hears, concludes⟩ memory uninitialised
      refine (reports memory uninitialised).mpr ⟨?_, concludes _ _⟩
      rw [queues]
      exact hears

/-- A driver that takes every command. -/
def willingSender : Sender where
  onListenerThread := false
  sendCommand _ := errorSuccess

/-- A `CHciLocal` that no command is queued at. -/
def idleHost : Host where
  queue := .create
  pending := none

theorem reportsVerdict_readBDADDR :
    Wrapper.sendReadBDADDR.ReportsVerdict willingSender idleHost
      (.complete 1 0x1009 CommandQueue.addressParameters) 0 := by
  refine (reportsVerdict_iff _ _ _ _ _ {
    sent := ⟨CHci.sendReadBDADDR, rfl, rfl, by decide⟩
    verdict := rfl }).mpr ⟨{
      opCode := rfl
      notPending := fun _ waiting => nomatch waiting
      unrivalled := ⟨⟨0, by decide⟩, rfl,
        fun earlier before => absurd before (Nat.not_lt_zero _)⟩ }, ?_⟩
  exact Nat.le_refl 7

/-- The error of a Command Status event is written into the address that
`SendReadBDADDR` reads, and success is returned; `SendReset` waits for ever. -/
theorem not_reportsVerdict_commandDisallowed :
    Wrapper.sendReadBDADDR.Answered willingSender (.status 0x0c 1 0x1009)
        0x0c ∧
      ((Wrapper.sendReadBDADDR.sync (.fill _ 0) (.fill _ 0)).run willingSender
        idleHost (CommandEvent.status 0x0c 1 0x1009).bytes).map Prod.fst =
          some (.returns errorSuccess [0, 0, 0x0c, 0, 0, 0, 0]) ∧
      ¬ Wrapper.sendReadBDADDR.ReportsVerdict willingSender idleHost
        (.status 0x0c 1 0x1009) 0x0c ∧
      Wrapper.sendReset.Answered willingSender (.status 0x0c 1 0x0c03) 0x0c ∧
      ((Wrapper.sendReset.sync (.fill _ 0) (.fill _ 0)).run willingSender
        idleHost (CommandEvent.status 0x0c 1 0x0c03).bytes).map Prod.fst =
          some .waits := by
  have ran : ((Wrapper.sendReadBDADDR.sync (.fill _ 0) (.fill _ 0)).run
      willingSender idleHost
      (CommandEvent.status 0x0c 1 0x1009).bytes).map Prod.fst =
        some (.returns errorSuccess [0, 0, 0x0c, 0, 0, 0, 0]) := by
    decide +kernel
  refine ⟨⟨⟨CHci.sendReadBDADDR, rfl, rfl, by decide⟩, rfl⟩, ran, ?_,
    ⟨⟨CHci.sendReset, rfl, rfl, by decide⟩, rfl⟩, by decide +kernel⟩
  intro reported
  obtain ⟨result, next, returned, -⟩ := reported (.fill _ 0) (.fill _ 0)
  rw [returned, Option.map_some, Option.some.injEq,
    Outcome.returns.injEq] at ran
  exact absurd ran.1 (by decide)

end Wrapper
end Hci
end BthEmul
