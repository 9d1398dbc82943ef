import BthEmul.Bridge.Results
import BthEmul.Device.PacketWrite
import BthEmul.Runtime.SendCommand

/-!
# From the Bluetooth stack to the adapter

The stack gives a packet to `HCI_WritePacket`, which writes it to the port with
one call of `BTE_Write`. The agent sends it to the desktop, where the plugin
gives it to the runtime and sends back what came of it; that is what
`BTE_Write`, and so `HCI_WritePacket`, returns. Everything else that goes on
between the desktop and the device may happen in between.
-/

namespace BthEmul

open Foundation Agent SerialPort Transport BthEmul.Runtime

namespace Bridge

/-! ## The machine -/

/-- A call of `SendHCICommand` by the plugin. -/
structure Sending where
  /-- The write whose bytes are sent. -/
  origin : Option WriteCall
  /-- The bytes. -/
  array : CArray
  /-- The devices of the runtime. -/
  table : DeviceTable
  /-- `devId`. -/
  devId : Int
  /-- The driver of the adapter. -/
  driver : Driver

/-- What the runtime answers. -/
def Sending.answer (sending : Sending) : ApiAnswer :=
  sending.table.exportSendHCICommand sending.driver sending.devId
    (some sending.array)

/-- The value returned to the plugin. -/
def Sending.ret (sending : Sending) : Int32 :=
  if sending.answer.bRet then 1 else 0

/-- What the plugin sees of the call. -/
def Sending.performance (sending : Sending) : Performance where
  bytes := sending.array.bytes
  ret := sending.ret
  lastWin32Error := sending.answer.lastError

/-- The bridge, the packets written and the calls of `SendHCICommand`. -/
structure OutboundState (cSize : Nat) where
  /-- The driver, the agent, the plugin and what is between them. -/
  bridge : State
  /-- The packet of each call of `BTE_Write`. -/
  packets : List (HciType × BdBuffer cSize)
  /-- The calls of `SendHCICommand` so far. -/
  sent : List Sending

/-- Nothing was written yet. -/
def startOutbound (cSize : Nat) (devId : Bool) : OutboundState cSize where
  bridge := start devId
  packets := []
  sent := []

/-- The stack writes a packet, the plugin calls the runtime, or one of the
parties makes progress. -/
inductive OutboundAction (cSize : Nat)
  | writePacket (active : Bool) (eType : HciType) (pBuff : BdBuffer cSize)
  | sendHCICommand
      (index : Nat)
      (table : DeviceTable)
      (devId : Int)
      (driver : Driver)
  | progress (action : Action)

/-- What the bridge shows, and what `HCI_WritePacket` returns if it does. -/
structure Output where
  /-- What the bridge shows. -/
  event : Event
  /-- What `HCI_WritePacket` returns. -/
  returned : Option Bool

/-- `WriteFile` over `BTE_Write`, which returns `-1` where it fails. -/
def writeOutcome : Except (Option UInt32) Nat → Outcome
  | .ok count => { succeeds := true, size := count }
  | .error _ => { succeeds := false, size := 0 }

/-- `HCI_WritePacket` up to `WriteFile`, which is asked for all bytes. -/
def writePacketBegin
    (state : OutboundState cSize)
    (active : Bool)
    (eType : HciType)
    (pBuff : BdBuffer cSize) : Option (Output × OutboundState cSize) :=
  if pBuff.Unsuitable ∨ ¬ active then some (⟨.silent, some false⟩, state)
  else do
    let typed ← pBuff.putType eType
    let bytes ← typed.pBuffer.load typed.cStart typed.bufferTotal
    if length_lt : bytes.length < 2 ^ 32 then
      let (event, bridge) ← callWrite state.bridge { bytes, length_lt }
      some (⟨event, none⟩, {
        state with
        bridge := bridge
        packets := state.packets ++ [(eType, pBuff)] })
    else none

/-- The rest of `HCI_WritePacket`, once `WriteFile` has returned. -/
def writePacketEnd
    (state : OutboundState cSize)
    (call : WriteCall)
    (result : Except (Option UInt32) Nat) : Option Bool := do
  let (eType, pBuff) ← state.packets[call.number]?
  let written ← hciWritePacket true eType pBuff [writeOutcome result]
  some written.returned

/-- `SendHCICommand` of `OnDeviceDataReceived`. -/
def callRuntime
    (state : OutboundState cSize)
    (index : Nat)
    (table : DeviceTable)
    (devId : Int)
    (driver : Driver) : Option (Output × OutboundState cSize) := do
  let task ← state.bridge.tasks[index]?
  match task.content with
  | .replying _ _ => none
  | .sending bytes _ =>
      if length_lt : bytes.length < 2 ^ 32 then
        let sending : Sending := {
          origin := task.origin
          array := { bytes, length_lt }
          table
          devId
          driver }
        let (event, bridge) ←
          performTask state.bridge index sending.ret sending.answer.lastError
        some (⟨event, none⟩, {
          state with
          bridge := bridge
          sent := state.sent ++ [sending] })
      else none

/-- Another action of the bridge. -/
def proceed
    (state : OutboundState cSize)
    (action : Action) : Option (Output × OutboundState cSize) := do
  let (event, bridge) ← step state.bridge action
  match event.ended with
  | none => some (⟨event, none⟩, { state with bridge := bridge })
  | some (call, result) =>
      let returned ← writePacketEnd state call result
      some (⟨event, some returned⟩, { state with bridge := bridge })

/-- What an action shows and leaves behind. The port is written by
`HCI_WritePacket`, and the runtime is the one that answers. -/
def outboundStep
    (state : OutboundState cSize) :
    OutboundAction cSize → Option (Output × OutboundState cSize)
  | .writePacket active eType pBuff =>
      writePacketBegin state active eType pBuff
  | .sendHCICommand index table devId driver =>
      callRuntime state index table devId driver
  | .progress (.callWrite _) => none
  | .progress (.performTask _ _ _) => none
  | .progress action => proceed state action

end Bridge

/-- The way of the packets to the adapter under successive actions. -/
def outboundMachine (cSize : Nat) :
    Machine (Bridge.OutboundState cSize) (Bridge.OutboundAction cSize)
      Bridge.Output where
  step := Bridge.outboundStep

namespace Bridge

/-! ## The property -/

/-- The writes whose bytes were given to the runtime. -/
def sentCalls (sent : List Sending) : List WriteCall :=
  sent.filterMap Sending.origin

/-- A call of `BTE_Write` has ended, and `HCI_WritePacket` returned a value. -/
def Ends (outputs : List Output) (call : WriteCall) (value : Bool) : Prop :=
  ∃ output ∈ outputs, ∃ result,
    output.event.ended = some (call, result) ∧ output.returned = some value

/-- The bytes of a write are a packet behind its type. -/
def WritesPacketOf
    (packets : List (HciType × BdBuffer cSize))
    (call : WriteCall) : Prop :=
  ∃ eType pBuff content,
    packets[call.number]? = some (eType, pBuff) ∧
      ¬ pBuff.Unsuitable ∧ pBuff.Holds content ∧
      call.array.bytes = eType.code :: content

/-- The packets of the stack get to the adapter. -/
structure PacketsSent
    (outputs : List Output)
    (final : OutboundState cSize) : Prop where
  /-- What the runtime is given is a packet behind its type. -/
  own : ∀ sending ∈ final.sent, ∃ call,
    sending.origin = some call ∧
      sending.array.bytes = call.array.bytes ∧
      WritesPacketOf final.packets call
  /-- No packet is given to the runtime twice. -/
  once : ∀ call, (sentCalls final.sent).count call ≤ 1
  /-- `HCI_WritePacket` returns true only where the runtime did. -/
  sent : ∀ call, Ends outputs call true →
    ∃ sending ∈ final.sent,
      sending.origin = some call ∧ sending.answer.bRet = true
  /-- Where `HCI_WritePacket` returns false, the runtime did not return
  true. -/
  failed : ∀ call, Ends outputs call false →
    ∀ sending ∈ final.sent, sending.origin = some call →
      sending.answer.bRet = false
  /-- Where the runtime returns true, the driver took the packet as a whole, in
  one request of its kind. -/
  accepted : ∀ sending ∈ final.sent, sending.answer.bRet = true →
    ∃ hciType content request,
      sending.array.bytes = hciType :: content ∧
        forwardedAs hciType content = some request ∧
        sending.answer.submitted = [request] ∧
        sending.driver.Accepts request

/-! ## The conditions -/

/-- The driver does not report a shortened write of data as successful. -/
def TakesWhole (driver : Driver) : Prop :=
  ∀ bytes count, driver.completes (.writeFile bytes) = some count →
    count = bytes.length

/-- Packets are in their buffers and of a size the bridge carries behind their
type, and the driver tells how much it took. -/
def OutboundAction.Regular : OutboundAction cSize → Prop
  | .writePacket _ _ pBuff =>
      ∃ content, pBuff.Holds content ∧ content.length < payloadLimit
  | .sendHCICommand _ _ _ driver => TakesWhole driver
  | .progress _ => True

/-- One packet is written at a time and not across a close of the queues, and
the transport takes what it is given. -/
def OutboundAction.Conforms
    (state : OutboundState cSize) : OutboundAction cSize → Prop
  | .progress action => Bridge.Conforms state.bridge action
  | .writePacket _ _ _ | .sendHCICommand _ _ _ _ => True

instance (state : OutboundState cSize) :
    (action : OutboundAction cSize) → Decidable (action.Conforms state)
  | .progress action => decidableConforms state.bridge action
  | .writePacket _ _ _ | .sendHCICommand _ _ _ _ => isTrue trivial

/-! ## The invariant -/

/-- The writes that have ended. -/
def endedCalls (outputs : List Output) : List WriteCall :=
  outputs.filterMap fun output => output.event.ended.map Prod.fst

/-- What `HCI_WritePacket` returns is what the runtime returned, if it was
called. -/
def Verdict (sent : List Sending) (call : WriteCall) (value : Bool) : Prop :=
  (∃ sending ∈ sent, sending.origin = some call ∧ sending.answer.bRet = true) ↔
    value = true

/-- The bytes of a packet were given to a driver that tells how much it
took. -/
def Own
    (packets : List (HciType × BdBuffer cSize))
    (sending : Sending) : Prop :=
  TakesWhole sending.driver ∧ ∃ call,
    sending.origin = some call ∧
      sending.array.bytes = call.array.bytes ∧ WritesPacketOf packets call

/-- What holds between any two actions. -/
structure Outgoing
    (outputs : List Output)
    (state : OutboundState cSize) : Prop where
  owes : Owes (outputs.map Output.event) state.bridge
  /-- Every call of `BTE_Write` has a packet. -/
  packets : state.packets.length = state.bridge.calls
  known : ∀ call ∈ Tagged.origins state.bridge.sending ++ state.bridge.waiting,
    WritesPacketOf state.packets call
  own : ∀ sending ∈ state.sent, Own state.packets sending
  /-- The results on their way are those of the runtime. -/
  backed : ∀ origin performance, Carried state.bridge origin performance →
    ∃ sending ∈ state.sent,
      sending.origin = origin ∧ sending.performance = performance
  /-- The plugin has the results it has not sent back. -/
  counted : ∀ call, (sentCalls state.sent).count call =
    (answers (outputs.map Output.event)).count call +
      (replyingCalls state.bridge.tasks).count call
  /-- Every call has ended or is in progress, once. -/
  distinct : ∀ call,
    (endedCalls outputs).count call +
        (Tagged.origins state.bridge.sending ++
          state.bridge.waiting).count call ≤
      if call.number < state.bridge.calls then 1 else 0
  verdict : ∀ call value, Ends outputs call value →
    Verdict state.sent call value

theorem outgoing_start (cSize : Nat) (devId : Bool) :
    Outgoing [] (startOutbound cSize devId) where
  owes := owes_start devId
  packets := rfl
  known _ member := by cases member
  own _ member := by cases member
  backed := by
    rintro _ _ (⟨_, member, -⟩ | ⟨_, member, -⟩ | ⟨_, member, -⟩)
    all_goals cases member
  counted _ := rfl
  distinct _ := Nat.zero_le _
  verdict := by
    rintro _ _ ⟨_, member, -⟩
    cases member

/-- A packet stays that of its call. -/
theorem WritesPacketOf.append
    {packets : List (HciType × BdBuffer cSize)}
    (writes : WritesPacketOf packets call)
    (later : List (HciType × BdBuffer cSize)) :
    WritesPacketOf (packets ++ later) call := by
  obtain ⟨eType, pBuff, content, found, suitable, holds, bytes⟩ := writes
  refine ⟨eType, pBuff, content, ?_, suitable, holds, bytes⟩
  rw [List.getElem?_append_left]
  · exact found
  · exact (List.getElem?_eq_some_iff.mp found).1

theorem Own.append
    {packets : List (HciType × BdBuffer cSize)}
    {sending : Sending}
    (own : Own packets sending)
    (later : List (HciType × BdBuffer cSize)) :
    Own (packets ++ later) sending := by
  obtain ⟨takes, call, origin, bytes, writes⟩ := own
  exact ⟨takes, call, origin, bytes, writes.append later⟩

/-! ## Once -/

/-- The tasks with a result are among all tasks. -/
theorem count_replyingCalls_le
    (tasks : List (Tagged WriteCall Task))
    (call : WriteCall) :
    (replyingCalls tasks).count call ≤ (Tagged.origins tasks).count call := by
  induction tasks with
  | nil => exact Nat.le_refl _
  | cons task rest inductionHypothesis =>
      obtain ⟨content, origin⟩ := task
      cases content with
      | sending bytes parameters =>
          rw [Tagged.origins_cons, List.count_append]
          exact Nat.le_trans inductionHypothesis (Nat.le_add_left _ _)
      | replying performance parameters =>
          have first : replyingCalls
              (⟨.replying performance parameters, origin⟩ :: rest) =
                origin.toList ++ replyingCalls rest := by
            cases origin with
            | none => rfl
            | some call => rfl
          rw [first, Tagged.origins_cons, List.count_append,
            List.count_append]
          exact Nat.add_le_add_left inductionHypothesis _

/-- A packet was given to the runtime only if its write waits or has
returned. -/
theorem Outgoing.count_sent_le
    {state : OutboundState cSize}
    (outgoing : Outgoing outputs state)
    (call : WriteCall) :
    (sentCalls state.sent).count call ≤
      (returns (outputs.map Output.event)).count call +
        state.bridge.waiting.count call := by
  have counted := outgoing.counted call
  have answered := outgoing.owes.answered call
  have conserved := outgoing.owes.conserved call
  have replying := count_replyingCalls_le state.bridge.tasks call
  rw [State.count_owed] at conserved
  omega

theorem Outgoing.count_sent_le_one
    {state : OutboundState cSize}
    (outgoing : Outgoing outputs state)
    (call : WriteCall) : (sentCalls state.sent).count call ≤ 1 := by
  have sent := outgoing.count_sent_le call
  have distinct := outgoing.owes.distinct call
  split at distinct <;> omega

theorem sentCalls_cons (sending : Sending) (rest : List Sending) :
    sentCalls (sending :: rest) = sending.origin.toList ++ sentCalls rest := by
  rw [sentCalls, List.filterMap_cons]
  cases sending.origin with
  | none => rfl
  | some call => rfl

theorem count_sentCalls_pos
    {sent : List Sending}
    (member : sending ∈ sent)
    (origin : sending.origin = some call) :
    0 < (sentCalls sent).count call :=
  List.count_pos_iff.mpr (List.mem_filterMap.mpr ⟨sending, member, origin⟩)

/-- What was sent once was sent in one call. -/
theorem eq_of_count_le_one
    {sent : List Sending}
    (once : (sentCalls sent).count call ≤ 1)
    (first : early ∈ sent)
    (firstOrigin : early.origin = some call)
    (second : late ∈ sent)
    (secondOrigin : late.origin = some call) : early = late := by
  induction sent with
  | nil => cases first
  | cons sending rest inductionHypothesis =>
      rw [sentCalls_cons, List.count_append] at once
      rcases List.mem_cons.mp first with rfl | firstLater
      · rcases List.mem_cons.mp second with rfl | secondLater
        · rfl
        · have more := count_sentCalls_pos secondLater secondOrigin
          rw [firstOrigin, Option.toList_some, List.count_singleton_self]
            at once
          omega
      · rcases List.mem_cons.mp second with rfl | secondLater
        · have more := count_sentCalls_pos firstLater firstOrigin
          rw [secondOrigin, Option.toList_some, List.count_singleton_self]
            at once
          omega
        · exact inductionHypothesis (by omega) firstLater secondLater

/-! ## What the runtime says -/

/-- The runtime sets an error code where it returns false. -/
theorem lastError_ne_of_failed
    (table : DeviceTable)
    (driver : Driver)
    (devId : Int)
    (pCmdBuffer : Option CArray)
    (failed : (table.exportSendHCICommand driver devId pCmdBuffer).bRet =
      false) :
    (table.exportSendHCICommand driver devId pCmdBuffer).lastError ≠
      Hci.errorSuccess := by
  have invalid : errorInvalidParameter ≠ Hci.errorSuccess := by decide
  unfold DeviceTable.exportSendHCICommand at failed ⊢
  cases device : slot devId with
  | none => exact invalid
  | some index =>
      rw [device] at failed
      dsimp only at failed ⊢
      split
      · rename_i bthHw bthHci hardware opened
        rw [hardware, opened] at failed
        exact of_decide_eq_false failed
      · exact invalid

/-- The code that the plugin sends back is zero where the runtime returned
true. -/
theorem Sending.lastError_eq_zero_iff (sending : Sending) :
    sending.performance.lastError = 0 ↔ sending.answer.bRet = true := by
  have failure : sending.answer.bRet = false →
      sending.answer.lastError ≠ Hci.errorSuccess :=
    lastError_ne_of_failed sending.table sending.driver sending.devId
      (some sending.array)
  rw [Performance.lastError, Sending.performance, Sending.ret]
  cases returned : sending.answer.bRet with
  | true => simp
  | false =>
      rw [if_neg Bool.false_ne_true, if_pos rfl]
      exact iff_of_false (failure returned) Bool.false_ne_true

/-- `BTE_Write` returns the number of bytes where the runtime returned true,
and fails otherwise. -/
theorem remoteResult_of_sending
    (sending : Sending)
    (dwCount : Nat) :
    (sending.answer.bRet = true ∧
        remoteResult dwCount (some sending.performance.lastError) =
          .ok dwCount) ∨
      (sending.answer.bRet = false ∧
        ∃ error, remoteResult dwCount (some sending.performance.lastError) =
          .error error) := by
  have code := sending.lastError_eq_zero_iff
  unfold remoteResult
  cases returned : sending.answer.bRet with
  | true =>
      rw [returned] at code
      exact .inl ⟨rfl, if_pos (code.mpr rfl)⟩
  | false =>
      rw [returned] at code
      exact .inr ⟨rfl, _, if_neg fun zero => Bool.false_ne_true (code.mp zero)⟩

/-! ## The end of a write -/

/-- `HCI_WritePacket` returns true where `BTE_Write` took all bytes. -/
theorem writePacketEnd_ok
    {state : OutboundState cSize}
    (writes : WritesPacketOf state.packets call) :
    writePacketEnd state call (.ok call.array.length) = some true := by
  obtain ⟨eType, pBuff, content, found, suitable, holds, bytes⟩ := writes
  have takes : content.length < call.array.length := by
    rw [CArray.length, bytes, List.length_cons]
    exact Nat.lt_succ_self _
  obtain ⟨result, wrote, returned⟩ :=
    exists_hciWritePacket_of_whole holds suitable eType
      (show content.length < (writeOutcome (.ok call.array.length)).size
        from takes)
  simp only [writePacketEnd, found, wrote, returned, Option.bind_eq_bind,
    Option.bind_some]

/-- `HCI_WritePacket` returns false where `BTE_Write` fails. -/
theorem writePacketEnd_error
    {state : OutboundState cSize}
    (writes : WritesPacketOf state.packets call)
    (error : Option UInt32) :
    writePacketEnd state call (.error error) = some false := by
  obtain ⟨eType, pBuff, content, found, suitable, holds, bytes⟩ := writes
  obtain ⟨result, wrote, returned⟩ :=
    exists_hciWritePacket_of_refusal holds suitable eType
  simp only [writePacketEnd, found, writeOutcome, wrote, returned,
    Option.bind_eq_bind, Option.bind_some]

/-- What another action of the bridge shows. -/
theorem proceed_cases
    {state next : OutboundState cSize}
    (stepped : proceed state action = some (output, next)) :
    ∃ bridge,
      step state.bridge action = some (output.event, bridge) ∧
        next = { state with bridge := bridge } ∧
        ∀ call result, output.event.ended = some (call, result) →
          writePacketEnd state call result = output.returned := by
  simp only [proceed, Option.bind_eq_bind, Option.bind_eq_some_iff,
    Prod.exists] at stepped
  obtain ⟨event, bridge, moved, stepped⟩ := stepped
  cases ended : event.ended with
  | none =>
      rw [ended] at stepped
      cases stepped
      refine ⟨bridge, moved, rfl, ?_⟩
      intro call result here
      rw [ended] at here
      cases here
  | some last =>
      obtain ⟨call, result⟩ := last
      rw [ended] at stepped
      simp only [Option.bind_eq_some_iff, Option.some.injEq,
        Prod.mk.injEq] at stepped
      obtain ⟨returned, wrote, rfl, rfl⟩ := stepped
      refine ⟨bridge, moved, rfl, ?_⟩
      intro other result' here
      rw [ended] at here
      cases here
      exact wrote

/-! ## Outputs -/

theorem answers_concat (events : List Event) (event : Event) :
    answers (events ++ [event]) = answers events ++ event.answeredCall.toList := by
  rw [answers, answers, List.filterMap_append]
  cases answered : event.answeredCall with
  | none => simp [answered]
  | some call => simp [answered]

theorem endedCalls_concat (outputs : List Output) (output : Output) :
    endedCalls (outputs ++ [output]) =
      endedCalls outputs ++ (output.event.ended.map Prod.fst).toList := by
  rw [endedCalls, endedCalls, List.filterMap_append]
  cases ended : output.event.ended with
  | none => simp [ended]
  | some last => simp [ended]

/-- A write has ended before or does so now. -/
theorem ends_concat
    (ends : Ends (outputs ++ [output]) call value) :
    Ends outputs call value ∨ ∃ result,
      output.event.ended = some (call, result) ∧
        output.returned = some value := by
  obtain ⟨each, member, result, ended, returned⟩ := ends
  rcases List.mem_append.mp member with earlier | last
  · exact .inl ⟨each, earlier, result, ended, returned⟩
  · cases List.mem_singleton.mp last
    exact .inr ⟨result, ended, returned⟩

/-- Where no write ends, those that have ended are the same. -/
theorem ends_of_silent
    (ends : Ends (outputs ++ [output]) call value)
    (noEnd : output.event.ended = none) : Ends outputs call value := by
  rcases ends_concat ends with earlier | ⟨result, ended, -⟩
  · exact earlier
  · rw [noEnd] at ended
    cases ended

/-! ## The rest of the bridge -/

/-- A write that ends was in progress. -/
theorem Passes.mem_writes
    (passes : Passes state event next)
    (ended : event.ended = some (call, result)) :
    call ∈ Tagged.origins state.sending ++ state.waiting := by
  apply passes.writes.mem_iff.mp
  rw [ended]
  exact List.mem_cons_self

/-- The write that ends with a report returns what the runtime has. -/
theorem Outgoing.verdict_of_returned
    {state : OutboundState cSize}
    (outgoing : Outgoing outputs state)
    (writes : WritesPacketOf state.packets call)
    (own : OwnReply call report result)
    (reported : state.bridge.errorQueue = some report)
    (returned : writePacketEnd state call result = some value) :
    Verdict state.sent call value := by
  obtain ⟨performance, origin, content, -, rfl⟩ := own
  have carried : Carried state.bridge (some call) performance := by
    refine .inr (.inr ⟨report, ?_, origin, ?_⟩)
    · rw [reported]
      exact List.mem_cons_self
    · rw [content]
  obtain ⟨sending, member, sendingOrigin, rfl⟩ := outgoing.backed _ _ carried
  rcases remoteResult_of_sending sending call.array.length with
    ⟨succeeded, result⟩ | ⟨failed, error, result⟩
  · rw [result, writePacketEnd_ok writes, Option.some.injEq] at returned
    subst returned
    exact iff_of_true ⟨sending, member, sendingOrigin, succeeded⟩ rfl
  · rw [result, writePacketEnd_error writes, Option.some.injEq] at returned
    subst returned
    refine iff_of_false ?_ Bool.false_ne_true
    rintro ⟨other, otherMember, otherOrigin, succeeded⟩
    have same := eq_of_count_le_one (outgoing.count_sent_le_one call)
      member sendingOrigin otherMember otherOrigin
    rw [same, succeeded] at failed
    cases failed

/-- A write that ends since the driver has closed its queues was not given to
the runtime. -/
theorem Outgoing.verdict_of_failed
    {state : OutboundState cSize}
    (outgoing : Outgoing outputs state)
    (writes : WritesPacketOf state.packets call)
    (inProgress : call ∈
      Tagged.origins state.bridge.sending ++ state.bridge.waiting)
    (closed : ¬ state.bridge.driverOpen)
    (returned : writePacketEnd state call (.error none) = some value) :
    Verdict state.sent call value := by
  rw [writePacketEnd_error writes, Option.some.injEq] at returned
  subst returned
  have noneWaits : state.bridge.waiting = [] := by
    by_contra waits
    exact closed (outgoing.owes.isOpen waits).1
  refine iff_of_false ?_ Bool.false_ne_true
  rintro ⟨sending, member, origin, -⟩
  have sent := count_sentCalls_pos member origin
  have returnedOrWaits := outgoing.count_sent_le call
  have distinct := outgoing.owes.distinct call
  have present := List.count_pos_iff.mpr inProgress
  rw [List.count_append] at present
  rw [noneWaits, List.count_nil] at returnedOrWaits distinct present
  split at distinct <;> omega

/-- The other actions of the bridge keep the invariant. -/
theorem Outgoing.proceed
    {state next : OutboundState cSize}
    (outgoing : Outgoing outputs state)
    (notWrite : ∀ array, action ≠ .callWrite array)
    (notRuntime : ∀ index ret lastWin32Error,
      action ≠ .performTask index ret lastWin32Error)
    (conforms : Bridge.Conforms state.bridge action)
    (stepped : proceed state action = some (output, next)) :
    Outgoing (outputs ++ [output]) next := by
  obtain ⟨bridge, moved, rfl, ends⟩ := proceed_cases stepped
  have passes := passes_of_step notWrite notRuntime conforms moved
  have owes := outgoing.owes.step conforms moved
  refine {
    owes := ?_
    packets := ?_
    known := ?_
    own := outgoing.own
    backed := ?_
    counted := ?_
    distinct := ?_
    verdict := ?_ }
  · rw [List.map_append]
    exact owes
  · dsimp only
    rw [passes.calls]
    exact outgoing.packets
  · intro call inProgress
    apply outgoing.known
    exact passes.writes.mem_iff.mp (List.mem_append_right _ inProgress)
  · intro origin performance carried
    exact outgoing.backed _ _ (passes.carried _ _ carried)
  · intro call
    have before := outgoing.counted call
    have replies := passes.replies.count_eq call
    rw [List.count_append] at replies
    rw [List.map_append, List.map_singleton, answers_concat,
      List.count_append]
    dsimp only
    omega
  · intro call
    have before := outgoing.distinct call
    have writes := passes.writes.count_eq call
    rw [List.count_append] at writes
    rw [endedCalls_concat, List.count_append]
    dsimp only
    rw [passes.calls]
    omega
  · intro call value ended
    rcases ends_concat ended with earlier | ⟨result, ended, returned⟩
    · exact outgoing.verdict call value earlier
    have inProgress := passes.mem_writes ended
    have writes := outgoing.known call inProgress
    rw [← ends call result ended] at returned
    rcases passes.ends call result ended with
      ⟨report, shown, reported⟩ | ⟨-, rfl, closed⟩
    · have own := owes.ownReply call report result
        (List.mem_append_right _ (List.mem_singleton.mpr shown.symm))
      exact outgoing.verdict_of_returned writes own reported returned
    · exact outgoing.verdict_of_failed writes inProgress closed returned

/-! ## The runtime -/

/-- What the plugin gives to the runtime, and what that leaves behind. -/
theorem callRuntime_cases
    {state next : OutboundState cSize}
    (stepped : callRuntime state index table devId driver =
      some (output, next)) :
    ∃ bytes rest origin tasks sending,
      pick state.bridge.tasks index =
          some (⟨.sending bytes rest, origin⟩, tasks) ∧
        sending.origin = origin ∧ sending.array.bytes = bytes ∧
        sending.driver = driver ∧
        performTask state.bridge index sending.ret sending.answer.lastError =
          some (.silent, next.bridge) ∧
        next = {
          state with
          bridge := {
            state.bridge with
            tasks := tasks ++
              [⟨.replying sending.performance rest, origin⟩] }
          sent := state.sent ++ [sending] } ∧
        output.event = .silent := by
  simp only [callRuntime, Option.bind_eq_bind, Option.bind_eq_some_iff]
    at stepped
  obtain ⟨⟨content, origin⟩, found, stepped⟩ := stepped
  cases content with
  | replying performance rest => cases stepped
  | sending bytes rest =>
      by_cases length_lt : bytes.length < 2 ^ 32
      · simp only [dif_pos length_lt, Option.bind_eq_some_iff,
          Prod.exists] at stepped
        obtain ⟨event, bridge, performed, stepped⟩ := stepped
        cases stepped
        have picked : pick state.bridge.tasks index =
            some (⟨.sending bytes rest, origin⟩,
              state.bridge.tasks.eraseIdx index) :=
          pick_eq_some_iff.mpr ⟨found, rfl⟩
        have shown := performed
        simp only [performTask, picked, Option.bind_eq_bind,
          Option.bind_some, Option.some.injEq, Prod.mk.injEq] at shown
        obtain ⟨rfl, rfl⟩ := shown
        exact ⟨bytes, rest, origin, _, _, picked, rfl, rfl, rfl, performed,
          rfl, rfl⟩
      · simp only [dif_neg length_lt] at stepped
        cases stepped

/-- Taking out a task without a result leaves the results. -/
theorem replyingCalls_of_pick
    {tasks rest : List (Tagged WriteCall Task)}
    (picked : pick tasks index =
      some (⟨.sending bytes parameters, origin⟩, rest)) :
    (replyingCalls tasks).Perm (replyingCalls rest) :=
  (perm_of_pick picked).filterMap
    fun task : Tagged WriteCall Task =>
      task.content.performance.bind fun _ => task.origin

/-- A write that waits has not ended. -/
theorem Outgoing.not_ended_of_waiting
    {state : OutboundState cSize}
    (outgoing : Outgoing outputs state)
    (waits : call ∈ state.bridge.waiting) :
    ¬ Ends outputs call value := by
  rintro ⟨output, member, result, ended, -⟩
  have present : call ∈ endedCalls outputs := by
    apply List.mem_filterMap.mpr
    exact ⟨output, member, by rw [ended]; rfl⟩
  have distinct := outgoing.distinct call
  have ends := List.count_pos_iff.mpr present
  have waiting := List.count_pos_iff.mpr waits
  rw [List.count_append] at distinct
  split at distinct <;> omega

/-- A call of the runtime keeps the invariant. -/
theorem Outgoing.callRuntime
    {state next : OutboundState cSize}
    (outgoing : Outgoing outputs state)
    (takes : TakesWhole driver)
    (stepped : callRuntime state index table devId driver =
      some (output, next)) :
    Outgoing (outputs ++ [output]) next := by
  obtain ⟨bytes, rest, origin, tasks, sending, picked, sendingOrigin,
    sendingBytes, rfl, performed, rfl, silent⟩ := callRuntime_cases stepped
  have noEnd : output.event.ended = none := by rw [silent]; rfl
  have present : ⟨.sending bytes rest, origin⟩ ∈ state.bridge.tasks :=
    (perm_of_pick picked).mem_iff.mpr List.mem_cons_self
  obtain ⟨call, rfl, content⟩ :
      ∃ call, origin = some call ∧ bytes = call.array.bytes := by
    obtain ⟨call, same, content | ⟨_, -, content⟩⟩ :=
      outgoing.owes.tasks _ present
    · exact ⟨call, same, (Task.sending.inj content).1⟩
    · cases content
  have waits : call ∈ state.bridge.waiting := by
    apply outgoing.owes.mem_waiting
    have among : call ∈ Tagged.origins state.bridge.tasks :=
      List.mem_filterMap.mpr ⟨_, present, rfl⟩
    simp [State.owed, among]
  have owes := outgoing.owes.performTask performed
  refine {
    owes := ?_
    packets := outgoing.packets
    known := outgoing.known
    own := ?_
    backed := ?_
    counted := ?_
    distinct := ?_
    verdict := ?_ }
  · rw [List.map_append, List.map_singleton, silent]
    exact owes
  · apply forall_mem_concat outgoing.own
    refine ⟨takes, call, sendingOrigin, ?_, ?_⟩
    · rw [sendingBytes, content]
    · exact outgoing.known call (List.mem_append_right _ waits)
  · rintro other performance (⟨task, member, same, here⟩ | later)
    · rcases List.mem_append.mp member with earlier | new
      · have carried : Carried state.bridge other performance :=
          .inl ⟨task, subset_of_pick picked earlier, same, here⟩
        obtain ⟨each, sent, found⟩ := outgoing.backed _ _ carried
        exact ⟨each, List.mem_append_left _ sent, found⟩
      · cases List.mem_singleton.mp new
        cases same
        cases here
        exact ⟨sending, List.mem_append_right _ (List.mem_singleton_self _),
          sendingOrigin, rfl⟩
    · obtain ⟨each, sent, found⟩ := outgoing.backed _ _ (.inr later)
      exact ⟨each, List.mem_append_left _ sent, found⟩
  · intro other
    have before := outgoing.counted other
    have same := (replyingCalls_of_pick picked).count_eq other
    have sent : sentCalls (state.sent ++ [sending]) =
        sentCalls state.sent ++ [call] := by
      simp [sentCalls, sendingOrigin]
    have replying : replyingCalls
        (tasks ++ [⟨.replying sending.performance rest, some call⟩]) =
          replyingCalls tasks ++ [call] := by
      simp [replyingCalls, Task.performance]
    have quiet : answers ((outputs ++ [output]).map Output.event) =
        answers (outputs.map Output.event) := by
      rw [List.map_append, List.map_singleton, answers_concat, silent]
      exact List.append_nil _
    rw [sent, replying, quiet, List.count_append, List.count_append]
    omega
  · intro other
    rw [endedCalls_concat, noEnd]
    simpa using outgoing.distinct other
  · intro other value ended
    have earlier := ends_of_silent ended noEnd
    refine Iff.trans ?_ (outgoing.verdict other value earlier)
    constructor
    · rintro ⟨each, member, same, succeeded⟩
      rcases List.mem_append.mp member with sent | new
      · exact ⟨each, sent, same, succeeded⟩
      · -- the write that is sent waits, so it has not ended
        cases List.mem_singleton.mp new
        rw [sendingOrigin, Option.some.injEq] at same
        subst same
        exact absurd earlier (outgoing.not_ended_of_waiting waits)
    · rintro ⟨each, sent, found⟩
      exact ⟨each, List.mem_append_left _ sent, found⟩

/-! ## The stack -/

/-- An output that only says that a packet was refused. -/
theorem Outgoing.quiet
    {state : OutboundState cSize}
    (outgoing : Outgoing outputs state)
    (silent : output.event = .silent) :
    Outgoing (outputs ++ [output]) state := by
  have noEnd : output.event.ended = none := by rw [silent]; rfl
  have noAnswer : output.event.answeredCall = none := by rw [silent]; rfl
  have noReturn : output.event.returnedCall = none := by rw [silent]; rfl
  refine {
    outgoing with
    owes := ?_
    counted := ?_
    distinct := ?_
    verdict := ?_ }
  · rw [List.map_append]
    exact outgoing.owes.quiet noAnswer noReturn
  · intro call
    rw [List.map_append, List.map_singleton, answers_concat, noAnswer]
    simpa using outgoing.counted call
  · intro call
    rw [endedCalls_concat, noEnd]
    simpa using outgoing.distinct call
  · intro call value ended
    exact outgoing.verdict call value (ends_of_silent ended noEnd)

/-- A suitable packet is written behind its type. -/
theorem writePacketBegin_cases
    {state next : OutboundState cSize}
    {pBuff : BdBuffer cSize}
    (holds : pBuff.Holds content)
    (stepped : writePacketBegin state active eType pBuff =
      some (output, next)) :
    (output.event = .silent ∧ next = state) ∨
      ∃ array : CArray,
        ¬ pBuff.Unsuitable ∧ array.bytes = eType.code :: content ∧
          callWrite state.bridge array = some (output.event, next.bridge) ∧
          next.packets = state.packets ++ [(eType, pBuff)] ∧
          next.sent = state.sent := by
  by_cases refused : pBuff.Unsuitable ∨ ¬ active
  · rw [writePacketBegin, if_pos refused] at stepped
    cases stepped
    exact .inl ⟨rfl, rfl⟩
  · have suitable := (not_or.mp refused).1
    obtain ⟨typed, put, typedHolds, -⟩ := holds.putType suitable eType
    have small := holds.small suitable eType
    rw [writePacketBegin, if_neg refused, put] at stepped
    simp only [Option.bind_eq_bind, Option.bind_some, typedHolds.loaded,
      dif_pos small, Option.bind_eq_some_iff, Prod.exists] at stepped
    obtain ⟨event, bridge, called, stepped⟩ := stepped
    cases stepped
    exact .inr ⟨_, suitable, rfl, called, rfl, rfl⟩

/-- What a call of `BTE_Write` leaves behind. -/
theorem callWrite_cases
    (called : callWrite state array = some (event, next)) :
    ∃ message,
      event = .called ⟨state.calls, array⟩ ∧
        next = {
          state with
          calls := state.calls + 1
          sending := state.sending ++
            [⟨message, some ⟨state.calls, array⟩⟩] } := by
  unfold callWrite at called
  split at called
  · simp only [Option.bind_eq_bind, Option.bind_eq_some_iff,
      Option.some.injEq, Prod.mk.injEq] at called
    obtain ⟨message, -, rfl, rfl⟩ := called
    exact ⟨message, rfl, rfl⟩
  · cases called

/-- The stack writes a packet. -/
theorem Outgoing.writePacketBegin
    {state next : OutboundState cSize}
    {pBuff : BdBuffer cSize}
    (outgoing : Outgoing outputs state)
    (holds : pBuff.Holds content)
    (fits : content.length < payloadLimit)
    (stepped : writePacketBegin state active eType pBuff =
      some (output, next)) :
    Outgoing (outputs ++ [output]) next := by
  rcases writePacketBegin_cases holds stepped with
    ⟨silent, rfl⟩ | ⟨array, suitable, bytes, called, packets, sent⟩
  · exact outgoing.quiet silent
  obtain ⟨message, event, bridge⟩ := callWrite_cases called
  have noEnd : output.event.ended = none := by rw [event]; rfl
  have noAnswer : output.event.answeredCall = none := by rw [event]; rfl
  have sized : 0 < array.length ∧ array.length ≤ payloadLimit := by
    rw [CArray.length, bytes, List.length_cons]
    exact ⟨Nat.succ_pos _, fits⟩
  have owes := outgoing.owes.callWrite sized called
  have written : WritesPacketOf next.packets ⟨state.bridge.calls, array⟩ := by
    refine ⟨eType, pBuff, content, ?_, suitable, holds, bytes⟩
    rw [packets, ← outgoing.packets]
    exact List.getElem?_concat_length
  have more : Tagged.origins next.bridge.sending ++ next.bridge.waiting =
      Tagged.origins state.bridge.sending ++
        (⟨state.bridge.calls, array⟩ :: state.bridge.waiting) := by
    rw [bridge, Tagged.origins_append, List.append_assoc]
    rfl
  refine {
    owes := ?_
    packets := ?_
    known := ?_
    own := ?_
    backed := ?_
    counted := ?_
    distinct := ?_
    verdict := ?_ }
  · rw [List.map_append]
    exact owes
  · rw [packets, List.length_append, outgoing.packets, bridge]
    rfl
  · intro call inProgress
    rw [more, List.mem_append, List.mem_cons] at inProgress
    rcases inProgress with sends | rfl | waits
    · rw [packets]
      exact (outgoing.known call (List.mem_append_left _ sends)).append _
    · exact written
    · rw [packets]
      exact (outgoing.known call (List.mem_append_right _ waits)).append _
  · intro sending member
    rw [sent] at member
    rw [packets]
    exact (outgoing.own sending member).append _
  · intro origin performance carried
    rw [bridge] at carried
    rw [sent]
    exact outgoing.backed origin performance carried
  · intro call
    have before := outgoing.counted call
    rw [List.map_append, List.map_singleton, answers_concat, noAnswer, sent,
      bridge]
    simpa using before
  · intro call
    have before := outgoing.distinct call
    rw [endedCalls_concat, noEnd, more]
    have calls : next.bridge.calls = state.bridge.calls + 1 := by rw [bridge]
    rw [calls]
    simp only [Option.map_none, Option.toList_none, List.append_nil,
      List.count_append, List.count_cons, beq_iff_eq] at before ⊢
    -- the new call has a number that no call before it has
    by_cases isNew : ⟨state.bridge.calls, array⟩ = call
    · rw [← isNew] at before ⊢
      rw [if_neg (Nat.lt_irrefl _)] at before
      rw [if_pos rfl, if_pos (Nat.lt_succ_self _)]
      omega
    · rw [if_neg isNew]
      split at before <;> split <;> omega
  · intro call value ended
    rw [sent]
    exact outgoing.verdict call value (ends_of_silent ended noEnd)

/-! ## Runs -/

/-- Every action that conforms keeps the invariant. -/
theorem Outgoing.step
    {state next : OutboundState cSize}
    (outgoing : Outgoing outputs state)
    (regular : action.Regular)
    (conforms : action.Conforms state)
    (stepped : outboundStep state action = some (output, next)) :
    Outgoing (outputs ++ [output]) next := by
  cases action with
  | writePacket active eType pBuff =>
      obtain ⟨content, holds, fits⟩ := regular
      exact outgoing.writePacketBegin holds fits stepped
  | sendHCICommand index table devId driver =>
      exact outgoing.callRuntime regular stepped
  | progress action =>
      have notWrite : ∀ array, action ≠ .callWrite array := by
        rintro array rfl
        cases stepped
      have notRuntime : ∀ index ret lastWin32Error,
          action ≠ .performTask index ret lastWin32Error := by
        rintro index ret lastWin32Error rfl
        cases stepped
      have proceeds : Bridge.proceed state action = some (output, next) := by
        cases action with
        | callWrite array => exact absurd rfl (notWrite array)
        | performTask index ret lastWin32Error =>
            exact absurd rfl (notRuntime index ret lastWin32Error)
        | _ => exact stepped
      exact outgoing.proceed notWrite notRuntime conforms proceeds

/-- The type of a packet of the stack is one that the runtime knows. -/
theorem namesType_code (eType : HciType) : NamesType eType.code := by
  cases eType with
  | commandPacket => exact .inl rfl
  | dataPacketAcl => exact .inr (.inl rfl)
  | dataPacketSco => exact .inr (.inr (.inl rfl))
  | eventPacket => exact .inr (.inr (.inr rfl))

/-- A packet of the stack that the runtime reports as sent was taken by the
driver as a whole. -/
theorem Own.accepted
    {packets : List (HciType × BdBuffer cSize)}
    {sending : Sending}
    (own : Own packets sending)
    (succeeded : sending.answer.bRet = true) :
    ∃ hciType content request,
      sending.array.bytes = hciType :: content ∧
        forwardedAs hciType content = some request ∧
        sending.answer.submitted = [request] ∧
        sending.driver.Accepts request := by
  obtain ⟨takes, call, -, bytes, eType, -, content, -, -, -, typed⟩ := own
  rw [typed] at bytes
  have given : (some sending.array).map CArray.bytes =
      some (eType.code :: content) := congrArg some bytes
  rw [Sending.answer, DeviceTable.exportSendHCICommand] at succeeded ⊢
  split at succeeded
  · cases succeeded
  split at succeeded
  · rename_i bthHw bthHci hardware opened
    have sendable : Sendable bthHci.btHw sending.driver (some sending.array) :=
      (sendable_iff_of_bytes given).mpr
        ⟨namesType_code eType, fun _ _ => takes content⟩
    have means := (meansSent_sendHCICommand_iff bthHci sending.driver
      (some sending.array)).mpr sendable
    obtain ⟨hciType, rest, request, same, forwarded, submitted, accepts⟩ :=
      means.sent succeeded
    refine ⟨hciType, rest, request, Option.some.inj same, forwarded, ?_,
      accepts⟩
    simpa [hardware, opened] using submitted
  · cases succeeded

/-- The invariant gives what is to be shown. -/
theorem Outgoing.packetsSent
    {state : OutboundState cSize}
    (outgoing : Outgoing outputs state) : PacketsSent outputs state where
  own sending member := (outgoing.own sending member).2
  once := outgoing.count_sent_le_one
  sent call ends := (outgoing.verdict call true ends).mpr rfl
  failed call ends sending member origin := by
    apply Bool.eq_false_iff.mpr
    intro succeeded
    have returned := (outgoing.verdict call false ends).mp
      ⟨sending, member, origin, succeeded⟩
    exact Bool.false_ne_true returned
  accepted sending member := (outgoing.own sending member).accepted

/-- In every run of conforming actions, what the runtime is given are the
packets of the stack, each at most once, and `HCI_WritePacket` returns true
only of packets that the driver of the adapter took. -/
theorem packetsSent_of_run
    (devId : Bool)
    (actions : List (OutboundAction cSize))
    (outputs : List Output)
    (final : OutboundState cSize)
    (regular : ∀ action ∈ actions, action.Regular)
    (conforms : (outboundMachine cSize).Admits
      (fun state action => action.Conforms state)
      (startOutbound cSize devId) actions)
    (ran : (outboundMachine cSize).run (startOutbound cSize devId) actions =
      some (outputs, final)) :
    PacketsSent outputs final := by
  have static : (outboundMachine cSize).Admits
      (fun _ action => action.Regular) (startOutbound cSize devId) actions :=
    Machine.admits_of_forall_mem _ fun action member _ => regular action member
  have both := static.and conforms
  have outgoing := Machine.holds_of_run
    (fun history state => Outgoing (history.map Prod.snd) state)
    (fun history state action output next outgoing guarded stepped => by
      rw [List.map_append]
      exact outgoing.step guarded.1 guarded.2 stepped)
    [] (outgoing_start cSize devId) both ran
  rw [List.nil_append,
    List.map_snd_zip (Machine.length_of_run ran).le] at outgoing
  exact outgoing.packetsSent

/-! ## A run -/

/-- The actions from a call of `HCI_WritePacket` until it returns. -/
def writingReset : List (OutboundAction 4) :=
  [.writePacket true .commandPacket resetBuffer] ++
    ([.queueMessage 0, .takeMessage, .forwardMessage 0 true,
      .receiveCommand 0] : List Action).map .progress ++
    [.sendHCICommand 0 oneDevice 0 willingDriver] ++
    ([.replyTask 0, .runCallback 0, .returnWrite 0] : List Action).map
      .progress

theorem takesWhole_willingDriver : TakesWhole willingDriver := by
  intro bytes count completed
  exact (Option.some.inj completed).symm

theorem regular_progress
    (actions : List Action) :
    ∀ action ∈ actions.map (.progress : Action → OutboundAction cSize),
      action.Regular := by
  intro action member
  obtain ⟨each, -, rfl⟩ := List.mem_map.mp member
  trivial

theorem regular_writingReset : ∀ action ∈ writingReset, action.Regular := by
  unfold writingReset
  simp only [List.forall_mem_append, List.forall_mem_singleton]
  refine ⟨⟨⟨⟨_, resetBuffer_holds, by decide⟩, ?_⟩, ?_⟩, ?_⟩
  · exact regular_progress _
  · exact takesWhole_willingDriver
  · exact regular_progress _

theorem packetsSent_resetBuffer :
    ∃ outputs final,
      (outboundMachine 4).run (startOutbound 4 true)
          (opening.map .progress ++ writingReset) = some (outputs, final) ∧
        PacketsSent outputs final := by
  obtain ⟨⟨outputs, final⟩, ran⟩ := Option.isSome_iff_exists.mp
    (show ((outboundMachine 4).run (startOutbound 4 true)
      (opening.map .progress ++ writingReset)).isSome by decide +kernel)
  refine ⟨outputs, final, ran, packetsSent_of_run true _ outputs final ?_
    (by decide +kernel) ran⟩
  rw [List.forall_mem_append]
  exact ⟨regular_progress _, regular_writingReset⟩

end Bridge
end BthEmul
