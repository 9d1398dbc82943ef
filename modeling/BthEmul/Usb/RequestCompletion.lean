import BthEmul.Foundation.Thread
import BthEmul.Usb.StagedWrite

/-!
# Who completes a request

A request that fails the checks of its dispatch routine is completed there. The
others are handed to the lower driver, which completes them, before
`IoCallDriver` returns or later and beside the rest of the dispatch routine. It
runs the completion routine first, and goes no further where that returns
`STATUS_MORE_PROCESSING_REQUIRED`.

The requests share nothing but the device, whose counter is the subject of
`OutstandingIo`, and the event that a dispatch routine waits for when selective
suspend is enabled.
-/

namespace BthEmul

open Foundation

namespace Usb

/-- What is allocated for a request. -/
inductive Resource
  | urb
  | mdl
  | rwContext
  deriving DecidableEq

/-- What of an irp is read or written. -/
inductive IrpField
  | currentStackLocation
  | nextStackLocation
  | systemBuffer
  | mdlAddress
  | completionRoutine
  | pendingReturned
  | ioStatus
  deriving DecidableEq

/-- What is done on behalf of a request. -/
inductive Action
  | allocate (resource : Resource)
  | free (resource : Resource)
  /-- An access to the irp. -/
  | use (field : IrpField)
  /-- The irp goes to the lower driver. -/
  | ioCallDriver
  /-- The irp is completed: no completion routine is left to stop that. -/
  | complete (ntStatus : NtStatus)
  deriving DecidableEq

namespace Action

/-- The irp is completed. -/
def completes : Action → Bool
  | complete _ => true
  | _ => false

/-- The irp is accessed, handed on or completed. -/
def touches : Action → Bool
  | use _ | ioCallDriver | complete _ => true
  | allocate _ | free _ => false

/-- The second action may come behind the first: no irp is touched behind its
completion. -/
def Precedes (earlier later : Action) : Prop :=
  earlier.completes → ¬ later.touches

instance (earlier later : Action) : Decidable (earlier.Precedes later) :=
  inferInstanceAs (Decidable (_ → _))

end Action

/-- How the lower driver completes a request: before `IoCallDriver` returns, or
later. -/
structure LowerAnswer where
  /-- `IoCallDriver` returns behind the completion. -/
  synchronous : Bool
  /-- `IoStatus.Status`. -/
  status : NtStatus
  deriving DecidableEq

/-- A completion routine: what it does and what it returns. -/
structure Routine where
  /-- What it does. -/
  thread : Thread Action
  /-- What it returns. -/
  ntStatus : NtStatus

/-- `IoCompleteRequest`, called by the lower driver. -/
def completeRequest
    (ntStatus : NtStatus)
    (routine : Routine) : Thread Action :=
  routine.thread.seq
    (if routine.ntStatus = statusMoreProcessingRequired then .done
    else .act (.complete ntStatus) .done)

/-- `IoCallDriver`, and what the caller does with the status it returns. -/
def ioCallDriver
    (answer : LowerAnswer)
    (routine : Routine)
    (returned : NtStatus → Thread Action) : Thread Action :=
  let completed := completeRequest answer.status routine
  .act .ioCallDriver
    (if answer.synchronous then completed.seq (returned answer.status)
    else .fork completed (returned statusPending))

/-- A dispatch routine completes the irp. -/
def completeIrp (ntStatus : NtStatus) : Thread Action :=
  .perform [.use .ioStatus, .complete ntStatus] .done

/-! ## Reads and writes -/

/-- A call of `FreeBT_DispatchRead` or `FreeBT_DispatchWrite`, with the pipe it
uses, and how the lower driver completes it. -/
structure TransferCall extends WriteCall where
  /-- The answer to the first stage. -/
  first : LowerAnswer
  /-- The answer to the second stage. -/
  second : LowerAnswer

namespace TransferCall

/-- `MmGetMdlByteCount`, or zero. -/
def totalLength (call : TransferCall) : Nat :=
  call.mdlAddress.elim 0 (·.bytes.length)

/-- The dispatch routines for reads and writes, which check the length of the
buffer and set a completion routine. -/
def dispatchTransfer
    (call : TransferCall)
    (check : Nat → Option NtStatus)
    (routine : Routine) : Thread Action :=
  .act (.use .currentStackLocation) <|
  if call.deviceState ≠ .working then completeIrp statusInvalidDeviceState
  else if ¬ call.allocatesContext then completeIrp statusInsufficientResources
  else .perform [.allocate .rwContext, .use .mdlAddress] <|
  match check call.totalLength with
  | some ntStatus => .act (.free .rwContext) (completeIrp ntStatus)
  | none =>
      .act (.use .mdlAddress) <|
      if ¬ call.allocatesMdl then
        .act (.free .rwContext) (completeIrp statusInsufficientResources)
      else .perform [.allocate .mdl, .use .mdlAddress] <|
      if ¬ call.allocatesUrb then
        .perform [.free .rwContext, .free .mdl]
          (completeIrp statusInsufficientResources)
      else
        .perform [.allocate .urb, .use .nextStackLocation,
          .use .completionRoutine, .use .currentStackLocation] <|
        -- a failure resets the pipe or the device, with requests of their own
        ioCallDriver call.first routine fun _ => .done

/-- The length `FreeBT_DispatchRead` completes at once. -/
def checkRead (totalLength : Nat) : Option NtStatus :=
  if totalLength = 0 then some statusSuccess else none

/-- The lengths `FreeBT_DispatchWrite` refuses. -/
def checkWrite (totalLength : Nat) : Option NtStatus :=
  if totalLength > fbtHciDataMaxSize then some statusInvalidBufferSize
  else if totalLength < fbtHciDataMinSize then some statusBufferTooSmall
  else none

/-- What the completion routines free. -/
def freeContext : List Action :=
  [.free .urb, .free .mdl, .free .rwContext]

/-- `FreeBT_ReadCompletion`. -/
def readCompletion (ntStatus : NtStatus) : Routine where
  thread := .perform ([.use .ioStatus, .use .ioStatus] ++ freeContext) .done
  ntStatus := ntStatus

/-- `Length` of the context: what is left behind the first stage. -/
def length (call : TransferCall) : Nat :=
  call.mdlAddress.elim 0 fun mdlAddress => (call.firstContext mdlAddress).length

/-- `FreeBT_WriteCompletion`. -/
def writeCompletion (call : TransferCall) : Routine :=
  if NtSuccess call.first.status then
    if call.length ≠ 0 then
      { thread :=
          .perform [.use .ioStatus, .use .mdlAddress, .use .nextStackLocation,
            .use .completionRoutine] <|
          ioCallDriver call.second (readCompletion call.second.status)
            fun _ => .done
        ntStatus := statusMoreProcessingRequired }
    else
      { thread := .perform ([.use .ioStatus, .use .ioStatus] ++ freeContext) .done
        ntStatus := call.first.status }
  else
    { thread := .perform ([.use .ioStatus] ++ freeContext) .done
      ntStatus := call.first.status }

/-- `FreeBT_DispatchRead`. -/
def dispatchRead (call : TransferCall) : Thread Action :=
  call.dispatchTransfer checkRead (readCompletion call.first.status)

/-- `FreeBT_DispatchWrite`. -/
def dispatchWrite (call : TransferCall) : Thread Action :=
  call.dispatchTransfer checkWrite call.writeCompletion

end TransferCall

/-! ## Device control requests -/

/-- `FBT_HCI_CMD_MIN_SIZE`. -/
def fbtHciCmdMinSize : Nat := 3

/-- `FBT_HCI_CMD_MAX_SIZE`. -/
def fbtHciCmdMaxSize : Nat := 258

/-- `FBT_HCI_EVENT_MAX_SIZE`. -/
def fbtHciEventMaxSize : Nat := 257

/-- The control codes of `FreeBT_DispatchDevCtrl`. -/
inductive IoControlCode
  | hciSendCmd
  | hciGetEvent
  | other
  deriving DecidableEq

/-- A call of `FreeBT_DispatchDevCtrl`, and how the lower driver completes
it. -/
structure DevCtrlCall where
  /-- `DeviceState`. -/
  deviceState : DevState
  /-- `IoControlCode`. -/
  code : IoControlCode
  /-- `InputBufferLength`. -/
  inputBufferLength : Nat
  /-- `OutputBufferLength`. -/
  outputBufferLength : Nat
  /-- The urb is allocated. -/
  allocatesUrb : Bool
  /-- The answer of the lower driver. -/
  lower : LowerAnswer
  /-- What `FreeBT_ResetPipe` returns. -/
  resetPipe : NtStatus
  /-- What `FreeBT_ResetDevice` returns. -/
  resetDevice : NtStatus

namespace DevCtrlCall

/-- `IoMarkIrpPending` in a completion routine, where the lower driver marked
the irp. -/
def markPending (call : DevCtrlCall) : List Action :=
  if call.lower.synchronous then [.use .pendingReturned]
  else [.use .pendingReturned, .use .currentStackLocation]

/-- `FreeBT_HCISendCompletion`. -/
def hciSendCompletion (call : DevCtrlCall) : Routine where
  thread :=
    .perform ([.use .ioStatus] ++ call.markPending ++
      [.free .urb, .use .ioStatus, .use .ioStatus]) .done
  ntStatus := call.lower.status

/-- `FreeBT_HCIEventCompletion`. -/
def hciEventCompletion (call : DevCtrlCall) : Routine where
  thread :=
    .perform ([.use .ioStatus] ++ call.markPending ++
      [.use .ioStatus, .use .ioStatus, .use .nextStackLocation,
        .free .urb]) .done
  ntStatus := call.lower.status

/-- What the functions for commands and events do with the status that
`IoCallDriver` returns. They complete the irp themselves when it fails. -/
def finish (reset ntStatus : NtStatus) : Thread Action :=
  if NtSuccess ntStatus then .done
  else
    completeIrp
      (if ntStatus ≠ statusCancelled ∧ ntStatus ≠ statusDeviceNotConnected
      then reset else ntStatus)

/-- What the functions for commands and events share. -/
def submitHci
    (call : DevCtrlCall)
    (routine : Routine)
    (reset : NtStatus) : Thread Action :=
  if ¬ call.allocatesUrb then completeIrp statusInsufficientResources
  else
    .perform [.allocate .urb, .use .nextStackLocation,
      .use .completionRoutine, .use .currentStackLocation] <|
    ioCallDriver call.lower routine (finish reset)

/-- `FreeBT_SendHCICommand`. -/
def sendHciCommand (call : DevCtrlCall) : Thread Action :=
  call.submitHci call.hciSendCompletion call.resetDevice

/-- `FreeBT_GetHCIEvent`. -/
def getHciEvent (call : DevCtrlCall) : Thread Action :=
  call.submitHci call.hciEventCompletion
    (if NtSuccess call.resetPipe then call.resetPipe else call.resetDevice)

/-- `FreeBT_DispatchDevCtrl`. -/
def dispatchDevCtrl (call : DevCtrlCall) : Thread Action :=
  .perform [.use .currentStackLocation, .use .systemBuffer] <|
  if call.deviceState ≠ .working then completeIrp statusInvalidDeviceState
  else
    match call.code with
    | .hciSendCmd =>
        if call.inputBufferLength < fbtHciCmdMinSize then
          completeIrp statusBufferTooSmall
        else if call.inputBufferLength > fbtHciCmdMaxSize then
          completeIrp statusInvalidBufferSize
        else call.sendHciCommand
    | .hciGetEvent =>
        if call.outputBufferLength < fbtHciEventMaxSize then
          completeIrp statusBufferTooSmall
        else call.getHciEvent
    | .other => completeIrp statusInvalidDeviceRequest

end DevCtrlCall

/-! ## The property -/

/-- A request for the driver. -/
inductive IrpCall
  | read (call : TransferCall)
  | write (call : TransferCall)
  | devCtrl (call : DevCtrlCall)

/-- What the driver does with a request. -/
def IrpCall.thread : IrpCall → Thread Action
  | .read call => call.dispatchRead
  | .write call => call.dispatchWrite
  | .devCtrl call => call.dispatchDevCtrl

/-- The irp is completed once and not touched afterwards, and what is allocated
is freed once. -/
structure Settled (log : List Action) : Prop where
  /-- The irp is completed once. -/
  completes : log.countP Action.completes = 1
  /-- What is allocated is freed once, and nothing else is. -/
  frees : ∀ resource, log.count (.free resource) =
    if .allocate resource ∈ log then 1 else 0
  /-- The irp is not touched behind its completion. -/
  untouched : log.Pairwise Action.Precedes

/-- The request is settled, in whatever order the threads run. -/
def IrpCall.Settles (call : IrpCall) : Prop :=
  ∀ log, call.thread.Logs log → Settled log

/-- The request gets to the lower driver. -/
structure TransferCall.Submits
    (call : TransferCall)
    (check : Nat → Option NtStatus) : Prop where
  /-- The device works. -/
  deviceState : call.deviceState = .working
  /-- The context is allocated. -/
  allocatesContext : call.allocatesContext
  /-- The length of the buffer passes the check. -/
  length : check call.totalLength = none
  /-- The partial `MDL` is allocated. -/
  allocatesMdl : call.allocatesMdl
  /-- The urb is allocated. -/
  allocatesUrb : call.allocatesUrb

/-- The length of the buffer passes the checks. -/
def DevCtrlCall.Fits (call : DevCtrlCall) : Prop :=
  match call.code with
  | .hciSendCmd =>
      fbtHciCmdMinSize ≤ call.inputBufferLength ∧
        call.inputBufferLength ≤ fbtHciCmdMaxSize
  | .hciGetEvent => fbtHciEventMaxSize ≤ call.outputBufferLength
  | .other => False

/-- The request gets to the lower driver. -/
structure DevCtrlCall.Submits (call : DevCtrlCall) : Prop where
  /-- The device works. -/
  deviceState : call.deviceState = .working
  /-- The length of the buffer passes the checks. -/
  fits : call.Fits
  /-- The urb is allocated. -/
  allocatesUrb : call.allocatesUrb

/-- No irp ends with the status that stops its completion, unless a dispatch
routine takes it for a failure of `IoCallDriver` and completes the irp, and
`IoCallDriver` does not fail for device control requests otherwise. -/
def IrpCall.Conforms : IrpCall → Prop
  | .read call =>
      call.Submits TransferCall.checkRead →
        call.first.status ≠ statusMoreProcessingRequired
  | .write call =>
      call.Submits TransferCall.checkWrite →
        call.first.status ≠ statusMoreProcessingRequired ∧
          (NtSuccess call.first.status →
            call.maximumPacketSize < call.totalLength →
              call.second.status ≠ statusMoreProcessingRequired)
  | .devCtrl call =>
      call.Submits →
        (call.lower.status = statusMoreProcessingRequired ↔
          call.lower.synchronous ∧ ¬ NtSuccess call.lower.status)

/-! ## Logs -/

/-- The actions complete no irp. -/
def Harmless (actions : List Action) : Prop :=
  ∀ action ∈ actions, ¬ action.completes

instance (actions : List Action) : Decidable (Harmless actions) :=
  inferInstanceAs (Decidable (∀ _ ∈ _, _))

/-- The actions free what they allocate, once. -/
def Balanced (actions : List Action) : Prop :=
  ∀ resource, actions.count (.free resource) =
    if .allocate resource ∈ actions then 1 else 0

instance (actions : List Action) : Decidable (Balanced actions) :=
  decidable_of_iff
    (∀ resource ∈ [Resource.urb, .mdl, .rwContext],
      actions.count (.free resource) =
        if .allocate resource ∈ actions then 1 else 0)
    ⟨fun balanced resource => balanced resource (by cases resource <;> decide),
      fun balanced resource _ => balanced resource⟩

theorem Harmless.countP_eq_zero
    {actions : List Action}
    (harmless : Harmless actions) :
    actions.countP Action.completes = 0 :=
  List.countP_eq_zero.mpr harmless

/-- A completion behind actions that free what they allocate settles the
request. -/
theorem Harmless.settled
    {actions : List Action}
    (harmless : Harmless actions)
    (balanced : Balanced actions)
    (ntStatus : NtStatus) : Settled (actions ++ [.complete ntStatus]) := by
  refine ⟨?_, ?_, ?_⟩
  · rw [List.countP_append, harmless.countP_eq_zero]
    rfl
  · intro resource
    rw [List.count_append, balanced resource]
    simp
  · rw [List.pairwise_append]
    refine ⟨?_, List.pairwise_singleton _ _, ?_⟩
    · apply List.pairwise_of_forall_mem_list
      intro earlier member later _ completes
      exact absurd completes (harmless earlier member)
    · intro earlier member later _ completes
      exact absurd completes (harmless earlier member)

/-- Without a completion the request is not settled. -/
theorem Harmless.not_settled
    {actions : List Action}
    (harmless : Harmless actions) : ¬ Settled actions := by
  intro settled
  have once := settled.completes
  rw [harmless.countP_eq_zero] at once
  cases once

/-- A second completion does not settle the request. -/
theorem not_settled_of_completed
    (first second : List Action)
    (earlier later : NtStatus) :
    ¬ Settled (first ++ .complete earlier :: (second ++ [.complete later])) := by
  intro settled
  have once := settled.completes
  rw [List.countP_append, List.countP_cons, List.countP_append] at once
  simp only [Action.completes, if_true, List.countP_singleton] at once
  omega

/-- Every log of the thread is settled. -/
def Settles (thread : Thread Action) : Prop :=
  ∀ log, thread.Logs log → Settled log

/-- A dispatch routine that frees what it allocated and completes the irp
settles the request. -/
theorem settles_completeIrp
    (actions : List Action)
    (harmless : Harmless actions)
    (balanced : Balanced actions)
    (ntStatus : NtStatus) :
    Settles (.perform actions (completeIrp ntStatus)) := by
  intro log logs
  obtain ⟨later, restLogs, rfl⟩ := Thread.logs_perform_iff.mp logs
  have completed : later = [.use .ioStatus, .complete ntStatus] :=
    Thread.logs_perform_done_iff.mp restLogs
  rw [completed]
  have harmless : Harmless (actions ++ [.use .ioStatus]) := by
    intro action member
    rcases List.mem_append.mp member with member | member
    · exact harmless action member
    · rw [List.mem_singleton.mp member]
      exact Bool.false_ne_true
  have balanced : Balanced (actions ++ [.use .ioStatus]) := by
    intro resource
    rw [List.count_append, balanced resource]
    simp
  have settled := harmless.settled balanced ntStatus
  rwa [List.append_assoc] at settled

/-- With nothing to do behind `IoCallDriver` it does not matter whether the
request is completed before it returns. -/
theorem logs_ioCallDriver_iff
    {returned : NtStatus → Thread Action}
    (front : List Action)
    (nothing : returned
      (if answer.synchronous then answer.status else statusPending) = .done) :
    (Thread.perform front (ioCallDriver answer routine returned)).Logs log ↔
      (Thread.perform front (.act .ioCallDriver
        (completeRequest answer.status routine))).Logs log := by
  unfold ioCallDriver
  cases timing : answer.synchronous with
  | true =>
      rw [timing, if_pos rfl] at nothing
      dsimp only
      rw [if_pos rfl, nothing, Thread.seq_done]
  | false =>
      rw [timing, if_neg Bool.false_ne_true] at nothing
      dsimp only
      rw [if_neg Bool.false_ne_true, nothing, Thread.logs_perform_iff,
        Thread.logs_perform_iff]
      simp only [Thread.logs_act_iff, Thread.logs_fork_done_iff]

/-- Behind a completion routine the irp is completed, unless it stops that. -/
theorem completeRequest_perform
    (status ntStatus : NtStatus)
    (actions : List Action) :
    completeRequest status
        { thread := .perform actions .done, ntStatus := ntStatus } =
      .perform
        (actions ++
          if ntStatus = statusMoreProcessingRequired then []
          else [.complete status])
        .done := by
  rw [completeRequest, Thread.seq_perform, Thread.seq]
  split
  · rw [List.append_nil]
  · rw [Thread.perform, Thread.perform, List.foldr_append]
    rfl

/-- A request that is handed to the lower driver is settled unless its
completion routine stops the completion. -/
theorem settles_ioCallDriver_iff
    {front actions : List Action}
    {returned : NtStatus → Thread Action}
    (harmless : Harmless (front ++ .ioCallDriver :: actions))
    (balanced : Balanced (front ++ .ioCallDriver :: actions))
    (nothing : returned
      (if answer.synchronous then answer.status else statusPending) = .done) :
    Settles (.perform front
        (ioCallDriver answer
          { thread := .perform actions .done, ntStatus := ntStatus }
          returned)) ↔
      ntStatus ≠ statusMoreProcessingRequired := by
  have logs_iff (log : List Action) :
      (Thread.perform front
          (ioCallDriver answer
            { thread := .perform actions .done, ntStatus := ntStatus }
            returned)).Logs log ↔
        log = front ++ .ioCallDriver :: (actions ++
          if ntStatus = statusMoreProcessingRequired then []
          else [.complete answer.status]) := by
    rw [logs_ioCallDriver_iff front nothing, completeRequest_perform,
      Thread.perform_act_perform]
    exact Thread.logs_perform_done_iff
  unfold Settles
  simp only [logs_iff, forall_eq]
  constructor
  · intro settled stopped
    rw [if_pos stopped, List.append_nil] at settled
    exact harmless.not_settled settled
  · intro continues
    rw [if_neg continues, ← List.cons_append, ← List.append_assoc]
    exact harmless.settled balanced answer.status

/-- A request that is completed by the caller when `IoCallDriver` fails is
settled only where its completion routine stops the completion. -/
theorem settles_of_failure_iff
    {front actions : List Action}
    {returned : NtStatus → Thread Action}
    (harmless : Harmless (front ++ .ioCallDriver :: actions))
    (balanced : Balanced (front ++ .ioCallDriver :: actions))
    (synchronous : answer.synchronous)
    (failed : returned answer.status = completeIrp status) :
    Settles (.perform front
        (ioCallDriver answer
          { thread := .perform actions .done, ntStatus := ntStatus }
          returned)) ↔
      ntStatus = statusMoreProcessingRequired := by
  have linear :
      Thread.perform front
          (ioCallDriver answer
            { thread := .perform actions .done, ntStatus := ntStatus }
            returned) =
        .perform
          (front ++ .ioCallDriver :: (actions ++
            if ntStatus = statusMoreProcessingRequired then []
            else [.complete answer.status]))
          (completeIrp status) := by
    unfold ioCallDriver
    dsimp only
    rw [if_pos synchronous, failed, completeRequest_perform,
      Thread.seq_perform, Thread.seq, Thread.perform_act_perform]
  rw [linear]
  constructor
  · intro settles
    by_contra continues
    rw [if_neg continues] at settles
    have settled := settles _ (Thread.logs_perform_iff.mpr
      ⟨_, Thread.logs_perform_done_iff.mpr rfl, rfl⟩)
    rw [← List.cons_append, ← List.append_assoc, List.append_assoc _ [_]]
      at settled
    exact not_settled_of_completed _ [.use .ioStatus] _ _ settled
  · intro stopped
    rw [if_pos stopped, List.append_nil]
    exact settles_completeIrp _ harmless balanced status

/-- A completion routine that hands the irp on stops its completion. -/
theorem settles_resubmit
    (answer : LowerAnswer)
    (front between : List Action)
    (rest : Thread Action) :
    Settles (.perform front
        (ioCallDriver answer
          { thread := .perform between rest
            ntStatus := statusMoreProcessingRequired }
          fun _ => .done)) ↔
      Settles (.perform (front ++ .ioCallDriver :: between) rest) := by
  have logs_iff (log : List Action) :
      (Thread.perform front
          (ioCallDriver answer
            { thread := .perform between rest
              ntStatus := statusMoreProcessingRequired }
            fun _ => .done)).Logs log ↔
        (Thread.perform (front ++ .ioCallDriver :: between) rest).Logs log := by
    rw [logs_ioCallDriver_iff front rfl, completeRequest, if_pos rfl,
      Thread.seq_done, Thread.perform_act_perform]
  exact forall_congr' fun log => imp_congr_left (logs_iff log)

/-! ## Reads and writes -/

namespace TransferCall

/-- What a dispatch routine for reads or writes does before `IoCallDriver`. -/
def submission : List Action :=
  [.use .currentStackLocation, .allocate .rwContext, .use .mdlAddress,
    .use .mdlAddress, .allocate .mdl, .use .mdlAddress, .allocate .urb,
    .use .nextStackLocation, .use .completionRoutine,
    .use .currentStackLocation]

/-- A request that passes the checks gets to the lower driver. -/
theorem Submits.dispatchTransfer_eq
    {call : TransferCall}
    (submits : call.Submits check)
    (routine : Routine) :
    call.dispatchTransfer check routine =
      .perform submission (ioCallDriver call.first routine fun _ => .done) := by
  obtain ⟨deviceState, allocatesContext, length, allocatesMdl,
    allocatesUrb⟩ := submits
  simp only [dispatchTransfer, deviceState, allocatesContext, length,
    allocatesMdl, allocatesUrb, ne_eq, not_true, if_false]
  rfl

/-- A request that fails a check is settled. -/
theorem settles_of_not_submits
    {call : TransferCall}
    (refused : ¬ call.Submits check)
    (routine : Routine) :
    Settles (call.dispatchTransfer check routine) := by
  unfold dispatchTransfer
  by_cases deviceState : call.deviceState = .working
  case neg =>
    rw [if_pos deviceState]
    exact settles_completeIrp [.use .currentStackLocation]
      (by decide) (by decide) _
  rw [if_neg (not_not_intro deviceState)]
  by_cases allocatesContext : call.allocatesContext
  case neg =>
    rw [if_pos allocatesContext]
    exact settles_completeIrp [.use .currentStackLocation]
      (by decide) (by decide) _
  rw [if_neg (not_not_intro allocatesContext)]
  cases length : check call.totalLength with
  | some ntStatus =>
      exact settles_completeIrp
        [.use .currentStackLocation, .allocate .rwContext, .use .mdlAddress,
          .free .rwContext]
        (by decide) (by decide) _
  | none =>
      dsimp only
      by_cases allocatesMdl : call.allocatesMdl
      case neg =>
        rw [if_pos allocatesMdl]
        exact settles_completeIrp
          [.use .currentStackLocation, .allocate .rwContext, .use .mdlAddress,
            .use .mdlAddress, .free .rwContext]
          (by decide) (by decide) _
      rw [if_neg (not_not_intro allocatesMdl)]
      by_cases allocatesUrb : call.allocatesUrb
      case neg =>
        rw [if_pos allocatesUrb]
        exact settles_completeIrp
          [.use .currentStackLocation, .allocate .rwContext, .use .mdlAddress,
            .use .mdlAddress, .allocate .mdl, .use .mdlAddress,
            .free .rwContext, .free .mdl]
          (by decide) (by decide) _
      exact absurd ⟨deviceState, allocatesContext, length, allocatesMdl,
        allocatesUrb⟩ refused

/-- A read is settled unless the lower driver ends it with the status that
stops the completion. -/
theorem settles_dispatchRead_iff (call : TransferCall) :
    Settles call.dispatchRead ↔
      (call.Submits checkRead →
        call.first.status ≠ statusMoreProcessingRequired) := by
  by_cases submits : call.Submits checkRead
  case neg =>
    exact iff_of_true (settles_of_not_submits submits _)
      fun submits' => absurd submits' submits
  rw [dispatchRead, submits.dispatchTransfer_eq, readCompletion,
    settles_ioCallDriver_iff (by decide) (by decide) rfl]
  exact (imp_iff_right submits).symm

/-- The writes that get to the lower driver are those that are accepted. -/
theorem submits_checkWrite_iff (call : TransferCall) :
    call.Submits checkWrite ↔ call.toWriteCall.Accepted := by
  have length_eq : call.totalLength = call.buffer.length := by
    rw [totalLength, WriteCall.buffer]
    cases call.mdlAddress <;> rfl
  have checks_iff : checkWrite call.totalLength = none ↔
      fbtHciDataMinSize ≤ call.buffer.length ∧
        call.buffer.length ≤ fbtHciDataMaxSize := by
    rw [checkWrite, length_eq]
    split
    · simp only [reduceCtorEq, false_iff]
      omega
    split
    · simp only [reduceCtorEq, false_iff]
      omega
    simp only [true_iff]
    omega
  constructor
  · intro submits
    obtain ⟨minSize, maxSize⟩ := checks_iff.mp submits.length
    exact ⟨submits.deviceState, submits.allocatesContext, minSize, maxSize,
      submits.allocatesMdl, submits.allocatesUrb⟩
  · intro accepted
    exact ⟨accepted.deviceState, accepted.allocatesContext,
      checks_iff.mpr ⟨accepted.minSize, accepted.maxSize⟩,
      accepted.allocatesMdl, accepted.allocatesUrb⟩

/-- A packet that is not enough leaves a second stage. -/
theorem length_ne_zero_iff (call : TransferCall) :
    call.length ≠ 0 ↔ call.maximumPacketSize < call.totalLength := by
  unfold length totalLength
  cases call.mdlAddress with
  | none => simp
  | some mdlAddress =>
      simp only [Option.elim_some, WriteCall.length_firstContext]
      omega

/-- The status that stops a completion is no success. -/
theorem ne_of_ntSuccess
    (success : NtSuccess status) : status ≠ statusMoreProcessingRequired := by
  rintro rfl
  exact absurd success (by decide)

/-- A write is settled unless the lower driver ends its last stage with the
status that stops the completion. -/
theorem settles_dispatchWrite_iff (call : TransferCall) :
    Settles call.dispatchWrite ↔
      (call.Submits checkWrite →
        call.first.status ≠ statusMoreProcessingRequired ∧
          (NtSuccess call.first.status →
            call.maximumPacketSize < call.totalLength →
              call.second.status ≠ statusMoreProcessingRequired)) := by
  by_cases submits : call.Submits checkWrite
  case neg =>
    exact iff_of_true (settles_of_not_submits submits _)
      fun submits' => absurd submits' submits
  rw [dispatchWrite, submits.dispatchTransfer_eq, writeCompletion,
    imp_iff_right submits]
  by_cases success : NtSuccess call.first.status
  case neg =>
    rw [if_neg success, settles_ioCallDriver_iff (by decide) (by decide) rfl]
    simp only [success, false_implies, and_true]
  rw [if_pos success]
  by_cases long : call.maximumPacketSize < call.totalLength
  case neg =>
    rw [if_neg (mt call.length_ne_zero_iff.mp long),
      settles_ioCallDriver_iff (by decide) (by decide) rfl]
    simp only [long, false_implies, implies_true, and_true]
  rw [if_pos (call.length_ne_zero_iff.mpr long)]
  rw [settles_resubmit,
    readCompletion, settles_ioCallDriver_iff (by decide) (by decide) rfl]
  simp only [success, long, true_implies, ne_of_ntSuccess success, ne_eq,
    not_false_eq_true, true_and]

end TransferCall

/-! ## Device control requests -/

namespace DevCtrlCall

/-- What the dispatch routine does before `IoCallDriver`. -/
def submission : List Action :=
  [.use .currentStackLocation, .use .systemBuffer, .allocate .urb,
    .use .nextStackLocation, .use .completionRoutine,
    .use .currentStackLocation]

/-- A request that the lower driver takes is settled unless its completion is
stopped; one that `IoCallDriver` fails is settled only then. -/
theorem settles_submitHci_iff
    (call : DevCtrlCall)
    (actions : List Action)
    (reset : NtStatus)
    (harmless : Harmless (submission ++ .ioCallDriver :: actions))
    (balanced : Balanced (submission ++ .ioCallDriver :: actions)) :
    Settles (.perform [.use .currentStackLocation, .use .systemBuffer]
        (call.submitHci
          { thread := .perform actions .done, ntStatus := call.lower.status }
          reset)) ↔
      (call.allocatesUrb →
        (call.lower.status = statusMoreProcessingRequired ↔
          call.lower.synchronous ∧ ¬ NtSuccess call.lower.status)) := by
  unfold submitHci
  by_cases allocatesUrb : call.allocatesUrb
  case neg =>
    rw [if_pos allocatesUrb]
    refine iff_of_true ?_ fun allocated => absurd allocated allocatesUrb
    exact settles_completeIrp [.use .currentStackLocation, .use .systemBuffer]
      (by decide) (by decide) _
  rw [if_neg (not_not_intro allocatesUrb), imp_iff_right allocatesUrb]
  change Settles (.perform submission (ioCallDriver call.lower _ _)) ↔ _
  by_cases fails : call.lower.synchronous ∧ ¬ NtSuccess call.lower.status
  case neg =>
    rw [iff_false_right fails]
    apply settles_ioCallDriver_iff harmless balanced
    rw [finish, if_pos]
    split
    · rename_i synchronous
      by_contra failed
      exact fails ⟨synchronous, failed⟩
    · exact show NtSuccess statusPending by decide
  rw [iff_true_right fails]
  exact settles_of_failure_iff harmless balanced fails.1 (if_neg fails.2)

/-- A request that passes the other checks gets to the lower driver if there is
an urb for it. -/
theorem submits_iff
    {call : DevCtrlCall}
    (deviceState : call.deviceState = .working)
    (fits : call.Fits) : call.Submits ↔ call.allocatesUrb :=
  ⟨Submits.allocatesUrb, fun allocatesUrb =>
    ⟨deviceState, fits, allocatesUrb⟩⟩

/-- A device control request is settled unless it is completed twice, behind a
failure of `IoCallDriver`, or never. -/
theorem settles_dispatchDevCtrl_iff (call : DevCtrlCall) :
    Settles call.dispatchDevCtrl ↔
      (call.Submits →
        (call.lower.status = statusMoreProcessingRequired ↔
          call.lower.synchronous ∧ ¬ NtSuccess call.lower.status)) := by
  have refused (ntStatus : NtStatus) (allowed : ¬ call.Submits) :
      Settles (.perform [.use .currentStackLocation, .use .systemBuffer]
          (completeIrp ntStatus)) ↔
        (call.Submits →
          (call.lower.status = statusMoreProcessingRequired ↔
            call.lower.synchronous ∧ ¬ NtSuccess call.lower.status)) :=
    iff_of_true (settles_completeIrp _ (by decide) (by decide) ntStatus)
      fun submits => absurd submits allowed
  unfold dispatchDevCtrl
  by_cases deviceState : call.deviceState = .working
  case neg =>
    rw [if_pos deviceState]
    exact refused _ fun submits => deviceState submits.deviceState
  rw [if_neg (not_not_intro deviceState)]
  cases code : call.code with
  | hciSendCmd =>
      have fits_iff : call.Fits ↔
          fbtHciCmdMinSize ≤ call.inputBufferLength ∧
            call.inputBufferLength ≤ fbtHciCmdMaxSize := by
        rw [Fits, code]
      dsimp only
      split
      · rename_i small
        apply refused
        intro submits
        exact absurd (fits_iff.mp submits.fits).1 (Nat.not_le.mpr small)
      split
      · rename_i large
        apply refused
        intro submits
        exact absurd (fits_iff.mp submits.fits).2 (Nat.not_le.mpr large)
      rename_i notSmall notLarge
      have fits := fits_iff.mpr
        ⟨Nat.not_lt.mp notSmall, Nat.not_lt.mp notLarge⟩
      rw [submits_iff deviceState fits]
      unfold sendHciCommand hciSendCompletion markPending
      apply settles_submitHci_iff
      · split <;> decide
      · split <;> decide
  | hciGetEvent =>
      have fits_iff : call.Fits ↔
          fbtHciEventMaxSize ≤ call.outputBufferLength := by
        rw [Fits, code]
      dsimp only
      split
      · rename_i small
        apply refused
        intro submits
        exact absurd (fits_iff.mp submits.fits) (Nat.not_le.mpr small)
      rename_i notSmall
      rw [submits_iff deviceState (fits_iff.mpr (Nat.not_lt.mp notSmall))]
      unfold getHciEvent hciEventCompletion markPending
      apply settles_submitHci_iff
      · split <;> decide
      · split <;> decide
  | other =>
      apply refused
      intro submits
      have fits := submits.fits
      rwa [Fits, code] at fits

end DevCtrlCall

/-! ## Every request -/

namespace IrpCall

/-- A request is settled exactly where `IoCallDriver` does not fail for a
device control request and no completion is stopped. -/
theorem settles_iff_conforms (call : IrpCall) :
    call.Settles ↔ call.Conforms := by
  cases call with
  | read call => exact call.settles_dispatchRead_iff
  | write call => exact call.settles_dispatchWrite_iff
  | devCtrl call => exact call.settles_dispatchDevCtrl_iff

/-- A reset command for a device that is gone. -/
def commandToGoneDevice : DevCtrlCall where
  deviceState := .working
  code := .hciSendCmd
  inputBufferLength := 3
  outputBufferLength := 0
  allocatesUrb := true
  lower := { synchronous := true, status := statusDeviceNotConnected }
  resetPipe := statusSuccess
  resetDevice := statusSuccess

/-- What is done on behalf of the command. -/
def commandCompletedTwice : List Action :=
  [.use .currentStackLocation, .use .systemBuffer, .allocate .urb,
    .use .nextStackLocation, .use .completionRoutine,
    .use .currentStackLocation, .ioCallDriver, .use .ioStatus,
    .use .pendingReturned, .free .urb, .use .ioStatus, .use .ioStatus,
    .complete statusDeviceNotConnected, .use .ioStatus,
    .complete statusDeviceNotConnected]

/-- The lower driver completes the command, and so does the driver. -/
theorem not_settles_commandToGoneDevice :
    ¬ (devCtrl commandToGoneDevice).Settles := by
  intro settles
  have logs : (Thread.perform commandCompletedTwice .done).Logs
      commandCompletedTwice := Thread.logs_perform_done_iff.mpr rfl
  have settled := settles commandCompletedTwice logs
  exact absurd settled.completes (by decide)

end IrpCall

end Usb
end BthEmul
