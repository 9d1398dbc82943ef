import BthEmul.Foundation.Machine
import BthEmul.Usb.Device

/-!
# Writes in stages

A write longer than a packet of the pipe is submitted in stages. The driver
submits the first one, and the completion routine of a stage the next one. A
context that goes with the request says how much is left, how much has been
transferred and where the next stage begins.
-/

namespace BthEmul

open Foundation

namespace Usb

/-- `FBT_HCI_DATA_MIN_SIZE`. -/
def fbtHciDataMinSize : Nat := 5

/-- `FBT_HCI_DATA_MAX_SIZE`. -/
def fbtHciDataMaxSize : Nat := 1024

/-- The memory that an `MDL` describes. -/
structure Mdl where
  /-- `MmGetMdlVirtualAddress`. -/
  virtualAddress : Nat
  /-- The bytes from there. -/
  bytes : List UInt8
  deriving DecidableEq

/-- `IoBuildPartialMdl`. A length of zero stands for all the rest. -/
def Mdl.buildPartialMdl
    (source : Mdl)
    (virtualAddress length : Nat) : Mdl :=
  let rest := source.bytes.drop (virtualAddress - source.virtualAddress)
  { virtualAddress := virtualAddress
    bytes := if length = 0 then rest else rest.take length }

/-- `FREEBT_RW_CONTEXT`. -/
structure RwContext where
  /-- `TransferBufferLength` of `Urb`. -/
  transferBufferLength : Nat
  /-- `Mdl`. -/
  mdl : Mdl
  /-- `Length`. -/
  length : Nat
  /-- `Numxfer`. -/
  numxfer : Nat
  /-- `VirtualAddress`. -/
  virtualAddress : Nat
  deriving DecidableEq

/-- The bytes that the lower driver is to transfer. -/
def RwContext.stage (rwContext : RwContext) : List UInt8 :=
  rwContext.mdl.bytes.take rwContext.transferBufferLength

/-- The routine set with `IoSetCompletionRoutine`. -/
inductive CompletionRoutine
  | writeCompletion
  | readCompletion
  deriving DecidableEq

/-- The request is with the lower driver, or has been completed. -/
inductive WriteIrp
  | submitted
      (mdlAddress : Mdl)
      (completionRoutine : CompletionRoutine)
      (rwContext : RwContext)
  | completed (ioStatus : IoStatus)
  deriving DecidableEq

/-- How the lower driver completes a stage. It leaves the number of bytes
transferred in the `TransferBufferLength` of the urb. -/
structure StageAnswer where
  /-- `IoStatus` of the request. -/
  ioStatus : IoStatus
  /-- `TransferBufferLength` of the urb. -/
  transferBufferLength : Nat
  deriving DecidableEq

/-- A call of `FreeBT_DispatchWrite`. -/
structure WriteCall where
  /-- `DeviceState`. -/
  deviceState : DevState
  /-- `DataOutPipe.MaximumPacketSize`. -/
  maximumPacketSize : Nat
  /-- `MdlAddress`, if it is not null. -/
  mdlAddress : Option Mdl
  /-- The context is allocated. -/
  allocatesContext : Bool
  /-- The partial `MDL` is allocated. -/
  allocatesMdl : Bool
  /-- The urb is allocated. -/
  allocatesUrb : Bool

namespace WriteCall

/-- The length of the next stage, of what is left. -/
def stageLength (write : WriteCall) (length : Nat) : Nat :=
  if length > write.maximumPacketSize then write.maximumPacketSize else length

/-- The context of the first stage. -/
def firstContext (write : WriteCall) (mdlAddress : Mdl) : RwContext :=
  let virtualAddress := mdlAddress.virtualAddress
  let totalLength := mdlAddress.bytes.length
  let stageLength := write.stageLength totalLength
  { transferBufferLength := stageLength
    mdl := mdlAddress.buildPartialMdl virtualAddress stageLength
    length := totalLength - stageLength
    numxfer := 0
    virtualAddress := virtualAddress + stageLength }

/-- The exit of `FreeBT_DispatchWrite` for requests that fail at once. -/
def exit (ntStatus : NtStatus) : WriteIrp :=
  .completed { status := ntStatus, information := 0 }

/-- `FreeBT_DispatchWrite`. -/
def dispatchWrite (write : WriteCall) : WriteIrp :=
  if write.deviceState ≠ .working then exit statusInvalidDeviceState
  else if ¬ write.allocatesContext then exit statusInsufficientResources
  else
    let totalLength := write.mdlAddress.elim 0 (·.bytes.length)
    if totalLength > fbtHciDataMaxSize then exit statusInvalidBufferSize
    else if totalLength < fbtHciDataMinSize then exit statusBufferTooSmall
    else
      match write.mdlAddress with
      | none => exit statusBufferTooSmall
      | some mdlAddress =>
          if ¬ write.allocatesMdl then exit statusInsufficientResources
          else if ¬ write.allocatesUrb then exit statusInsufficientResources
          else
            .submitted mdlAddress .writeCompletion
              (write.firstContext mdlAddress)

/-- The context of the next stage. -/
def nextContext
    (write : WriteCall)
    (mdlAddress : Mdl)
    (rwContext : RwContext)
    (numxfer : Nat) : RwContext :=
  let stageLength := write.stageLength rwContext.length
  { transferBufferLength := stageLength
    mdl := mdlAddress.buildPartialMdl rwContext.virtualAddress stageLength
    length := rwContext.length - stageLength
    numxfer := numxfer
    virtualAddress := rwContext.virtualAddress + stageLength }

/-- `FreeBT_WriteCompletion`. The next stage is completed by the routine for
reads. -/
def writeCompletion
    (write : WriteCall)
    (mdlAddress : Mdl)
    (rwContext : RwContext)
    (answer : StageAnswer) : WriteIrp :=
  if NtSuccess answer.ioStatus.status then
    let numxfer := rwContext.numxfer + answer.transferBufferLength
    if rwContext.length ≠ 0 then
      .submitted mdlAddress .readCompletion
        (write.nextContext mdlAddress rwContext numxfer)
    else .completed { answer.ioStatus with information := numxfer }
  else .completed answer.ioStatus

/-- `FreeBT_ReadCompletion`. -/
def readCompletion (answer : StageAnswer) : WriteIrp :=
  .completed {
    answer.ioStatus with
    information :=
      if NtSuccess answer.ioStatus.status then answer.transferBufferLength
      else 0 }

/-- The lower driver completes a stage. -/
def completeStage
    (write : WriteCall)
    (answer : StageAnswer) : WriteIrp → Option (List UInt8 × WriteIrp)
  | .submitted mdlAddress .writeCompletion rwContext =>
      some (rwContext.stage,
        write.writeCompletion mdlAddress rwContext answer)
  | .submitted _ .readCompletion rwContext =>
      some (rwContext.stage, readCompletion answer)
  | .completed _ => none

end WriteCall

/-- The request of a write while the lower driver completes its stages. -/
def stageMachine (write : WriteCall) :
    Machine WriteIrp StageAnswer (List UInt8) where
  step irp answer := write.completeStage answer irp

namespace WriteCall

/-! ## The property -/

/-- The caller's buffer. -/
def buffer (write : WriteCall) : List UInt8 :=
  write.mdlAddress.elim [] Mdl.bytes

/-- The checks that `FreeBT_DispatchWrite` makes before the first stage. -/
structure Accepted (write : WriteCall) : Prop where
  /-- The device works. -/
  deviceState : write.deviceState = .working
  /-- The context is allocated. -/
  allocatesContext : write.allocatesContext
  /-- The buffer is not too small. -/
  minSize : fbtHciDataMinSize ≤ write.buffer.length
  /-- The buffer is not too large. -/
  maxSize : write.buffer.length ≤ fbtHciDataMaxSize
  /-- The partial `MDL` is allocated. -/
  allocatesMdl : write.allocatesMdl
  /-- The urb is allocated. -/
  allocatesUrb : write.allocatesUrb

end WriteCall

/-- The stage succeeds and is transferred as a whole. -/
def StageAnswer.Whole (answer : StageAnswer) (stage : List UInt8) : Prop :=
  NtSuccess answer.ioStatus.status ∧ answer.transferBufferLength = stage.length

namespace WriteCall

/-- The stages make up the caller's buffer, no stage is longer than a packet,
and the request succeeds with the length of the buffer. -/
structure Transferred
    (write : WriteCall)
    (stages : List (List UInt8))
    (ioStatus : IoStatus) : Prop where
  /-- The stages make up the buffer. -/
  flatten : stages.flatten = write.buffer
  /-- No stage is longer than a packet. -/
  length_le : ∀ stage ∈ stages, stage.length ≤ write.maximumPacketSize
  /-- The request succeeds. -/
  success : NtSuccess ioStatus.status
  /-- `Information` is the length of the buffer. -/
  information : ioStatus.information = write.buffer.length

/-- A write whose stages are all transferred as a whole is completed, and then
the buffer has been transferred; a stage that fails completes it. -/
structure Staged (write : WriteCall) : Prop where
  /-- When every stage is transferred as a whole, the buffer is. -/
  transferred : ∀ answers stages ioStatus,
    (stageMachine write).run write.dispatchWrite answers =
        some (stages, .completed ioStatus) →
      List.Forall₂ StageAnswer.Whole answers stages →
        write.Transferred stages ioStatus
  /-- A lower driver that transfers every stage as a whole completes it. -/
  completes : ∀ lower : List UInt8 → StageAnswer,
    (∀ stage, (lower stage).Whole stage) →
      ∃ stages ioStatus,
        (stageMachine write).run write.dispatchWrite (stages.map lower) =
          some (stages, .completed ioStatus)
  /-- A stage that fails completes it with its status. -/
  fails : ∀ answers answer stages final,
    (stageMachine write).run write.dispatchWrite (answers ++ [answer]) =
        some (stages, final) →
      ¬ NtSuccess answer.ioStatus.status →
        ∃ information, final = .completed {
          status := answer.ioStatus.status
          information := information }

/-! ## The stages -/

/-- A stage of zero bytes aside, the lower driver is to transfer the part of
the buffer that was mapped. -/
theorem stage_buildPartialMdl
    (source : Mdl)
    (address stageLength length numxfer virtualAddress : Nat) :
    RwContext.stage {
        transferBufferLength := stageLength
        mdl := source.buildPartialMdl address stageLength
        length := length
        numxfer := numxfer
        virtualAddress := virtualAddress } =
      (source.bytes.drop (address - source.virtualAddress)).take
        stageLength := by
  unfold RwContext.stage Mdl.buildPartialMdl
  dsimp only
  split
  · rename_i empty
    rw [empty]
  · rw [List.take_take, Nat.min_self]

/-- A stage takes what is left, as far as a packet reaches. -/
theorem stageLength_eq_min (write : WriteCall) (length : Nat) :
    write.stageLength length = min write.maximumPacketSize length := by
  unfold stageLength
  split <;> omega

/-- The first stage is the front of the buffer. -/
theorem stage_firstContext (write : WriteCall) (mdlAddress : Mdl) :
    (write.firstContext mdlAddress).stage =
      mdlAddress.bytes.take write.maximumPacketSize := by
  rw [firstContext, stage_buildPartialMdl, stageLength_eq_min, Nat.sub_self,
    List.drop_zero, List.take_eq_take_iff]
  omega

/-- What does not fit into a packet is left behind the first stage. -/
theorem length_firstContext (write : WriteCall) (mdlAddress : Mdl) :
    (write.firstContext mdlAddress).length =
      mdlAddress.bytes.length - write.maximumPacketSize := by
  simp only [firstContext, stageLength_eq_min]
  omega

/-- The second stage is the front of what is left. -/
theorem stage_nextContext
    (write : WriteCall)
    (mdlAddress : Mdl)
    (numxfer : Nat)
    (long : write.maximumPacketSize < mdlAddress.bytes.length) :
    (write.nextContext mdlAddress (write.firstContext mdlAddress)
        numxfer).stage =
      (mdlAddress.bytes.drop write.maximumPacketSize).take
        write.maximumPacketSize := by
  have address : (write.firstContext mdlAddress).virtualAddress -
      mdlAddress.virtualAddress = write.maximumPacketSize := by
    simp only [firstContext, stageLength_eq_min]
    omega
  rw [nextContext, stage_buildPartialMdl, address, stageLength_eq_min,
    length_firstContext, List.take_eq_take_iff, List.length_drop]
  omega

/-- A write that is accepted submits its first stage. -/
theorem Accepted.dispatchWrite_eq
    {write : WriteCall}
    (accepted : write.Accepted) :
    ∃ mdlAddress,
      mdlAddress.bytes = write.buffer ∧
        write.dispatchWrite = .submitted mdlAddress .writeCompletion
          (write.firstContext mdlAddress) := by
  obtain ⟨deviceState, allocatesContext, minSize, maxSize, allocatesMdl,
    allocatesUrb⟩ := accepted
  cases present : write.mdlAddress with
  | none =>
      rw [buffer, present] at minSize
      exact absurd minSize (by decide)
  | some mdlAddress =>
      have whole : mdlAddress.bytes = write.buffer := by
        rw [buffer, present]
        rfl
      rw [← whole] at minSize maxSize
      have notLarge : ¬ mdlAddress.bytes.length > fbtHciDataMaxSize := by omega
      have notSmall : ¬ mdlAddress.bytes.length < fbtHciDataMinSize := by omega
      refine ⟨mdlAddress, whole, ?_⟩
      simp only [dispatchWrite, deviceState, ne_eq, not_true, if_false,
        allocatesContext, present, Option.elim_some, if_neg notLarge,
        if_neg notSmall, allocatesMdl, allocatesUrb]

/-- A stage that fails completes the request with its status. -/
theorem completed_of_failure
    {write : WriteCall}
    (stepped : write.completeStage answer irp = some (stage, next))
    (failed : ¬ NtSuccess answer.ioStatus.status) :
    ∃ information, next = .completed {
      status := answer.ioStatus.status
      information := information } := by
  cases irp with
  | completed ioStatus => cases stepped
  | submitted mdlAddress completionRoutine rwContext =>
      cases completionRoutine with
      | writeCompletion =>
          simp only [completeStage, writeCompletion, if_neg failed,
            Option.some.injEq, Prod.mk.injEq] at stepped
          exact ⟨answer.ioStatus.information, stepped.2.symm⟩
      | readCompletion =>
          simp only [completeStage, readCompletion, if_neg failed,
            Option.some.injEq, Prod.mk.injEq] at stepped
          exact ⟨0, stepped.2.symm⟩

/-- The last stage, when it fails, completes the request with its status. -/
theorem completed_of_run
    {write : WriteCall}
    (ran : (stageMachine write).run irp (answers ++ [answer]) =
      some (stages, final))
    (failed : ¬ NtSuccess answer.ioStatus.status) :
    ∃ information, final = .completed {
      status := answer.ioStatus.status
      information := information } := by
  obtain ⟨early, middle, late, -, ranLast, -⟩ :=
    Machine.run_append_eq_some_iff.mp ran
  obtain ⟨stage, next, later, stepped, ranNone, -⟩ :=
    Machine.run_cons_eq_some_iff.mp ranLast
  cases ranNone
  exact completed_of_failure stepped failed

/-- The lower driver completes nothing behind the completion of a request. -/
theorem run_completed_eq_some_iff
    {write : WriteCall} :
    (stageMachine write).run (.completed ioStatus) answers =
        some (stages, final) ↔
      answers = [] ∧ stages = [] ∧ final = .completed ioStatus := by
  cases answers with
  | nil => simp [eq_comm]
  | cons answer rest => simp [Machine.run, stageMachine, completeStage]

/-! ## Writes of one packet -/

/-- A stage behind which nothing is left completes the request. -/
theorem step_of_last
    (write : WriteCall)
    (mdlAddress : Mdl)
    (rwContext : RwContext)
    (last : rwContext.length = 0)
    (whole : answer.Whole rwContext.stage) :
    (stageMachine write).step
        (.submitted mdlAddress .writeCompletion rwContext) answer =
      some (rwContext.stage, .completed {
        status := answer.ioStatus.status
        information := rwContext.numxfer + rwContext.stage.length }) := by
  have done : ¬ rwContext.length ≠ 0 := not_not_intro last
  simp only [stageMachine, completeStage, writeCompletion, if_pos whole.1,
    if_neg done, whole.2]

/-- A write that fits into a packet is transferred in one stage. -/
theorem Accepted.staged_of_le
    {write : WriteCall}
    (accepted : write.Accepted)
    (fits : write.buffer.length ≤ write.maximumPacketSize) :
    write.Staged := by
  obtain ⟨mdlAddress, bytes, dispatched⟩ := accepted.dispatchWrite_eq
  have stage := write.stage_firstContext mdlAddress
  rw [bytes, List.take_of_length_le fits] at stage
  have last := write.length_firstContext mdlAddress
  rw [bytes, Nat.sub_eq_zero_of_le fits] at last
  refine ⟨?_, ?_, ?_⟩
  · intro answers stages ioStatus ran whole
    rw [dispatched] at ran
    cases whole with
    | nil => cases ran
    | cons first others =>
        obtain ⟨output, next, later, stepped, ranRest, same⟩ :=
          Machine.run_cons_eq_some_iff.mp ran
        obtain ⟨rfl, rfl⟩ := List.cons.inj same
        have output : (write.firstContext mdlAddress).stage = _ :=
          congrArg Prod.fst (Option.some.inj stepped)
        subst output
        rw [write.step_of_last mdlAddress _ last first] at stepped
        cases stepped
        obtain ⟨rfl, rfl, completed⟩ := run_completed_eq_some_iff.mp ranRest
        cases completed
        refine ⟨?_, ?_, first.1, ?_⟩
        · rw [List.flatten_singleton, stage]
        · intro each member
          rw [List.mem_singleton.mp member, stage]
          exact fits
        · rw [stage]
          exact Nat.zero_add _
  · intro lower whole
    have ran := Machine.run_cons_eq_some_iff.mpr
      ⟨_, _, [], write.step_of_last mdlAddress _ last (whole _),
        Machine.run_nil (stageMachine write) _, rfl⟩
    rw [dispatched]
    exact ⟨[(write.firstContext mdlAddress).stage], _, ran⟩
  · intro answers answer stages final ran failed
    exact completed_of_run ran failed

/-! ## Longer writes -/

/-- A stage behind which something is left submits another one, for the
routine that completes the request. -/
theorem step_of_more
    (write : WriteCall)
    (mdlAddress : Mdl)
    (rwContext : RwContext)
    (more : rwContext.length ≠ 0)
    (whole : answer.Whole rwContext.stage) :
    (stageMachine write).step
        (.submitted mdlAddress .writeCompletion rwContext) answer =
      some (rwContext.stage,
        .submitted mdlAddress .readCompletion
          (write.nextContext mdlAddress rwContext
            (rwContext.numxfer + rwContext.stage.length))) := by
  simp only [stageMachine, completeStage, writeCompletion, if_pos whole.1,
    if_pos more, whole.2]

/-- The routine for reads completes the request with the length of its own
stage. -/
theorem step_readCompletion
    (write : WriteCall)
    (mdlAddress : Mdl)
    (rwContext : RwContext)
    (whole : answer.Whole rwContext.stage) :
    (stageMachine write).step
        (.submitted mdlAddress .readCompletion rwContext) answer =
      some (rwContext.stage, .completed {
        status := answer.ioStatus.status
        information := rwContext.stage.length }) := by
  simp only [stageMachine, completeStage, readCompletion, if_pos whole.1,
    whole.2]

/-- A write that does not fit into a packet is completed behind its second
stage, with the length of that stage. -/
theorem Accepted.exists_run_of_lt
    {write : WriteCall}
    (accepted : write.Accepted)
    (long : write.maximumPacketSize < write.buffer.length)
    (lower : List UInt8 → StageAnswer)
    (whole : ∀ stage, (lower stage).Whole stage) :
    ∃ first second,
      first = write.buffer.take write.maximumPacketSize ∧
        second = (write.buffer.drop write.maximumPacketSize).take
          write.maximumPacketSize ∧
        (stageMachine write).run write.dispatchWrite
            [lower first, lower second] =
          some ([first, second], .completed {
            status := (lower second).ioStatus.status
            information := second.length }) := by
  obtain ⟨mdlAddress, bytes, dispatched⟩ := accepted.dispatchWrite_eq
  let first := write.firstContext mdlAddress
  let second :=
    write.nextContext mdlAddress first (first.numxfer + first.stage.length)
  have more : first.length ≠ 0 := by
    rw [length_firstContext, bytes]
    omega
  have submitted := write.step_of_more mdlAddress first more (whole _)
  have completed := write.step_readCompletion mdlAddress second (whole _)
  have ran := Machine.run_cons_eq_some_iff.mpr ⟨_, _, _, submitted,
    Machine.run_cons_eq_some_iff.mpr ⟨_, _, [], completed,
      Machine.run_nil (stageMachine write) _, rfl⟩, rfl⟩
  rw [dispatched]
  refine ⟨first.stage, second.stage, ?_, ?_, ran⟩
  · rw [write.stage_firstContext mdlAddress, bytes]
  · rw [write.stage_nextContext mdlAddress _ (by rwa [bytes]), bytes]

/-- An answer that transfers a stage as a whole. -/
def wholeAnswer (stage : List UInt8) : StageAnswer where
  ioStatus := { status := statusSuccess, information := 0 }
  transferBufferLength := stage.length

theorem whole_wholeAnswer (stage : List UInt8) :
    (wholeAnswer stage).Whole stage :=
  ⟨show NtSuccess statusSuccess by decide, rfl⟩

/-- Staged writes are complete exactly where one stage is enough. -/
theorem staged_iff_le
    (write : WriteCall)
    (accepted : write.Accepted) :
    write.Staged ↔ write.buffer.length ≤ write.maximumPacketSize := by
  constructor
  · intro staged
    by_contra long
    rw [Nat.not_le] at long
    obtain ⟨first, second, -, rest, ran⟩ :=
      accepted.exists_run_of_lt long wholeAnswer whole_wholeAnswer
    have transferred := staged.transferred _ _ _ ran
      (.cons (whole_wholeAnswer _) (.cons (whole_wholeAnswer _) .nil))
    have information : second.length = write.buffer.length :=
      transferred.information
    rw [rest, List.length_take, List.length_drop] at information
    omega
  · intro fits
    exact accepted.staged_of_le fits

/-- A write of six bytes to a pipe. -/
def sixBytes (maximumPacketSize : Nat) : WriteCall where
  deviceState := .working
  maximumPacketSize := maximumPacketSize
  mdlAddress := some {
    virtualAddress := 4096
    bytes := [2, 1, 0, 2, 0, 7] }
  allocatesContext := true
  allocatesMdl := true
  allocatesUrb := true

theorem accepted_sixBytes (maximumPacketSize : Nat) :
    (sixBytes maximumPacketSize).Accepted where
  deviceState := rfl
  allocatesContext := rfl
  minSize := by
    change 5 ≤ 6
    decide
  maxSize := by
    change 6 ≤ 1024
    decide
  allocatesMdl := rfl
  allocatesUrb := rfl

theorem staged_sixBytes :
    (sixBytes 64).Accepted ∧
      ((sixBytes 64).Staged ↔ (sixBytes 64).buffer.length ≤ 64) :=
  ⟨accepted_sixBytes 64, staged_iff_le (sixBytes 64) (accepted_sixBytes 64)⟩

/-- Of three stages only two are submitted, and the request succeeds with the
length of the second one. -/
theorem not_staged_sixBytes :
    ¬ (sixBytes 2).Staged := by
  intro staged
  have ran : (stageMachine (sixBytes 2)).run (sixBytes 2).dispatchWrite
      [wholeAnswer [2, 1], wholeAnswer [0, 2]] =
        some ([[2, 1], [0, 2]], .completed {
          status := statusSuccess
          information := 2 }) := by
    decide
  have transferred := staged.transferred _ _ _ ran
    (.cons (whole_wholeAnswer _) (.cons (whole_wholeAnswer _) .nil))
  exact absurd transferred.flatten (by decide)

end WriteCall

end Usb
end BthEmul
