import BthEmul.Hci.Completion
import BthEmul.Hci.SyncCommand

/-!
# Answers to a wrapper

A wrapper goes on exactly when the answer of the controller reaches its slot and
fits its result buffer. It concludes its result from the block that the answer
leaves there.
-/

namespace BthEmul

open Foundation

namespace Hci

/-! ## Answers -/

namespace CommandEvent

/-- The event code. -/
def eventCode : CommandEvent → UInt8
  | .complete _ _ _ => eventCommandComplete
  | .status _ _ _ => eventCommandStatus

/-- The return parameters. -/
def parameters : CommandEvent → List UInt8
  | .complete _ _ parameters => parameters.bytes
  | .status _ _ _ => []

/-- The status that the controller answers with. -/
def verdict : CommandEvent → Option UInt8
  | .complete _ _ parameters => parameters.bytes.head?
  | .status nStatus _ _ => some nStatus

/-- A byte is as it was or the return parameter at its place. -/
def Explains
    (event : CommandEvent)
    (offset : Nat)
    (before after : List UInt8) : Prop :=
  ∀ index byte, after[index]? = some byte →
    before[index]? = some byte ∨
      event.parameters[offset + index]? = some byte

/-- The block of a result buffer after an event, if the event fits. -/
def block
    (event : CommandEvent)
    (pResultBuffer : List UInt8) : Option (List UInt8) :=
  if event.Fits (.queued 0 pResultBuffer) then
    some (event.overwrite pResultBuffer)
  else none

/-- What fits a queued command depends on its result buffer only. -/
theorem fits_queued
    (event : CommandEvent)
    (nCommand : UInt16)
    (pResultBuffer : List UInt8) :
    event.Fits (.queued nCommand pResultBuffer) ↔
      event.Fits (.queued 0 pResultBuffer) := by
  cases event <;> exact Iff.rfl

theorem eventCode_bytes (event : CommandEvent) :
    event.bytes[0]? = some event.eventCode := by
  cases event <;> rfl

/-- An event that does not fit leaves the slot of a queued command as it is. -/
theorem act_queued_of_block_none
    {event : CommandEvent}
    (nCommand : UInt16)
    (exceeds : event.block pResultBuffer = none) :
    event.act (.queued nCommand pResultBuffer) =
      .queued nCommand pResultBuffer := by
  apply act_of_not_fits
  intro fits
  rw [block, if_pos ((event.fits_queued _ _).mp fits)] at exceeds
  cases exceeds

/-- An event that fits signals the slot of a queued command and leaves the
block in its result buffer. -/
theorem act_queued_of_block_some
    {event : CommandEvent}
    (nCommand : UInt16)
    (present : event.block pResultBuffer = some left) :
    (event.act (.queued nCommand pResultBuffer)).hEvent ∧
      (event.act (.queued nCommand pResultBuffer)).resultBuffer = left := by
  rw [block] at present
  split at present
  · rename_i fits
    cases present
    exact act_eq_overwrite ((event.fits_queued _ _).mpr fits)
  · cases present

end CommandEvent

/-! ## Runs of wrappers -/

namespace Host

/-- An event reaches the slot of a wrapper that is about to queue an opcode: it
has the opcode, it is not the pending event, and the first free slot comes
before every slot with the opcode. -/
structure Hears
    (host : Host)
    (nCommand : UInt16)
    (event : CommandEvent) : Prop where
  /-- The event has the opcode. -/
  opCode : event.opCode = nCommand
  /-- The event is not the pending event. -/
  notPending : ∀ pending ∈ host.pending, pending.eventCode ≠ event.eventCode
  /-- The first free slot comes before every slot with the opcode. -/
  unrivalled : ∃ nSlot, (host.queue nSlot).nCommand = 0 ∧
    ∀ earlier < nSlot, (host.queue earlier).nCommand ≠ 0 ∧
      (host.queue earlier).nCommand ≠ nCommand

/-- The pending event leaves the queue as it is. -/
theorem queue_onEvent_of_pending
    {host next : Host}
    {waitedFor : PendingEvent}
    {event : CommandEvent}
    (waiting : host.pending = some waitedFor)
    (same : waitedFor.eventCode = event.eventCode)
    (handled : host.onEvent event.bytes = some (result, next)) :
    next.queue = host.queue := by
  simp only [onEvent, waiting, onEventRoundTrip, event.eventCode_bytes, same,
    Option.bind_eq_bind, Option.bind_some, if_true] at handled
  split at handled
  · cases handled
    rfl
  · split at handled
    · cases handled
      rfl
    · contradiction

/-- Any other event is given to the slot found by its opcode. -/
theorem onEvent_of_not_pending
    {host : Host}
    {event : CommandEvent}
    (notPending : ∀ pending ∈ host.pending,
      pending.eventCode ≠ event.eventCode) :
    host.onEvent event.bytes = some (errorSuccess, {
      host with
      queue := CommandEvent.dispatcher.dispatch host.queue event }) := by
  cases waiting : host.pending with
  | none =>
      simp only [onEvent, waiting, CommandEvent.onEvent_bytes,
        Option.bind_eq_bind, Option.bind_some]
  | some pending =>
      have differs : event.eventCode ≠ pending.eventCode :=
        fun same => notPending pending waiting same.symm
      simp only [onEvent, waiting, onEventRoundTrip, event.eventCode_bytes,
        if_neg differs, CommandEvent.onEvent_bytes, Option.bind_eq_bind,
        Option.bind_some]

end Host

namespace CommandQueue

/-- The slot that a command is queued at is free, and no slot before it is. -/
theorem queueCommand_eq_some_iff
    {queue next : CommandQueue} :
    queue.queueCommand nCommand pResultBuffer = (some nSlot, next) ↔
      ((queue nSlot).nCommand = 0 ∧
        ∀ earlier < nSlot, (queue earlier).nCommand ≠ 0) ∧
      next = Function.update queue nSlot (.queued nCommand pResultBuffer) := by
  have found : (Fin.find? fun slot => (queue slot).nCommand = 0) =
      some nSlot ↔
        (queue nSlot).nCommand = 0 ∧
          ∀ earlier < nSlot, (queue earlier).nCommand ≠ 0 := by
    rw [Fin.find?_eq_some_iff]
    simp
  rw [← found]
  unfold queueCommand
  constructor
  · intro queued
    split at queued
    · cases queued
    · rename_i present
      cases queued
      exact ⟨present, rfl⟩
  · rintro ⟨present, rfl⟩
    rw [present]

/-- A command is not queued exactly when no slot is free. -/
theorem queueCommand_eq_none_iff
    {queue : CommandQueue} :
    (queue.queueCommand nCommand pResultBuffer).1 = none ↔
      ∀ slot, (queue slot).nCommand ≠ 0 := by
  have missing : (Fin.find? fun slot => (queue slot).nCommand = 0) = none ↔
      ∀ slot, (queue slot).nCommand ≠ 0 := by
    rw [Fin.find?_eq_none_iff]
    simp
  rw [← missing]
  unfold queueCommand
  split
  · rename_i absent
    exact ⟨fun _ => absent, fun _ => rfl⟩
  · rename_i present
    constructor
    · intro absent
      cases absent
    · intro absent
      rw [present] at absent
      cases absent

/-- A queued slot is found by its opcode when no slot before it has it. -/
theorem find_queued_iff
    {queue : CommandQueue}
    {event : CommandEvent} :
    CommandEvent.dispatcher.find
        (Function.update queue nSlot (.queued nCommand pResultBuffer))
        event.opCode = some nSlot ↔
      event.opCode = nCommand ∧
        ∀ earlier < nSlot, (queue earlier).nCommand ≠ nCommand := by
  rw [Dispatcher.find_eq_some_iff, Function.update_self]
  constructor
  · rintro ⟨same, first⟩
    have opCode : event.opCode = nCommand := same.symm
    refine ⟨opCode, fun earlier before => ?_⟩
    have differs := first earlier before
    rw [Function.update_of_ne (Fin.ne_of_lt before), opCode] at differs
    exact differs
  · rintro ⟨same, first⟩
    refine ⟨same.symm, fun earlier before => ?_⟩
    rw [Function.update_of_ne (Fin.ne_of_lt before), same]
    exact first earlier before

end CommandQueue

namespace SyncCommand

/-- The wrapper returns a status, and each byte of the memory of the caller is
as it was or a return parameter. -/
def Reports
    (sync : SyncCommand)
    (sender : Sender)
    (host : Host)
    (event : CommandEvent)
    (status : UInt8)
    (offset : Nat) : Prop :=
  ∃ result next,
    sync.run sender host event.bytes =
        some (.returns status.toUInt32 result, next) ∧
      event.Explains offset sync.result result

/-- The event fits the result buffer, and the wrapper finds the status in the
block that it leaves there. -/
def Concludes
    (sync : SyncCommand)
    (event : CommandEvent)
    (status : UInt8)
    (offset : Nat) : Prop :=
  ∃ block result,
    event.block sync.pResultBuffer = some block ∧
      sync.conclude block = some (status.toUInt32, result) ∧
      event.Explains offset sync.result result

/-- A wrapper goes on when its slot is signalled and returns what it concludes
from the block. -/
theorem afterEvent_eq_returns_iff
    {sync : SyncCommand}
    {host : Host}
    {left : List UInt8} :
    (∃ next, sync.afterEvent host nSlot =
        some (.returns dwResult left, next)) ↔
      (host.queue nSlot).hEvent ∧
        sync.conclude (host.queue nSlot).resultBuffer =
          some (dwResult, left) := by
  cases signalled : (host.queue nSlot).hEvent with
  | false => simp [afterEvent, CommandQueue.wait, signalled]
  | true =>
      have waited : host.queue.wait nSlot = some (Function.update host.queue
          nSlot { host.queue nSlot with hEvent := false }) := by
        rw [CommandQueue.wait, if_pos signalled]
      simp only [afterEvent, waited, Function.update_self]
      cases concluded : sync.conclude (host.queue nSlot).resultBuffer <;>
        simp [Prod.ext_iff]

/-- A wrapper whose command is queued and sent waits for the event. -/
theorem run_of_queued
    {sync : SyncCommand}
    {host : Host}
    {hciCommand : HciCommand}
    (built : sync.command = some hciCommand)
    (sent : hciCommand.send sender = errorSuccess)
    (queued : host.queue.queueCommand sync.nCommand sync.pResultBuffer =
      (some nSlot, queue))
    (pEvent : List UInt8) :
    sync.run sender host pEvent =
      ({ host with queue := queue : Host }.onEvent pEvent).bind
        fun handled => sync.afterEvent handled.2 nSlot := by
  unfold run
  rw [queued, built]
  have succeeds : ¬ hciCommand.send sender ≠ errorSuccess := by
    rw [sent]
    exact fun fails => fails rfl
  change (if hciCommand.send sender ≠ errorSuccess then _ else _) = _
  rw [if_neg succeeds]
  rfl

/-- A wrapper hears an event exactly when it is not the pending event and is
given to the slot of the wrapper. -/
theorem hears_iff
    {sync : SyncCommand}
    {host : Host}
    {event : CommandEvent}
    (queued : host.queue.queueCommand sync.nCommand sync.pResultBuffer =
      (some nSlot, queue)) :
    host.Hears sync.nCommand event ↔
      (∀ pending ∈ host.pending, pending.eventCode ≠ event.eventCode) ∧
        CommandEvent.dispatcher.find queue event.opCode = some nSlot := by
  obtain ⟨⟨free, first⟩, updated⟩ :=
    CommandQueue.queueCommand_eq_some_iff.mp queued
  rw [updated, CommandQueue.find_queued_iff]
  constructor
  · rintro ⟨opCode, notPending, other, otherFree, unrivalled⟩
    have same : other = nSlot := by
      rcases lt_trichotomy other nSlot with before | equal | behind
      · exact absurd otherFree (first other before)
      · exact equal
      · exact absurd free (unrivalled nSlot behind).1
    rw [same] at unrivalled
    exact ⟨notPending, opCode,
      fun earlier before => (unrivalled earlier before).2⟩
  · rintro ⟨notPending, opCode, rivals⟩
    exact {
      opCode := opCode
      notPending := notPending
      unrivalled := ⟨nSlot, free, fun earlier before =>
        ⟨first earlier before, rivals earlier before⟩⟩ }

/-- The slot of a wrapper after an event. -/
theorem slot_after
    {sync : SyncCommand}
    {host next : Host}
    {event : CommandEvent}
    (queued : host.queue.queueCommand sync.nCommand sync.pResultBuffer =
      (some nSlot, queue))
    (handled : { host with queue := queue : Host }.onEvent event.bytes =
      some (dwResult, next)) :
    (host.Hears sync.nCommand event →
      next.queue nSlot =
        event.act (.queued sync.nCommand sync.pResultBuffer)) ∧
    (¬ host.Hears sync.nCommand event →
      (next.queue nSlot).hEvent = false) := by
  have mine : queue nSlot = .queued sync.nCommand sync.pResultBuffer := by
    rw [(CommandQueue.queueCommand_eq_some_iff.mp queued).2,
      Function.update_self]
  rw [hears_iff queued]
  by_cases notPending : ∀ pending ∈ host.pending,
      pending.eventCode ≠ event.eventCode
  · have dispatched : { host with queue := queue : Host }.onEvent
        event.bytes = some (errorSuccess, {
          host with
          queue := CommandEvent.dispatcher.dispatch queue event }) :=
      Host.onEvent_of_not_pending notPending
    have after := congrArg (fun handled => handled.2.queue)
      (Option.some.inj (handled.symm.trans dispatched))
    simp only at after
    rw [after]
    constructor
    · rintro ⟨-, found⟩
      rw [Dispatcher.dispatch_of_some event found, Function.update_self,
        mine]
      rfl
    · intro deaf
      have notMine : CommandEvent.dispatcher.find queue event.opCode ≠
          some nSlot := fun found => deaf ⟨notPending, found⟩
      rw [Dispatcher.dispatch_of_ne event notMine, mine]
      rfl
  · refine ⟨fun hears => absurd hears.1 notPending, fun _ => ?_⟩
    push Not at notPending
    obtain ⟨pending, waiting, same⟩ := notPending
    have unchanged : next.queue = { host with queue := queue : Host }.queue :=
      Host.queue_onEvent_of_pending waiting same handled
    have silent : (next.queue nSlot).hEvent = (queue nSlot).hEvent := by
      rw [unchanged]
    rw [silent, mine]
    rfl

/-- A wrapper that returns has heard an event that fits and has concluded from
its block. -/
theorem heard_of_run
    {sync : SyncCommand}
    {host : Host}
    {event : CommandEvent}
    {hciCommand : HciCommand}
    {left : List UInt8}
    (built : sync.command = some hciCommand)
    (sent : hciCommand.send sender = errorSuccess)
    (ran : sync.run sender host event.bytes =
      some (.returns dwResult left, next)) :
    host.Hears sync.nCommand event ∧
      ∃ block, event.block sync.pResultBuffer = some block ∧
        sync.conclude block = some (dwResult, left) := by
  cases queued : host.queue.queueCommand sync.nCommand
      sync.pResultBuffer with
  | mk slot queue =>
      cases slot with
      | none =>
          unfold run at ran
          rw [queued] at ran
          cases ran
      | some nSlot =>
          rw [run_of_queued built sent queued] at ran
          obtain ⟨⟨_, handled⟩, onEvent, after⟩ :=
            Option.bind_eq_some_iff.mp ran
          obtain ⟨signalled, concluded⟩ :=
            afterEvent_eq_returns_iff.mp ⟨next, after⟩
          obtain ⟨heard, deaf⟩ := slot_after queued onEvent
          have hears : host.Hears sync.nCommand event := by
            by_contra notHeard
            rw [deaf notHeard] at signalled
            cases signalled
          rw [heard hears] at signalled concluded
          refine ⟨hears, ?_⟩
          cases fits : event.block sync.pResultBuffer with
          | none =>
              rw [CommandEvent.act_queued_of_block_none _ fits] at signalled
              cases signalled
          | some block =>
              obtain ⟨-, leaves⟩ :=
                CommandEvent.act_queued_of_block_some sync.nCommand fits
              rw [leaves] at concluded
              exact ⟨block, rfl, concluded⟩

/-- A wrapper that hears an event which fits returns what it concludes from the
block. -/
theorem exists_run_of_hears
    {sync : SyncCommand}
    {host : Host}
    {event : CommandEvent}
    {hciCommand : HciCommand}
    {left : List UInt8}
    (built : sync.command = some hciCommand)
    (sent : hciCommand.send sender = errorSuccess)
    (hears : host.Hears sync.nCommand event)
    (fits : event.block sync.pResultBuffer = some block)
    (concluded : sync.conclude block = some (dwResult, left)) :
    ∃ next, sync.run sender host event.bytes =
      some (.returns dwResult left, next) := by
  cases queued : host.queue.queueCommand sync.nCommand
      sync.pResultBuffer with
  | mk slot queue =>
      cases slot with
      | none =>
          have full := CommandQueue.queueCommand_eq_none_iff.mp
            (congrArg Prod.fst queued)
          obtain ⟨nSlot, free, -⟩ := hears.unrivalled
          exact absurd free (full nSlot)
      | some nSlot =>
          have onEvent : { host with queue := queue : Host }.onEvent
              event.bytes = some (errorSuccess, {
                host with
                queue := CommandEvent.dispatcher.dispatch queue event }) :=
            Host.onEvent_of_not_pending hears.notPending
          have heard := (slot_after queued onEvent).1 hears
          obtain ⟨signalled, leaves⟩ :=
            CommandEvent.act_queued_of_block_some sync.nCommand fits
          rw [← heard] at signalled leaves
          rw [← leaves] at concluded
          obtain ⟨next, after⟩ :=
            afterEvent_eq_returns_iff.mpr ⟨signalled, concluded⟩
          refine ⟨next, ?_⟩
          rw [run_of_queued built sent queued, onEvent, Option.bind_some]
          exact after

/-- A wrapper reports a status exactly when it hears the event and concludes
the status from it. -/
theorem reports_iff
    {sync : SyncCommand}
    {host : Host}
    {event : CommandEvent}
    {hciCommand : HciCommand}
    (built : sync.command = some hciCommand)
    (sent : hciCommand.send sender = errorSuccess) :
    sync.Reports sender host event status offset ↔
      host.Hears sync.nCommand event ∧
        sync.Concludes event status offset := by
  constructor
  · rintro ⟨result, next, ran, explained⟩
    obtain ⟨hears, block, fits, concluded⟩ := heard_of_run built sent ran
    exact ⟨hears, block, result, fits, concluded, explained⟩
  · rintro ⟨hears, block, result, fits, concluded, explained⟩
    obtain ⟨next, ran⟩ :=
      exists_run_of_hears built sent hears fits concluded
    exact ⟨result, next, ran, explained⟩

end SyncCommand

end Hci
end BthEmul
