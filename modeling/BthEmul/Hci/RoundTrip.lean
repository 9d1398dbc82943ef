import BthEmul.Foundation.FlatMemory
import BthEmul.Foundation.Machine
import BthEmul.Hci.EventStructures
import Mathlib.Logic.Function.Basic

/-!
# Waiting for an event

A function of `CHciRoundTrip` announces the event it is going to wait for and a
structure on its stack, sends its command, and returns what the event stored in
the structure. The announcement is three members of the object; nothing ever
withdraws it.

The functions may be called from several threads, and events arrive at any
time. A call of a function, the sending of its command, the end of its wait and
the handling of an event are the steps of a run.
-/

namespace BthEmul

open Foundation

namespace Hci

/-- The functions that wait for an event. -/
inductive RoundTripFunction
  | createConnection
  | disconnect
  | switchRole
  | remoteNameRequest
  deriving DecidableEq

/-- What a function returns behind its wait. -/
structure RoundTripValue where
  /-- `Status`. -/
  status : UInt8
  /-- `ConnectionHandle`, if the function stores one. -/
  connectionHandle : Option UInt16
  /-- `Name`, if the function stores one. -/
  name : Option (List UInt8)
  deriving DecidableEq

namespace RoundTripFunction

/-- The code of the event the function waits for. -/
def eventCode : RoundTripFunction → UInt8
  | createConnection => 0x03
  | disconnect => 0x05
  | switchRole => 0x12
  | remoteNameRequest => 0x07

/-- The structure of that event. -/
def eventStructure : RoundTripFunction → PackedType
  | createConnection => connectionCompleteEvent
  | disconnect => disconnectionCompleteEvent
  | switchRole => roleChangeEvent
  | remoteNameRequest => remoteNameRequestCompleteEvent

/-- The structure on the stack of the function. -/
def stackStructure : RoundTripFunction → PackedType
  | createConnection => connectionCompleteEvent
  | disconnect => connectionCompleteEvent
  | switchRole => roleChangeEvent
  | remoteNameRequest => remoteNameRequestCompleteEvent

/-- There is room for the event in the structure on the stack. -/
theorem eventStructure_le (function : RoundTripFunction) :
    function.eventStructure.size ≤ function.stackStructure.size := by
  cases function <;> decide

/-- The structure before the event is announced; one function clears it. -/
def prepared
    (function : RoundTripFunction)
    (stack : Nat → UInt8) : Nat → UInt8 :=
  match function with
  | remoteNameRequest =>
      FlatMemory.write stack 0
        (List.replicate remoteNameRequestCompleteEvent.size 0)
  | _ => stack

/-- What the function returns, read from the structure. -/
def returned
    (function : RoundTripFunction)
    (memory : Nat → UInt8) : RoundTripValue :=
  let status := memory (function.stackStructure.offset 2)
  match function with
  | createConnection =>
      { status := status
        connectionHandle := some
          (Reading.wordAt memory (connectionCompleteEvent.offset 3))
        name := none }
  | remoteNameRequest =>
      { status := status
        connectionHandle := none
        name :=
          if status = 0 then some (FlatMemory.read memory
            (remoteNameRequestCompleteEvent.offset 4) nameSize)
          else none }
  | _ => { status := status, connectionHandle := none, name := none }

/-- What the function returns depends only on the bytes of the event. -/
theorem returned_congr
    (function : RoundTripFunction)
    {memory other : Nat → UInt8}
    (agree : ∀ offset < function.eventStructure.size,
      memory offset = other offset) :
    function.returned memory = function.returned other := by
  cases function with
  | createConnection =>
      have status : memory 2 = other 2 := agree 2 (by decide)
      have low : memory 3 = other 3 := agree 3 (by decide)
      have high : memory (3 + 1) = other (3 + 1) := agree 4 (by decide)
      change RoundTripValue.mk (memory 2) (some (Reading.wordAt memory 3)) none
        = RoundTripValue.mk (other 2) (some (Reading.wordAt other 3)) none
      rw [status, Reading.wordAt, Reading.wordAt, low, high]
  | disconnect =>
      have status : memory 2 = other 2 := agree 2 (by decide)
      exact congrArg (RoundTripValue.mk · none none) status
  | switchRole =>
      have status : memory 2 = other 2 := agree 2 (by decide)
      exact congrArg (RoundTripValue.mk · none none) status
  | remoteNameRequest =>
      have status : memory 2 = other 2 := agree 2 (by decide)
      have name : FlatMemory.read memory 9 nameSize =
          FlatMemory.read other 9 nameSize := by
        apply FlatMemory.read_congr
        intro offset _ inside
        exact agree offset inside
      change RoundTripValue.mk (memory 2) none
          (if memory 2 = 0 then some (FlatMemory.read memory 9 nameSize)
          else none) =
        RoundTripValue.mk (other 2) none
          (if other 2 = 0 then some (FlatMemory.read other 9 nameSize)
          else none)
      rw [status, name]

end RoundTripFunction

/-! ## Events and calls -/

/-- An event given to `OnEvent`: a block with the event code in front, and the
number of its bytes that count. -/
structure IncomingEvent where
  /-- `EventCode`. -/
  eventCode : UInt8
  /-- The block behind the event code. -/
  behind : List UInt8
  /-- `Length`. -/
  length : Nat
  /-- The bytes that count are in the block. -/
  length_le : length ≤ behind.length + 1
  deriving DecidableEq

/-- The bytes of an event that count. -/
def IncomingEvent.bytes (event : IncomingEvent) : List UInt8 :=
  (event.eventCode :: event.behind).take event.length

@[simp] theorem IncomingEvent.length_bytes (event : IncomingEvent) :
    event.bytes.length = event.length :=
  List.length_take_of_le event.length_le

/-- A call that has announced its event and has not returned. -/
structure RoundTripCall where
  /-- The function that is called. -/
  function : RoundTripFunction
  /-- The memory from the structure on its stack on. -/
  memory : Nat → UInt8
  /-- The command was sent. -/
  waits : Bool
  /-- The event that was copied into the structure. -/
  delivered : Option IncomingEvent

/-- The structure of a call after an event was copied into it. -/
def RoundTripCall.deliver
    (event : IncomingEvent)
    (active : RoundTripCall) : RoundTripCall := {
  active with
  memory := FlatMemory.write active.memory 0 event.bytes
  delivered := some event }

/-- `CHciRoundTrip`, the calls of its functions that have not returned, and
what has become of the last announcement. -/
structure RoundTrip where
  /-- `m_PendingEvent`. -/
  pendingEvent : UInt8
  /-- `m_pEventParameters`: the structure of a call, unless never assigned. -/
  eventParameters : Option Nat
  /-- `m_dwEventParameterLength`. -/
  eventParameterLength : Nat
  /-- `m_hEventSignal` is signalled. -/
  eventSignal : Bool
  /-- The calls that have announced an event and have not returned. -/
  calls : Nat → Option RoundTripCall
  /-- The number of calls of `QueueEvent`. -/
  queued : Nat
  /-- The number of events consumed since the last of them. -/
  consumed : Nat

/-- What happens. -/
inductive RoundTripStep
  | queueEvent (function : RoundTripFunction) (stack : Nat → UInt8)
  | send (call : Nat) (dwResult : UInt32)
  | waitForEvent (call : Nat) (failure : Option UInt32)
  | onEvent (event : IncomingEvent)

/-- What comes of it. -/
inductive RoundTripOutput
  | goesOn
  | failed (call : Nat) (dwResult : UInt32)
  | returned (call : Nat) (value : RoundTripValue)
  | consumed (event : IncomingEvent) (target : Option Nat) (copied : Bool)
  | passedOn (event : IncomingEvent)

namespace RoundTrip

/-- `CHciRoundTrip::CHciRoundTrip`. The members behind the announcement are
left as the memory held them. -/
def start (pendingEvent : UInt8) (eventParameterLength : Nat) : RoundTrip where
  pendingEvent := pendingEvent
  eventParameters := none
  eventParameterLength := eventParameterLength
  eventSignal := false
  calls := fun _ => none
  queued := 0
  consumed := 0

/-- `QueueEvent`, for a function that is called. -/
def queueEvent
    (trip : RoundTrip)
    (function : RoundTripFunction)
    (stack : Nat → UInt8) : RoundTrip where
  pendingEvent := function.eventCode
  eventParameters := some trip.queued
  eventParameterLength := function.stackStructure.size
  eventSignal := false
  calls := Function.update trip.calls trip.queued (some {
    function := function
    memory := function.prepared stack
    waits := false
    delivered := none })
  queued := trip.queued + 1
  consumed := 0

/-- A call returns. -/
def release (trip : RoundTrip) (call : Nat) : RoundTrip := {
  trip with
  calls := Function.update trip.calls call none }

/-- The command of a call was handed to the driver, with some result. -/
def send
    (trip : RoundTrip)
    (call : Nat)
    (dwResult : UInt32) : Option (RoundTripOutput × RoundTrip) :=
  match trip.calls call with
  | none => none
  | some active =>
      if active.waits then none
      else if dwResult ≠ errorSuccess then
        some (.failed call dwResult, trip.release call)
      else
        some (.goesOn, {
          trip with
          calls := Function.update trip.calls call
            (some { active with waits := true }) })

/-- `WaitForEvent` ends, with an error or because the event is signalled. -/
def waitForEvent
    (trip : RoundTrip)
    (call : Nat)
    (failure : Option UInt32) : Option (RoundTripOutput × RoundTrip) :=
  match trip.calls call with
  | none => none
  | some active =>
      if ¬ active.waits then none
      else
        match failure with
        | some dwLastError =>
            let dwResult :=
              if active.function = .remoteNameRequest then errorInternalError
              else dwLastError
            some (.failed call dwResult, trip.release call)
        | none =>
            if trip.eventSignal then
              some (.returned call
                  (active.function.returned active.memory),
                { trip.release call with eventSignal := false })
            else none

/-- The calls after an event was copied to where the announcement points. -/
def deliver
    (trip : RoundTrip)
    (event : IncomingEvent) : Nat → Option RoundTripCall :=
  match trip.eventParameters with
  | none => trip.calls
  | some call =>
      Function.update trip.calls call
        ((trip.calls call).map (RoundTripCall.deliver event))

/-- `CHciRoundTrip::OnEvent`. -/
def onEvent
    (trip : RoundTrip)
    (event : IncomingEvent) : RoundTripOutput × RoundTrip :=
  if event.eventCode = trip.pendingEvent then
    if trip.eventParameterLength < event.length then
      (.consumed event trip.eventParameters false, {
        trip with
        eventParameterLength := 0
        eventSignal := true
        consumed := trip.consumed + 1 })
    else
      (.consumed event trip.eventParameters true, {
        trip with
        eventParameterLength := event.length
        eventSignal := true
        calls := trip.deliver event
        consumed := trip.consumed + 1 })
  else (.passedOn event, trip)

end RoundTrip

/-- The object under what happens. -/
def roundTripMachine : Machine RoundTrip RoundTripStep RoundTripOutput where
  step trip
    | .queueEvent function stack =>
        some (.goesOn, trip.queueEvent function stack)
    | .send call dwResult => trip.send call dwResult
    | .waitForEvent call failure => trip.waitForEvent call failure
    | .onEvent event => some (trip.onEvent event)

namespace RoundTrip

/-! ## The property -/

/-- An active call waits for an event with the code, and none was delivered to
it. -/
def Awaits (trip : RoundTrip) (eventCode : UInt8) : Prop :=
  ∃ call active, trip.calls call = some active ∧
    active.function.eventCode = eventCode ∧ active.delivered = none

/-- The value that a call returns is that of an event of the awaited code, as
long as its structure, that was delivered to it. -/
def ReturnsDelivered
    (trip : RoundTrip)
    (call : Nat)
    (value : RoundTripValue) : Prop :=
  ∃ active event, trip.calls call = some active ∧
    active.delivered = some event ∧
    event.eventCode = active.function.eventCode ∧
    event.length = active.function.eventStructure.size ∧
    ∀ memory, value =
      active.function.returned (FlatMemory.write memory 0 event.bytes)

/-- A step matches events to waits: an event is copied only into the structure
of an active call, it is the first that is consumed since the last call of
`QueueEvent`, one that no call waits for is passed on, and what a call returns
was delivered to it. -/
def Matches
    (trip : RoundTrip)
    (_ : RoundTripStep)
    (output : RoundTripOutput)
    (_ : RoundTrip) : Prop :=
  match output with
  | .consumed event target copied =>
      (copied = true →
        ∃ call active, target = some call ∧
          trip.calls call = some active) ∧
        trip.consumed = 0 ∧ trip.Awaits event.eventCode
  | .returned call value => trip.ReturnsDelivered call value
  | _ => True

/-- An event with the announced code comes only while the call that announced
it is active, only once, and with the length of its structure; and where a wait
ends because of an event, it is the wait of that call. -/
def Conforms (trip : RoundTrip) : RoundTripStep → Prop
  | .onEvent event =>
      event.eventCode = trip.pendingEvent →
        ∃ call active, trip.eventParameters = some call ∧
          trip.calls call = some active ∧
          active.delivered = none ∧
          event.length = active.function.eventStructure.size
  | .waitForEvent call none =>
      (trip.calls call).isSome → trip.eventParameters = some call
  | _ => True

/-! ## What every step keeps -/

/-- What was delivered to a call is an event of the awaited code, as long as
its structure, and stands in the structure on its stack. -/
def HoldsDelivered (active : RoundTripCall) : Prop :=
  ∀ event, active.delivered = some event →
    event.eventCode = active.function.eventCode ∧
      event.length = active.function.eventStructure.size ∧
      ∃ memory, active.memory = FlatMemory.write memory 0 event.bytes

/-- The announcement is that of the call it belongs to, until an event was
delivered to that call. -/
def Announces (trip : RoundTrip) (active : RoundTripCall) : Prop :=
  active.delivered = none →
    trip.pendingEvent = active.function.eventCode ∧
      trip.eventParameterLength = active.function.stackStructure.size ∧
      trip.consumed = 0

/-- What every step keeps. -/
structure Kept (trip : RoundTrip) : Prop where
  /-- Calls are numbered in the order of their announcements. -/
  numbered : ∀ call, trip.queued ≤ call → trip.calls call = none
  /-- What was delivered to a call is as it should be. -/
  holds : ∀ call active, trip.calls call = some active →
    HoldsDelivered active
  /-- The announcement belongs to the call it points to. -/
  announces : ∀ call active, trip.eventParameters = some call →
    trip.calls call = some active → trip.Announces active
  /-- The call it points to is signalled only that its event was delivered. -/
  signalled : trip.eventSignal = true → ∀ call active,
    trip.eventParameters = some call → trip.calls call = some active →
      active.delivered.isSome

/-- The object as it is constructed. -/
theorem kept_start (pendingEvent : UInt8) (eventParameterLength : Nat) :
    (start pendingEvent eventParameterLength).Kept :=
  ⟨fun _ _ => rfl, nofun, nofun, nofun⟩

/-- A call that announces an event is the one the announcement belongs to. -/
theorem Kept.queueEvent
    {trip : RoundTrip}
    (kept : trip.Kept)
    (function : RoundTripFunction)
    (stack : Nat → UInt8) :
    (trip.queueEvent function stack).Kept := by
  refine ⟨?_, ?_, ?_, nofun⟩
  · intro call later
    have behind : trip.queued + 1 ≤ call := later
    have other : call ≠ trip.queued := by omega
    exact (Function.update_of_ne other _ _).trans
      (kept.numbered call (by omega))
  · intro call active found
    by_cases same : call = trip.queued
    · subst same
      cases (Function.update_self trip.queued _ trip.calls).symm.trans found
      exact nofun
    · exact kept.holds call active
        ((Function.update_of_ne same _ _).symm.trans found)
  · intro call active points found _
    cases points
    cases (Function.update_self trip.queued _ trip.calls).symm.trans found
    exact ⟨rfl, rfl, rfl⟩

/-- One call changes, and what was delivered to it does not. -/
theorem Kept.update
    {trip : RoundTrip}
    (kept : trip.Kept)
    {call : Nat}
    {active : RoundTripCall}
    (found : trip.calls call = some active)
    (changed : Option RoundTripCall)
    (same : ∀ later, changed = some later →
      later.function = active.function ∧ later.memory = active.memory ∧
        later.delivered = active.delivered) :
    ({ trip with
        calls := Function.update trip.calls call changed } :
      RoundTrip).Kept := by
  refine ⟨?_, ?_, ?_, ?_⟩
  · intro other later
    by_cases here : other = call
    · subst here
      rw [kept.numbered other later] at found
      contradiction
    · exact (Function.update_of_ne here _ _).trans (kept.numbered other later)
  · intro other later present
    by_cases here : other = call
    · subst here
      obtain ⟨function, memory, delivered⟩ :=
        same later ((Function.update_self other _ _).symm.trans present)
      have holds := kept.holds other active found
      unfold HoldsDelivered at holds ⊢
      rwa [function, memory, delivered]
    · exact kept.holds other later
        ((Function.update_of_ne here _ _).symm.trans present)
  · intro other later points present
    by_cases here : other = call
    · subst here
      obtain ⟨function, -, delivered⟩ :=
        same later ((Function.update_self other _ _).symm.trans present)
      have announces := kept.announces other active points found
      unfold Announces at announces ⊢
      rwa [function, delivered]
    · exact kept.announces other later points
        ((Function.update_of_ne here _ _).symm.trans present)
  · intro signal other later points present
    by_cases here : other = call
    · subst here
      obtain ⟨-, -, delivered⟩ :=
        same later ((Function.update_self other _ _).symm.trans present)
      rw [delivered]
      exact kept.signalled signal other active points found
    · exact kept.signalled signal other later points
        ((Function.update_of_ne here _ _).symm.trans present)

/-! ## Steps -/

/-- Sending a command matches and keeps. -/
theorem Kept.send
    {trip next : RoundTrip}
    (kept : trip.Kept)
    (stepped : trip.send call dwResult = some (output, next)) :
    trip.Matches (.send call dwResult) output next ∧ next.Kept := by
  unfold RoundTrip.send at stepped
  split at stepped
  · contradiction
  · rename_i active found
    split at stepped
    · contradiction
    · split at stepped
      · cases stepped
        exact ⟨trivial, kept.update found none nofun⟩
      · cases stepped
        refine ⟨trivial, kept.update found _ ?_⟩
        intro later changed
        cases changed
        exact ⟨rfl, rfl, rfl⟩

/-- The value a call returns is that of the event that was delivered to it. -/
theorem HoldsDelivered.returnsDelivered
    {trip : RoundTrip}
    {active : RoundTripCall}
    {event : IncomingEvent}
    (holds : HoldsDelivered active)
    (found : trip.calls call = some active)
    (delivered : active.delivered = some event) :
    trip.ReturnsDelivered call (active.function.returned active.memory) := by
  obtain ⟨eventCode, length, before, memory⟩ := holds event delivered
  refine ⟨active, event, found, delivered, eventCode, length, ?_⟩
  intro other
  apply active.function.returned_congr
  intro offset inside
  rw [memory]
  apply FlatMemory.write_zero_congr
  rwa [event.length_bytes, length]

/-- The end of a wait matches and keeps. -/
theorem Kept.waitForEvent
    {trip next : RoundTrip}
    {failure : Option UInt32}
    (kept : trip.Kept)
    (conforms : trip.Conforms (.waitForEvent call failure))
    (stepped : trip.waitForEvent call failure = some (output, next)) :
    trip.Matches (.waitForEvent call failure) output next ∧ next.Kept := by
  unfold RoundTrip.waitForEvent at stepped
  split at stepped
  · contradiction
  · rename_i active found
    split at stepped
    · contradiction
    · cases failure with
      | some dwLastError =>
          cases stepped
          exact ⟨trivial, kept.update found none nofun⟩
      | none =>
          simp only at stepped
          split at stepped
          · rename_i signal
            cases stepped
            obtain ⟨event, delivered⟩ := Option.isSome_iff_exists.mp
              (kept.signalled signal call active
                (conforms (by rw [found]; rfl)) found)
            refine ⟨(kept.holds call active found).returnsDelivered found
              delivered, ?_⟩
            have released := kept.update found none nofun
            exact ⟨released.numbered, released.holds, released.announces, nofun⟩
          · contradiction

/-- An event is copied into the structure of the call that announced it. -/
theorem deliver_of_points
    {trip : RoundTrip}
    {active : RoundTripCall}
    (event : IncomingEvent)
    (points : trip.eventParameters = some call)
    (found : trip.calls call = some active) :
    trip.deliver event =
      Function.update trip.calls call (some (active.deliver event)) := by
  rw [deliver, points]
  simp only [found, Option.map_some]

/-- An awaited event of the right length, copied into the structure of the call
that announced it, keeps. -/
theorem Kept.deliver
    {trip : RoundTrip}
    {active : RoundTripCall}
    (kept : trip.Kept)
    (points : trip.eventParameters = some call)
    (found : trip.calls call = some active)
    (awaited : event.eventCode = active.function.eventCode)
    (length : event.length = active.function.eventStructure.size) :
    ({ trip with
        eventParameterLength := event.length
        eventSignal := true
        calls := trip.deliver event
        consumed := trip.consumed + 1 } : RoundTrip).Kept := by
  rw [deliver_of_points event points found]
  refine ⟨?_, ?_, ?_, ?_⟩
  · intro other later
    have unused := kept.numbered other later
    have elsewhere : other ≠ call := by
      rintro rfl
      rw [found] at unused
      contradiction
    exact (Function.update_of_ne elsewhere _ _).trans unused
  · intro other later present
    by_cases here : other = call
    · subst here
      have same := (Function.update_self other _ _).symm.trans present
      cases same
      intro event' same
      cases same
      exact ⟨awaited, length, active.memory, rfl⟩
    · exact kept.holds other later
        ((Function.update_of_ne here _ _).symm.trans present)
  · intro other later same present
    cases points.symm.trans same
    cases (Function.update_self call _ _).symm.trans present
    intro undelivered
    contradiction
  · intro _ other later same present
    cases points.symm.trans same
    cases (Function.update_self call _ _).symm.trans present
    rfl

/-- Handling an event matches and keeps. -/
theorem Kept.onEvent
    {trip : RoundTrip}
    (kept : trip.Kept)
    (conforms : trip.Conforms (.onEvent event)) :
    trip.Matches (.onEvent event) (trip.onEvent event).1
        (trip.onEvent event).2 ∧
      (trip.onEvent event).2.Kept := by
  unfold RoundTrip.onEvent
  by_cases pending : event.eventCode = trip.pendingEvent
  · obtain ⟨call, active, points, found, undelivered, length⟩ :=
      conforms pending
    obtain ⟨code, room, first⟩ :=
      kept.announces call active points found undelivered
    have fits : ¬ trip.eventParameterLength < event.length := by
      have enough := active.function.eventStructure_le
      omega
    rw [if_pos pending, if_neg fits]
    have awaited := pending.trans code
    refine ⟨⟨fun _ => ⟨call, active, points, found⟩, first, call, active,
      found, awaited.symm, undelivered⟩, ?_⟩
    exact kept.deliver points found awaited length
  · rw [if_neg pending]
    exact ⟨trivial, kept⟩

/-- A step that conforms matches and keeps. -/
theorem Kept.step
    {trip next : RoundTrip}
    {happens : RoundTripStep}
    (kept : trip.Kept)
    (conforms : trip.Conforms happens)
    (stepped : roundTripMachine.step trip happens = some (output, next)) :
    trip.Matches happens output next ∧ next.Kept := by
  cases happens with
  | queueEvent function stack =>
      cases stepped
      exact ⟨trivial, kept.queueEvent function stack⟩
  | send call dwResult => exact kept.send stepped
  | waitForEvent call failure => exact kept.waitForEvent conforms stepped
  | onEvent event =>
      have handled := kept.onEvent conforms
      rwa [Option.some.inj stepped] at handled

/-! ## Runs -/

/-- In a run all of whose steps conform, every event is matched to the wait
that asked for it, whatever the members held at first. -/
theorem always_matches
    (pendingEvent : UInt8)
    (eventParameterLength : Nat)
    (happens : List RoundTripStep)
    (conforms : roundTripMachine.Admits Conforms
      (start pendingEvent eventParameterLength) happens) :
    roundTripMachine.Always Matches
      (start pendingEvent eventParameterLength) happens := by
  refine Machine.always_of_admits Kept ?_ (kept_start _ _) conforms
  intro trip happens output next kept conforms stepped
  exact kept.step conforms stepped

/-- The event that completes a disconnection. -/
def disconnected : IncomingEvent where
  eventCode := 0x05
  behind := [4, 0, 1, 0, 0x13]
  length := 6
  length_le := by decide

/-- A connection is closed: the event comes while the call waits for it. -/
def disconnection : List RoundTripStep :=
  [.queueEvent .disconnect fun _ => 0xcc, .send 0 errorSuccess,
    .onEvent disconnected, .waitForEvent 0 none]

theorem always_matches_disconnection :
    roundTripMachine.Always Matches (start 0 0) disconnection := by
  refine always_matches 0 0 disconnection ⟨trivial, ?_⟩
  intro _ _ queued
  cases queued
  refine ⟨trivial, ?_⟩
  intro _ _ sent
  cases sent
  refine ⟨fun _ => ⟨0, _, rfl, rfl, rfl, rfl⟩, ?_⟩
  intro _ _ handled
  cases handled
  exact ⟨fun _ => rfl, fun _ _ _ => trivial⟩

/-- The event that reports a connection. -/
def connected : IncomingEvent where
  eventCode := 0x03
  behind := [11, 0, 1, 0, 1, 2, 3, 4, 5, 6, 1, 0]
  length := 13
  length_le := by decide

/-- The command is not sent, the call returns, and the event comes later. -/
def lateConnection : List RoundTripStep :=
  [.queueEvent .createConnection fun _ => 0xcc, .send 0 errorInternalError,
    .onEvent connected]

/-- An event that comes after the call has returned is copied to where its
stack was, and not passed on. -/
theorem not_always_matches_lateConnection :
    roundTripMachine.run (start 0 0) lateConnection =
        some ([.goesOn, .failed 0 errorInternalError,
            .consumed connected (some 0) true],
          (((start 0 0).queueEvent .createConnection fun _ => 0xcc).release
            0).onEvent connected |>.2) ∧
      ¬ roundTripMachine.Always Matches (start 0 0) lateConnection := by
  refine ⟨rfl, ?_⟩
  intro always
  have last := (((always _ _ rfl).2 _ _ rfl).2 _ _ rfl).1
  obtain ⟨call, active, target, found⟩ := last.1 rfl
  cases target
  contradiction

/-! ## Calls that follow one another -/

/-- A call begins when no other is active, and events come as they should. -/
def InSequence (trip : RoundTrip) : RoundTripStep → Prop
  | .queueEvent _ _ => ∀ call, trip.calls call = none
  | .onEvent event => trip.Conforms (.onEvent event)
  | _ => True

/-- The announcement is that of every active call. -/
def Latest (trip : RoundTrip) : Prop :=
  ∀ call, (trip.calls call).isSome → trip.eventParameters = some call

/-- At first no call is active. -/
theorem latest_start (pendingEvent : UInt8) (eventParameterLength : Nat) :
    (start pendingEvent eventParameterLength).Latest := by
  intro call present
  contradiction

/-- No step but an announcement makes a call active. -/
theorem Latest.of_isSome
    {trip next : RoundTrip}
    (latest : trip.Latest)
    (points : next.eventParameters = trip.eventParameters)
    (active : ∀ call, (next.calls call).isSome → (trip.calls call).isSome) :
    next.Latest := by
  intro call present
  rw [points]
  exact latest call (active call present)

/-- A change of an active call makes no other call active. -/
theorem isSome_of_update
    {trip : RoundTrip}
    {active : RoundTripCall}
    {changed : Option RoundTripCall}
    (found : trip.calls call = some active)
    (present : (Function.update trip.calls call changed other).isSome) :
    (trip.calls other).isSome := by
  by_cases here : other = call
  · subst here
    rw [found]
    rfl
  · rwa [Function.update_of_ne here] at present

/-- An event that is delivered leaves the same calls active. -/
theorem isSome_deliver (trip : RoundTrip) (event : IncomingEvent) (call : Nat) :
    (trip.deliver event call).isSome = (trip.calls call).isSome := by
  unfold deliver
  cases trip.eventParameters with
  | none => rfl
  | some target =>
      dsimp only
      by_cases here : call = target
      · subst here
        rw [Function.update_self, Option.isSome_map]
      · rw [Function.update_of_ne here]

/-- Every step leaves the announcement that of every active call. -/
theorem Latest.step
    {trip next : RoundTrip}
    {happens : RoundTripStep}
    (latest : trip.Latest)
    (inSequence : trip.InSequence happens)
    (stepped : roundTripMachine.step trip happens = some (output, next)) :
    next.Latest := by
  cases happens with
  | queueEvent function stack =>
      cases stepped
      intro call present
      by_cases here : call = trip.queued
      · rw [here]
        rfl
      · have before : (trip.calls call).isSome := by
          rwa [← Function.update_of_ne here _ trip.calls]
        rw [inSequence call] at before
        contradiction
  | send call dwResult =>
      simp only [roundTripMachine, send] at stepped
      split at stepped
      · contradiction
      · rename_i active found
        split at stepped
        · contradiction
        · split at stepped <;> cases stepped
          · exact latest.of_isSome rfl fun _ => isSome_of_update found
          · exact latest.of_isSome rfl fun _ => isSome_of_update found
  | waitForEvent call failure =>
      simp only [roundTripMachine, waitForEvent] at stepped
      split at stepped
      · contradiction
      · rename_i active found
        split at stepped
        · contradiction
        · split at stepped
          · cases stepped
            exact latest.of_isSome rfl fun _ => isSome_of_update found
          · split at stepped <;> cases stepped
            exact latest.of_isSome rfl fun _ => isSome_of_update found
  | onEvent event =>
      have handled : trip.onEvent event = (output, next) :=
        Option.some.inj stepped
      have same : next = (trip.onEvent event).2 := by rw [handled]
      subst same
      unfold onEvent
      split
      · split
        · exact latest
        · refine latest.of_isSome rfl ?_
          intro call present
          change (trip.deliver event call).isSome at present
          rwa [isSome_deliver] at present
      · exact latest

/-- Where calls follow one another, the condition is one on the events only. -/
theorem conforms_of_inSequence
    {pendingEvent : UInt8}
    {eventParameterLength : Nat}
    {happens : List RoundTripStep}
    (inSequence : roundTripMachine.Admits InSequence
      (start pendingEvent eventParameterLength) happens) :
    roundTripMachine.Admits Conforms
      (start pendingEvent eventParameterLength) happens := by
  refine Machine.Admits.mono Latest ?_ ?_ (latest_start _ _) inSequence
  · intro trip step latest follows
    cases step with
    | queueEvent function stack => trivial
    | send call dwResult => trivial
    | waitForEvent call failure =>
        cases failure with
        | none => exact latest call
        | some dwLastError => trivial
    | onEvent event => exact follows
  · intro trip step output next latest follows stepped
    exact latest.step follows stepped

end RoundTrip

end Hci
end BthEmul
