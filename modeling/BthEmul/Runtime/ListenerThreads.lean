import BthEmul.Foundation.Machine

/-!
# The event listener and the data reader

`StartEventListener` creates two threads, `StopEventListener` signals an
auto-reset event to each and waits for it: without a limit for the listener,
five seconds for the reader, which is terminated after that. An auto-reset event
stays signalled until a wait is satisfied by it. The listener returns on every
error; the reader begins its loop again, and looks at its event only behind a
`GetData` that succeeded.

What either thread does between two waits is one step of it. The calls are
those of one client, one after another.
-/

namespace BthEmul

open Foundation

namespace Runtime

/-- Where the loop of a thread is. -/
inductive LoopPoint
  /-- It handles an event, or is about to call `GetData`. -/
  | working
  /-- In `WaitForMultipleObjects`, with the stop event first. -/
  | waiting
  /-- The thread has returned. -/
  | ended
  deriving DecidableEq

/-- How many steps a loop is away from its end when it is to stop. -/
def LoopPoint.rank : LoopPoint → Nat
  | working => 2
  | waiting => 1
  | ended => 0

/-- Where a loop is behind an error: it goes on, or the thread returns. -/
def LoopPoint.afterError (goesOn : Bool) : LoopPoint :=
  if goesOn then working else ended

/-- A thread and the event that stops it. -/
structure Loop where
  /-- The stop event is signalled. -/
  stop : Bool
  /-- The thread behind the handle, or `NULL`. -/
  thread : Option LoopPoint
  deriving DecidableEq

namespace Loop

/-- No thread, and the event not signalled. -/
def initial : Loop where
  stop := false
  thread := none

/-- There is a thread that has not returned. -/
def runs (loop : Loop) : Bool :=
  match loop.thread with
  | none | some .ended => false
  | some .working | some .waiting => true

/-- How many steps the thread is away from its end. -/
def rank (loop : Loop) : Nat :=
  match loop.thread with
  | none => 0
  | some point => point.rank

/-- `CreateThread`. -/
def create (loop : Loop) (point : LoopPoint) : Loop :=
  { loop with thread := some point }

/-- `SetEvent` on the stop event. -/
def signal (loop : Loop) : Loop :=
  { loop with stop := true }

/-- The handle is closed and set to `NULL`. -/
def close (loop : Loop) : Loop :=
  { loop with thread := none }

/-- What the thread does next, where what it calls fails or not. A wait that does
not fail is satisfied by the stop event if that is signalled, which resets it,
and by completed input else. -/
def advance
    (goesOn : Bool)
    (loop : Loop)
    (fails : Bool) : Option Loop :=
  match loop.thread with
  | none | some .ended => none
  | some .working =>
      if fails then some { loop with thread := some (.afterError goesOn) }
      else some { loop with thread := some .waiting }
  | some .waiting =>
      if fails then some { loop with thread := some (.afterError goesOn) }
      else if loop.stop then some { stop := false, thread := some .ended }
      else some { loop with thread := some .working }

end Loop

/-- How far a call of `StartEventListener` is. -/
inductive StartPoint
  /-- In `CHci::StartEventListener`. -/
  | listener
  /-- Behind it. -/
  | reader
  deriving DecidableEq

/-- How far a call of `StopEventListener` is. -/
inductive StopPoint
  | signalListener
  | waitListener
  | signalReader
  /-- The reader has taken a number of steps since its event was signalled. -/
  | waitReader (steps : Nat)
  deriving DecidableEq

/-- What the client is doing. -/
inductive HciCall
  | idle
  | start (point : StartPoint)
  | stop (point : StopPoint)
  deriving DecidableEq

/-- The client and the two threads. -/
structure HciThreads where
  call : HciCall
  /-- The listener ran when the last start began. -/
  listenerBefore : Bool
  /-- The reader ran when the last start began. -/
  readerBefore : Bool
  /-- `m_hListenerThread` and `m_hStopListeningEvent`. -/
  listener : Loop
  /-- `m_hReaderThread` and `m_hStopReadingEvent`. -/
  reader : Loop
  deriving DecidableEq

/-- What a step of a call ends with. -/
inductive HciEvent
  /-- `StartEventListener` returns `ERROR_SUCCESS` or an error. -/
  | started (succeeds : Bool)
  /-- `StopEventListener` returns. -/
  | stopped
  /-- `StopEventListener` returns behind `TerminateThread` on a running
  thread. -/
  | terminated
  deriving DecidableEq

namespace HciThreads

/-- `CHci::CHci` and `CBthEmulHci::CBthEmulHci`. -/
def initial : HciThreads where
  call := .idle
  listenerBefore := false
  readerBefore := false
  listener := .initial
  reader := .initial

/-- `CHci::StartEventListener` and what `CBthEmulHci::StartEventListener` does
behind it. A call that creates a thread returns when that is ready. -/
def startEventListener
    (state : HciThreads)
    (succeeds : Bool) : StartPoint → Option HciEvent × HciThreads
  | .listener =>
      if state.listener.thread ≠ none then
        (some (.started false), { state with call := .idle })
      else if succeeds then
        (none, { state with
          call := .start .reader
          listener := state.listener.create .waiting })
      else (some (.started false), { state with call := .idle })
  | .reader =>
      if state.reader.thread ≠ none then
        (some (.started false), { state with call := .idle })
      else if succeeds then
        (some (.started true), { state with
          call := .idle
          reader := state.reader.create .working })
      else (some (.started false), { state with call := .idle })

/-- `CHci::StopEventListener` and what `CBthEmulHci::StopEventListener` does
behind it. The wait for a thread ends with the thread, that for the reader also
when its time is over; a wait for `NULL` fails at once. -/
def stopEventListener
    (state : HciThreads)
    (inTime : Bool) : StopPoint → Option (Option HciEvent × HciThreads)
  | .signalListener =>
      some (none, { state with
        call := .stop .waitListener
        listener := state.listener.signal })
  | .waitListener =>
      if state.listener.runs then none
      else
        some (none, { state with
          call := .stop .signalReader
          listener := state.listener.close })
  | .signalReader =>
      some (none, { state with
        call := .stop (.waitReader 0)
        reader := state.reader.signal })
  | .waitReader _ =>
      if state.reader.runs then
        if inTime then none
        else
          some (some .terminated, { state with
            call := .idle
            reader := state.reader.close })
      else
        some (some .stopped, { state with
          call := .idle
          reader := state.reader.close })

/-- `Listener`: it returns on an error. -/
def runListener (state : HciThreads) (fails : Bool) : Option HciThreads := do
  let listener ← state.listener.advance false fails
  some { state with listener := listener }

/-- A step of the reader during the wait for it is counted. -/
def countStep : HciCall → HciCall
  | .stop (.waitReader steps) => .stop (.waitReader (steps + 1))
  | call => call

/-- `CBthEmulHci::DataReader`: it begins its loop again on an error. -/
def dataReader (state : HciThreads) (fails : Bool) : Option HciThreads := do
  let reader ← state.reader.advance true fails
  some { state with call := countStep state.call, reader := reader }

end HciThreads

/-- What happens next. -/
inductive HciAction
  /-- The client calls `StartEventListener`. -/
  | start
  /-- The client calls `StopEventListener`. -/
  | stop
  /-- The call goes on: `CreateThread` succeeds, or the wait ends in time. -/
  | call (succeeds : Bool)
  | listener (fails : Bool)
  | reader (fails : Bool)
  deriving DecidableEq

/-- The client and the two threads in any order. -/
def hciThreadsMachine : Machine HciThreads HciAction (Option HciEvent) where
  step state
    | .start =>
        match state.call with
        | .idle =>
            some (none, { state with
              call := .start .listener
              listenerBefore := state.listener.runs
              readerBefore := state.reader.runs })
        | .start _ | .stop _ => none
    | .stop =>
        match state.call with
        | .idle => some (none, { state with call := .stop .signalListener })
        | .start _ | .stop _ => none
    | .call succeeds =>
        match state.call with
        | .idle => none
        | .start point => some (state.startEventListener succeeds point)
        | .stop point => state.stopEventListener succeeds point
    | .listener fails => do
        let next ← state.runListener fails
        some (none, next)
    | .reader fails => do
        let next ← state.dataReader fails
        some (none, next)

/-! ## The property -/

namespace HciCall

/-- A stop is in progress. -/
def stops : HciCall → Bool
  | stop _ => true
  | idle | start _ => false

/-- A stop waits for the listener. -/
def awaitsListener : HciCall → Bool
  | stop .waitListener => true
  | stop .signalListener | stop .signalReader | stop (.waitReader _)
  | idle | start _ => false

/-- A stop waits for the reader. -/
def awaitsReader : HciCall → Bool
  | stop (.waitReader _) => true
  | stop .signalListener | stop .signalReader | stop .waitListener
  | idle | start _ => false

end HciCall

/-- A thread ends only during a stop. It takes the signal of its event only while
the stop that gave the signal waits for it, and then every step of it is one
towards its end. -/
structure LoopSound
    (stops awaited moves : Bool)
    (loop next : Loop) : Prop where
  ends : loop.runs = true → next.runs = false → stops = true
  taken : loop.stop = true → next.stop = false → awaited = true
  nearer : awaited = true → moves = true → next.rank < loop.rank

instance
    (stops awaited moves : Bool)
    (loop next : Loop) : Decidable (LoopSound stops awaited moves loop next) :=
  decidable_of_iff
    ((loop.runs = true → next.runs = false → stops = true) ∧
      (loop.stop = true → next.stop = false → awaited = true) ∧
      (awaited = true → moves = true → next.rank < loop.rank))
    ⟨fun ⟨ends, taken, nearer⟩ => ⟨ends, taken, nearer⟩,
      fun sound => ⟨sound.ends, sound.taken, sound.nearer⟩⟩

/-- The listener takes a step. -/
def HciAction.movesListener : HciAction → Bool
  | listener _ => true
  | start | stop | call _ | reader _ => false

/-- The reader takes a step. -/
def HciAction.movesReader : HciAction → Bool
  | reader _ => true
  | start | stop | call _ | listener _ => false

/-- Both threads are sound. Behind a start that succeeds both run, behind one
that fails only those that ran before, and no thread is terminated. -/
structure ThreadsSound
    (state : HciThreads)
    (action : HciAction)
    (event : Option HciEvent)
    (next : HciThreads) : Prop where
  listener :
    LoopSound state.call.stops state.call.awaitsListener action.movesListener
      state.listener next.listener
  reader :
    LoopSound state.call.stops state.call.awaitsReader action.movesReader
      state.reader next.reader
  succeeded : event = some (.started true) →
    next.listener.runs = true ∧ next.reader.runs = true
  failed : event = some (.started false) →
    (next.listener.runs = true → state.listenerBefore = true) ∧
      (next.reader.runs = true → state.readerBefore = true)
  spared : event ≠ some .terminated

instance
    (state : HciThreads)
    (action : HciAction)
    (event : Option HciEvent)
    (next : HciThreads) : Decidable (ThreadsSound state action event next) :=
  decidable_of_iff
    (LoopSound state.call.stops state.call.awaitsListener action.movesListener
        state.listener next.listener ∧
      LoopSound state.call.stops state.call.awaitsReader action.movesReader
        state.reader next.reader ∧
      (event = some (.started true) →
        next.listener.runs = true ∧ next.reader.runs = true) ∧
      (event = some (.started false) →
        (next.listener.runs = true → state.listenerBefore = true) ∧
          (next.reader.runs = true → state.readerBefore = true)) ∧
      event ≠ some .terminated)
    ⟨fun ⟨listener, reader, succeeded, failed, spared⟩ =>
        ⟨listener, reader, succeeded, failed, spared⟩,
      fun sound => ⟨sound.listener, sound.reader, sound.succeeded, sound.failed,
        sound.spared⟩⟩

/-! ## What a step needs -/

namespace LoopPoint

/-- What a step of a thread needs: a loop that returns on an error meets one only
during a stop, one that goes on meets none while a stop waits for it, and a wait
that does not fail finds the stop event signalled only then. -/
def Conforms
    (goesOn stops awaited stop fails : Bool) : LoopPoint → Prop
  | working =>
      fails = true → if goesOn then awaited = false else stops = true
  | waiting =>
      if fails then if goesOn then awaited = false else stops = true
      else stop = true → awaited = true
  | ended => True

instance
    (goesOn stops awaited stop fails : Bool) :
    (point : LoopPoint) →
      Decidable (point.Conforms goesOn stops awaited stop fails)
  | .working =>
      inferInstanceAs
        (Decidable
          (fails = true → if goesOn then awaited = false else stops = true))
  | .waiting =>
      inferInstanceAs
        (Decidable
          (if fails then if goesOn then awaited = false else stops = true
          else stop = true → awaited = true))
  | .ended => isTrue trivial

end LoopPoint

namespace Loop

/-- The thread, if there is one, conforms. -/
def Conforms
    (goesOn stops awaited : Bool)
    (loop : Loop)
    (fails : Bool) : Prop :=
  ∀ point ∈ loop.thread, point.Conforms goesOn stops awaited loop.stop fails

instance
    (goesOn stops awaited : Bool)
    (loop : Loop)
    (fails : Bool) : Decidable (loop.Conforms goesOn stops awaited fails) :=
  inferInstanceAs (Decidable (∀ point ∈ loop.thread, _))

end Loop

/-- What a step needs: the reader can be created behind the listener, the wait
for it goes on until it has returned or taken two steps, and each thread takes
the steps it should. -/
def HciThreads.Conforms (state : HciThreads) : HciAction → Prop
  | .start | .stop => True
  | .call succeeds =>
      match state.call with
      | .start .reader => succeeds = true
      | .stop (.waitReader steps) =>
          succeeds = false → state.reader.runs = true → 2 ≤ steps
      | .idle | .start .listener | .stop .signalListener
      | .stop .waitListener | .stop .signalReader => True
  | .listener fails =>
      state.listener.Conforms false state.call.stops state.call.awaitsListener
        fails
  | .reader fails =>
      state.reader.Conforms true state.call.stops state.call.awaitsReader fails

/-! ## Steps of a thread -/

namespace Loop

/-- What a step of a thread can be. -/
theorem cases_of_advance
    {loop next : Loop}
    (advanced : loop.advance goesOn fails = some next) :
    ∃ point, loop.thread = some point ∧ point ≠ .ended ∧
      ((fails = true ∧
          next = { loop with thread := some (.afterError goesOn) }) ∨
        (fails = false ∧ point = .working ∧
          next = { loop with thread := some .waiting }) ∨
        (fails = false ∧ point = .waiting ∧ loop.stop = true ∧
          next = { stop := false, thread := some .ended }) ∨
        (fails = false ∧ point = .waiting ∧ loop.stop = false ∧
          next = { loop with thread := some .working })) := by
  unfold advance at advanced
  split at advanced
  · cases advanced
  · cases advanced
  case h_3 working =>
    refine ⟨.working, working, by decide, ?_⟩
    cases fails with
    | true => exact .inl ⟨rfl, (Option.some.inj advanced).symm⟩
    | false => exact .inr (.inl ⟨rfl, rfl, (Option.some.inj advanced).symm⟩)
  case h_4 waiting =>
    refine ⟨.waiting, waiting, by decide, ?_⟩
    cases fails with
    | true => exact .inl ⟨rfl, (Option.some.inj advanced).symm⟩
    | false =>
        simp only [Bool.false_eq_true, if_false] at advanced
        split at advanced
        case isTrue signalled =>
          cases advanced
          exact .inr (.inr (.inl ⟨rfl, rfl, signalled, rfl⟩))
        case isFalse quiet =>
          cases advanced
          have silent : loop.stop = false := Bool.eq_false_iff.mpr quiet
          exact .inr (.inr (.inr ⟨rfl, rfl, silent, rfl⟩))

/-- Only a thread that runs takes a step. -/
theorem runs_of_advance
    {loop next : Loop}
    (advanced : loop.advance goesOn fails = some next) :
    loop.runs = true := by
  obtain ⟨point, thread, running, -⟩ := cases_of_advance advanced
  unfold runs
  rw [thread]
  cases point with
  | working => rfl
  | waiting => rfl
  | ended => exact absurd rfl running

/-- A step leaves the handle. -/
theorem thread_ne_none_of_advance
    {loop next : Loop}
    (advanced : loop.advance goesOn fails = some next) :
    loop.thread ≠ none ∧ next.thread ≠ none := by
  obtain ⟨point, thread, -, cases⟩ := cases_of_advance advanced
  refine ⟨thread ▸ Option.some_ne_none _, ?_⟩
  rcases cases with ⟨-, rfl⟩ | ⟨-, -, rfl⟩ | ⟨-, -, -, rfl⟩ | ⟨-, -, -, rfl⟩ <;>
    exact Option.some_ne_none _

/-- A thread that runs on has left its event as it was. -/
theorem stop_of_advance
    {loop next : Loop}
    (advanced : loop.advance goesOn fails = some next)
    (runs : next.runs = true) : next.stop = loop.stop := by
  obtain ⟨point, -, -, cases⟩ := cases_of_advance advanced
  rcases cases with ⟨-, rfl⟩ | ⟨-, -, rfl⟩ | ⟨-, -, -, rfl⟩ | ⟨-, -, -, rfl⟩
  · rfl
  · rfl
  · cases runs
  · rfl

/-- A thread takes no step that does not conform where it cannot take any. -/
theorem conforms_of_stuck
    {loop : Loop}
    (stuck : loop.advance goesOn fails = none) :
    loop.Conforms goesOn stops awaited fails := by
  intro point thread
  cases point with
  | ended => trivial
  | working =>
      simp only [advance, Option.mem_def.mp thread] at stuck
      split at stuck <;> cases stuck
  | waiting =>
      simp only [advance, Option.mem_def.mp thread] at stuck
      split at stuck
      · cases stuck
      · split at stuck <;> cases stuck

/-- A thread that runs has a step to its end. -/
theorem rank_pos
    {loop : Loop}
    (runs : loop.runs = true) : 0 < loop.rank := by
  unfold Loop.runs at runs
  unfold rank
  split at runs <;> simp_all [LoopPoint.rank]

theorem rank_le (loop : Loop) : loop.rank ≤ 2 := by
  unfold rank
  split
  · decide
  · rename_i point _
    cases point <;> decide

/-- A step that leaves the event of a thread takes no signal. -/
theorem taken_of_same
    {loop next : Loop}
    (same : next.stop = loop.stop)
    (signalled : loop.stop = true)
    (taken : next.stop = false) : awaited = true := by
  rw [same, signalled] at taken
  cases taken

/-- A loop that goes on behind an error takes a sound step where no stop waits
for it, one that returns during a stop. -/
theorem sound_afterError_iff
    {loop : Loop}
    (runs : loop.runs = true) :
    LoopSound stops awaited true loop
        { loop with thread := some (.afterError goesOn) } ↔
      if goesOn then awaited = false else stops = true := by
  cases goesOn with
  | true =>
      constructor
      · intro sound
        apply Bool.eq_false_iff.mpr
        intro awaits
        have nearer : 2 < loop.rank := sound.nearer awaits rfl
        have bound := loop.rank_le
        omega
      · intro free
        refine ⟨nofun, taken_of_same rfl, ?_⟩
        intro awaits
        rw [show awaited = false from free] at awaits
        cases awaits
  | false =>
      constructor
      · intro sound
        exact sound.ends runs rfl
      · intro stopping
        exact ⟨fun _ _ => stopping, taken_of_same rfl, fun _ _ => rank_pos runs⟩

/-- A step of a thread is sound exactly where it conforms, if the stop that waits
for a thread has signalled its event. -/
theorem sound_iff_conforms
    {loop next : Loop}
    (advanced : loop.advance goesOn fails = some next)
    (signalled : awaited = true → loop.stop = true)
    (stopping : awaited = true → stops = true) :
    LoopSound stops awaited true loop next ↔
      loop.Conforms goesOn stops awaited fails := by
  have runs := runs_of_advance advanced
  obtain ⟨point, thread, running, cases⟩ := cases_of_advance advanced
  have conforms : loop.Conforms goesOn stops awaited fails ↔
      point.Conforms goesOn stops awaited loop.stop fails := by
    unfold Loop.Conforms
    rw [thread]
    simp only [Option.mem_def, Option.some.injEq, forall_eq']
  have rank : loop.rank = point.rank := by
    unfold Loop.rank
    rw [thread]
  rw [conforms]
  rcases cases with ⟨rfl, rfl⟩ | ⟨rfl, rfl, rfl⟩ | ⟨rfl, rfl, stop, rfl⟩ |
    ⟨rfl, rfl, quiet, rfl⟩
  · rw [sound_afterError_iff runs]
    cases point with
    | working => exact ⟨fun conforms _ => conforms, fun conforms => conforms rfl⟩
    | waiting => exact Iff.rfl
    | ended => exact absurd rfl running
  · refine iff_of_true ⟨nofun, taken_of_same rfl, ?_⟩ nofun
    intro _ _
    rw [rank]
    exact Nat.lt_succ_self 1
  · constructor
    · intro sound _
      exact sound.taken stop rfl
    · intro conforms
      have awaits := conforms stop
      refine ⟨fun _ _ => stopping awaits, fun _ _ => awaits, ?_⟩
      intro _ _
      rw [rank]
      exact Nat.zero_lt_one
  · refine iff_of_true ⟨nofun, taken_of_same rfl, ?_⟩ ?_
    · intro awaits
      have stop := signalled awaits
      rw [quiet] at stop
      cases stop
    · intro stop
      rw [quiet] at stop
      cases stop

end Loop

/-! ## Steps of a call -/

/-- A thread that is left alone is sound. -/
theorem LoopSound.refl
    {loop : Loop} : LoopSound stops awaited false loop loop where
  ends runs ended := by
    rw [runs] at ended
    cases ended
  taken := Loop.taken_of_same rfl
  nearer _ := nofun

/-- Its event may be signalled. -/
theorem LoopSound.signal
    {loop : Loop} : LoopSound stops awaited false loop loop.signal where
  ends runs ended := by
    rw [show loop.signal.runs = loop.runs from rfl, runs] at ended
    cases ended
  taken _ := nofun
  nearer _ := nofun

/-- A thread is created where there is none. -/
theorem LoopSound.create
    {loop : Loop}
    (absent : loop.thread = none) :
    LoopSound stops awaited false loop (loop.create point) where
  ends runs := by
    unfold Loop.runs at runs
    rw [absent] at runs
    cases runs
  taken := Loop.taken_of_same rfl
  nearer _ := nofun

/-- A stop closes the handle. -/
theorem LoopSound.close
    {loop : Loop} : LoopSound true awaited false loop loop.close where
  ends _ _ := rfl
  taken := Loop.taken_of_same rfl
  nearer _ := nofun

/-- A step that ends no call is sound where both threads are. -/
theorem ThreadsSound.of_loops
    {state next : HciThreads}
    (listener :
      LoopSound state.call.stops state.call.awaitsListener action.movesListener
        state.listener next.listener)
    (reader :
      LoopSound state.call.stops state.call.awaitsReader action.movesReader
        state.reader next.reader) :
    ThreadsSound state action none next where
  listener := listener
  reader := reader
  succeeded := nofun
  failed := nofun
  spared := nofun

/-- A start that fails, and leaves both threads alone, is sound where those that
run did so before. -/
theorem ThreadsSound.of_failedStart
    {state next : HciThreads}
    {succeeds : Bool}
    (listener : next.listener = state.listener)
    (reader : next.reader = state.reader)
    (listenerBefore :
      state.listener.runs = true → state.listenerBefore = true)
    (readerBefore : state.reader.runs = true → state.readerBefore = true) :
    ThreadsSound state (.call succeeds) (some (.started false)) next where
  listener := by
    rw [listener]
    exact .refl
  reader := by
    rw [reader]
    exact .refl
  succeeded := nofun
  failed := by
    intro _
    rw [listener, reader]
    exact ⟨listenerBefore, readerBefore⟩
  spared := nofun

/-- There is no thread. -/
theorem Loop.runs_eq_false
    {loop : Loop}
    (absent : loop.thread = none) : loop.runs = false := by
  unfold Loop.runs
  rw [absent]

namespace HciThreads

/-- What holds at a point of the client. Without a listener there is no reader; a
start that goes on has created the only thread; and a stop that waits for a
thread has signalled its event, which is then at most two steps away from its
end. -/
def KeptAt (state : HciThreads) : HciCall → Prop
  | .idle => state.listener.thread = none → state.reader.thread = none
  | .start .listener =>
      (state.listener.thread = none →
          state.reader.thread = none ∧ state.listenerBefore = false) ∧
        (state.listener.runs = true → state.listenerBefore = true) ∧
        (state.reader.runs = true → state.readerBefore = true)
  | .start .reader =>
      state.listener.runs = true ∧ state.listenerBefore = false ∧
        state.reader.thread = none
  | .stop .signalListener => True
  | .stop .waitListener => state.listener.runs = true → state.listener.stop = true
  | .stop .signalReader => state.listener.thread = none
  | .stop (.waitReader steps) =>
      state.listener.thread = none ∧
        (state.reader.runs = true →
          state.reader.stop = true ∧ state.reader.rank + steps ≤ 2)

/-- What holds of the client and the threads. -/
def Kept (state : HciThreads) : Prop :=
  state.KeptAt state.call

theorem kept_initial : initial.Kept := fun _ => rfl

/-- A step of a call is sound exactly where it conforms, and then keeps what
holds. -/
def StepsSoundly
    (state : HciThreads)
    (action : HciAction)
    (event : Option HciEvent)
    (next : HciThreads) : Prop :=
  (ThreadsSound state action event next ↔ state.Conforms action) ∧
    (state.Conforms action → next.Kept)

/-- `CHci::StartEventListener` creates the listener where there is none. -/
theorem KeptAt.startListener
    {state : HciThreads}
    (kept : state.KeptAt (.start .listener))
    (calling : state.call = .start .listener)
    (succeeds : Bool) :
    StepsSoundly state (.call succeeds)
      (state.startEventListener succeeds .listener).1
      (state.startEventListener succeeds .listener).2 := by
  have conforms : state.Conforms (.call succeeds) := by
    simp only [Conforms, calling]
  obtain ⟨absent, listenerBefore, readerBefore⟩ := kept
  by_cases none : state.listener.thread = none
  · obtain ⟨noReader, notBefore⟩ := absent none
    cases succeeds with
    | true =>
        have result : state.startEventListener true .listener =
            (.none, { state with
              call := .start .reader
              listener := state.listener.create .waiting }) := by
          simp only [startEventListener, none, ne_eq, not_true, if_false, if_true]
        rw [result]
        refine ⟨iff_of_true ?_ conforms, fun _ => ⟨rfl, notBefore, noReader⟩⟩
        exact .of_loops (.create none) .refl
    | false =>
        have result : state.startEventListener false .listener =
            (some (.started false), { state with call := .idle }) := by
          simp only [startEventListener, none, ne_eq, not_true, if_false,
            Bool.false_eq_true]
        rw [result]
        refine ⟨iff_of_true ?_ conforms, fun _ _ => noReader⟩
        exact .of_failedStart rfl rfl listenerBefore readerBefore
  · have result : state.startEventListener succeeds .listener =
        (some (.started false), { state with call := .idle }) := by
      simp only [startEventListener, none, ne_eq, not_false_eq_true, if_true]
    rw [result]
    refine ⟨iff_of_true ?_ conforms, fun _ noListener => absurd noListener none⟩
    exact .of_failedStart rfl rfl listenerBefore readerBefore

/-- `CBthEmulHci::StartEventListener` creates the reader, or leaves the listener
behind. -/
theorem KeptAt.startReader
    {state : HciThreads}
    (kept : state.KeptAt (.start .reader))
    (calling : state.call = .start .reader)
    (succeeds : Bool) :
    StepsSoundly state (.call succeeds)
      (state.startEventListener succeeds .reader).1
      (state.startEventListener succeeds .reader).2 := by
  obtain ⟨runs, notBefore, none⟩ := kept
  have conforms : state.Conforms (.call succeeds) ↔ succeeds = true := by
    simp only [Conforms, calling]
  rw [StepsSoundly, conforms]
  cases succeeds with
  | true =>
      have result : state.startEventListener true .reader =
          (some (.started true), { state with
            call := .idle
            reader := state.reader.create .working }) := by
        simp only [startEventListener, none, ne_eq, not_true, if_false, if_true]
      rw [result]
      refine ⟨iff_of_true ?_ rfl, ?_⟩
      · exact {
          listener := .refl
          reader := .create none
          succeeded := fun _ => ⟨runs, rfl⟩
          failed := nofun
          spared := nofun }
      · intro _ noListener
        have ended := Loop.runs_eq_false noListener
        rw [runs] at ended
        cases ended
  | false =>
      have result : state.startEventListener false .reader =
          (some (.started false), { state with call := .idle }) := by
        simp only [startEventListener, none, ne_eq, not_true, if_false,
          Bool.false_eq_true]
      rw [result]
      refine ⟨iff_of_false ?_ nofun, nofun⟩
      intro sound
      have before := (sound.failed rfl).1 runs
      rw [notBefore] at before
      cases before

/-- A step of `StopEventListener` conforms except for a wait that is over
before the reader could end. -/
theorem KeptAt.stopEventListener
    {state : HciThreads}
    (kept : state.KeptAt (.stop point))
    (calling : state.call = .stop point)
    (stepped : state.stopEventListener inTime point = some (event, next)) :
    StepsSoundly state (.call inTime) event next := by
  have stops : state.call.stops = true := by
    rw [calling]
    rfl
  cases point with
  | signalListener =>
      have conforms : state.Conforms (.call inTime) := by
        simp only [Conforms, calling]
      cases stepped
      refine ⟨iff_of_true ?_ conforms, fun _ _ => rfl⟩
      exact .of_loops .signal .refl
  | waitListener =>
      have conforms : state.Conforms (.call inTime) := by
        simp only [Conforms, calling]
      simp only [HciThreads.stopEventListener] at stepped
      split at stepped
      · cases stepped
      · cases stepped
        refine ⟨iff_of_true ?_ conforms, fun _ => rfl⟩
        exact .of_loops (stops ▸ .close) .refl
  | signalReader =>
      have conforms : state.Conforms (.call inTime) := by
        simp only [Conforms, calling]
      cases stepped
      refine ⟨iff_of_true ?_ conforms, fun _ => ⟨kept, fun _ => ⟨rfl, ?_⟩⟩⟩
      · exact .of_loops .refl .signal
      · exact state.reader.rank_le
  | waitReader steps =>
      have conforms : state.Conforms (.call inTime) ↔
          (inTime = false → state.reader.runs = true → 2 ≤ steps) := by
        simp only [Conforms, calling]
      obtain ⟨none, signalled⟩ := kept
      simp only [HciThreads.stopEventListener] at stepped
      rw [StepsSoundly, conforms]
      split at stepped
      case isTrue runs =>
        split at stepped
        case isTrue => cases stepped
        case isFalse late =>
          cases stepped
          refine ⟨iff_of_false ?_ ?_, fun _ _ => rfl⟩
          · intro sound
            exact sound.spared rfl
          · intro taken
            have positive := Loop.rank_pos runs
            have bound := (signalled runs).2
            have steps := taken (Bool.eq_false_iff.mpr late) runs
            omega
      case isFalse ended =>
        cases stepped
        refine ⟨iff_of_true ?_ ?_, fun _ _ => rfl⟩
        · exact {
            listener := .refl
            reader := stops ▸ .close
            succeeded := nofun
            failed := nofun
            spared := nofun }
        · intro _ runs
          exact absurd runs ended

/-- A stop waits for the listener. -/
theorem awaitsListener_iff
    {call : HciCall} :
    call.awaitsListener = true ↔ call = .stop .waitListener := by
  cases call with
  | idle => exact ⟨nofun, nofun⟩
  | start point => exact ⟨nofun, nofun⟩
  | stop point =>
      cases point with
      | waitListener => exact ⟨fun _ => rfl, fun _ => rfl⟩
      | signalListener => exact ⟨nofun, nofun⟩
      | signalReader => exact ⟨nofun, nofun⟩
      | waitReader steps => exact ⟨nofun, nofun⟩

/-- A stop waits for the reader. -/
theorem awaitsReader_iff
    {call : HciCall} :
    call.awaitsReader = true ↔ ∃ steps, call = .stop (.waitReader steps) := by
  cases call with
  | idle => exact ⟨nofun, nofun⟩
  | start point => exact ⟨nofun, nofun⟩
  | stop point =>
      cases point with
      | waitReader steps => exact ⟨fun _ => ⟨steps, rfl⟩, fun _ => rfl⟩
      | signalListener => exact ⟨nofun, nofun⟩
      | waitListener => exact ⟨nofun, nofun⟩
      | signalReader => exact ⟨nofun, nofun⟩

/-- A step of the listener. -/
theorem Kept.runListener
    {state next : HciThreads}
    (kept : state.Kept)
    (stepped : state.runListener fails = some next) :
    StepsSoundly state (.listener fails) none next := by
  simp only [HciThreads.runListener, Option.bind_eq_bind,
    Option.bind_eq_some_iff, Option.some.injEq] at stepped
  obtain ⟨listener, advanced, rfl⟩ := stepped
  have running := Loop.runs_of_advance advanced
  obtain ⟨present, stays⟩ := Loop.thread_ne_none_of_advance advanced
  have sound : LoopSound state.call.stops state.call.awaitsListener true
      state.listener listener ↔ state.Conforms (.listener fails) := by
    apply Loop.sound_iff_conforms advanced
    · intro awaits
      rw [Kept, awaitsListener_iff.mp awaits] at kept
      exact kept running
    · intro awaits
      rw [awaitsListener_iff.mp awaits]
      rfl
  constructor
  · rw [← sound]
    constructor
    · intro threads
      exact threads.listener
    · intro moved
      exact .of_loops moved .refl
  · intro conforms
    have moved := sound.mpr conforms
    change HciThreads.KeptAt _ state.call
    cases calling : state.call with
    | idle =>
        intro noListener
        exact absurd noListener stays
    | start point =>
        rw [Kept, calling] at kept
        cases point with
        | listener =>
            obtain ⟨-, listenerBefore, readerBefore⟩ := kept
            exact ⟨fun noListener => absurd noListener stays,
              fun _ => listenerBefore running, readerBefore⟩
        | reader =>
            -- outside of a stop the listener does not end
            refine ⟨?_, kept.2⟩
            apply Bool.of_not_eq_false
            intro ended
            have stops := moved.ends running ended
            rw [calling] at stops
            cases stops
    | stop point =>
        rw [Kept, calling] at kept
        cases point with
        | signalListener => trivial
        | waitListener =>
            intro runs
            exact (Loop.stop_of_advance advanced runs).trans (kept running)
        | signalReader => exact absurd kept present
        | waitReader steps => exact absurd kept.1 present

/-- A step of the reader. -/
theorem Kept.dataReader
    {state next : HciThreads}
    (kept : state.Kept)
    (stepped : state.dataReader fails = some next) :
    StepsSoundly state (.reader fails) none next := by
  simp only [HciThreads.dataReader, Option.bind_eq_bind,
    Option.bind_eq_some_iff, Option.some.injEq] at stepped
  obtain ⟨reader, advanced, rfl⟩ := stepped
  have running := Loop.runs_of_advance advanced
  obtain ⟨present, -⟩ := Loop.thread_ne_none_of_advance advanced
  have sound : LoopSound state.call.stops state.call.awaitsReader true
      state.reader reader ↔ state.Conforms (.reader fails) := by
    apply Loop.sound_iff_conforms advanced
    · intro awaits
      obtain ⟨steps, calling⟩ := awaitsReader_iff.mp awaits
      rw [Kept, calling] at kept
      exact (kept.2 running).1
    · intro awaits
      obtain ⟨steps, calling⟩ := awaitsReader_iff.mp awaits
      rw [calling]
      rfl
  constructor
  · rw [← sound]
    constructor
    · intro threads
      exact threads.reader
    · intro moved
      exact .of_loops .refl moved
  · intro conforms
    have moved := sound.mpr conforms
    change HciThreads.KeptAt _ (countStep state.call)
    cases calling : state.call with
    | idle =>
        rw [Kept, calling] at kept
        intro noListener
        exact absurd (kept noListener) present
    | start point =>
        rw [Kept, calling] at kept
        cases point with
        | listener =>
            obtain ⟨absent, listenerBefore, readerBefore⟩ := kept
            exact ⟨fun noListener => absurd (absent noListener).1 present,
              listenerBefore, fun _ => readerBefore running⟩
        | reader => exact absurd kept.2.2 present
    | stop point =>
        rw [Kept, calling] at kept
        cases point with
        | signalListener => trivial
        | waitListener => exact kept
        | signalReader => exact kept
        | waitReader steps =>
            obtain ⟨noListener, signalled⟩ := kept
            obtain ⟨stop, bound⟩ := signalled running
            refine ⟨noListener, fun runs => ?_⟩
            refine ⟨(Loop.stop_of_advance advanced runs).trans stop, ?_⟩
            -- the step counted is one nearer to the end
            have nearer := moved.nearer (awaitsReader_iff.mpr ⟨_, calling⟩) rfl
            change reader.rank + (steps + 1) ≤ 2
            omega

/-- A step is sound exactly where it conforms, and then keeps what holds. -/
theorem Kept.step
    {state next : HciThreads}
    (kept : state.Kept)
    (stepped : hciThreadsMachine.step state action = some (event, next)) :
    StepsSoundly state action event next := by
  cases action with
  | start =>
      cases calling : state.call with
      | idle =>
          rw [Kept, calling] at kept
          simp only [hciThreadsMachine, calling] at stepped
          cases stepped
          refine ⟨iff_of_true ?_ trivial, fun _ => ?_⟩
          · exact .of_loops .refl .refl
          · refine ⟨fun noListener => ?_, id, id⟩
            exact ⟨kept noListener, Loop.runs_eq_false noListener⟩
      | start point =>
          simp only [hciThreadsMachine, calling] at stepped
          cases stepped
      | stop point =>
          simp only [hciThreadsMachine, calling] at stepped
          cases stepped
  | stop =>
      cases calling : state.call with
      | idle =>
          simp only [hciThreadsMachine, calling] at stepped
          cases stepped
          refine ⟨iff_of_true ?_ trivial, fun _ => trivial⟩
          exact .of_loops .refl .refl
      | start point =>
          simp only [hciThreadsMachine, calling] at stepped
          cases stepped
      | stop point =>
          simp only [hciThreadsMachine, calling] at stepped
          cases stepped
  | call succeeds =>
      cases calling : state.call with
      | idle =>
          simp only [hciThreadsMachine, calling] at stepped
          cases stepped
      | start point =>
          rw [Kept, calling] at kept
          simp only [hciThreadsMachine, calling] at stepped
          have result := Option.some.inj stepped
          rw [show event = (event, next).1 from rfl,
            show next = (event, next).2 from rfl, ← result]
          cases point with
          | listener => exact KeptAt.startListener kept calling succeeds
          | reader => exact KeptAt.startReader kept calling succeeds
      | stop point =>
          rw [Kept, calling] at kept
          simp only [hciThreadsMachine, calling] at stepped
          exact KeptAt.stopEventListener kept calling stepped
  | listener fails =>
      simp only [hciThreadsMachine, Option.bind_eq_bind,
        Option.bind_eq_some_iff] at stepped
      obtain ⟨after, moved, same⟩ := stepped
      cases same
      exact kept.runListener moved
  | reader fails =>
      simp only [hciThreadsMachine, Option.bind_eq_bind,
        Option.bind_eq_some_iff] at stepped
      obtain ⟨after, moved, same⟩ := stepped
      cases same
      exact kept.dataReader moved

/-- What cannot happen conforms. -/
theorem conforms_of_stuck
    {state : HciThreads}
    (stuck : hciThreadsMachine.step state action = none) :
    state.Conforms action := by
  cases action with
  | start => trivial
  | stop => trivial
  | call succeeds =>
      cases calling : state.call with
      | idle => simp only [Conforms, calling]
      | start point =>
          simp only [hciThreadsMachine, calling] at stuck
          cases stuck
      | stop point =>
          simp only [hciThreadsMachine, calling] at stuck
          cases point with
          | waitReader steps =>
              simp only [Conforms, calling]
              intro late runs
              simp only [stopEventListener, runs, late, if_true,
                Bool.false_eq_true, if_false] at stuck
              cases stuck
          | signalListener => simp only [Conforms, calling]
          | waitListener => simp only [Conforms, calling]
          | signalReader => simp only [Conforms, calling]
  | listener fails =>
      simp only [hciThreadsMachine, runListener, Option.bind_eq_bind,
        Option.bind_assoc, Option.bind_eq_none_iff, reduceCtorEq,
        imp_false] at stuck
      apply Loop.conforms_of_stuck
      apply Option.eq_none_iff_forall_ne_some.mpr
      intro loop advanced
      exact stuck loop advanced _ rfl
  | reader fails =>
      simp only [hciThreadsMachine, dataReader, Option.bind_eq_bind,
        Option.bind_assoc, Option.bind_eq_none_iff, reduceCtorEq,
        imp_false] at stuck
      apply Loop.conforms_of_stuck
      apply Option.eq_none_iff_forall_ne_some.mpr
      intro loop advanced
      exact stuck loop advanced _ rfl

end HciThreads

/-! ## Runs -/

/-- In every run the calls and the threads are sound in every step exactly where
every step conforms: no error meets the listener outside of a stop or the reader
while a stop waits for it, no thread finds the signal of an earlier stop, the
reader can always be created behind the listener, and is not terminated before
it has taken two steps. -/
theorem threadsSound_iff_conforms
    (actions : List HciAction) :
    hciThreadsMachine.Always ThreadsSound .initial actions ↔
      hciThreadsMachine.Admits HciThreads.Conforms .initial actions := by
  apply Machine.always_iff_admits HciThreads.Kept
  · intro state action event next kept stepped
    exact (kept.step stepped).1
  · intro state action _ stuck
    exact HciThreads.conforms_of_stuck stuck
  · intro state action event next kept conforms stepped
    exact (kept.step stepped).2 conforms
  · exact HciThreads.kept_initial

/-- A start and a stop during which `GetData` fails: the reader does not look at
its event, and is terminated. -/
def failingReader : List HciAction :=
  [.start, .call true, .call true, .stop, .call true, .listener false,
    .call true, .call true, .reader true, .reader true, .call false]

theorem not_threadsSound_failingReader :
    (∃ events final,
      hciThreadsMachine.run .initial failingReader = some (events, final) ∧
        some .terminated ∈ events) ∧
      ¬ hciThreadsMachine.Always ThreadsSound .initial failingReader := by
  constructor
  · decide +kernel
  · decide +kernel

end Runtime
end BthEmul
