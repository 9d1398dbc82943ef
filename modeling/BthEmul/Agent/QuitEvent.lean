import BthEmul.Agent.Lifecycle
import BthEmul.Foundation.Reachability

/-!
# The quit event of the agent

`g_hQuitEvent` is a manual-reset event. `WinMain` waits for it, the watchdog
waits for it with a timeout, and a working thread waits for it together with
the read queue. `END_COMMAND` and the end of `WinMain` pulse it: the threads that
wait at that instant are released, and it is not signalled afterwards. The
watchdog sets it when the desktop has been silent for too long.

A wait on a queue that is not open fails, and the working thread begins its loop
again.
-/

namespace BthEmul

open Foundation

namespace Agent

/-- `WATCHDOG_MAX_COUNTER`. -/
def watchdogMaxCounter : Int := 60000 / 5000

/-- Where `WinMain` is. -/
inductive MainPoint
  /-- Before `StartCommandHandler`. -/
  | starting
  /-- Behind `StartCommandHandler`. -/
  | handling
  /-- In its wait for the event. -/
  | waiting
  /-- Behind its wait. -/
  | released
  /-- Behind `StopCommandHandler`. -/
  | stopped
  /-- Behind `Uninitialize`. -/
  | uninitialized
  /-- In its wait for a working thread. -/
  | joining (thread : Nat)
  | ended
  deriving DecidableEq

/-- The wait for the event is over. -/
def MainPoint.wake : MainPoint → MainPoint
  | waiting => released
  | point => point

/-- Where `WatchDogThread` is. -/
inductive WatchDogPoint
  /-- Before its wait. -/
  | checking
  | waiting
  /-- Before `InterlockedDecrement`. -/
  | counting
  /-- Before `SetEvent`. -/
  | firing
  | ended
  deriving DecidableEq

/-- The wait for the event is over, and with it the loop. -/
def WatchDogPoint.wake : WatchDogPoint → WatchDogPoint
  | waiting => ended
  | point => point

/-- The threads of the agent around the event. A working thread that has neither
returned nor waits is running. -/
structure QuitState where
  /-- The global variables, the working threads and their queues. -/
  agent : AgentState
  /-- `g_hQuitEvent` is signalled. -/
  signalled : Bool
  main : MainPoint
  watchDog : WatchDogPoint
  /-- `g_lWatchDogCounter`. -/
  lWatchDogCounter : Int
  /-- The working threads in their wait. -/
  blocked : List Nat
  /-- The working threads that have returned. -/
  returned : List Nat
  /-- `END_COMMAND` has been handled or the watchdog has fired. -/
  requested : Bool
  deriving DecidableEq

namespace QuitState

/-- `WinMain` behind the creation of the watchdog. -/
def start : QuitState where
  agent := .start
  signalled := false
  main := .starting
  watchDog := .checking
  lWatchDogCounter := watchdogMaxCounter
  blocked := []
  returned := []
  requested := false

/-- The threads that wait for the event are released. -/
def release (state : QuitState) : QuitState :=
  { state with
    main := state.main.wake
    watchDog := state.watchDog.wake
    blocked := []
    returned := state.returned ++ state.blocked
    requested := true }

/-- `SetEvent`. -/
def setEvent (state : QuitState) : QuitState :=
  { state.release with signalled := true }

/-- `PulseEvent`. -/
def pulseEvent (state : QuitState) : QuitState :=
  { state.release with signalled := false }

/-- `WinMain`: its next step, unless its wait goes on. -/
def winMain
    (state : QuitState)
    (answers : UninitializeAnswers) : Option QuitState :=
  match state.main with
  | .starting => some { state with main := .handling }
  | .handling =>
      if state.signalled then some { state with main := .released }
      else some { state with main := .waiting }
  | .waiting => none
  | .released => some { state with main := .stopped }
  | .stopped =>
      some { state with
        agent := (state.agent.uninitializeAgent answers).2
        main := .uninitialized }
  | .uninitialized =>
      match state.agent.gHWorkingThread with
      | some thread => some { state.pulseEvent with main := .joining thread }
      | none => some { state with main := .ended }
  | .joining thread =>
      if thread ∈ state.returned then some { state with main := .ended }
      else none
  | .ended => none

/-- `WatchDogThread`. Its wait ends after five seconds. -/
def watchDogThread (state : QuitState) : Option QuitState :=
  match state.watchDog with
  | .checking =>
      if state.signalled then some { state with watchDog := .ended }
      else some { state with watchDog := .waiting }
  | .waiting => some { state with watchDog := .counting }
  | .counting =>
      some { state with
        lWatchDogCounter := state.lWatchDogCounter - 1
        watchDog :=
          if state.lWatchDogCounter - 1 ≤ 0 then .firing else .checking }
  | .firing => some { state.setEvent with watchDog := .checking }
  | .ended => none

end QuitState

/-- The thread waits on a queue that is open. -/
def WorkingThread.sees (queues : Ledger) : WorkingThread → Bool
  | created => false
  | waiting hReadQueue =>
      hReadQueue.any fun queue => decide (queues.IsOpen queue)

namespace QuitState

/-- The working thread waits on a queue that is open. -/
def sees (state : QuitState) (index : Nat) : Bool :=
  state.agent.threads[index]?.any (·.sees state.agent.queues)

/-- `WorkingThread`. A wait ends with the event or with data, or fails. -/
def workingThread
    (state : QuitState)
    (index : Nat)
    (data : Bool) : Option QuitState :=
  if index ∈ state.returned then none
  else if index ∈ state.blocked then
    if data then some { state with blocked := state.blocked.erase index }
    else none
  else
    match state.agent.threads[index]? with
    | none => none
    | some .created =>
        some { state with
          agent := { state.agent with
            threads :=
              state.agent.threads.set index (.waiting state.agent.gHReadQueue) } }
    | some (.waiting _) =>
        if state.sees index then
          if state.signalled then
            some { state with returned := state.returned ++ [index] }
          else if data then some state
          else some { state with blocked := state.blocked ++ [index] }
        else some state

end QuitState

/-- A command of the desktop. -/
inductive QuitCommand
  | endCommand
  /-- A ping or a packet, which resets the counter of the watchdog. -/
  | keepAlive
  | initializeMsg (answers : InitializeAnswers)
  | uninitializeMsg (answers : UninitializeAnswers)
  deriving DecidableEq

/-- Commands are handled from `StartCommandHandler` to `StopCommandHandler`. -/
def MainPoint.handles : MainPoint → Bool
  | handling | waiting | released => true
  | starting | stopped | uninitialized | joining _ | ended => false

/-- `CommandCallback`. -/
def QuitState.commandCallback (state : QuitState) : QuitCommand → QuitState
  | .endCommand => state.pulseEvent
  | .keepAlive => { state with lWatchDogCounter := watchdogMaxCounter }
  | .initializeMsg answers =>
      { state with agent := (state.agent.initializeAgent answers).2 }
  | .uninitializeMsg answers =>
      { state with agent := (state.agent.uninitializeAgent answers).2 }

/-- One of the agent's own threads goes on. -/
inductive QuitThread
  | main (answers : UninitializeAnswers)
  | watchDog
  | working (index : Nat) (data : Bool)
  deriving DecidableEq

/-- The agent's own threads in any order. -/
def quitThreadsMachine : Machine QuitState QuitThread Unit where
  step state
    | .main answers => (state.winMain answers).map ((), ·)
    | .watchDog => state.watchDogThread.map ((), ·)
    | .working index data => (state.workingThread index data).map ((), ·)

/-- What happens next. -/
inductive QuitAction
  | command (command : QuitCommand)
  | thread (thread : QuitThread)
  deriving DecidableEq

/-- The agent's own threads and the commands in any order. -/
def quitMachine : Machine QuitState QuitAction Unit where
  step state
    | .command command =>
        if state.main.handles then some ((), state.commandCallback command)
        else none
    | .thread thread => quitThreadsMachine.step state thread

/-! ## The property -/

/-- `WinMain` waits for the event or for a working thread. -/
def MainPoint.waits : MainPoint → Bool
  | waiting | joining _ => true
  | starting | handling | released | stopped | uninitialized | ended => false

/-- Once the agent is to quit, a wait of `WinMain` can end by steps of the
agent's own threads; while it waits for a working thread, every one of these can
return. -/
structure QuitSound (state : QuitState) : Prop where
  main : state.requested = true → state.main.waits = true →
    quitThreadsMachine.CanReach (fun later => later.main ≠ state.main) state
  working : ∀ thread, state.requested = true → state.main = .joining thread →
    ∀ index, index < state.agent.threads.length →
      quitThreadsMachine.CanReach (fun later => index ∈ later.returned) state

namespace QuitState

/-- The last pulse reaches a working thread that waits; one that waits later, on
an open queue, is reached by a watchdog that outlives the pulse. -/
def PulseReaches (state : QuitState) (index : Nat) : Prop :=
  index ∈ state.returned ∨ index ∈ state.blocked ∨
    (state.sees index = true ∧ state.watchDog ≠ .waiting ∧
      state.watchDog ≠ .ended)

instance (state : QuitState) (index : Nat) :
    Decidable (state.PulseReaches index) :=
  inferInstanceAs (Decidable (_ ∨ _ ∨ _))

/-- What a step needs. `WinMain` begins its wait behind a request only with the
event signalled or the watchdog alive, and its pulse reaches every working
thread. -/
def Conforms (state : QuitState) : QuitAction → Prop
  | .thread (.main _) =>
      (state.main = .handling → state.requested = true →
          state.signalled = true ∨ state.watchDog ≠ .ended) ∧
        (state.main = .uninitialized ∧ state.agent.gHWorkingThread ≠ none →
          ∀ index, index < state.agent.threads.length →
            state.PulseReaches index)
  | .thread .watchDog | .thread (.working _ _) | .command _ => True

instance (state : QuitState) :
    (action : QuitAction) → Decidable (state.Conforms action)
  | .thread (.main _) => inferInstanceAs (Decidable (_ ∧ _))
  | .thread .watchDog | .thread (.working _ _) | .command _ => isTrue trivial

end QuitState
end Agent
end BthEmul
