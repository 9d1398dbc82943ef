import BthEmul.Agent.QuitDelivery

/-!
# The watchdog

Every five seconds the watchdog counts down, and it sets the quit event when it
has counted to zero. A ping of the desktop and a packet put the counter back.

A run is looked at from outside, as a sequence of events: the ticks of the
watchdog, its `SetEvent`, and the commands that are to put the counter back. The
ticks since the last such command determine the counter until the watchdog
fires.
-/

namespace BthEmul

open Foundation

/-- A value belongs to a message id where it is the value of that id. -/
theorem MessageId.ofCode_eq_some_iff
    {code : UInt32}
    {id : MessageId} :
    ofCode code = some id ↔ code = id.code := by
  constructor
  · intro found
    unfold ofCode at found
    have same := List.find?_some found
    exact (of_decide_eq_true same).symm
  · rintro rfl
    cases id <;> rfl

namespace Agent

/-! ## The commands of the desktop -/

/-- `END_COMMAND`, which the remote tools library defines. It is a label of the
same `switch` as the packet types. -/
structure EndCommand where
  code : UInt32
  /-- The labels of a `switch` are different. -/
  apart : ∀ type : PacketType, code ≠ type.code

/-- A command as it is given to `CommandCallback`. -/
structure IncomingCommand where
  dwCmd : UInt32
  /-- The first parameter of `pCmdDataIn`, if there is one. -/
  pCmdDataIn : Option InParameter
  deriving DecidableEq

/-- What the system answers while a command is handled. -/
structure CallbackAnswers where
  initializeMsg : InitializeAnswers
  uninitializeMsg : UninitializeAnswers
  deriving DecidableEq

namespace IncomingCommand

/-- `dwMsgId`, where the command has one. -/
def dwMsgId (command : IncomingCommand) : Option UInt32 :=
  command.pCmdDataIn.bind (·.toDword?)

end IncomingCommand

/-- The inner `switch` of `CommandCallback`: what a message does to the threads
around the quit event. Setting the log level does nothing to them. -/
def messageCommand (answers : CallbackAnswers) : MessageId → Option QuitCommand
  | .agentPingMsg => some .keepAlive
  | .agentInitializeMsg => some (.initializeMsg answers.initializeMsg)
  | .agentUninitializeMsg => some (.uninitializeMsg answers.uninitializeMsg)
  | .agentAckMsg | .agentLoggingOnMsg | .agentLoggingOffMsg
  | .comOpenMsg | .comCloseMsg => none

/-- The `switch` of `CommandCallback`: what a command does to the threads around
the quit event. A packet puts the counter back before it is looked at, and a
reported error only goes to the error queue. -/
def IncomingCommand.quitCommand
    (endCommand : EndCommand)
    (answers : CallbackAnswers)
    (command : IncomingCommand) : Option QuitCommand :=
  if command.dwCmd = endCommand.code then some .endCommand
  else if command.dwCmd = PacketType.message.code then
    (command.dwMsgId.bind MessageId.ofCode).bind (messageCommand answers)
  else if command.dwCmd = PacketType.hciData.code then some .keepAlive
  else none

/-- `CommandCallback` on a command as it comes in. -/
def QuitState.handleCommand
    (endCommand : EndCommand)
    (answers : CallbackAnswers)
    (command : IncomingCommand)
    (state : QuitState) : QuitState :=
  match command.quitCommand endCommand answers with
  | some effect => state.commandCallback effect
  | none => state

/-! ## Runs from outside -/

/-- What a step is to the watchdog. -/
inductive WatchdogEvent
  /-- The watchdog counts down, and goes on to `SetEvent` or not. -/
  | tick (fires : Bool)
  | setEvent
  /-- A ping or a packet is handled. -/
  | keepAlive
  | other
  deriving DecidableEq

/-- The command is a packet, or a message with the id of the ping. -/
def IncomingCommand.KeepsAlive (command : IncomingCommand) : Prop :=
  command.dwCmd = PacketType.hciData.code ∨
    (command.dwCmd = PacketType.message.code ∧
      command.dwMsgId = some MessageId.agentPingMsg.code)

instance (command : IncomingCommand) : Decidable command.KeepsAlive :=
  inferInstanceAs (Decidable (_ ∨ _))

/-- What a command is to the watchdog. -/
def IncomingCommand.event (command : IncomingCommand) : WatchdogEvent :=
  if command.KeepsAlive then .keepAlive else .other

/-- What a step of the watchdog to another state is. -/
def QuitState.watchDogEvent (state next : QuitState) : WatchdogEvent :=
  match state.watchDog with
  | .counting => .tick (decide (next.watchDog = .firing))
  | .firing => .setEvent
  | .checking | .waiting | .ended => .other

/-- What happens next. -/
inductive WatchdogAction
  | command (command : IncomingCommand) (answers : CallbackAnswers)
  | thread (thread : QuitThread)
  deriving DecidableEq

/-- The agent's own threads and the commands of the desktop in any order. -/
def watchdogMachine (endCommand : EndCommand) :
    Machine QuitState WatchdogAction WatchdogEvent where
  step state
    | .command command answers =>
        if state.main.handles then
          some (command.event, state.handleCommand endCommand answers command)
        else none
    | .thread .watchDog =>
        state.watchDogThread.map fun next => (state.watchDogEvent next, next)
    | .thread (.main answers) =>
        (state.winMain answers).map fun next => (.other, next)
    | .thread (.working index data) =>
        (state.workingThread index data).map fun next => (.other, next)

/-! ## The property -/

namespace WatchdogEvent

/-- The ticks since the last reset behind an event. -/
def count (ticks : Nat) : WatchdogEvent → Nat
  | tick _ => ticks + 1
  | keepAlive => 0
  | setEvent | other => ticks

/-- The counter behind an event. -/
def counter (counter : Int) : WatchdogEvent → Int
  | tick _ => counter - 1
  | keepAlive => watchdogMaxCounter
  | setEvent | other => counter

/-- The event is a tick. -/
def isTick : WatchdogEvent → Bool
  | tick _ => true
  | keepAlive | setEvent | other => false

end WatchdogEvent

/-- The ticks since the last ping or packet, or since the start. -/
def ticksSince (events : List WatchdogEvent) : Nat :=
  events.foldl WatchdogEvent.count 0

/-- As many ticks as the watchdog counts, without a ping or a packet between
them. -/
structure FullWindow (window : List WatchdogEvent) : Prop where
  ticks : (window.countP WatchdogEvent.isTick : Int) = watchdogMaxCounter
  silent : .keepAlive ∉ window

/-- The watchdog fires when it should: what the events of a run and the state
behind them are to each other. -/
structure WatchdogExact
    (events : List WatchdogEvent)
    (final : QuitState) : Prop where
  /-- The first tick that fires is the first that makes the count full. -/
  fires_iff : ∀ before fires after,
    events = before ++ .tick fires :: after → .tick true ∉ before →
      (fires = true ↔ (ticksSince before + 1 : Int) = watchdogMaxCounter)
  /-- The event is first set by the first tick that fires, before another tick. -/
  setEvent : ∀ before after,
    events = before ++ .setEvent :: after → .setEvent ∉ before →
      ∃ early late, before = early ++ .tick true :: late ∧
        .tick true ∉ early ∧
          ∀ event ∈ late, event = .keepAlive ∨ event = .other
  /-- Behind a tick that fires the event has been set, or the next step of the
  watchdog sets it. -/
  occurs : .tick true ∈ events →
    .setEvent ∈ events ∨
      final.watchDogThread = some { final.setEvent with watchDog := .checking }
  /-- Nothing fires while every full count has a ping or a packet in it. -/
  never : (∀ before window after,
      events = before ++ window ++ after → ¬ FullWindow window) →
    .tick true ∉ events ∧ .setEvent ∉ events
  /-- A full count without a ping or a packet ends with the watchdog fired. -/
  always : ∀ before window after,
    events = before ++ window ++ after → FullWindow window →
      .tick true ∈ before ++ window
  /-- The counter stays in its range until the event is set. -/
  counter : .setEvent ∉ events →
    0 ≤ final.lWatchDogCounter ∧ final.lWatchDogCounter ≤ watchdogMaxCounter

/-! ## What a step is -/

/-- Exactly a ping and a packet put the counter back. -/
theorem IncomingCommand.quitCommand_eq_keepAlive_iff
    (endCommand : EndCommand)
    (answers : CallbackAnswers)
    (command : IncomingCommand) :
    command.quitCommand endCommand answers = some .keepAlive ↔
      command.KeepsAlive := by
  unfold quitCommand KeepsAlive
  by_cases ends : command.dwCmd = endCommand.code
  · rw [if_pos ends, ends]
    simp only [endCommand.apart, false_and, or_self, iff_false]
    nofun
  · rw [if_neg ends]
    by_cases message : command.dwCmd = PacketType.message.code
    · have apart : PacketType.message.code ≠ PacketType.hciData.code := by
        decide
      rw [if_pos message, message]
      simp only [apart, true_and, false_or]
      cases command.dwMsgId with
      | none => simp
      | some code =>
          rw [Option.bind_some, Option.some.injEq,
            ← MessageId.ofCode_eq_some_iff]
          cases MessageId.ofCode code with
          | none => simp
          | some id => cases id <;> simp [messageCommand]
    · rw [if_neg message]
      simp only [message, false_and, or_false]
      split
      case isTrue data => exact iff_of_true rfl data
      case isFalse data => exact iff_of_false nofun data

/-- What an event does to the counter and to the watchdog before its
`SetEvent`. -/
inductive Follows (state next : QuitState) : WatchdogEvent → Prop
  /-- The watchdog goes on to `SetEvent` exactly with a counter that is not
  positive. -/
  | tick
      (fires : Bool)
      (counting : state.watchDog = .counting)
      (less : next.lWatchDogCounter = state.lWatchDogCounter - 1)
      (fires_iff : fires = true ↔ next.lWatchDogCounter ≤ 0)
      (firing_iff : next.watchDog = .firing ↔ fires = true) :
      Follows state next (.tick fires)
  | setEvent
      (firing : state.watchDog = .firing)
      (same : next.lWatchDogCounter = state.lWatchDogCounter) :
      Follows state next .setEvent
  | keepAlive
      (full : next.lWatchDogCounter = watchdogMaxCounter)
      (firing_iff : next.watchDog = .firing ↔ state.watchDog = .firing) :
      Follows state next .keepAlive
  | other
      (same : next.lWatchDogCounter = state.lWatchDogCounter)
      (firing_iff : next.watchDog = .firing ↔ state.watchDog = .firing) :
      Follows state next .other

/-- The end of a wait is not the way to `SetEvent`. -/
theorem WatchDogPoint.wake_eq_firing_iff
    (point : WatchDogPoint) : point.wake = firing ↔ point = firing := by
  cases point <;> decide

/-- A command is what its kind says to the watchdog. -/
theorem follows_of_command
    (endCommand : EndCommand)
    (answers : CallbackAnswers)
    (command : IncomingCommand)
    (state : QuitState) :
    Follows state (state.handleCommand endCommand answers command)
      command.event := by
  unfold QuitState.handleCommand IncomingCommand.event
  have exactly := command.quitCommand_eq_keepAlive_iff endCommand answers
  cases effect : command.quitCommand endCommand answers with
  | none =>
      have other : ¬ command.KeepsAlive := by
        rw [← exactly, effect]
        nofun
      rw [if_neg other]
      exact .other rfl .rfl
  | some quitCommand =>
      rw [effect, Option.some.injEq] at exactly
      cases quitCommand with
      | keepAlive =>
          rw [if_pos (exactly.mp rfl)]
          exact .keepAlive rfl .rfl
      | endCommand =>
          rw [if_neg (mt exactly.mpr nofun)]
          exact .other rfl state.watchDog.wake_eq_firing_iff
      | initializeMsg | uninitializeMsg =>
          rw [if_neg (mt exactly.mpr nofun)]
          exact .other rfl .rfl

/-- `WinMain` leaves the counter alone. -/
theorem follows_of_winMain
    {state next : QuitState}
    (stepped : state.winMain answers = some next) :
    Follows state next .other := by
  unfold QuitState.winMain at stepped
  split at stepped
  case h_2 | h_6 | h_7 =>
    split at stepped <;> cases stepped
    all_goals first
      | exact .other rfl .rfl
      | exact .other rfl state.watchDog.wake_eq_firing_iff
  case h_3 | h_8 => cases stepped
  all_goals
    cases stepped
    exact .other rfl .rfl

/-- A working thread leaves the counter alone, whatever the device sends. -/
theorem follows_of_workingThread
    {state next : QuitState}
    (stepped : state.workingThread index data = some next) :
    Follows state next .other := by
  obtain ⟨-, ⟨-, rfl⟩ | ⟨-, -, rfl⟩ | ⟨-, -, -, rfl⟩ | ⟨-, -, -, rfl⟩ | rfl⟩ :=
    QuitState.cases_of_workingThread stepped
  all_goals exact .other rfl .rfl

/-- A step of the watchdog is what is seen of it. -/
theorem follows_of_watchDogThread
    {state next : QuitState}
    (stepped : state.watchDogThread = some next) :
    Follows state next (state.watchDogEvent next) := by
  unfold QuitState.watchDogThread at stepped
  unfold QuitState.watchDogEvent
  cases point : state.watchDog with
  | checking =>
      simp only [point] at stepped
      split at stepped <;> cases stepped
      · exact .other rfl (by simp [point])
      · exact .other rfl (by simp [point])
  | waiting =>
      simp only [point] at stepped
      cases stepped
      exact .other rfl (by simp [point])
  | counting =>
      simp only [point] at stepped
      cases stepped
      apply Follows.tick
      case counting => exact point
      case less => rfl
      case fires_iff =>
        rw [decide_eq_true_iff]
        dsimp only
        split
        case isTrue last => exact iff_of_true rfl last
        case isFalse last => exact iff_of_false nofun last
      case firing_iff => exact decide_eq_true_iff.symm
  | firing =>
      simp only [point] at stepped
      cases stepped
      exact .setEvent point rfl
  | ended =>
      simp only [point] at stepped
      cases stepped

/-- Every step is what is seen of it. -/
theorem follows_of_step
    {endCommand : EndCommand}
    {state next : QuitState}
    (stepped : (watchdogMachine endCommand).step state action =
      some (event, next)) : Follows state next event := by
  cases action with
  | command command answers =>
      obtain ⟨-, same⟩ := Option.ite_none_right_eq_some.mp stepped
      cases same
      exact follows_of_command endCommand answers command state
  | thread thread =>
      cases thread with
      | main answers =>
          obtain ⟨moved, went, same⟩ := Option.map_eq_some_iff.mp stepped
          cases same
          exact follows_of_winMain went
      | watchDog =>
          obtain ⟨moved, went, same⟩ := Option.map_eq_some_iff.mp stepped
          cases same
          exact follows_of_watchDogThread went
      | working index data =>
          obtain ⟨moved, went, same⟩ := Option.map_eq_some_iff.mp stepped
          cases same
          exact follows_of_workingThread went

/-! ## Counting ticks -/

theorem ticksSince_concat
    (events : List WatchdogEvent)
    (event : WatchdogEvent) :
    ticksSince (events ++ [event]) = event.count (ticksSince events) := by
  rw [ticksSince, List.foldl_append]
  rfl

/-- Without a ping or a packet every tick counts. -/
theorem ticksSince_append
    {window : List WatchdogEvent}
    (silent : .keepAlive ∉ window)
    (before : List WatchdogEvent) :
    ticksSince (before ++ window) =
      ticksSince before + window.countP WatchdogEvent.isTick := by
  induction window generalizing before with
  | nil => simp
  | cons event window inductionHypothesis =>
      rw [List.mem_cons, not_or] at silent
      obtain ⟨apart, silent⟩ := silent
      rw [List.append_cons, inductionHypothesis silent, ticksSince_concat,
        List.countP_cons]
      cases event with
      | keepAlive => exact absurd rfl apart
      | tick =>
          simp only [WatchdogEvent.count, WatchdogEvent.isTick, if_true]
          omega
      | setEvent | other => simp [WatchdogEvent.count, WatchdogEvent.isTick]

/-- The ticks that count are the last ones, without a ping or a packet between
them. -/
theorem exists_window (events : List WatchdogEvent) :
    ∃ before window, events = before ++ window ∧ .keepAlive ∉ window ∧
      window.countP WatchdogEvent.isTick = ticksSince events := by
  induction events using List.reverseRec with
  | nil => exact ⟨[], [], rfl, nofun, rfl⟩
  | append_singleton events event inductionHypothesis =>
      by_cases resets : event = .keepAlive
      · refine ⟨events ++ [event], [], by simp, nofun, ?_⟩
        rw [ticksSince_concat, resets]
        rfl
      · obtain ⟨before, window, rfl, silent, ticks⟩ := inductionHypothesis
        refine ⟨before, window ++ [event], by simp, ?_, ?_⟩
        · intro member
          rcases List.mem_append.mp member with member | last
          · exact silent member
          · exact resets (List.mem_singleton.mp last).symm
        · rw [ticksSince_concat, List.countP_append, ticks]
          cases event with
          | keepAlive => exact absurd rfl resets
          | tick | setEvent | other => rfl

/-! ## Whole runs -/

/-- The watchdog has not fired: its counter is what the ticks have left. -/
structure Quiet
    (events : List WatchdogEvent)
    (state : QuitState) : Prop where
  silent : .tick true ∉ events
  unset : .setEvent ∉ events
  awake : state.watchDog ≠ .firing
  counter : state.lWatchDogCounter = watchdogMaxCounter - ticksSince events
  positive : 0 < state.lWatchDogCounter

/-- The watchdog has fired, and is about to set the event. -/
structure Pending
    (events : List WatchdogEvent)
    (state : QuitState) : Prop where
  fired : ∃ early late, events = early ++ .tick true :: late ∧
    .tick true ∉ early ∧ ∀ event ∈ late, event = .keepAlive ∨ event = .other
  unset : .setEvent ∉ events
  firing : state.watchDog = .firing
  nonneg : 0 ≤ state.lWatchDogCounter
  counter_le : state.lWatchDogCounter ≤ watchdogMaxCounter

/-- How far the watchdog has come. -/
inductive Progress
    (events : List WatchdogEvent)
    (state : QuitState) : Prop
  | quiet (quiet : Quiet events state)
  | pending (pending : Pending events state)
  | fired (set : .setEvent ∈ events)

/-- Before anything has happened the count is full. -/
theorem Progress.start : Progress [] .start :=
  .quiet {
    silent := nofun
    unset := nofun
    awake := nofun
    counter := rfl
    positive := by decide }

/-- An event that neither fires nor sets anything. -/
theorem Quiet.extend
    {events : List WatchdogEvent}
    {state next : QuitState}
    (quiet : Quiet events state)
    {event : WatchdogEvent}
    (apart : event ≠ .tick true ∧ event ≠ .setEvent)
    (awake : next.watchDog ≠ .firing)
    (counter : next.lWatchDogCounter =
      watchdogMaxCounter - event.count (ticksSince events))
    (positive : 0 < next.lWatchDogCounter) : Quiet (events ++ [event]) next where
  silent := by simp [quiet.silent, apart.1.symm]
  unset := by simp [quiet.unset, apart.2.symm]
  awake := awake
  counter := by rwa [ticksSince_concat]
  positive := positive

/-- While the watchdog has not fired, it goes on like that or fires. -/
theorem Quiet.concat
    {events : List WatchdogEvent}
    {state next : QuitState}
    (quiet : Quiet events state)
    (follows : Follows state next event) : Progress (events ++ [event]) next := by
  have counter := quiet.counter
  have positive := quiet.positive
  cases follows with
  | tick fires counting less fires_iff firing_iff =>
      cases fires with
      | true =>
          have last := fires_iff.mp rfl
          have full : 0 ≤ watchdogMaxCounter := by decide
          apply Progress.pending
          exact {
            fired := ⟨events, [], rfl, quiet.silent, nofun⟩
            unset := by simp [quiet.unset]
            firing := firing_iff.mpr rfl
            nonneg := by omega
            counter_le := by omega }
      | false =>
          have more := mt fires_iff.mpr Bool.false_ne_true
          have asleep := mt firing_iff.mp Bool.false_ne_true
          have apart : WatchdogEvent.tick false ≠ .tick true ∧
              WatchdogEvent.tick false ≠ .setEvent := by decide
          apply Progress.quiet
          apply quiet.extend apart asleep
          · rw [WatchdogEvent.count]
            omega
          · omega
  | setEvent firing => exact absurd firing quiet.awake
  | keepAlive full firing_iff =>
      have positive : 0 < watchdogMaxCounter := by decide
      rw [← full] at positive
      exact .quiet (quiet.extend ⟨nofun, nofun⟩ (mt firing_iff.mp quiet.awake)
        full positive)
  | other same firing_iff =>
      rw [← same] at counter positive
      exact .quiet (quiet.extend ⟨nofun, nofun⟩ (mt firing_iff.mp quiet.awake)
        counter positive)

/-- Once the watchdog has fired it sets the event before anything else it
does. -/
theorem Pending.concat
    {events : List WatchdogEvent}
    {state next : QuitState}
    (pending : Pending events state)
    (follows : Follows state next event) : Progress (events ++ [event]) next := by
  obtain ⟨⟨early, late, rfl, silent, others⟩, unset, firing, nonneg, counter_le⟩ :=
    pending
  -- commands and the other threads may come between
  have extend
      (between : event = .keepAlive ∨ event = .other)
      (still : next.watchDog = .firing)
      (nonneg : 0 ≤ next.lWatchDogCounter)
      (counter_le : next.lWatchDogCounter ≤ watchdogMaxCounter) :
      Pending (early ++ .tick true :: late ++ [event]) next := {
    fired := by
      refine ⟨early, late ++ [event], by simp, silent, ?_⟩
      intro later member
      rcases List.mem_append.mp member with member | last
      · exact others later member
      · rwa [List.mem_singleton.mp last]
    unset := by
      rw [List.mem_append, not_or]
      refine ⟨unset, ?_⟩
      rcases between with rfl | rfl <;> simp
    firing := still
    nonneg := nonneg
    counter_le := counter_le }
  cases follows with
  | tick fires counting =>
      rw [firing] at counting
      cases counting
  | setEvent => exact .fired (List.mem_append_right _ (List.mem_singleton_self _))
  | keepAlive full firing_iff =>
      have positive : 0 ≤ watchdogMaxCounter := by decide
      rw [← full] at positive
      exact .pending (extend (.inl rfl) (firing_iff.mpr firing) positive
        (Int.le_of_eq full))
  | other same firing_iff =>
      rw [← same] at nonneg counter_le
      exact .pending (extend (.inr rfl) (firing_iff.mpr firing) nonneg counter_le)

/-- Every event is progress. -/
theorem Progress.concat
    {events : List WatchdogEvent}
    {state next : QuitState}
    (progress : Progress events state)
    (follows : Follows state next event) : Progress (events ++ [event]) next := by
  cases progress with
  | quiet quiet => exact quiet.concat follows
  | pending pending => exact pending.concat follows
  | fired set => exact .fired (List.mem_append_left _ set)

/-- Every run is progress. -/
theorem progress_of_run
    {endCommand : EndCommand}
    (ran : (watchdogMachine endCommand).run .start actions =
      some (events, final)) : Progress events final := by
  have along := Machine.holds_of_run
    (fun history state => Progress (history.map Prod.snd) state)
    (fun history state action event next progress (_ : True) stepped => by
      rw [List.map_append]
      exact progress.concat (follows_of_step stepped))
    [] .start
    (Machine.admits_of_forall (fun _ _ => trivial) _ _) ran
  rwa [List.nil_append, List.map_snd_zip (Machine.length_of_run ran).le] at along

/-- An event of a run is a step behind a run up to it. -/
theorem exists_follows_of_run
    {endCommand : EndCommand}
    {before after : List WatchdogEvent}
    (ran : (watchdogMachine endCommand).run .start actions =
      some (before ++ event :: after, final)) :
    ∃ state next, Progress before state ∧ Follows state next event := by
  obtain ⟨_, state, _, next, ranBefore, stepped⟩ :=
    Machine.exists_step_of_outputs_append ran
  exact ⟨state, next, progress_of_run ranBefore, follows_of_step stepped⟩

/-! ## The property holds -/

/-- Where no tick has fired the watchdog has not. -/
theorem Progress.toQuiet
    {events : List WatchdogEvent}
    {state : QuitState}
    (progress : Progress events state)
    (silent : .tick true ∉ events)
    (unset : .setEvent ∉ events) : Quiet events state := by
  cases progress with
  | quiet quiet => exact quiet
  | pending pending =>
      obtain ⟨early, late, rfl, -⟩ := pending.fired
      exact absurd (List.mem_append_right _ List.mem_cons_self) silent
  | fired set => exact absurd set unset

/-- The event is first set behind a tick that fires. -/
theorem exists_fired_of_setEvent
    {endCommand : EndCommand}
    {before after : List WatchdogEvent}
    (ran : (watchdogMachine endCommand).run .start actions =
      some (before ++ .setEvent :: after, final))
    (unset : .setEvent ∉ before) :
    ∃ early late, before = early ++ .tick true :: late ∧
      .tick true ∉ early ∧
        ∀ event ∈ late, event = .keepAlive ∨ event = .other := by
  obtain ⟨state, next, progress, follows⟩ := exists_follows_of_run ran
  cases follows with
  | setEvent firing =>
      cases progress with
      | quiet quiet => exact absurd firing quiet.awake
      | pending pending => exact pending.fired
      | fired set => exact absurd set unset

/-- The event is not set before a tick has fired. -/
theorem unset_of_silent
    {endCommand : EndCommand}
    {events : List WatchdogEvent}
    (ran : (watchdogMachine endCommand).run .start actions =
      some (events, final))
    (silent : .tick true ∉ events) : .setEvent ∉ events := by
  intro set
  obtain ⟨before, after, rfl, unset⟩ := List.eq_append_cons_of_mem set
  obtain ⟨early, late, rfl, -⟩ := exists_fired_of_setEvent ran unset
  apply silent
  simp

/-- Until it fires the watchdog has counted the ticks since the last reset. -/
theorem quiet_of_run
    {endCommand : EndCommand}
    {events : List WatchdogEvent}
    (ran : (watchdogMachine endCommand).run .start actions =
      some (events, final))
    (silent : .tick true ∉ events) : Quiet events final :=
  (progress_of_run ran).toQuiet silent (unset_of_silent ran silent)

/-- Until it fires a tick fires exactly if it is the last one counted. -/
theorem fires_iff_of_run
    {endCommand : EndCommand}
    {before after : List WatchdogEvent}
    (ran : (watchdogMachine endCommand).run .start actions =
      some (before ++ .tick fires :: after, final))
    (silent : .tick true ∉ before) :
    fires = true ↔ (ticksSince before + 1 : Int) = watchdogMaxCounter := by
  obtain ⟨_, state, _, next, ranBefore, stepped⟩ :=
    Machine.exists_step_of_outputs_append ran
  have quiet := quiet_of_run ranBefore silent
  have counter := quiet.counter
  have positive := quiet.positive
  cases follows_of_step stepped with
  | tick _ counting less fires_iff =>
      rw [fires_iff]
      omega

/-- The watchdog is exact in every run. -/
theorem exact_of_run
    {endCommand : EndCommand}
    {events : List WatchdogEvent}
    (ran : (watchdogMachine endCommand).run .start actions =
      some (events, final)) : WatchdogExact events final where
  fires_iff := by
    rintro before fires after rfl silent
    exact fires_iff_of_run ran silent
  setEvent := by
    rintro before after rfl unset
    exact exists_fired_of_setEvent ran unset
  occurs fired := by
    cases progress_of_run ran with
    | quiet quiet => exact absurd fired quiet.silent
    | pending pending =>
        right
        unfold QuitState.watchDogThread
        rw [pending.firing]
    | fired set => exact .inl set
  never kept := by
    have silent : .tick true ∉ events := by
      intro fired
      obtain ⟨before, after, rfl, silent⟩ := List.eq_append_cons_of_mem fired
      have full := (fires_iff_of_run ran silent).mp rfl
      obtain ⟨before, window, rfl, unreset, ticks⟩ := exists_window before
      apply kept before (window ++ [.tick true]) after (by simp)
      refine ⟨?_, by simp [unreset]⟩
      rw [List.countP_append, ticks, ← full]
      rfl
    exact ⟨silent, unset_of_silent ran silent⟩
  always := by
    rintro before window after rfl ⟨ticks, unreset⟩
    by_contra silent
    obtain ⟨_, _, state, -, ranWindow, -⟩ :=
      Machine.exists_run_of_outputs_append ran
    have quiet := quiet_of_run ranWindow silent
    have counter := quiet.counter
    have positive := quiet.positive
    rw [ticksSince_append unreset] at counter
    omega
  counter unset := by
    cases progress_of_run ran with
    | quiet quiet =>
        have counter := quiet.counter
        have positive := quiet.positive
        omega
    | pending pending => exact ⟨pending.nonneg, pending.counter_le⟩
    | fired set => exact absurd set unset

/-- What an event does to the counter is all that happens to it. -/
theorem Follows.counter
    {state next : QuitState}
    (follows : Follows state next event) :
    next.lWatchDogCounter = event.counter state.lWatchDogCounter := by
  cases follows with
  | tick _ _ less => exact less
  | setEvent _ same => exact same
  | keepAlive full => exact full
  | other same => exact same

/-- In every run of the agent's threads and the commands of the desktop the
watchdog fires exactly when it should, and nothing but its ticks, the pings and
the packets changes its counter. -/
theorem watchdogExact_of_run
    (endCommand : EndCommand)
    (actions : List WatchdogAction)
    (events : List WatchdogEvent)
    (final : QuitState)
    (ran : (watchdogMachine endCommand).run .start actions =
      some (events, final)) :
    WatchdogExact events final ∧
      (watchdogMachine endCommand).Always
        (fun state _ event next =>
          next.lWatchDogCounter = event.counter state.lWatchDogCounter)
        .start actions := by
  refine ⟨exact_of_run ran, ?_⟩
  apply Machine.always_of_admits (fun _ => True)
  · rintro state action event next - - stepped
    exact ⟨(follows_of_step stepped).counter, trivial⟩
  · trivial
  · exact Machine.admits_of_forall (fun _ _ => trivial) _ _


/-- A ping of the desktop. -/
def IncomingCommand.ping : IncomingCommand where
  dwCmd := PacketType.message.code
  pCmdDataIn := some (.ofDword MessageId.agentPingMsg.code)

/-- A tick, a ping, and twelve more ticks with the `SetEvent` behind them. -/
def pingThenSilence : List WatchdogAction :=
  .thread (.main .succeed) :: List.replicate 3 (.thread .watchDog) ++
    .command .ping ⟨.succeed, .succeed⟩ ::
      List.replicate 37 (.thread .watchDog)

theorem watchdogExact_pingThenSilence :
    ∃ events final,
      (watchdogMachine ⟨0xFFFFFFFF, by rintro (_ | _ | _) <;> decide⟩).run .start
          pingThenSilence = some (events, final) ∧
        .setEvent ∈ events ∧
        WatchdogExact events final ∧
        (watchdogMachine ⟨0xFFFFFFFF, by rintro (_ | _ | _) <;> decide⟩).Always
          (fun state _ event next =>
            next.lWatchDogCounter = event.counter state.lWatchDogCounter)
          .start pingThenSilence :=
  ⟨_, _, rfl, by decide, watchdogExact_of_run _ _ _ _ rfl⟩

end Agent
end BthEmul
