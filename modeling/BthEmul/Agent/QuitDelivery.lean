import BthEmul.Agent.QuitEvent

/-!
# Who a request to quit reaches

A wait of `WinMain` can end as long as the watchdog is alive, or the event is
signalled, and the working thread it waits for can still look at the event. A
state in which that is so is left only by a step of `WinMain` that does not
conform.
-/

namespace BthEmul

open Foundation

namespace Agent

/-- The handle of the working thread is that of one that was created. -/
def AgentState.HoldsThread (agent : AgentState) : Prop :=
  ∀ thread, agent.gHWorkingThread = some thread → thread < agent.threads.length

/-- Activating the driver leaves the working threads. -/
theorem AgentState.threads_activateDriver
    (agent : AgentState)
    (registrations : List Registration) :
    (agent.activateDriver registrations).2.threads = agent.threads ∧
      (agent.activateDriver registrations).2.gHWorkingThread =
        agent.gHWorkingThread := by
  induction registrations generalizing agent with
  | nil => exact ⟨rfl, rfl⟩
  | cons registration rest inductionHypothesis =>
      cases registration with
      | noName => exact inductionHypothesis agent
      | refused => exact inductionHypothesis { agent with gHDevice := none }
      | registered => exact ⟨rfl, rfl⟩

/-- An initialization leaves the handle, clears it, or sets it to the thread it
creates. -/
theorem AgentState.HoldsThread.initializeAgent
    {agent : AgentState}
    (holds : agent.HoldsThread)
    (answers : InitializeAnswers) :
    (agent.initializeAgent answers).2.HoldsThread := by
  have activated := (agent.createMsgQueues answers).2.threads_activateDriver
    answers.registrations.toList
  unfold AgentState.initializeAgent
  simp only
  split
  · split
    · split
      · split
        · split
          · intro thread created
            cases created
            simp
          · intro thread none
            cases none
        · intro thread held
          rw [activated.1]
          exact holds thread (activated.2.symm.trans held)
      · exact holds
    · exact holds
  · exact holds

theorem MainPoint.wake_ne_waiting (point : MainPoint) : point.wake ≠ .waiting := by
  cases point <;> nofun

/-- Only `WinMain` in its wait for the event is released. -/
theorem MainPoint.eq_of_wake
    {point other : MainPoint}
    (same : point.wake = other)
    (stays : other ≠ .released) : point = other := by
  cases point with
  | waiting => exact absurd same.symm stays
  | _ => exact same

/-- The watchdog outlives a pulse for which it does not wait. -/
theorem WatchDogPoint.wake_ne_ended_iff
    {point : WatchDogPoint} :
    point.wake ≠ .ended ↔ point ≠ .waiting ∧ point ≠ .ended := by
  cases point <;> decide

/-- `WinMain` was released from its wait. -/
def MainPoint.leaves : MainPoint → Bool
  | released | stopped | uninitialized | joining _ => true
  | starting | handling | waiting | ended => false

namespace QuitState

/-- What holds of every state. Nothing waits while the event is signalled;
`WinMain` is released only by a request; the queues are closed and the handle
cleared behind `Uninitialize`; and behind the last pulse a thread waits only on
an open queue. -/
structure Kept (state : QuitState) : Prop where
  quiet : state.signalled = true →
    state.requested = true ∧ state.main ≠ .waiting ∧ state.blocked = []
  leaves : state.main.leaves = true → state.requested = true
  holds : state.agent.HoldsThread
  uninitialized : state.main = .uninitialized → state.agent.gHReadQueue = none
  joining : ∀ thread, state.main = .joining thread →
    thread < state.agent.threads.length ∧ state.agent.gHReadQueue = none ∧
      ∀ index ∈ state.blocked, state.sees index = true

/-- A wait of `WinMain` can end. -/
structure Releasable (state : QuitState) : Prop where
  waiting : state.requested = true → state.main = .waiting →
    state.watchDog ≠ .ended
  joining : ∀ thread, state.main = .joining thread →
    ∀ index, index < state.agent.threads.length →
      index ∈ state.returned ∨
        (state.sees index = true ∧
          (state.signalled = true ∨ state.watchDog ≠ .ended))

theorem kept_start : start.Kept where
  quiet := nofun
  leaves := nofun
  holds := nofun
  uninitialized := nofun
  joining := nofun

theorem releasable_start : start.Releasable where
  waiting := nofun
  joining := nofun

/-! ## What keeps a state -/

/-- Releasing the threads that wait keeps the state. -/
theorem Kept.release
    {state : QuitState}
    (kept : state.Kept)
    (signalled : Bool) :
    Kept { state.release with signalled := signalled } where
  quiet _ := ⟨rfl, state.main.wake_ne_waiting, rfl⟩
  leaves _ := rfl
  holds := kept.holds
  uninitialized same :=
    kept.uninitialized (MainPoint.eq_of_wake same nofun)
  joining thread same := by
    obtain ⟨created, closed, -⟩ :=
      kept.joining thread (MainPoint.eq_of_wake same nofun)
    exact ⟨created, closed, nofun⟩

/-- `WinMain` may go on to a point at which it does not wait, unless it is behind
`Uninitialize`. -/
theorem Kept.move
    {state : QuitState}
    (kept : state.Kept)
    (point : MainPoint)
    (requested : point.leaves = true → state.requested = true)
    (awake : point.waits = false)
    (early : point ≠ .uninitialized) :
    Kept { state with main := point } where
  quiet signalled := by
    obtain ⟨requested, -, free⟩ := kept.quiet signalled
    refine ⟨requested, ?_, free⟩
    rintro (rfl : point = .waiting)
    cases awake
  leaves := requested
  holds := kept.holds
  uninitialized same := absurd same early
  joining thread := by
    rintro (rfl : point = .joining thread)
    cases awake

/-- A step of `WinMain` keeps the state. -/
theorem Kept.winMain
    {state next : QuitState}
    (kept : state.Kept)
    (stepped : state.winMain answers = some next) : next.Kept := by
  unfold QuitState.winMain at stepped
  split at stepped
  case h_1 =>
    cases stepped
    exact kept.move _ nofun rfl nofun
  case h_2 =>
    split at stepped
    case isTrue signalled =>
      cases stepped
      exact kept.move _ (fun _ => (kept.quiet signalled).1) rfl nofun
    case isFalse quiet =>
      cases stepped
      exact { kept with
        quiet := fun signalled => absurd signalled quiet
        leaves := nofun
        uninitialized := nofun
        joining := nofun }
  case h_3 => cases stepped
  case h_4 released =>
    cases stepped
    exact kept.move _ (fun _ => kept.leaves (by rw [released]; rfl)) rfl nofun
  case h_5 stopped =>
    cases stepped
    have requested := kept.leaves (by rw [stopped]; rfl)
    exact {
      quiet := fun signalled => ⟨requested, nofun, (kept.quiet signalled).2.2⟩
      leaves := fun _ => requested
      holds := kept.holds
      uninitialized := fun _ => rfl
      joining := nofun }
  case h_6 uninitialized =>
    split at stepped
    case h_1 thread handle =>
      cases stepped
      exact { kept.release false with
        quiet := nofun
        leaves := fun _ => rfl
        uninitialized := nofun
        joining := by
          rintro _ ⟨⟩
          exact ⟨kept.holds thread handle, kept.uninitialized uninitialized,
            nofun⟩ }
    case h_2 =>
      cases stepped
      exact kept.move _ nofun rfl nofun
  case h_7 =>
    split at stepped
    · cases stepped
      exact kept.move _ nofun rfl nofun
    · cases stepped
  case h_8 => cases stepped

/-- A step of the watchdog keeps the state. -/
theorem Kept.watchDogThread
    {state next : QuitState}
    (kept : state.Kept)
    (stepped : state.watchDogThread = some next) : next.Kept := by
  unfold QuitState.watchDogThread at stepped
  split at stepped
  · split at stepped <;> cases stepped <;> exact { kept with }
  · cases stepped
    exact { kept with }
  · cases stepped
    exact { kept with }
  · cases stepped
    exact { kept.release true with }
  · cases stepped

/-- What a step of a working thread can be. -/
theorem cases_of_workingThread
    {state next : QuitState}
    (stepped : state.workingThread index data = some next) :
    index ∉ state.returned ∧
      ((index ∈ state.blocked ∧
          next = { state with blocked := state.blocked.erase index }) ∨
        (index ∉ state.blocked ∧
          state.agent.threads[index]? = some .created ∧
          next = { state with
            agent := { state.agent with
              threads := state.agent.threads.set index
                (.waiting state.agent.gHReadQueue) } }) ∨
        (index ∉ state.blocked ∧ state.sees index = true ∧
          state.signalled = true ∧
          next = { state with returned := state.returned ++ [index] }) ∨
        (index ∉ state.blocked ∧ state.sees index = true ∧
          state.signalled = false ∧
          next = { state with blocked := state.blocked ++ [index] }) ∨
        next = state) := by
  unfold QuitState.workingThread at stepped
  split at stepped
  · cases stepped
  case isFalse running =>
    refine ⟨running, ?_⟩
    split at stepped
    case isTrue waits =>
      split at stepped <;> cases stepped
      exact .inl ⟨waits, rfl⟩
    case isFalse awake =>
      split at stepped
      · cases stepped
      case h_2 created =>
        cases stepped
        exact .inr (.inl ⟨awake, created, rfl⟩)
      · split at stepped
        case isTrue sees =>
          split at stepped
          case isTrue signalled =>
            cases stepped
            exact .inr (.inr (.inl ⟨awake, sees, signalled, rfl⟩))
          case isFalse quiet =>
            have quiet : state.signalled = false := Bool.eq_false_iff.mpr quiet
            split at stepped
            · cases stepped
              exact .inr (.inr (.inr (.inr rfl)))
            · cases stepped
              exact .inr (.inr (.inr (.inl ⟨awake, sees, quiet, rfl⟩)))
        case isFalse =>
          cases stepped
          exact .inr (.inr (.inr (.inr rfl)))

/-- A thread that begins its loop changes what no other thread waits on. -/
theorem sees_set
    {state : QuitState}
    {index other : Nat}
    (seen : state.sees other = true)
    (created : state.agent.threads[index]? = some .created)
    (thread : WorkingThread) :
    sees { state with
      agent := { state.agent with
        threads := state.agent.threads.set index thread } } other = true := by
  unfold QuitState.sees at seen ⊢
  by_cases same : index = other
  · rw [← same, created] at seen
    cases seen
  · rw [List.getElem?_set_ne same]
    exact seen

/-- A step of a working thread keeps the state. -/
theorem Kept.workingThread
    {state next : QuitState}
    (kept : state.Kept)
    (stepped : state.workingThread index data = some next) : next.Kept := by
  obtain ⟨-, ⟨waits, rfl⟩ | ⟨-, created, rfl⟩ | ⟨-, -, -, rfl⟩ |
    ⟨-, sees, quiet, rfl⟩ | rfl⟩ := cases_of_workingThread stepped
  · exact { kept with
      quiet := by
        intro signalled
        rw [(kept.quiet signalled).2.2] at waits
        cases waits
      joining := by
        intro thread same
        obtain ⟨present, closed, open_⟩ := kept.joining thread same
        refine ⟨present, closed, ?_⟩
        intro other member
        exact open_ other (List.mem_of_mem_erase member) }
  · exact { kept with
      holds := by
        intro thread held
        rw [List.length_set]
        exact kept.holds thread held
      joining := by
        intro thread same
        obtain ⟨present, closed, open_⟩ := kept.joining thread same
        rw [List.length_set]
        refine ⟨present, closed, ?_⟩
        intro other member
        exact sees_set (open_ other member) created _ }
  · exact { kept with }
  · exact { kept with
      quiet := by
        intro signalled
        rw [quiet] at signalled
        cases signalled
      joining := by
        intro thread same
        obtain ⟨present, closed, open_⟩ := kept.joining thread same
        refine ⟨present, closed, ?_⟩
        intro other member
        rcases List.mem_append.mp member with earlier | last
        · exact open_ other earlier
        · rw [List.mem_singleton.mp last]
          exact sees }
  · exact kept

/-- A step of the agent's own threads keeps the state. -/
theorem Kept.thread
    {state next : QuitState}
    {thread : QuitThread}
    (kept : state.Kept)
    (stepped : quitThreadsMachine.step state thread = some (output, next)) :
    next.Kept := by
  cases thread with
  | main answers =>
      obtain ⟨moved, went, same⟩ := Option.map_eq_some_iff.mp stepped
      cases same
      exact kept.winMain went
  | watchDog =>
      obtain ⟨moved, went, same⟩ := Option.map_eq_some_iff.mp stepped
      cases same
      exact kept.watchDogThread went
  | working index data =>
      obtain ⟨moved, went, same⟩ := Option.map_eq_some_iff.mp stepped
      cases same
      exact kept.workingThread went

/-- A command keeps the state. -/
theorem Kept.commandCallback
    {state : QuitState}
    (kept : state.Kept)
    (handles : state.main.handles = true)
    (command : QuitCommand) : (state.commandCallback command).Kept := by
  have early : state.main ≠ .uninitialized := by
    intro same
    rw [same] at handles
    cases handles
  have apart : ∀ thread, state.main ≠ .joining thread := by
    intro thread same
    rw [same] at handles
    cases handles
  cases command with
  | endCommand => exact kept.release false
  | keepAlive => exact { kept with }
  | initializeMsg answers =>
      exact { kept with
        holds := kept.holds.initializeAgent answers
        uninitialized := fun same => absurd same early
        joining := fun thread same => absurd same (apart thread) }
  | uninitializeMsg answers =>
      exact { kept with
        holds := kept.holds
        uninitialized := fun same => absurd same early
        joining := fun thread same => absurd same (apart thread) }

/-- Every step keeps the state. -/
theorem Kept.step
    {state next : QuitState}
    (kept : state.Kept)
    (stepped : quitMachine.step state action = some (output, next)) :
    next.Kept := by
  cases action with
  | command command =>
      simp only [quitMachine] at stepped
      split at stepped
      case isTrue handles =>
        cases stepped
        exact kept.commandCallback handles command
      case isFalse => cases stepped
  | thread thread => exact kept.thread stepped

/-! ## Which steps leave a wait that can end -/

/-- `WinMain` at a point at which it does not wait. -/
theorem releasable_of_not_waits
    {state : QuitState}
    (awake : state.main.waits = false) : state.Releasable where
  waiting _ same := by
    rw [same] at awake
    cases awake
  joining thread same := by
    rw [same] at awake
    cases awake

/-- `WinMain` needs nothing unless it begins its wait or pulses the event. -/
theorem conforms_main
    {state : QuitState}
    (here : state.main = point)
    (begun : point ≠ .handling)
    (early : point ≠ .uninitialized ∨ state.agent.gHWorkingThread = none)
    (answers : UninitializeAnswers) :
    state.Conforms (.thread (.main answers)) := by
  subst here
  constructor
  · intro same
    exact absurd same begun
  · rintro ⟨same, held⟩
    rcases early with early | none
    · exact absurd same early
    · exact absurd none held

/-- `WinMain` that begins its wait can be released while the watchdog lives. -/
theorem releasable_waiting_iff
    {state : QuitState} :
    Releasable { state with main := .waiting } ↔
      (state.requested = true → state.watchDog ≠ .ended) := by
  constructor
  · intro releasable requested
    exact releasable.waiting requested rfl
  · intro alive
    exact {
      waiting := fun requested _ => alive requested
      joining := nofun }

/-- Behind its pulse `WinMain` can be released exactly where the pulse reaches
every working thread. -/
theorem releasable_pulse_iff
    {state : QuitState}
    {thread : Nat} :
    Releasable { state.pulseEvent with main := .joining thread } ↔
      ∀ index, index < state.agent.threads.length →
        state.PulseReaches index := by
  have reaches (index : Nat) :
      (index ∈ state.returned ++ state.blocked ∨
        (state.sees index = true ∧
          (false = true ∨ state.watchDog.wake ≠ .ended))) ↔
        state.PulseReaches index := by
    rw [PulseReaches, List.mem_append, WatchDogPoint.wake_ne_ended_iff, or_assoc]
    simp only [Bool.false_eq_true, false_or]
  constructor
  · intro releasable index created
    exact (reaches index).mp (releasable.joining thread rfl index created)
  · intro all
    refine ⟨nofun, ?_⟩
    intro _ _ index created
    exact (reaches index).mpr (all index created)

/-- Behind a step of `WinMain` its wait can end exactly where the step
conforms. -/
theorem releasable_winMain_iff
    {state next : QuitState}
    (stepped : state.winMain answers = some next) :
    next.Releasable ↔ state.Conforms (.thread (.main answers)) := by
  unfold QuitState.winMain at stepped
  split at stepped
  case h_1 starting =>
    cases stepped
    exact iff_of_true (releasable_of_not_waits rfl)
      (conforms_main starting nofun (.inl nofun) _)
  case h_2 handling =>
    have early : ¬ (state.main = .uninitialized ∧
        state.agent.gHWorkingThread ≠ none) := by
      rw [handling]
      nofun
    split at stepped
    case isTrue signalled =>
      cases stepped
      refine iff_of_true (releasable_of_not_waits rfl) ⟨?_, ?_⟩
      · intro _ _
        exact .inl signalled
      · intro same
        exact absurd same early
    case isFalse quiet =>
      cases stepped
      rw [releasable_waiting_iff]
      constructor
      · intro alive
        refine ⟨fun _ requested => .inr (alive requested), ?_⟩
        intro same
        exact absurd same early
      · intro conforms requested
        rcases conforms.1 handling requested with signalled | alive
        · exact absurd signalled quiet
        · exact alive
  case h_3 => cases stepped
  case h_4 released =>
    cases stepped
    exact iff_of_true (releasable_of_not_waits rfl)
      (conforms_main released nofun (.inl nofun) _)
  case h_5 stopped =>
    cases stepped
    exact iff_of_true (releasable_of_not_waits rfl)
      (conforms_main stopped nofun (.inl nofun) _)
  case h_6 uninitialized =>
    split at stepped
    case h_1 thread handle =>
      cases stepped
      rw [releasable_pulse_iff]
      constructor
      · intro all
        refine ⟨?_, fun _ => all⟩
        rw [uninitialized]
        nofun
      · intro conforms
        apply conforms.2
        refine ⟨uninitialized, ?_⟩
        rw [handle]
        nofun
    case h_2 none =>
      cases stepped
      exact iff_of_true (releasable_of_not_waits rfl)
        (conforms_main uninitialized nofun (.inr none) _)
  case h_7 thread joining =>
    split at stepped
    · cases stepped
      exact iff_of_true (releasable_of_not_waits rfl)
        (conforms_main joining nofun (.inl nofun) _)
    · cases stepped
  case h_8 => cases stepped

/-- Releasing the threads that wait leaves a wait that can end, where the event
is signalled behind it. -/
theorem Releasable.setEvent
    {state : QuitState}
    (releasable : state.Releasable)
    (point : WatchDogPoint) :
    Releasable { state.setEvent with watchDog := point } where
  waiting _ same := absurd same state.main.wake_ne_waiting
  joining thread same index created := by
    have joins := MainPoint.eq_of_wake same nofun
    rcases releasable.joining thread joins index created with returned | seen
    · exact .inl (List.mem_append_left _ returned)
    · exact .inr ⟨seen.1, .inl rfl⟩

/-- A step of the watchdog leaves a wait that can end. -/
theorem Releasable.watchDogThread
    {state next : QuitState}
    (releasable : state.Releasable)
    (kept : state.Kept)
    (stepped : state.watchDogThread = some next) : next.Releasable := by
  -- a watchdog that goes on can still fire
  have goesOn (counter : Int) (point : WatchDogPoint) (alive : point ≠ .ended) :
      Releasable { state with
        watchDog := point, lWatchDogCounter := counter } := {
    waiting := fun _ _ => alive
    joining := by
      intro thread joins index created
      rcases releasable.joining thread joins index created with returned | seen
      · exact .inl returned
      · exact .inr ⟨seen.1, .inr alive⟩ }
  unfold QuitState.watchDogThread at stepped
  split at stepped
  case h_1 =>
    split at stepped
    case isTrue signalled =>
      cases stepped
      refine ⟨fun _ same => absurd same (kept.quiet signalled).2.1, ?_⟩
      intro thread joins index created
      rcases releasable.joining thread joins index created with returned | seen
      · exact .inl returned
      · exact .inr ⟨seen.1, .inl signalled⟩
    case isFalse =>
      cases stepped
      exact goesOn _ _ nofun
  case h_2 =>
    cases stepped
    exact goesOn _ _ nofun
  case h_3 =>
    cases stepped
    apply goesOn
    split <;> nofun
  case h_4 =>
    cases stepped
    exact releasable.setEvent _
  case h_5 => cases stepped

/-- A step of a working thread leaves a wait that can end. -/
theorem Releasable.workingThread
    {state next : QuitState}
    (releasable : state.Releasable)
    (stepped : state.workingThread index data = some next) :
    next.Releasable := by
  obtain ⟨running, ⟨-, rfl⟩ | ⟨-, created, rfl⟩ | ⟨-, -, -, rfl⟩ |
    ⟨-, -, -, rfl⟩ | rfl⟩ := cases_of_workingThread stepped
  · exact { releasable with }
  · refine ⟨releasable.waiting, ?_⟩
    intro thread joins other present
    rw [List.length_set] at present
    rcases releasable.joining thread joins other present with returned | seen
    · exact .inl returned
    · exact .inr ⟨sees_set seen.1 created _, seen.2⟩
  · refine ⟨releasable.waiting, ?_⟩
    intro thread joins other present
    rcases releasable.joining thread joins other present with returned | seen
    · exact .inl (List.mem_append_left _ returned)
    · exact .inr seen
  · exact { releasable with }
  · exact releasable

/-- A command leaves a wait that can end. -/
theorem Releasable.commandCallback
    {state : QuitState}
    (releasable : state.Releasable)
    (handles : state.main.handles = true)
    (command : QuitCommand) : (state.commandCallback command).Releasable := by
  have apart : ∀ thread, state.main ≠ .joining thread := by
    intro thread same
    rw [same] at handles
    cases handles
  cases command with
  | endCommand =>
      refine ⟨fun _ same => absurd same state.main.wake_ne_waiting, ?_⟩
      intro thread same
      exact absurd (MainPoint.eq_of_wake same nofun) (apart thread)
  | keepAlive => exact { releasable with }
  | initializeMsg answers =>
      exact ⟨releasable.waiting, fun thread same => absurd same (apart thread)⟩
  | uninitializeMsg answers =>
      exact ⟨releasable.waiting, fun thread same => absurd same (apart thread)⟩

/-- Behind a step the wait of `WinMain` can end exactly where the step
conforms. -/
theorem Releasable.step_iff
    {state next : QuitState}
    (releasable : state.Releasable)
    (kept : state.Kept)
    (stepped : quitMachine.step state action = some (output, next)) :
    next.Releasable ↔ state.Conforms action := by
  cases action with
  | command command =>
      simp only [quitMachine] at stepped
      split at stepped
      case isTrue handles =>
        cases stepped
        exact iff_of_true (releasable.commandCallback handles command) trivial
      case isFalse => cases stepped
  | thread thread =>
      cases thread with
      | main answers =>
          obtain ⟨moved, went, same⟩ := Option.map_eq_some_iff.mp stepped
          cases same
          exact releasable_winMain_iff went
      | watchDog =>
          obtain ⟨moved, went, same⟩ := Option.map_eq_some_iff.mp stepped
          cases same
          exact iff_of_true (releasable.watchDogThread kept went) trivial
      | working index data =>
          obtain ⟨moved, went, same⟩ := Option.map_eq_some_iff.mp stepped
          cases same
          exact iff_of_true (releasable.workingThread went) trivial

end QuitState
end Agent
end BthEmul
