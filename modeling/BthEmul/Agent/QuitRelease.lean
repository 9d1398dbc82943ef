import BthEmul.Agent.QuitDelivery

/-!
# The quit request is never lost

The agent's own threads can end a wait of `WinMain` exactly where it is
releasable: the watchdog fires after finitely many steps, and a working thread
returns in one step while the event is signalled. Without a watchdog nothing
signals the event, and a working thread whose queue is not open never looks at
it.
-/

namespace BthEmul

open Foundation

namespace Agent

/-- `WinMain` waits for a working thread, or has ended. -/
def MainPoint.joins : MainPoint → Bool
  | .joining _ | .ended => true
  | .starting | .handling | .waiting | .released | .stopped
  | .uninitialized => false

namespace QuitState

/-- What the next step of one of the agent's own threads leads to can be
reached. -/
theorem canReach_of_thread
    {state next : QuitState}
    {goal : QuitState → Prop}
    (thread : QuitThread)
    (stepped : quitThreadsMachine.step state thread = some ((), next))
    (later : quitThreadsMachine.CanReach goal next) :
    quitThreadsMachine.CanReach goal state :=
  .of_step stepped later

/-! ## The watchdog fires -/

/-- The watchdog has fired, whatever its counter is. -/
def Fired (state later : QuitState) : Prop :=
  ∃ counter, later = { state.setEvent with
    watchDog := .checking
    lWatchDogCounter := counter }

theorem canReach_fired_of_firing
    (state : QuitState)
    (counter : Int) :
    quitThreadsMachine.CanReach state.Fired
      { state with watchDog := .firing, lWatchDogCounter := counter } :=
  canReach_of_thread .watchDog rfl (.of_goal ⟨counter, rfl⟩)

/-- While the event is not signalled the watchdog waits. -/
theorem canReach_of_checking
    {state : QuitState}
    {goal : QuitState → Prop}
    (quiet : state.signalled = false)
    (checking : state.watchDog = .checking)
    (later : quitThreadsMachine.CanReach goal
      { state with watchDog := .counting }) :
    quitThreadsMachine.CanReach goal state := by
  have begins : state.watchDogThread =
      some { state with watchDog := .waiting } := by
    unfold watchDogThread
    rw [checking]
    exact if_neg (Bool.eq_false_iff.mp quiet)
  apply canReach_of_thread .watchDog
  · exact Option.map_eq_some_iff.mpr ⟨_, begins, rfl⟩
  · exact canReach_of_thread .watchDog rfl later

/-- The watchdog counts down while the event is not signalled. -/
theorem canReach_fired_of_counting
    {state : QuitState}
    (quiet : state.signalled = false)
    {counter : Int}
    {bound : Nat}
    (counter_le : counter ≤ bound + 1) :
    quitThreadsMachine.CanReach state.Fired
      { state with watchDog := .counting, lWatchDogCounter := counter } := by
  induction bound generalizing counter with
  | zero =>
      have last : counter - 1 ≤ 0 := by omega
      apply canReach_of_thread .watchDog rfl
      simp only [if_pos last]
      exact canReach_fired_of_firing state _
  | succ bound inductionHypothesis =>
      apply canReach_of_thread .watchDog rfl
      by_cases last : counter - 1 ≤ 0
      · simp only [if_pos last]
        exact canReach_fired_of_firing state _
      · have less : counter - 1 ≤ bound + 1 := by omega
        simp only [if_neg last]
        exact canReach_of_checking quiet rfl (inductionHypothesis less)

/-- A watchdog that is alive can fire. -/
theorem canReach_fired
    {state : QuitState}
    (quiet : state.signalled = false)
    (alive : state.watchDog ≠ .ended) :
    quitThreadsMachine.CanReach state.Fired state := by
  have counter_le : state.lWatchDogCounter ≤
      (state.lWatchDogCounter.toNat : Int) + 1 := by
    omega
  have counting := canReach_fired_of_counting quiet counter_le
  obtain ⟨agent, signalled, main, watchDog, counter, blocked, returned,
    requested⟩ := state
  cases watchDog with
  | checking => exact canReach_of_checking quiet rfl counting
  | waiting => exact canReach_of_thread .watchDog rfl counting
  | counting => exact counting
  | firing => exact canReach_fired_of_firing _ counter
  | ended => exact absurd rfl alive

/-! ## A wait that can end -/

/-- A thread that waits on an open queue is in its loop. -/
theorem exists_waiting_of_sees
    {state : QuitState}
    (seen : state.sees index = true) :
    ∃ handle, state.agent.threads[index]? = some (.waiting handle) := by
  unfold QuitState.sees at seen
  cases present : state.agent.threads[index]? with
  | none =>
      rw [present] at seen
      cases seen
  | some thread =>
      rw [present] at seen
      cases thread with
      | created => cases seen
      | waiting handle => exact ⟨handle, rfl⟩

/-- A working thread that waits on an open queue returns while the event is
signalled. -/
theorem canReach_returned
    {state : QuitState}
    (kept : state.Kept)
    (signalled : state.signalled = true)
    (seen : state.sees index = true) :
    quitThreadsMachine.CanReach
      (fun later => index ∈ later.returned ∧ later.main = state.main) state := by
  by_cases returned : index ∈ state.returned
  · exact .of_goal ⟨returned, rfl⟩
  · have awake : index ∉ state.blocked := by
      rw [(kept.quiet signalled).2.2]
      nofun
    obtain ⟨handle, present⟩ := exists_waiting_of_sees seen
    have ends : state.workingThread index false =
        some { state with returned := state.returned ++ [index] } := by
      unfold workingThread
      rw [if_neg returned, if_neg awake, present]
      simp only [seen, signalled, if_true]
    apply canReach_of_thread (.working index false)
    · exact Option.map_eq_some_iff.mpr ⟨_, ends, rfl⟩
    · exact .of_goal ⟨List.mem_append_right _ (List.mem_singleton_self _), rfl⟩

/-- While `WinMain` waits for a working thread every one can return. -/
theorem Releasable.canReach_returned
    {state : QuitState}
    (releasable : state.Releasable)
    (kept : state.Kept)
    (joins : state.main = .joining thread)
    (created : index < state.agent.threads.length) :
    quitThreadsMachine.CanReach
      (fun later => index ∈ later.returned ∧ later.main = state.main) state := by
  rcases releasable.joining thread joins index created with
    returned | ⟨seen, reached⟩
  · exact .of_goal ⟨returned, rfl⟩
  · cases signalled : state.signalled with
    | true => exact QuitState.canReach_returned kept signalled seen
    | false =>
        have alive : state.watchDog ≠ .ended := by
          rw [signalled] at reached
          exact reached.resolve_left nofun
        -- the watchdog fires, and the thread sees the event
        apply (canReach_fired signalled alive).trans
        rintro _ ⟨counter, rfl⟩
        have stays : state.main.wake = state.main := by
          rw [joins]
          rfl
        have fired : Kept { state.setEvent with
            watchDog := .checking
            lWatchDogCounter := counter } := { kept.release true with }
        rw [← stays]
        exact QuitState.canReach_returned fired rfl seen

/-- Where its wait can end, steps of the agent's own threads end it. -/
theorem Releasable.sound
    {state : QuitState}
    (releasable : state.Releasable)
    (kept : state.Kept) : QuitSound state where
  main requested waits := by
    cases point : state.main with
    | waiting =>
        have quiet : state.signalled = false := by
          apply Bool.eq_false_iff.mpr
          intro signalled
          exact (kept.quiet signalled).2.1 point
        have alive := releasable.waiting requested point
        apply (canReach_fired quiet alive).mono
        rintro _ ⟨counter, rfl⟩
        change state.main.wake ≠ .waiting
        exact state.main.wake_ne_waiting
    | joining thread =>
        obtain ⟨created, -, -⟩ := kept.joining thread point
        apply (releasable.canReach_returned kept point created).trans
        rintro later ⟨returned, same⟩
        have ends : later.winMain .succeed = some { later with main := .ended } := by
          unfold winMain
          rw [same, point]
          exact if_pos returned
        apply canReach_of_thread (.main .succeed)
        · exact Option.map_eq_some_iff.mpr ⟨_, ends, rfl⟩
        · exact .of_goal nofun
    | starting | handling | released | stopped | uninitialized | ended =>
        rw [point] at waits
        cases waits
  working thread requested joins index created := by
    apply (releasable.canReach_returned kept joins created).mono
    rintro later ⟨returned, -⟩
    exact returned

/-! ## A wait that cannot -/

/-- All that `WinMain` does in or behind a wait is to end. -/
theorem winMain_of_joins
    {state next : QuitState}
    (last : state.main = .waiting ∨ state.main.joins = true)
    (stepped : state.winMain answers = some next) :
    state.main ≠ .waiting ∧ next = { state with main := .ended } := by
  cases point : state.main with
  | joining thread =>
      simp only [winMain, point] at stepped
      split at stepped <;> cases stepped
      exact ⟨nofun, rfl⟩
  | waiting | ended =>
      simp only [winMain, point] at stepped
      cases stepped
  | starting | handling | released | stopped | uninitialized =>
      rw [point] at last
      rcases last with waits | joins
      · cases waits
      · cases joins

/-- The event is not signalled and the watchdog has ended; `WinMain` waits, or
has ended as well. -/
structure Silent (state : QuitState) : Prop where
  quiet : state.signalled = false
  dead : state.watchDog = .ended
  last : state.main = .waiting ∨ state.main.joins = true

/-- Steps of the agent's own threads leave silence: no working thread returns, and
`WinMain` does not leave its wait for the event. -/
theorem Silent.thread
    {state next : QuitState}
    {thread : QuitThread}
    (silent : state.Silent)
    (stepped : quitThreadsMachine.step state thread = some (output, next)) :
    next.Silent ∧ next.returned = state.returned ∧
      (state.main = .waiting → next.main = .waiting) := by
  obtain ⟨quiet, dead, last⟩ := silent
  cases thread with
  | main answers =>
      obtain ⟨moved, went, same⟩ := Option.map_eq_some_iff.mp stepped
      cases same
      obtain ⟨apart, rfl⟩ := winMain_of_joins last went
      exact ⟨⟨quiet, dead, .inr rfl⟩, rfl, fun waits => absurd waits apart⟩
  | watchDog =>
      obtain ⟨moved, went, -⟩ := Option.map_eq_some_iff.mp stepped
      simp only [watchDogThread, dead] at went
      cases went
  | working index data =>
      obtain ⟨moved, went, same⟩ := Option.map_eq_some_iff.mp stepped
      cases same
      obtain ⟨-, ⟨-, rfl⟩ | ⟨-, -, rfl⟩ | ⟨-, -, signalled, rfl⟩ |
        ⟨-, -, -, rfl⟩ | rfl⟩ := cases_of_workingThread went
      · exact ⟨⟨quiet, dead, last⟩, rfl, id⟩
      · exact ⟨⟨quiet, dead, last⟩, rfl, id⟩
      · rw [quiet] at signalled
        cases signalled
      · exact ⟨⟨quiet, dead, last⟩, rfl, id⟩
      · exact ⟨⟨quiet, dead, last⟩, rfl, id⟩

/-- Without the watchdog nothing ends the wait for the event. -/
theorem Silent.not_canReach_of_waiting
    {state : QuitState}
    (silent : state.Silent)
    (waits : state.main = .waiting) :
    ¬ quitThreadsMachine.CanReach (fun later => later.main ≠ .waiting)
      state := by
  apply Machine.not_canReach_of_invariant
    fun later => later.Silent ∧ later.main = .waiting
  · rintro state thread _ next ⟨silent, waits⟩ stepped
    obtain ⟨still, -, stays⟩ := silent.thread stepped
    exact ⟨still, stays waits⟩
  · rintro later ⟨-, waits⟩ left
    exact left waits
  · exact ⟨silent, waits⟩

/-- Without the watchdog no working thread returns behind the last pulse. -/
theorem Silent.not_canReach_returned
    {state : QuitState}
    (silent : state.Silent)
    (running : index ∉ state.returned) :
    ¬ quitThreadsMachine.CanReach (fun later => index ∈ later.returned)
      state := by
  apply Machine.not_canReach_of_invariant
    fun later => later.Silent ∧ index ∉ later.returned
  · rintro state thread _ next ⟨silent, running⟩ stepped
    obtain ⟨still, same, -⟩ := silent.thread stepped
    rw [same]
    exact ⟨still, running⟩
  · rintro later ⟨-, running⟩ returned
    exact running returned
  · exact ⟨silent, running⟩

/-- A working thread has not returned, and does not wait on an open queue; behind
`Uninitialize` none begins to. -/
structure Blind (index : Nat) (state : QuitState) : Prop where
  running : index ∉ state.returned
  awake : index ∉ state.blocked
  unseeing : state.sees index = false
  closed : state.agent.gHReadQueue = none
  last : state.main.joins = true

/-- A thread that begins its loop without a queue does not see one. -/
theorem sees_set_none
    {state : QuitState}
    {index other : Nat}
    (unseeing : state.sees other = false) :
    sees { state with
      agent := { state.agent with
        threads := state.agent.threads.set index (.waiting none) } } other =
      false := by
  unfold QuitState.sees at unseeing ⊢
  by_cases same : index = other
  · subst same
    rw [List.getElem?_set_self']
    cases state.agent.threads[index]? <;> rfl
  · rw [List.getElem?_set_ne same]
    exact unseeing

/-- The watchdog does not help a thread that does not wait on an open queue. -/
theorem Blind.watchDogThread
    {state next : QuitState}
    (blind : Blind index state)
    (stepped : state.watchDogThread = some next) : Blind index next := by
  unfold QuitState.watchDogThread at stepped
  split at stepped
  · split at stepped <;> cases stepped <;> exact { blind with }
  · cases stepped
    exact { blind with }
  · cases stepped
    exact { blind with }
  · cases stepped
    exact { blind with
      running := by
        intro returned
        rcases List.mem_append.mp returned with earlier | released
        · exact blind.running earlier
        · exact blind.awake released
      awake := nofun
      last := by
        have last := blind.last
        change state.main.wake.joins = true
        cases point : state.main with
        | joining | ended => rfl
        | starting | handling | waiting | released | stopped | uninitialized =>
            rw [point] at last
            cases last }
  · cases stepped

/-- Steps of the agent's own threads do not help a thread that does not wait on
an open queue. -/
theorem Blind.thread
    {state next : QuitState}
    {thread : QuitThread}
    (blind : Blind index state)
    (stepped : quitThreadsMachine.step state thread = some (output, next)) :
    Blind index next := by
  cases thread with
  | main answers =>
      obtain ⟨moved, went, same⟩ := Option.map_eq_some_iff.mp stepped
      cases same
      obtain ⟨-, rfl⟩ := winMain_of_joins (.inr blind.last) went
      exact { blind with last := rfl }
  | watchDog =>
      obtain ⟨moved, went, same⟩ := Option.map_eq_some_iff.mp stepped
      cases same
      exact blind.watchDogThread went
  | working other data =>
      obtain ⟨moved, went, same⟩ := Option.map_eq_some_iff.mp stepped
      cases same
      -- a thread that sees its queue is another one
      have apart (seen : state.sees other = true) : index ≠ other := by
        rintro rfl
        rw [blind.unseeing] at seen
        cases seen
      have still (list : List Nat) (absent : index ∉ list)
          (seen : state.sees other = true) : index ∉ list ++ [other] := by
        intro member
        rcases List.mem_append.mp member with earlier | last
        · exact absent earlier
        · exact apart seen (List.mem_singleton.mp last)
      obtain ⟨-, ⟨-, rfl⟩ | ⟨-, -, rfl⟩ | ⟨-, seen, -, rfl⟩ |
        ⟨-, seen, -, rfl⟩ | rfl⟩ := cases_of_workingThread went
      · exact { blind with
          awake := fun member => blind.awake (List.mem_of_mem_erase member) }
      · rw [blind.closed]
        exact { blind with unseeing := sees_set_none blind.unseeing }
      · exact { blind with running := still _ blind.running seen }
      · exact { blind with awake := still _ blind.awake seen }
      · exact blind

/-- A working thread that does not wait on an open queue never returns. -/
theorem Blind.not_canReach_returned
    {state : QuitState}
    (blind : Blind index state) :
    ¬ quitThreadsMachine.CanReach (fun later => index ∈ later.returned)
      state := by
  apply Machine.not_canReach_of_invariant (Blind index)
  · intro state thread _ next blind stepped
    exact blind.thread stepped
  · intro later blind returned
    exact blind.running returned
  · exact blind

/-! ## Runs -/

/-- The agent's own threads can end a wait exactly where it can end. -/
theorem quitSound_iff_releasable
    {state : QuitState}
    (kept : state.Kept) :
    QuitSound state ↔ state.Releasable := by
  constructor
  · intro sound
    refine ⟨?_, ?_⟩
    · intro requested waits dead
      have quiet : state.signalled = false := by
        apply Bool.eq_false_iff.mpr
        intro signalled
        exact (kept.quiet signalled).2.1 waits
      have silent : state.Silent := ⟨quiet, dead, .inl waits⟩
      apply silent.not_canReach_of_waiting waits
      have leaves := sound.main requested (by rw [waits]; rfl)
      rwa [waits] at leaves
    · intro thread joins index created
      have requested := kept.leaves (by rw [joins]; rfl)
      obtain ⟨-, closed, open_⟩ := kept.joining thread joins
      have returns := sound.working thread requested joins index created
      have last : state.main.joins = true := by
        rw [joins]
        rfl
      by_cases running : index ∈ state.returned
      · exact .inl running
      · refine .inr ⟨?_, ?_⟩
        · apply Bool.of_not_eq_false
          intro unseeing
          have awake : index ∉ state.blocked := by
            intro blocked
            rw [open_ index blocked] at unseeing
            cases unseeing
          have blind : Blind index state :=
            ⟨running, awake, unseeing, closed, last⟩
          exact blind.not_canReach_returned returns
        · cases quiet : state.signalled with
          | true => exact .inl rfl
          | false =>
              right
              intro dead
              have silent : state.Silent := ⟨quiet, dead, .inr last⟩
              exact silent.not_canReach_returned running returns
  · intro releasable
    exact releasable.sound kept

/-- A step that `WinMain` cannot take conforms. -/
theorem conforms_of_winMain_stuck
    {state : QuitState}
    (stuck : state.winMain answers = none) :
    state.Conforms (.thread (.main answers)) := by
  unfold winMain at stuck
  split at stuck
  case h_1 => cases stuck
  case h_2 => split at stuck <;> cases stuck
  case h_3 waiting => exact conforms_main waiting nofun (.inl nofun) _
  case h_4 => cases stuck
  case h_5 => cases stuck
  case h_6 => split at stuck <;> cases stuck
  case h_7 thread joining => exact conforms_main joining nofun (.inl nofun) _
  case h_8 ended => exact conforms_main ended nofun (.inl nofun) _

/-- From a state with what holds of every state on, every state reached is sound
exactly where every step conforms. -/
theorem Kept.always_iff
    {state : QuitState}
    (kept : state.Kept)
    (releasable : state.Releasable)
    (actions : List QuitAction) :
    quitMachine.Always (fun _ _ _ next => QuitSound next) state actions ↔
      quitMachine.Admits Conforms state actions := by
  apply Machine.always_iff_admits
    fun state : QuitState => state.Kept ∧ state.Releasable
  · rintro state action _ next ⟨kept, releasable⟩ stepped
    rw [quitSound_iff_releasable (kept.step stepped)]
    exact releasable.step_iff kept stepped
  · rintro state action - stuck
    cases action with
    | command command => trivial
    | thread thread =>
        cases thread with
        | main answers =>
            exact conforms_of_winMain_stuck (Option.map_eq_none_iff.mp stuck)
        | watchDog => trivial
        | working index data => trivial
  · rintro state action _ next ⟨kept, releasable⟩ conforms stepped
    exact ⟨kept.step stepped, (releasable.step_iff kept stepped).mpr conforms⟩
  · exact ⟨kept, releasable⟩

end QuitState

/-- In every run a wait of `WinMain` can end in every state reached, once the
agent is to quit, exactly where every step conforms: `WinMain` begins its wait
behind a request only with the event signalled or the watchdog alive, and its
pulse reaches every working thread. -/
theorem quitSound_iff_conforms
    (actions : List QuitAction) :
    quitMachine.Always (fun _ _ _ next => QuitSound next) .start actions ↔
      quitMachine.Admits QuitState.Conforms .start actions :=
  QuitState.kept_start.always_iff QuitState.releasable_start actions

/-- The desktop ends the agent before `WinMain` has begun its wait, and while
the watchdog waits. -/
def earlyEnd : List QuitAction :=
  [.thread (.main .succeed), .thread .watchDog, .command .endCommand,
    .thread (.main .succeed)]

theorem not_quitSound_earlyEnd :
    ¬ quitMachine.Always (fun _ _ _ next => QuitSound next) .start earlyEnd := by
  rw [QuitState.kept_start.always_iff QuitState.releasable_start]
  decide +kernel

/-- The desktop ends the agent while its working thread handles data, and the
thread misses the second pulse as well. -/
def busyWorkingThread : List QuitAction :=
  [.thread (.main .succeed), .thread (.main .succeed), .thread .watchDog,
    .command (.initializeMsg .succeed), .thread (.working 0 false),
    .command .endCommand, .thread (.main .succeed), .thread (.main .succeed),
    .thread (.main .succeed)]

example :
    ¬ quitMachine.Admits QuitState.Conforms .start busyWorkingThread := by
  decide +kernel

end Agent
end BthEmul
