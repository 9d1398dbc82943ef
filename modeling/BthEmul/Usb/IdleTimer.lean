import BthEmul.Foundation.Pool

/-!
# The idle timer

While the device is started, a timer expires every five seconds. The routine
called then leaves the idle request to a work item, and an event is set while
neither is pending. A handler that stops or removes the device cancels the timer
and waits for the event.

Whether the device can suspend is taken from outside where it is looked at. The
idle request itself, and the wait for it, are left to others.
-/

namespace BthEmul

open Foundation

namespace Usb
namespace IdleTimer

/-! ## The driver -/

/-- The part of the device extension that the timer uses. -/
structure Shared where
  /-- `SSEnable`. -/
  ssEnable : Bool
  /-- `Timer` is set. -/
  timer : Bool
  /-- `NoDpcWorkItemPendingEvent` is set. -/
  event : Bool
  /-- A handler of a PnP request runs; the PnP manager sends one at a time. -/
  pnp : Bool
  deriving DecidableEq

/-- How far a routine is. -/
inductive Point
  /-- `DpcRoutine`, queued or before `KeClearEvent`. -/
  | dpc
  /-- In `DpcRoutine`, before `CanDeviceSuspend`. -/
  | cleared
  /-- `IdleRequestWorkerRoutine`, queued or before `CanDeviceSuspend`. -/
  | workItem
  /-- In either of them, before `KeSetEvent`. -/
  | setEvent
  /-- In `IdleNotificationRequestComplete`, before `SSEnable` is looked at. -/
  | complete
  /-- Behind it, before `KeSetTimerEx`. -/
  | setTimer
  /-- In a handler that stops the device, before `SSEnable` is looked at. -/
  | stop
  /-- Behind it, before `KeCancelTimer`. -/
  | cancelTimer
  /-- Behind it, before `SSEnable` is cleared. -/
  | disable
  /-- Behind it, before `KeWaitForSingleObject`. -/
  | wait
  /-- In `HandleStartDevice`, before `SSEnable` is given its value. -/
  | start
  /-- Behind it, before `KeSetTimerEx`. -/
  | startTimer
  deriving DecidableEq

/-- What does not depend on the timer. -/
structure Chance where
  /-- What `CanDeviceSuspend` returns. -/
  canSuspend : Bool
  /-- `IoAllocateWorkItem` succeeds. -/
  allocated : Bool
  /-- `SubmitIdleRequestIrp` sends the idle request. -/
  submits : Bool
  deriving DecidableEq

/-- What begins. -/
inductive Entry
  /-- The timer expires. -/
  | expire
  /-- The idle request is completed. -/
  | complete
  /-- `HandleStopDevice`, `HandleSurpriseRemoval` or `HandleRemoveDevice`. -/
  | stop
  /-- `HandleStartDevice`. -/
  | start
  deriving DecidableEq

/-- The device has been added. -/
def Shared.added : Shared where
  ssEnable := false
  timer := false
  event := true
  pnp := false

/-- A handler of a PnP request begins. -/
def Shared.beginPnp (shared : Shared) (point : Point) : Option (Shared × Point) :=
  if shared.pnp then none else some ({ shared with pnp := true }, point)

/-- A routine begins. -/
def Shared.enter (shared : Shared) : Entry → Option (Shared × Point)
  | .expire => if shared.timer then some (shared, .dpc) else none
  | .complete => some (shared, .complete)
  | .stop => shared.beginPnp .stop
  | .start => shared.beginPnp .start

/-- What a routine does next. Only the wait may have to be put off. -/
def Shared.advance
    (ssRegistryEnable : Bool)
    (shared : Shared)
    (chance : Chance) : Point → Option (Shared × List Point)
  | .dpc => some ({ shared with event := false }, [.cleared])
  | .cleared =>
      if chance.canSuspend ∧ chance.allocated then some (shared, [.workItem])
      else some (shared, [.setEvent])
  | .workItem =>
      if chance.canSuspend ∧ chance.submits then
        some ({ shared with timer := false }, [.setEvent])
      else some (shared, [.setEvent])
  | .setEvent => some ({ shared with event := true }, [])
  | .complete =>
      if shared.ssEnable then some (shared, [.setTimer]) else some (shared, [])
  | .setTimer => some ({ shared with timer := true }, [])
  | .stop =>
      if shared.ssEnable then some (shared, [.cancelTimer])
      else some ({ shared with pnp := false }, [])
  | .cancelTimer => some ({ shared with timer := false }, [.disable])
  | .disable => some ({ shared with ssEnable := false }, [.wait])
  | .wait => if shared.event then some ({ shared with pnp := false }, []) else none
  | .start =>
      if ssRegistryEnable then
        some ({ shared with ssEnable := true }, [.startTimer])
      else some ({ shared with ssEnable := false, pnp := false }, [])
  | .startTimer => some ({ shared with timer := true, pnp := false }, [])

/-- The timer and what goes with it, where `ssRegistryEnable` was read from the
registry when the device was added. -/
def program (ssRegistryEnable : Bool) :
    Program Shared Point Entry Chance Unit where
  enter := Shared.enter
  advance shared point chance :=
    (shared.advance ssRegistryEnable chance point).map ((), ·)

/-- Nothing has begun. -/
def idle : Pool Shared Point where
  shared := .added
  strands := []

theorem advance_eq_some_iff :
    (program ssRegistryEnable).advance shared point chance =
        some (output, behind, later) ↔
      shared.advance ssRegistryEnable chance point = some (behind, later) := by
  simp [program]

/-! ## No wait lasts -/

/-- The event was cleared for the routine, which is going to set it. -/
@[grind] def Point.holds : Point → Bool
  | cleared | workItem | setEvent => true
  | _ => false

/-- The steps that are left, where there are most. -/
def Point.work : Point → Nat
  | dpc | stop => 4
  | cleared | cancelTimer => 3
  | workItem | complete | disable | start => 2
  | setEvent | setTimer | wait | startTimer => 1

/-- Where the event is not set, a routine is going to set it. -/
def SetAgain (shared : Shared) (strands : List Point) : Prop :=
  shared.event = false → ∃ point ∈ strands, point.holds = true

/-- A routine that begins leaves the event as it is. -/
theorem SetAgain.enter
    {shared : Shared}
    (again : SetAgain shared strands)
    (entered : shared.enter entry = some (behind, point)) :
    SetAgain behind (point :: strands) := by
  have same : behind.event = shared.event := by
    cases entry with
    | expire => grind [Shared.enter]
    | complete => grind [Shared.enter]
    | stop => grind [Shared.enter, Shared.beginPnp]
    | start => grind [Shared.enter, Shared.beginPnp]
  intro unset
  rw [same] at unset
  obtain ⟨holder, member, holds⟩ := again unset
  exact ⟨holder, List.mem_cons_of_mem _ member, holds⟩

/-- A step clears the event and holds it, sets it, or leaves it as it is, and
then goes on to hold it where it did. -/
theorem advance_event
    {shared behind : Shared}
    {point : Point}
    {later : List Point}
    (advanced : shared.advance ssRegistryEnable chance point =
      some (behind, later)) :
    behind.event = true ∨ (∃ next ∈ later, next.holds = true) ∨
      behind.event = shared.event ∧ point.holds = false := by
  cases point <;> grind [Shared.advance, Point.holds]

theorem SetAgain.advance
    {shared : Shared}
    (again : SetAgain shared (point :: rest))
    (advanced : shared.advance ssRegistryEnable chance point =
      some (behind, later)) :
    SetAgain behind (later ++ rest) := by
  intro unset
  rcases advance_event advanced with set | ⟨next, member, holds⟩ | ⟨same, free⟩
  · rw [set] at unset
    cases unset
  · exact ⟨next, List.mem_append_left _ member, holds⟩
  · rw [same] at unset
    obtain ⟨holder, member, holds⟩ := again unset
    rcases List.mem_cons.mp member with rfl | other
    · rw [free] at holds
      cases holds
    · exact ⟨holder, List.mem_append_right _ other, holds⟩

/-- A routine that cannot go on waits for the event. -/
theorem advance_eq_none_iff
    {shared : Shared}
    {point : Point} :
    shared.advance ssRegistryEnable chance point = none ↔
      point = .wait ∧ shared.event = false := by
  cases point <;> grind [Shared.advance]

/-- Every step leaves fewer steps than there were. -/
theorem workLeft_advance
    {shared behind : Shared}
    {point : Point}
    (advanced : shared.advance ssRegistryEnable chance point =
      some (behind, later)) :
    workLeft Point.work later < point.work := by
  have alone (next : Point) : workLeft Point.work [next] = next.work :=
    Nat.add_zero _
  have none : workLeft Point.work [] = 0 := rfl
  cases point <;> grind [Shared.advance, Point.work]

/-- Every turn leaves a routine that is going to set the event. -/
theorem SetAgain.step
    {pool next : Pool Shared Point}
    (again : SetAgain pool.shared pool.strands)
    (stepped : (program ssRegistryEnable).machine.step pool turn =
      some (output, next)) :
    SetAgain next.shared next.strands := by
  refine Program.invariant_of_step SetAgain ?_ ?_ ?_ again
    (Program.obeys_of_forall (fun _ _ _ _ => trivial) pool turn) stepped
  · intro shared first second perm again unset
    obtain ⟨holder, member, holds⟩ := again unset
    exact ⟨holder, perm.mem_iff.mp member, holds⟩
  · intro shared strands entry behind point again entered
    exact again.enter entered
  · intro shared point rest chance output behind later again _ advanced
    exact again.advance (advance_eq_some_iff.mp advanced)

/-- The event is going to be set in every state that is reached. -/
theorem setAgain_of_run
    (ran : (program ssRegistryEnable).machine.run idle turns =
      some (outputs, final)) :
    SetAgain final.shared final.strands := by
  refine Machine.holds_of_run
    (fun _ (pool : Pool Shared Point) => SetAgain pool.shared pool.strands)
    ?_ [] ?_ (Machine.admits_of_forall (fun _ _ => trivial) idle turns) ran
  · intro history pool turn output next again _ stepped
    exact again.step stepped
  · rintro ⟨⟩

/-- All that begin together take at most four steps for each of them. Where
nothing can go on, nothing is left to be done: no handler waits in vain. -/
theorem waits_end_of_run
    (ran : (program ssRegistryEnable).machine.run idle turns =
      some (outputs, final)) :
    turns.countP (!·.begins) ≤ 4 * turns.countP (·.begins) ∧
      ((∀ index chance, (program ssRegistryEnable).machine.step final
          (.advance index chance) = none) →
        final.strands = [] ∧ final.shared.event = true) := by
  constructor
  · have bound := Program.steps_add_workLeft_le_of_run Point.work 4 ?_ ?_ ran
    · have begun : workLeft Point.work idle.strands = 0 := rfl
      omega
    · intro shared entry behind point entered
      cases point <;> decide
    · intro shared point chance output behind later advanced
      exact workLeft_advance (advance_eq_some_iff.mp advanced)
  · intro stuck
    have waiting : ∀ point ∈ final.strands,
        point = .wait ∧ final.shared.event = false := by
      intro point member
      have missing := Program.advance_eq_none_of_stuck
        (fun index => stuck index ⟨false, false, false⟩) member
      exact advance_eq_none_iff.mp (Option.map_eq_none_iff.mp missing)
    have set : final.shared.event = true := by
      by_contra unset
      rw [Bool.not_eq_true] at unset
      obtain ⟨holder, member, holds⟩ := setAgain_of_run ran unset
      rw [(waiting holder member).1] at holds
      cases holds
    refine ⟨List.eq_nil_iff_forall_not_mem.mpr ?_, set⟩
    intro point member
    rw [(waiting point member).2] at set
    cases set

/-- The timer has expired and its work item is pending when the device is
stopped: the handler comes to its wait first. The work item then sends the idle
request, which is completed before the event is set. -/
def stopTurns : List (Turn Entry Chance) :=
  let step (index : Nat) : Turn Entry Chance := .advance index ⟨true, true, true⟩
  [.start .start, step 0, step 0,
    .start .expire, step 0, step 0,
    .start .stop, step 1, step 1, step 1,
    step 0, .start .complete, step 2, step 1, step 0]

/-- The handler waits for the work item, and all four routines end. -/
theorem waits_end_of_run_stop :
    ∃ outputs final,
      (program true).machine.run idle stopTurns = some (outputs, final) ∧
        stopTurns.countP (!·.begins) ≤ 4 * stopTurns.countP (·.begins) ∧
        ((∀ index chance, (program true).machine.step final
            (.advance index chance) = none) →
          final.strands = [] ∧ final.shared.event = true) := by
  have ends : ((program true).machine.run idle stopTurns).isSome = true := by
    decide +kernel
  obtain ⟨⟨outputs, final⟩, ran⟩ := Option.isSome_iff_exists.mp ends
  exact ⟨outputs, final, ran, waits_end_of_run ran⟩

/-! ## A stopped device is left alone -/

/-- The handlers of PnP requests. -/
@[grind] def Point.inPnp : Point → Bool
  | stop | cancelTimer | disable | wait | start | startTimer => true
  | _ => false

/-- The timer was looked at, and is set or acted on soon. -/
@[grind] def Point.arms : Point → Bool
  | dpc | setTimer | startTimer => true
  | _ => false

/-- A handler that stops the device has cancelled the timer. -/
@[grind] def Point.halts : Point → Bool
  | disable | wait => true
  | _ => false

/-- The handlers that wait for the event. -/
@[grind] def Point.waits : Point → Bool
  | wait => true
  | _ => false

/-- The steps of the routines are not interleaved as the driver does not expect
it: when the timer is cancelled for good, no call for it is in the queue and
none is made to set it again; `SSEnable` is not looked at before it is cleared
behind this; and a call begins when the work of the one before it is over. -/
def Expected
    (_ : Shared)
    (point : Point)
    (others : List Point)
    (_ : Chance) : Prop :=
  match point with
  | .cancelTimer => .dpc ∉ others ∧ .setTimer ∉ others
  | .complete => .disable ∉ others
  | .dpc => ∀ other ∈ others, other.holds = false
  | _ => True

instance
    (shared : Shared)
    (point : Point)
    (others : List Point)
    (chance : Chance) :
    Decidable (Expected shared point others chance) := by
  unfold Expected
  split <;> infer_instance

/-- What the routines keep to where their steps are expected, by how many of
every kind there are. -/
structure Balanced
    (ssRegistryEnable : Bool)
    (shared : Shared)
    (handlers holders arming halting waiting : Nat) : Prop where
  handlers : handlers = shared.pnp.toNat
  holders : holders + shared.event.toNat = 1
  registered : shared.ssEnable = true → ssRegistryEnable = true
  disabled : 0 < waiting → shared.ssEnable = false
  disarmed : shared.ssEnable = false ∨ 0 < halting →
    shared.timer = false ∧ arming = 0
  finished : shared.ssEnable = false → waiting = 0 → shared.event = true

/-- What the routines keep to where their steps are expected. -/
def Orderly
    (ssRegistryEnable : Bool)
    (shared : Shared)
    (strands : List Point) : Prop :=
  Balanced ssRegistryEnable shared (strands.countP Point.inPnp)
    (strands.countP Point.holds) (strands.countP Point.arms)
    (strands.countP Point.halts) (strands.countP Point.waits)

theorem orderly_added (ssRegistryEnable : Bool) :
    Orderly ssRegistryEnable .added [] where
  handlers := rfl
  holders := rfl
  registered := by rintro ⟨⟩
  disabled := by rintro ⟨⟩
  disarmed _ := ⟨rfl, rfl⟩
  finished _ _ := rfl

theorem Orderly.of_perm
    (orderly : Orderly ssRegistryEnable shared first)
    (perm : first.Perm second) : Orderly ssRegistryEnable shared second := by
  simp only [Orderly, perm.countP_eq] at orderly
  exact orderly

/-- A routine counts for the kinds it is of. -/
theorem orderly_cons_iff :
    Orderly ssRegistryEnable shared (point :: rest) ↔
      Balanced ssRegistryEnable shared
        (rest.countP Point.inPnp + point.inPnp.toNat)
        (rest.countP Point.holds + point.holds.toNat)
        (rest.countP Point.arms + point.arms.toNat)
        (rest.countP Point.halts + point.halts.toNat)
        (rest.countP Point.waits + point.waits.toNat) := by
  have counted (kind : Point → Bool) :
      (point :: rest).countP kind = rest.countP kind + (kind point).toNat := by
    rw [List.countP_cons]
    cases kind point with
    | _ => rfl
  simp only [Orderly, counted]

/-- A routine that begins keeps to what the others do. -/
theorem Orderly.enter
    {shared : Shared}
    (orderly : Orderly ssRegistryEnable shared strands)
    (entered : shared.enter entry = some (behind, point)) :
    Orderly ssRegistryEnable behind (point :: strands) := by
  obtain ⟨handlers, holders, registered, disabled, disarmed, finished⟩ := orderly
  rw [orderly_cons_iff]
  cases entry with
  | expire =>
      -- The timer is set, so that nothing has been halted.
      constructor <;> grind -linarith [Shared.enter]
  | complete => constructor <;> grind -linarith [Shared.enter]
  | stop => constructor <;> grind -linarith [Shared.enter, Shared.beginPnp]
  | start => constructor <;> grind -linarith [Shared.enter, Shared.beginPnp]

/-! ### The routines behind an expected step -/

theorem countP_halts_le (strands : List Point) :
    strands.countP Point.halts ≤ strands.countP Point.inPnp := by
  apply List.countP_mono_left
  intro point _ halts
  cases point <;> grind

theorem countP_waits_le (strands : List Point) :
    strands.countP Point.waits ≤ strands.countP Point.halts := by
  apply List.countP_mono_left
  intro point _ waits
  cases point <;> grind

theorem countP_holds_eq_zero
    {strands : List Point}
    (free : ∀ other ∈ strands, other.holds = false) :
    strands.countP Point.holds = 0 := by
  apply List.countP_eq_zero.mpr
  intro other member
  rw [free other member]
  exact Bool.false_ne_true

/-- A handler that cleared `SSEnable` waits. -/
theorem countP_halts_eq_waits
    {strands : List Point}
    (absent : .disable ∉ strands) :
    strands.countP Point.halts = strands.countP Point.waits := by
  apply List.countP_congr
  intro point member
  cases point <;> grind

/-- The device is not started while it is stopped. -/
theorem countP_arms_eq_zero
    {strands : List Point}
    (dpc : .dpc ∉ strands)
    (setTimer : .setTimer ∉ strands)
    (handlers : strands.countP Point.inPnp = 0) :
    strands.countP Point.arms = 0 := by
  apply List.countP_eq_zero.mpr
  intro point member
  have other := List.countP_eq_zero.mp handlers point member
  cases point <;> grind

/-- A step of `DpcRoutine` or `IdleRequestWorkerRoutine`. -/
theorem Orderly.advance_call
    {shared : Shared}
    (orderly : Orderly ssRegistryEnable shared (point :: rest))
    (expected : Expected shared point rest chance)
    (advanced : shared.advance ssRegistryEnable chance point =
      some (behind, later))
    (calls : point = .dpc ∨ point.holds = true) :
    Orderly ssRegistryEnable behind (later ++ rest) := by
  obtain ⟨handlers, holders, registered, disabled, disarmed, finished⟩ :=
    orderly_cons_iff.mp orderly
  cases point with
  | dpc =>
      have free := countP_holds_eq_zero expected
      cases advanced
      rw [List.singleton_append, orderly_cons_iff]
      constructor <;> grind -linarith
  | cleared =>
      rw [Shared.advance] at advanced
      split at advanced
      case isTrue =>
        cases advanced
        rw [List.singleton_append, orderly_cons_iff]
        constructor <;> grind -linarith
      case isFalse =>
        cases advanced
        rw [List.singleton_append, orderly_cons_iff]
        constructor <;> grind -linarith
  | workItem =>
      rw [Shared.advance] at advanced
      split at advanced
      case isTrue =>
        cases advanced
        rw [List.singleton_append, orderly_cons_iff]
        constructor <;> grind -linarith
      case isFalse =>
        cases advanced
        rw [List.singleton_append, orderly_cons_iff]
        constructor <;> grind -linarith
  | setEvent =>
      cases advanced
      constructor <;> grind -linarith
  | complete | setTimer | stop | cancelTimer | disable | wait | start
  | startTimer => grind

/-- A step of `IdleNotificationRequestComplete`. -/
theorem Orderly.advance_complete
    {shared : Shared}
    (orderly : Orderly ssRegistryEnable shared (point :: rest))
    (expected : Expected shared point rest chance)
    (advanced : shared.advance ssRegistryEnable chance point =
      some (behind, later))
    (completes : point = .complete ∨ point = .setTimer) :
    Orderly ssRegistryEnable behind (later ++ rest) := by
  obtain ⟨handlers, holders, registered, disabled, disarmed, finished⟩ :=
    orderly_cons_iff.mp orderly
  rcases completes with rfl | rfl
  · have same := countP_halts_eq_waits expected
    rw [Shared.advance] at advanced
    split at advanced
    case isTrue enabled =>
      cases advanced
      rw [List.singleton_append, orderly_cons_iff]
      constructor <;> grind -linarith
    case isFalse disabled =>
      cases advanced
      constructor <;> grind -linarith
  · cases advanced
    constructor <;> grind -linarith

/-- A step of a handler of a PnP request. -/
theorem Orderly.advance_pnp
    {shared : Shared}
    (orderly : Orderly ssRegistryEnable shared (point :: rest))
    (expected : Expected shared point rest chance)
    (advanced : shared.advance ssRegistryEnable chance point =
      some (behind, later))
    (handles : point.inPnp = true) :
    Orderly ssRegistryEnable behind (later ++ rest) := by
  have halting := countP_halts_le rest
  have waiting := countP_waits_le rest
  obtain ⟨handlers, holders, registered, disabled, disarmed, finished⟩ :=
    orderly_cons_iff.mp orderly
  have single := shared.pnp.toNat_le
  cases point with
  | stop =>
      rw [Shared.advance] at advanced
      split at advanced
      case isTrue enabled =>
        cases advanced
        rw [List.singleton_append, orderly_cons_iff]
        constructor <;> grind -linarith
      case isFalse disabled =>
        cases advanced
        constructor <;> grind -linarith
  | cancelTimer =>
      have unarmed := countP_arms_eq_zero expected.1 expected.2
      cases advanced
      rw [List.singleton_append, orderly_cons_iff]
      constructor <;> grind -linarith
  | disable =>
      cases advanced
      rw [List.singleton_append, orderly_cons_iff]
      constructor <;> grind -linarith
  | wait =>
      rw [Shared.advance] at advanced
      split at advanced
      case isTrue set =>
        cases advanced
        constructor <;> grind -linarith
      case isFalse => cases advanced
  | start =>
      rw [Shared.advance] at advanced
      split at advanced
      case isTrue enabled =>
        cases advanced
        rw [List.singleton_append, orderly_cons_iff]
        constructor <;> grind -linarith
      case isFalse disabled =>
        cases advanced
        constructor <;> grind -linarith
  | startTimer =>
      cases advanced
      constructor <;> grind -linarith
  | dpc | cleared | workItem | setEvent | complete | setTimer => grind

/-- An expected step keeps to what the others do. -/
theorem Orderly.advance
    {shared : Shared}
    (orderly : Orderly ssRegistryEnable shared (point :: rest))
    (expected : Expected shared point rest chance)
    (advanced : shared.advance ssRegistryEnable chance point =
      some (behind, later)) :
    Orderly ssRegistryEnable behind (later ++ rest) := by
  cases point with
  | dpc => exact orderly.advance_call expected advanced (.inl rfl)
  | cleared | workItem | setEvent =>
      exact orderly.advance_call expected advanced (.inr rfl)
  | complete => exact orderly.advance_complete expected advanced (.inl rfl)
  | setTimer => exact orderly.advance_complete expected advanced (.inr rfl)
  | stop | cancelTimer | disable | wait | start | startTimer =>
      exact orderly.advance_pnp expected advanced rfl

/-- Every expected turn keeps to what the others do. -/
theorem Orderly.step
    {pool next : Pool Shared Point}
    (orderly : Orderly ssRegistryEnable pool.shared pool.strands)
    (expected : Program.Obeys Expected pool turn)
    (stepped : (program ssRegistryEnable).machine.step pool turn =
      some (output, next)) :
    Orderly ssRegistryEnable next.shared next.strands := by
  refine Program.invariant_of_step (Orderly ssRegistryEnable) ?_ ?_ ?_ orderly
    expected stepped
  · intro shared first second perm orderly
    exact orderly.of_perm perm
  · intro shared strands entry behind point orderly entered
    exact orderly.enter entered
  · intro shared point rest chance output behind later orderly expected advanced
    exact orderly.advance expected (advance_eq_some_iff.mp advanced)

/-- The timer is not set, and nothing goes on that acts on the device or sets
the timer. -/
structure LeftAlone (pool : Pool Shared Point) : Prop where
  timer : pool.shared.timer = false
  strands : ∀ point ∈ pool.strands, point.arms = false ∧ point.holds = false

theorem Orderly.event_iff
    (orderly : Orderly ssRegistryEnable shared strands) :
    shared.event = true ↔ ∀ point ∈ strands, point.holds = false := by
  have none : strands.countP Point.holds = 0 ↔
      ∀ point ∈ strands, point.holds = false := by
    simp only [List.countP_eq_zero, Bool.not_eq_true]
  have holders := orderly.holders
  rw [← none]
  cases set : shared.event with
  | false =>
      have one : strands.countP Point.holds = 1 := by rwa [set] at holders
      rw [one]
      exact iff_of_false Bool.false_ne_true Nat.one_ne_zero
  | true =>
      rw [set] at holders
      exact iff_of_true rfl (Nat.succ.inj holders)

theorem Orderly.leftAlone
    {pool : Pool Shared Point}
    (orderly : Orderly ssRegistryEnable pool.shared pool.strands)
    (disabled : pool.shared.ssEnable = false)
    (waited : .wait ∉ pool.strands) : LeftAlone pool := by
  obtain ⟨timer, unarmed⟩ := orderly.disarmed (.inl disabled)
  have none : pool.strands.countP Point.waits = 0 := by
    apply List.countP_eq_zero.mpr
    intro point member
    cases point <;> grind
  have set := orderly.finished disabled none
  refine ⟨timer, ?_⟩
  intro point member
  constructor
  · exact Bool.eq_false_iff.mpr (List.countP_eq_zero.mp unarmed point member)
  · exact orderly.event_iff.mp set point member

/-- Where the steps are interleaved as the driver expects it, the event is set
exactly while no call for the timer and no work item is in progress. Once a
handler has stopped the device and waited, the device is left alone until it is
started again. -/
theorem leftAlone_of_run
    (ran : (program ssRegistryEnable).machine.run idle turns =
      some (outputs, final))
    (expected : (program ssRegistryEnable).machine.Admits
      (Program.Obeys Expected) idle turns) :
    (final.shared.event = true ↔
        ∀ point ∈ final.strands, point.holds = false) ∧
      (final.shared.ssEnable = false → .wait ∉ final.strands →
        LeftAlone final) := by
  have orderly : Orderly ssRegistryEnable final.shared final.strands := by
    refine Machine.holds_of_run
      (fun _ (pool : Pool Shared Point) =>
        Orderly ssRegistryEnable pool.shared pool.strands) ?_ []
      (orderly_added ssRegistryEnable) expected ran
    intro history pool turn output next kept expected stepped
    exact kept.step expected stepped
  exact ⟨orderly.event_iff, orderly.leftAlone⟩

/-- The stopped device is left alone. -/
theorem leftAlone_of_run_stop :
    ∃ outputs final,
      (program true).machine.run idle stopTurns = some (outputs, final) ∧
        LeftAlone final := by
  have ends : ((program true).machine.run idle stopTurns).map
      (fun result => (result.2.strands, result.2.shared.ssEnable)) =
        some ([], false) := by decide +kernel
  have expected : (program true).machine.Admits (Program.Obeys Expected) idle
      stopTurns := by decide +kernel
  obtain ⟨⟨outputs, final⟩, ran, ended⟩ := Option.map_eq_some_iff.mp ends
  simp only [Prod.mk.injEq] at ended
  refine ⟨outputs, final, ran,
    (leftAlone_of_run ran expected).2 ended.2 ?_⟩
  rw [ended.1]
  exact List.not_mem_nil

/-- A call that is in the queue when the timer is cancelled is still there when
the handler has waited. -/
example :
    ∃ outputs final,
      (program true).machine.run idle
          ([.start .start, .advance 0 ⟨true, true, true⟩,
            .advance 0 ⟨true, true, true⟩, .start .expire, .start .stop] ++
            List.replicate 4 (.advance 1 ⟨true, true, true⟩)) =
        some (outputs, final) ∧ final.strands = [.dpc] := by
  decide +kernel

end IdleTimer
end Usb
end BthEmul
