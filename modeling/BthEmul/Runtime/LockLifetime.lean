import BthEmul.Foundation.Pool
import Mathlib.Data.List.Basic

/-!
# The lifetime of the lock around the event listener

`s_criticalSection` is one critical section for all instances of `CBthEmulHci`.
Every constructor initialises it and every destructor deletes it. `OnEvent` and
`DataEventHandler` hold it while they call the `HCI_EVENT_LISTENER`; an
exception in the listener leaves it held.

A critical section that is deleted cannot be entered, and one that is
initialised again is free, whoever held it.
-/

namespace BthEmul

open Foundation

namespace Runtime

/-- `CRITICAL_SECTION`. -/
inductive CriticalSection
  | deleted
  | free
  | held
  deriving DecidableEq

/-- `LeaveCriticalSection`. -/
def CriticalSection.leave : CriticalSection → CriticalSection
  | deleted => deleted
  | free | held => free

/-- The critical section and the instances that share it. -/
structure LockState where
  /-- `s_criticalSection`. -/
  criticalSection : CriticalSection
  /-- The instances that were constructed and not destroyed. -/
  alive : List Nat
  /-- The instances whose destructor has begun. -/
  dying : List Nat
  /-- The number of instances so far. -/
  constructed : Nat
  deriving DecidableEq

/-- No instance has been constructed. -/
def LockState.start : LockState where
  criticalSection := .deleted
  alive := []
  dying := []
  constructed := 0

/-- The two routines that call the listener. -/
inductive Handler
  | onEvent
  | dataEventHandler
  deriving DecidableEq

/-- How far a routine is. -/
inductive LockPoint
  /-- In the constructor, before `InitializeCriticalSection`. -/
  | initializeCriticalSection
  /-- In the destructor, before `DeleteCriticalSection`. -/
  | deleteCriticalSection (instance_ : Nat)
  /-- Before the check of `m_hciEventListener`. -/
  | check (handler : Handler)
  /-- Before `EnterCriticalSection`. -/
  | enter (handler : Handler)
  /-- In the call of the listener. -/
  | listener (handler : Handler)
  /-- Before `LeaveCriticalSection`. -/
  | leave (handler : Handler)
  deriving DecidableEq

/-- A routine begins. -/
inductive LockRoutine
  | construct
  | destroy (instance_ : Nat)
  | handle (handler : Handler) (instance_ : Nat)
  deriving DecidableEq

/-- What a step does to the critical section. -/
inductive LockEvent
  | initialized
  | deleted
  deriving DecidableEq

namespace LockState

/-- What a routine does next: there is a listener, or it returns. -/
def advance
    (state : LockState)
    (succeeds : Bool) :
    LockPoint → Option (Option LockEvent × LockState × List LockPoint)
  | .initializeCriticalSection =>
      some (some .initialized, { state with
        criticalSection := .free
        alive := state.alive ++ [state.constructed]
        constructed := state.constructed + 1 }, [])
  | .deleteCriticalSection instance_ =>
      some (some .deleted, { state with
        criticalSection := .deleted
        alive := state.alive.erase instance_
        dying := state.dying.erase instance_ }, [])
  | .check handler =>
      some (none, state, if succeeds then [.enter handler] else [])
  | .enter handler =>
      match state.criticalSection with
      | .free =>
          some (none, { state with criticalSection := .held },
            [.listener handler])
      | .held | .deleted => none
  | .listener handler =>
      some (none, state, if succeeds then [.leave handler] else [])
  | .leave _ =>
      some (none, { state with
        criticalSection := state.criticalSection.leave }, [])

end LockState

/-- The constructors, destructors and handlers of any number of instances. An
instance is destroyed once, and handlers are called on live instances. -/
def lockProgram :
    Program LockState LockPoint LockRoutine Bool (Option LockEvent) where
  enter state
    | .construct => some (state, .initializeCriticalSection)
    | .destroy instance_ =>
        if instance_ ∈ state.alive ∧ instance_ ∉ state.dying then
          some ({ state with dying := state.dying ++ [instance_] },
            .deleteCriticalSection instance_)
        else none
    | .handle handler instance_ =>
        if instance_ ∈ state.alive then some (state, .check handler) else none
  advance state point succeeds := state.advance succeeds point

/-- A process without an instance. -/
def lockStart : Pool LockState LockPoint where
  shared := .start
  strands := []

/-! ## The property -/

/-- The routine waits for the critical section or holds it. -/
def LockPoint.uses : LockPoint → Bool
  | enter _ | listener _ | leave _ => true
  | initializeCriticalSection | deleteCriticalSection _ | check _ => false

/-- The routine is in a call of the listener. -/
def LockPoint.listens : LockPoint → Bool
  | listener _ => true
  | initializeCriticalSection | deleteCriticalSection _ | check _ | enter _ | leave _ => false

/-- The critical section is initialised while an instance is alive. It is
initialised and deleted only while no handler holds or waits for it: initialised
when no instance is alive, and deleted with the last one. At most one call of
the listener is in progress. -/
structure LockSound
    (state : LockState)
    (event : Option LockEvent)
    (next : LockState)
    (strands : List LockPoint) : Prop where
  initialized : next.alive ≠ [] → next.criticalSection ≠ .deleted
  first : event = some .initialized → state.alive = []
  last : event = some .deleted → next.alive = []
  unused : event ≠ none → ∀ point ∈ strands, point.uses = false
  single : strands.countP LockPoint.listens ≤ 1

instance
    (state : LockState)
    (event : Option LockEvent)
    (next : LockState)
    (strands : List LockPoint) : Decidable (LockSound state event next strands) :=
  decidable_of_iff
    ((next.alive ≠ [] → next.criticalSection ≠ .deleted) ∧
      (event = some .initialized → state.alive = []) ∧
      (event = some .deleted → next.alive = []) ∧
      (event ≠ none → ∀ point ∈ strands, point.uses = false) ∧
      strands.countP LockPoint.listens ≤ 1)
    ⟨fun ⟨initialized, first, last, unused, single⟩ =>
        ⟨initialized, first, last, unused, single⟩,
      fun sound => ⟨sound.initialized, sound.first, sound.last, sound.unused,
        sound.single⟩⟩

theorem LockSound.of_perm
    {strands others : List LockPoint}
    (sound : LockSound state event next strands)
    (perm : strands.Perm others) : LockSound state event next others where
  initialized := sound.initialized
  first := sound.first
  last := sound.last
  unused some point member :=
    sound.unused some point (perm.mem_iff.mpr member)
  single := by
    rw [← perm.countP_eq]
    exact sound.single

/-- What a step needs: an instance is constructed only when no other is alive,
and constructed or destroyed only when no handler uses the lock. -/
def LockPoint.Conforms
    (state : LockState)
    (rest : List LockPoint) : LockPoint → Prop
  | initializeCriticalSection => state.alive = [] ∧ ∀ point ∈ rest, point.uses = false
  | deleteCriticalSection _ => ∀ point ∈ rest, point.uses = false
  | check _ | enter _ | listener _ | leave _ => True

instance (state : LockState) (rest : List LockPoint) :
    (point : LockPoint) → Decidable (point.Conforms state rest)
  | .initializeCriticalSection => inferInstanceAs (Decidable (_ ∧ _))
  | .deleteCriticalSection _ =>
      inferInstanceAs (Decidable (∀ point ∈ rest, point.uses = false))
  | .check _ | .enter _ | .listener _ | .leave _ => isTrue trivial

/-! ## Who holds the lock -/

/-- The routine holds the critical section. -/
def LockPoint.holds : LockPoint → Bool
  | listener _ | leave _ => true
  | initializeCriticalSection | deleteCriticalSection _ | check _
  | enter _ => false

/-- The instance whose destructor the routine is. -/
def LockPoint.deleting : LockPoint → Option Nat
  | deleteCriticalSection instance_ => some instance_
  | initializeCriticalSection | check _ | enter _ | listener _
  | leave _ => none

/-- The number of routines that may hold the critical section. -/
def CriticalSection.holders : CriticalSection → Nat
  | held => 1
  | deleted | free => 0

/-- At most one instance is alive, and the critical section is initialised for
it; at most one routine holds the critical section; and the destructors in
progress are those of different live instances. -/
structure LockKept (state : LockState) (strands : List LockPoint) : Prop where
  single : state.alive.length ≤ 1
  initialized : state.alive ≠ [] → state.criticalSection ≠ .deleted
  holders : strands.countP LockPoint.holds ≤ state.criticalSection.holders
  destroying : (strands.filterMap LockPoint.deleting).Perm state.dying
  distinct : state.dying.Nodup
  live : state.dying ⊆ state.alive

theorem lockKept_start : LockKept .start [] where
  single := Nat.zero_le _
  initialized := nofun
  holders := Nat.le_refl _
  destroying := .nil
  distinct := .nil
  live := nofun

theorem LockKept.of_perm
    (kept : LockKept state first)
    (perm : first.Perm second) : LockKept state second where
  single := kept.single
  initialized := kept.initialized
  holders := by
    rw [← perm.countP_eq]
    exact kept.holders
  destroying := (perm.filterMap _).symm.trans kept.destroying
  distinct := kept.distinct
  live := kept.live

/-- A call of the listener holds the critical section. -/
theorem LockKept.listens_le
    (kept : LockKept state strands) :
    strands.countP LockPoint.listens ≤ 1 := by
  have fewer : strands.countP LockPoint.listens ≤
      strands.countP LockPoint.holds := by
    apply List.countP_mono_left
    intro point _ listens
    cases point <;> first | rfl | cases listens
  have holders := kept.holders
  have one : state.criticalSection.holders ≤ 1 := by
    cases state.criticalSection <;> decide
  omega

/-- A step without an event has the property where the lock is kept. -/
theorem LockKept.sound
    (kept : LockKept next strands)
    (state : LockState) : LockSound state none next strands where
  initialized := kept.initialized
  first := nofun
  last := nofun
  unused none := absurd rfl none
  single := kept.listens_le

/-! ## Steps -/

/-- A routine that begins keeps the lock. -/
theorem LockKept.enter
    (kept : LockKept state strands)
    (entered : lockProgram.enter state routine = some (behind, point)) :
    LockKept behind (point :: strands) := by
  cases routine with
  | construct =>
      cases entered
      exact { kept with }
  | destroy instance_ =>
      simp only [lockProgram] at entered
      split at entered
      case isTrue begins =>
        cases entered
        obtain ⟨alive, fresh⟩ := begins
        exact {
          single := kept.single
          initialized := kept.initialized
          holders := kept.holders
          destroying := by
            refine (kept.destroying.cons instance_).trans ?_
            exact (List.perm_append_singleton _ _).symm
          distinct := by
            refine (List.perm_append_singleton _ _).nodup_iff.mpr ?_
            exact List.nodup_cons.mpr ⟨fresh, kept.distinct⟩
          live := by
            apply List.append_subset.mpr
            exact ⟨kept.live, List.cons_subset.mpr ⟨alive, List.nil_subset _⟩⟩ }
      case isFalse => cases entered
  | handle handler instance_ =>
      simp only [lockProgram] at entered
      split at entered
      case isTrue =>
        cases entered
        exact { kept with }
      case isFalse => cases entered

/-- Where no handler uses the lock none holds it. -/
theorem countP_holds_eq_zero
    {strands : List LockPoint}
    (unused : ∀ point ∈ strands, point.uses = false) :
    strands.countP LockPoint.holds = 0 := by
  apply List.countP_eq_zero.mpr
  intro point member holds
  have free := unused point member
  cases point <;> simp [LockPoint.uses, LockPoint.holds] at free holds

/-- A constructor that finds neither an instance nor a handler keeps the
lock. -/
theorem LockKept.initialize
    (kept : LockKept state (.initializeCriticalSection :: rest))
    (first : state.alive = [])
    (unused : ∀ point ∈ rest, point.uses = false) :
    LockKept { state with
      criticalSection := .free
      alive := state.alive ++ [state.constructed]
      constructed := state.constructed + 1 } rest where
  single := by
    rw [first]
    exact Nat.le_refl _
  initialized := nofun
  holders := by
    rw [countP_holds_eq_zero unused]
    exact Nat.zero_le _
  destroying := kept.destroying
  distinct := kept.distinct
  live := List.subset_append_of_subset_left _ kept.live

/-- A destructor is that of the only instance. -/
theorem LockKept.alive_eq
    (kept : LockKept state (.deleteCriticalSection instance_ :: rest)) :
    state.alive = [instance_] := by
  have dying : instance_ ∈ state.dying :=
    kept.destroying.mem_iff.mp List.mem_cons_self
  have alive := kept.live dying
  have single := kept.single
  cases present : state.alive with
  | nil =>
      rw [present] at alive
      cases alive
  | cons first others =>
      rw [present] at alive single
      rw [List.length_cons] at single
      obtain rfl : others = [] := List.length_eq_zero_iff.mp (by omega)
      rw [List.mem_singleton.mp alive]

/-- A destructor that finds no handler keeps the lock. -/
theorem LockKept.delete
    (kept : LockKept state (.deleteCriticalSection instance_ :: rest))
    (unused : ∀ point ∈ rest, point.uses = false) :
    LockKept { state with
      criticalSection := .deleted
      alive := state.alive.erase instance_
      dying := state.dying.erase instance_ } rest where
  single := Nat.le_trans List.erase_sublist.length_le kept.single
  initialized := by
    rw [kept.alive_eq, List.erase_cons_head]
    exact fun alive => absurd rfl alive
  holders := by
    rw [countP_holds_eq_zero unused]
    exact Nat.zero_le _
  destroying := by
    have others := kept.destroying.erase instance_
    change ((instance_ :: rest.filterMap _).erase instance_).Perm _ at others
    rwa [List.erase_cons_head] at others
  distinct := kept.distinct.erase instance_
  live := by
    intro other member
    have ⟨different, dying⟩ := kept.distinct.mem_erase_iff.mp member
    have alive := kept.live dying
    rw [kept.alive_eq] at alive
    exact absurd (List.mem_singleton.mp alive) different

/-- A handler enters a critical section that is free. -/
theorem LockKept.acquire
    (kept : LockKept state (.enter handler :: rest))
    (free : state.criticalSection = .free) :
    LockKept { state with criticalSection := .held }
      (.listener handler :: rest) where
  single := kept.single
  initialized := nofun
  holders := by
    have holders := kept.holders
    rw [free, List.countP_cons_of_neg (by exact nofun)] at holders
    rw [List.countP_cons_of_pos rfl]
    exact Nat.succ_le_succ holders
  destroying := kept.destroying
  distinct := kept.distinct
  live := kept.live

/-- A handler leaves the critical section that it holds. -/
theorem LockKept.leave
    (kept : LockKept state (.leave handler :: rest)) :
    LockKept { state with
      criticalSection := state.criticalSection.leave } rest where
  single := kept.single
  initialized := by
    intro alive
    have initialized := kept.initialized alive
    cases present : state.criticalSection with
    | deleted => exact absurd present initialized
    | free | held => exact nofun
  holders := by
    have holders := kept.holders
    rw [List.countP_cons_of_pos rfl] at holders
    have one : state.criticalSection.holders ≤ 1 := by
      cases state.criticalSection <;> decide
    omega
  destroying := kept.destroying
  distinct := kept.distinct
  live := kept.live

/-- The call of the listener ends, or a handler finds a listener. -/
theorem LockKept.move
    (kept : LockKept state (point :: rest))
    {later : List LockPoint}
    (holders : later.countP LockPoint.holds ≤
      [point].countP LockPoint.holds)
    (destroying : later.filterMap LockPoint.deleting =
      [point].filterMap LockPoint.deleting) :
    LockKept state (later ++ rest) where
  single := kept.single
  initialized := kept.initialized
  holders := by
    have before := kept.holders
    rw [← List.singleton_append, List.countP_append] at before
    rw [List.countP_append]
    omega
  destroying := by
    rw [List.filterMap_append, destroying, ← List.filterMap_append]
    exact kept.destroying
  distinct := kept.distinct
  live := kept.live

/-- A step has the property exactly where it conforms, and then the lock is
kept. -/
theorem LockKept.advance
    (kept : LockKept state (point :: rest))
    {succeeds : Bool}
    (advanced : state.advance succeeds point = some (event, behind, later)) :
    (LockSound state event behind (later ++ rest) ↔
        point.Conforms state rest) ∧
      (point.Conforms state rest → LockKept behind (later ++ rest)) := by
  have quiet
      (behind_kept : LockKept behind (later ++ rest))
      (none : event = none)
      (conforms : point.Conforms state rest) :
      (LockSound state event behind (later ++ rest) ↔
          point.Conforms state rest) ∧
        (point.Conforms state rest → LockKept behind (later ++ rest)) := by
    rw [none]
    exact ⟨iff_of_true (behind_kept.sound state) conforms,
      fun _ => behind_kept⟩
  cases point with
  | initializeCriticalSection =>
      cases advanced
      refine ⟨⟨fun sound => ⟨sound.first rfl, sound.unused nofun⟩,
        fun ⟨first, unused⟩ => ?_⟩,
        fun ⟨first, unused⟩ => kept.initialize first unused⟩
      have behind := kept.initialize first unused
      exact {
        initialized := behind.initialized
        first := fun _ => first
        last := nofun
        unused := fun _ => unused
        single := behind.listens_le }
  | deleteCriticalSection instance_ =>
      cases advanced
      refine ⟨⟨fun sound => sound.unused nofun, fun unused => ?_⟩,
        fun unused => kept.delete unused⟩
      have behind := kept.delete unused
      exact {
        initialized := behind.initialized
        first := nofun
        last := fun _ => by
          rw [kept.alive_eq]
          exact List.erase_cons_head ..
        unused := fun _ => unused
        single := behind.listens_le }
  | check handler =>
      cases advanced
      refine quiet (kept.move ?_ ?_) rfl trivial
      · cases succeeds <;> exact Nat.le_refl _
      · cases succeeds <;> rfl
  | enter handler =>
      simp only [LockState.advance] at advanced
      split at advanced
      case h_1 free =>
        cases advanced
        exact quiet (kept.acquire free) rfl trivial
      all_goals cases advanced
  | listener handler =>
      cases advanced
      refine quiet (kept.move ?_ ?_) rfl trivial
      · cases succeeds with
        | true => exact Nat.le_refl _
        | false => exact Nat.zero_le _
      · cases succeeds <;> rfl
  | leave handler =>
      cases advanced
      exact quiet kept.leave rfl trivial

/-! ## Runs -/

/-- In every run the lock is initialised while an instance is alive, it is
initialised and deleted only without another instance and without a handler
that holds it or waits for it, and at most one call of the listener is in
progress, exactly when an instance is constructed only while no other is alive,
and instances are constructed and destroyed only while no handler uses the
lock. -/
theorem lockSound_iff_conforms (turns : List (Turn LockRoutine Bool)) :
    lockProgram.machine.Always
        (fun pool _ event next =>
          LockSound pool.shared event.join next.shared next.strands)
        lockStart turns ↔
      lockProgram.machine.Admits
        (Program.Obeys fun state point rest _ => point.Conforms state rest)
        lockStart turns := by
  apply Program.always_iff_obeys
    (fun state point rest _ => point.Conforms state rest)
    (fun state event behind strands =>
      LockSound state event.join behind strands)
    LockKept
  · intro state first second perm kept
    exact kept.of_perm perm
  · intro state event behind first second perm sound
    exact sound.of_perm perm
  · intro state strands routine behind point kept entered
    have begins := kept.enter entered
    exact ⟨begins, begins.sound state⟩
  · intro state point rest succeeds event behind later kept advanced
    exact kept.advance advanced
  · intro state point rest succeeds kept stuck
    cases point with
    | initializeCriticalSection | deleteCriticalSection instance_ =>
        cases stuck
    | check handler | enter handler | listener handler | leave handler =>
        trivial
  · exact lockKept_start

/-- A second device is opened while the listener handles an event of the first
one, and has an event itself. -/
def secondDevice : List (Turn LockRoutine Bool) :=
  [.start .construct, .advance 0 true,
    .start (.handle .onEvent 0), .advance 0 true, .advance 0 true,
    .start .construct, .advance 1 true,
    .start (.handle .onEvent 1), .advance 1 true, .advance 1 true]

/-- The listener is called twice at the same time. -/
theorem not_lockSound_secondDevice :
    ¬ lockProgram.machine.Always
        (fun pool _ event next =>
          LockSound pool.shared event.join next.shared next.strands)
        lockStart secondDevice ∧
      ∃ events final,
        lockProgram.machine.run lockStart secondDevice =
            some (events, final) ∧
          final.shared.alive = [0, 1] ∧
          final.strands = [.listener .onEvent, .listener .onEvent] := by
  constructor
  · decide +kernel
  · decide +kernel

end Runtime
end BthEmul
