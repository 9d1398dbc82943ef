import BthEmul.Foundation.Ledger
import BthEmul.Foundation.Pool
import BthEmul.Usb.Device

/-!
# Opening the device for one process

The device object is not exclusive: `FreeBT_DispatchCreate` refuses a second
handle by looking at `OpenHandleCount`, and counts the first one in a later
step. `FreeBT_DispatchClose` completes its request before it counts the handle
down.

Any number of requests are in progress at a time. A handle is closed once, by
the process that owns it.
-/

namespace BthEmul

open Foundation

namespace Usb

/-- The handles of the device. -/
structure OpenState where
  /-- `OpenHandleCount`. -/
  openHandleCount : Int
  /-- The handles that were counted, and those that were counted down. -/
  handles : Ledger
  /-- The handles that a process owns. -/
  owned : List Nat
  deriving DecidableEq

/-- A device that has been added. -/
def OpenState.start : OpenState where
  openHandleCount := 0
  handles := .fresh
  owned := []

/-- How far a request is. -/
inductive OpenPoint
  /-- `FreeBT_DispatchCreate`, before the check of `DeviceState`. -/
  | checkDeviceState
  /-- Before the check of `UsbInterface`. -/
  | checkUsbInterface
  /-- Before the check of the file object. -/
  | checkFileObject
  /-- Before the check of `OpenHandleCount`. -/
  | checkOpenHandleCount
  /-- Before `OpenHandleCount` is incremented, with the number of handles that
  had been counted when it was checked. -/
  | increment (checked : Nat)
  /-- Before `CancelSelectSuspend`, if selective suspend is enabled. -/
  | cancelSelectSuspend (handle : Nat)
  /-- Before the request is completed. -/
  | completeCreate (status : NtStatus) (handle : Option Nat)
  /-- `FreeBT_DispatchClose`, before the request is completed. -/
  | completeClose (handle : Nat)
  /-- Before `OpenHandleCount` is decremented. -/
  | decrement (handle : Nat)
  deriving DecidableEq

/-- A request begins. -/
inductive OpenRequest
  | create
  | close (handle : Nat)
  deriving DecidableEq

/-- The status that a request is completed with. -/
inductive OpenAnswer
  | create (status : NtStatus)
  | close (status : NtStatus)
  deriving DecidableEq

namespace OpenState

/-- What a request does next; the first checks pass or fail. -/
def advance
    (state : OpenState)
    (passes : Bool) :
    OpenPoint → Option OpenAnswer × OpenState × List OpenPoint
  | .checkDeviceState =>
      (none, state,
        [if passes then .checkUsbInterface
        else .completeCreate statusInvalidDeviceState none])
  | .checkUsbInterface =>
      (none, state,
        [if passes then .checkFileObject
        else .completeCreate statusInvalidDeviceState none])
  | .checkFileObject =>
      (none, state,
        [if passes then .checkOpenHandleCount
        else .completeCreate statusInvalidParameter none])
  | .checkOpenHandleCount =>
      (none, state,
        [if 0 < state.openHandleCount then
          .completeCreate statusAccessViolation none
        else .increment state.handles.issued])
  | .increment _ =>
      (none, { state with
        openHandleCount := state.openHandleCount + 1
        handles := state.handles.issue },
        [.cancelSelectSuspend state.handles.issued])
  | .cancelSelectSuspend handle =>
      (none, state, [.completeCreate statusSuccess (some handle)])
  | .completeCreate status handle =>
      (some (.create status),
        { state with owned := state.owned ++ handle.toList }, [])
  | .completeClose handle =>
      (some (.close statusSuccess), state, [.decrement handle])
  | .decrement handle =>
      (none, { state with
        openHandleCount := state.openHandleCount - 1
        handles := state.handles.release handle }, [])

end OpenState

/-- The requests of any number of processes. A handle is closed by the process
that owns it, which then owns it no more. -/
def openProgram :
    Program OpenState OpenPoint OpenRequest Bool (Option OpenAnswer) where
  enter state
    | .create => some (state, .checkDeviceState)
    | .close handle =>
        if handle ∈ state.owned then
          some ({ state with owned := state.owned.erase handle },
            .completeClose handle)
        else none
  advance state point passes := some (state.advance passes point)

/-- A device without a request. -/
def openStart : Pool OpenState OpenPoint where
  shared := .start
  strands := []

/-- The count is the number of handles that were opened and not closed; there
is at most one of them, and at most one process owns one. -/
structure ExclusiveOpen (state : OpenState) : Prop where
  counted : state.openHandleCount = state.handles.openResources.length
  single : state.openHandleCount ≤ 1
  owner : state.owned.length ≤ 1

instance (state : OpenState) : Decidable (ExclusiveOpen state) :=
  decidable_of_iff
    (state.openHandleCount = state.handles.openResources.length ∧
      state.openHandleCount ≤ 1 ∧ state.owned.length ≤ 1)
    ⟨fun ⟨counted, single, owner⟩ => ⟨counted, single, owner⟩,
      fun exclusive => ⟨exclusive.counted, exclusive.single, exclusive.owner⟩⟩

/-- No other handle was counted between the check of a request and its own
handle, unless it has been counted down again. -/
def OpenPoint.Unraced (state : OpenState) : OpenPoint → Prop
  | .increment checked =>
      ∀ handle ∈ state.handles.openResources, handle < checked
  | _ => True

instance (state : OpenState) :
    (point : OpenPoint) → Decidable (point.Unraced state)
  | .increment checked =>
      inferInstanceAs (Decidable
        (∀ handle ∈ state.handles.openResources, handle < checked))
  | .checkDeviceState | .checkUsbInterface | .checkFileObject
  | .checkOpenHandleCount | .cancelSelectSuspend _ | .completeCreate _ _
  | .completeClose _ | .decrement _ => isTrue trivial

/-! ## Who has a handle -/

/-- The handle of a request. -/
def OpenPoint.handle : OpenPoint → Option Nat
  | cancelSelectSuspend handle | completeClose handle | decrement handle =>
      some handle
  | completeCreate _ handle => handle
  | checkDeviceState | checkUsbInterface | checkFileObject
  | checkOpenHandleCount | increment _ => none

/-- The handles that a process owns or a request is about. -/
def heldHandles (state : OpenState) (strands : List OpenPoint) : List Nat :=
  state.owned ++ strands.filterMap OpenPoint.handle

/-- The handles that a process owns or a request is about, each once, are those
that are counted. -/
structure OpenCounted
    (state : OpenState)
    (strands : List OpenPoint) : Prop where
  handles : state.handles.Accounts (heldHandles state strands)
  counted : state.openHandleCount = (heldHandles state strands).length

theorem openCounted_start : OpenCounted .start [] where
  handles := Ledger.accounts_fresh
  counted := rfl

/-- A request that is about to count its handle found none: those there are now
were counted since its check. -/
def OpenChecked (state : OpenState) (strands : List OpenPoint) : Prop :=
  ∀ checked, .increment checked ∈ strands →
    checked ≤ state.handles.issued ∧
      ∀ handle ∈ heldHandles state strands, checked ≤ handle

theorem openChecked_start : OpenChecked .start [] :=
  nofun

/-- Where the handles are counted and there is at most one, at most one process
owns it. -/
theorem OpenCounted.exclusive_iff
    (counted : OpenCounted state strands) :
    ExclusiveOpen state ↔ state.openHandleCount ≤ 1 := by
  constructor
  · exact ExclusiveOpen.single
  · intro single
    have owned : state.owned.length ≤ (heldHandles state strands).length := by
      rw [heldHandles, List.length_append]
      exact Nat.le_add_right _ _
    have count := counted.counted
    exact {
      counted := by
        rw [count, counted.handles.perm_openResources.length_eq]
      single := single
      owner := by omega }

/-- Handles stay counted where they only change hands. -/
theorem OpenCounted.move
    (counted : OpenCounted state strands)
    (handles : behind.handles = state.handles)
    (count : behind.openHandleCount = state.openHandleCount)
    (same : (heldHandles state strands).Perm (heldHandles behind others)) :
    OpenCounted behind others where
  handles := by
    rw [handles]
    exact counted.handles.of_perm same
  counted := by
    rw [count, ← same.length_eq]
    exact counted.counted

theorem OpenCounted.of_perm
    (counted : OpenCounted state first)
    (perm : first.Perm second) : OpenCounted state second :=
  counted.move rfl rfl ((perm.filterMap _).append_left _)

/-! ## Steps -/

/-- A request that begins keeps the handles counted. -/
theorem OpenCounted.enter
    (counted : OpenCounted state strands)
    (entered : openProgram.enter state request = some (behind, point)) :
    OpenCounted behind (point :: strands) ∧
      behind.openHandleCount = state.openHandleCount := by
  cases request with
  | create =>
      cases entered
      exact ⟨counted.move rfl rfl (.refl _), rfl⟩
  | close handle =>
      simp only [openProgram] at entered
      split at entered
      case isTrue member =>
        cases entered
        refine ⟨?_, rfl⟩
        have moved : (heldHandles state strands).Perm (heldHandles
            { state with owned := state.owned.erase handle }
            (.completeClose handle :: strands)) := by
          refine ((List.perm_cons_erase member).append_right _).trans ?_
          exact List.perm_middle.symm
        exact counted.move rfl rfl moved
      case isFalse => cases entered

/-- A step keeps the handles counted. -/
theorem OpenCounted.advance
    (counted : OpenCounted state (point :: rest))
    (passes : Bool) :
    OpenCounted (state.advance passes point).2.1
      ((state.advance passes point).2.2 ++ rest) := by
  cases point with
  | checkDeviceState | checkUsbInterface | checkFileObject =>
      cases passes <;> exact counted.move rfl rfl (.refl _)
  | checkOpenHandleCount =>
      by_cases refused : 0 < state.openHandleCount
      · simp only [OpenState.advance, if_pos refused]
        exact counted.move rfl rfl (.refl _)
      · simp only [OpenState.advance, if_neg refused]
        exact counted.move rfl rfl (.refl _)
  | increment checked =>
      have moved : (heldHandles state (.increment checked :: rest) ++
          [state.handles.issued]).Perm
          (state.owned ++ state.handles.issued ::
            rest.filterMap OpenPoint.handle) := by
        rw [heldHandles, List.append_assoc]
        exact (List.perm_append_singleton _ _).append_left _
      have length := moved.length_eq
      rw [List.length_append, List.length_singleton] at length
      have count := counted.counted
      exact {
        handles := counted.handles.issue.of_perm moved
        counted := by
          change state.openHandleCount + 1 =
            ((state.owned ++ state.handles.issued ::
              rest.filterMap OpenPoint.handle).length : Int)
          omega }
  | cancelSelectSuspend handle | completeClose handle =>
      exact counted.move rfl rfl (.refl _)
  | completeCreate status handle =>
      refine counted.move rfl rfl ?_
      cases handle with
      | none =>
          change (_ ++ _ : List Nat).Perm (_ ++ [] ++ _)
          rw [List.append_nil]
          exact .refl _
      | some handle =>
          change (state.owned ++ ([handle] ++ _)).Perm
            (state.owned ++ [handle] ++ _)
          rw [List.append_assoc]
          exact .refl _
  | decrement handle =>
      have moved : (heldHandles state (.decrement handle :: rest)).Perm
          (handle :: heldHandles state rest) := List.perm_middle
      have length := moved.length_eq
      rw [List.length_cons] at length
      have count := counted.counted
      exact {
        handles := (counted.handles.of_perm moved).release
        counted := by
          change state.openHandleCount - 1 =
            ((heldHandles state rest).length : Int)
          omega }

/-- The handles are those of before and perhaps the next one, and no other
request is about to count one. -/
theorem OpenChecked.of_held
    (kept : OpenChecked state strands)
    (issued : state.handles.issued ≤ behind.handles.issued)
    (held : ∀ handle ∈ heldHandles behind others,
      handle ∈ heldHandles state strands ∨ handle = state.handles.issued)
    (stays : ∀ checked, .increment checked ∈ others →
      .increment checked ∈ strands) : OpenChecked behind others := by
  intro checked member
  obtain ⟨before, first⟩ := kept checked (stays checked member)
  refine ⟨Nat.le_trans before issued, ?_⟩
  intro handle present
  rcases held handle present with old | rfl
  · exact first handle old
  · exact before

theorem OpenChecked.of_perm
    (kept : OpenChecked state first)
    (perm : first.Perm second) : OpenChecked state second := by
  refine kept.of_held (Nat.le_refl _) ?_ fun _ => perm.mem_iff.mpr
  intro handle present
  exact .inl (((perm.filterMap _).append_left _).mem_iff.mpr present)

/-- A request that begins has checked nothing. -/
theorem OpenChecked.enter
    (kept : OpenChecked state strands)
    (entered : openProgram.enter state request = some (behind, point)) :
    OpenChecked behind (point :: strands) := by
  cases request with
  | create =>
      cases entered
      refine kept.of_held (Nat.le_refl _) (fun _ present => .inl present) ?_
      intro checked member
      exact (List.mem_cons.mp member).resolve_left nofun
  | close handle =>
      simp only [openProgram] at entered
      split at entered
      case isTrue owned =>
        cases entered
        refine kept.of_held (Nat.le_refl _) ?_ ?_
        · intro other present
          refine .inl ?_
          rcases List.mem_append.mp present with still | going
          · exact List.mem_append_left _ (List.mem_of_mem_erase still)
          · rcases List.mem_cons.mp going with rfl | old
            · exact List.mem_append_left _ owned
            · exact List.mem_append_right _ old
        · intro checked member
          exact (List.mem_cons.mp member).resolve_left nofun
      case isFalse => cases entered

/-- A request goes on without a handle of its own, or with the one it has. -/
theorem OpenChecked.goesOn
    (kept : OpenChecked state (point :: rest))
    (next : OpenPoint)
    (own : next.handle = point.handle)
    (stays : ∀ checked, next ≠ .increment checked) :
    OpenChecked state (next :: rest) := by
  refine kept.of_held (Nat.le_refl _) ?_ ?_
  · intro handle present
    refine .inl ?_
    rw [heldHandles, List.filterMap_cons, own] at present
    rwa [heldHandles, List.filterMap_cons]
  · intro checked member
    rcases List.mem_cons.mp member with new | old
    · exact absurd new.symm (stays checked)
    · exact List.mem_cons_of_mem _ old

/-- A step keeps what the requests have checked. -/
theorem OpenChecked.advance
    (kept : OpenChecked state (point :: rest))
    (counted : OpenCounted state (point :: rest))
    (passes : Bool) :
    OpenChecked (state.advance passes point).2.1
      ((state.advance passes point).2.2 ++ rest) := by
  cases point with
  | checkDeviceState | checkUsbInterface | checkFileObject =>
      cases passes <;> exact kept.goesOn _ rfl nofun
  | checkOpenHandleCount =>
      by_cases refused : 0 < state.openHandleCount
      · simp only [OpenState.advance, if_pos refused]
        exact kept.goesOn _ rfl nofun
      · simp only [OpenState.advance, if_neg refused]
        have none : heldHandles state (.checkOpenHandleCount :: rest) = [] := by
          have count := counted.counted
          exact List.length_eq_zero_iff.mp (by omega)
        intro checked member
        have bound : checked ≤ state.handles.issued := by
          rcases List.mem_cons.mp member with new | old
          · cases new
            exact Nat.le_refl _
          · exact (kept checked (List.mem_cons_of_mem _ old)).1
        refine ⟨bound, fun handle present => ?_⟩
        have absent : handle ∈ heldHandles state
            (.checkOpenHandleCount :: rest) := present
        rw [none] at absent
        cases absent
  | increment own =>
      refine kept.of_held (Nat.le_succ _) ?_ ?_
      · intro handle present
        rcases List.mem_append.mp present with owned | going
        · exact .inl (List.mem_append_left _ owned)
        · rcases List.mem_cons.mp going with new | old
          · exact .inr new
          · exact .inl (List.mem_append_right _ old)
      · intro checked member
        rcases List.mem_cons.mp member with new | old
        · cases new
        · exact List.mem_cons_of_mem _ old
  | cancelSelectSuspend handle | completeClose handle =>
      exact kept.goesOn _ rfl nofun
  | completeCreate status handle =>
      refine kept.of_held (Nat.le_refl _) ?_ fun _ => List.mem_cons_of_mem _
      intro other present
      refine .inl ?_
      cases handle with
      | none =>
          simpa [heldHandles, OpenPoint.handle, OpenState.advance] using present
      | some handle =>
          simpa [heldHandles, OpenPoint.handle, OpenState.advance] using present
  | decrement handle =>
      refine kept.of_held (Nat.le_refl _) ?_ fun _ => List.mem_cons_of_mem _
      intro other present
      refine .inl ?_
      rcases List.mem_append.mp present with owned | going
      · exact List.mem_append_left _ owned
      · exact List.mem_append_right _ (List.mem_cons_of_mem _ going)

/-- A step leaves at most one handle exactly where no other one was counted
between a request's check and its own handle. -/
theorem OpenCounted.single_iff
    (counted : OpenCounted state (point :: rest))
    (kept : OpenChecked state (point :: rest))
    (single : state.openHandleCount ≤ 1)
    (passes : Bool) :
    (state.advance passes point).2.1.openHandleCount ≤ 1 ↔
      point.Unraced state := by
  cases point with
  | increment checked =>
      have count := counted.counted
      have same := counted.handles.perm_openResources
      change state.openHandleCount + 1 ≤ 1 ↔
        ∀ handle ∈ state.handles.openResources, handle < checked
      constructor
      · intro closed handle present
        have none : heldHandles state (.increment checked :: rest) = [] :=
          List.length_eq_zero_iff.mp (by omega)
        have absent := same.mem_iff.mpr present
        rw [none] at absent
        cases absent
      · intro unraced
        have none : heldHandles state (.increment checked :: rest) = [] := by
          refine List.eq_nil_iff_forall_not_mem.mpr ?_
          intro handle present
          have late := (kept checked List.mem_cons_self).2 handle present
          have early := unraced handle (same.mem_iff.mp present)
          omega
        rw [none, List.length_nil] at count
        omega
  | decrement handle =>
      refine iff_of_true ?_ trivial
      change state.openHandleCount - 1 ≤ 1
      omega
  | _ => exact iff_of_true single trivial

/-! ## Runs -/

/-- In every run `OpenHandleCount` is the number of handles that were opened and
not closed and at most one, and at most one process owns a handle, exactly when
no other handle is counted between the check of a request and its own handle,
unless it is counted down again by then. -/
theorem exclusiveOpen_iff_unraced
    (turns : List (Turn OpenRequest Bool)) :
    openProgram.machine.Always (fun _ _ _ next => ExclusiveOpen next.shared)
        openStart turns ↔
      openProgram.machine.Admits
        (Program.Obeys fun state point _ _ => point.Unraced state)
        openStart turns := by
  apply Program.always_iff_obeys
    (fun state point _ _ => point.Unraced state)
    (fun _ _ behind _ => ExclusiveOpen behind)
    (fun state strands =>
      OpenCounted state strands ∧ OpenChecked state strands ∧
        state.openHandleCount ≤ 1)
  · intro state first second perm kept
    exact ⟨kept.1.of_perm perm, kept.2.1.of_perm perm, kept.2.2⟩
  · intro state answer behind first second _ exclusive
    exact exclusive
  · intro state strands request behind point kept entered
    obtain ⟨counted, same⟩ := kept.1.enter entered
    have single : behind.openHandleCount ≤ 1 := by
      rw [same]
      exact kept.2.2
    exact ⟨⟨counted, kept.2.1.enter entered, single⟩,
      counted.exclusive_iff.mpr single⟩
  · intro state point rest passes answer behind later kept advanced
    have counted := kept.1.advance passes
    have checked := kept.2.1.advance kept.1 passes
    have single := kept.1.single_iff kept.2.1 kept.2.2 passes
    rw [Option.some.inj advanced] at counted checked single
    exact ⟨counted.exclusive_iff.trans single,
      fun unraced => ⟨counted, checked, single.mpr unraced⟩⟩
  · intro state point rest passes kept stuck
    cases stuck
  · exact ⟨openCounted_start, openChecked_start, by decide⟩

/-- Two processes open the device, and both find it closed. -/
def racingCreates : List (Turn OpenRequest Bool) :=
  [.start .create, .start .create] ++
    List.replicate 4 (.advance 0 true) ++ List.replicate 4 (.advance 0 true) ++
    List.replicate 6 (.advance 0 true)

/-- Both own it. -/
theorem not_exclusiveOpen_racingCreates :
    ¬ openProgram.machine.Always (fun _ _ _ next => ExclusiveOpen next.shared)
        openStart racingCreates ∧
      ∃ answers final,
        openProgram.machine.run openStart racingCreates =
            some (answers, final) ∧
          final.shared.openHandleCount = 2 ∧
          final.shared.owned.length = 2 := by
  constructor
  · decide +kernel
  · decide +kernel

end Usb
end BthEmul
