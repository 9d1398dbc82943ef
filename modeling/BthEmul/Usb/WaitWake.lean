import BthEmul.Foundation.Ledger
import BthEmul.Foundation.Pool

/-!
# Waiting for the device to wake the system

The driver has the power manager send an irp that ends when the device wakes
the system. Two flags and the pointer to the irp are only ever exchanged. Who
of a canceller and the completion routine takes the pointer, and who of them
sets the second flag last, decides which of them has the irp completed.

The power manager stores the irp before it sends it, and runs the callback once
when the irp has been completed.
-/

namespace BthEmul

open Foundation

namespace Usb

/-- The part of `DEVICE_EXTENSION` for the irp, and the irps sent so far. -/
structure WakeState where
  /-- `WaitWakeIrp`, if it is not null. -/
  waitWakeIrp : Option Nat
  /-- `FlagWWCancel`. -/
  flagWWCancel : Bool
  /-- `FlagWWOutstanding`. -/
  flagWWOutstanding : Bool
  /-- The irps that the power manager sent, and those that were completed. -/
  irps : Ledger
  deriving DecidableEq

/-- A device that has been started. -/
def WakeState.start : WakeState where
  waitWakeIrp := none
  flagWWCancel := false
  flagWWOutstanding := false
  irps := .fresh

/-- How far a routine is. -/
inductive WakePoint
  /-- `IssueWaitWake`, before the exchange of `FlagWWOutstanding`. -/
  | issue
  /-- Before the exchange of `FlagWWCancel`. -/
  | resetCancel
  /-- Before `PoRequestPowerIrp`. -/
  | requestIrp
  /-- `PoRequestPowerIrp` has failed. -/
  | resetOutstanding
  /-- The lower driver has the irp. -/
  | lower (irp : Nat)
  /-- `WaitWakeCompletionRoutine`, before the exchange of `WaitWakeIrp`. -/
  | complete (irp : Nat)
  /-- Before the exchange of `FlagWWCancel`. -/
  | completeFlag (irp : Nat)
  /-- The completion is about to run through. -/
  | runThrough (irp : Nat)
  /-- `CancelWaitWake`, before the exchange of `WaitWakeIrp`. -/
  | cancel
  /-- Before `IoCancelIrp`. -/
  | cancelIrp (irp : Nat)
  /-- Before the exchange of `FlagWWCancel`. -/
  | cancelFlag (irp : Nat)
  /-- Before `IoCompleteRequest`. -/
  | cancelComplete (irp : Nat)
  /-- `WaitWakeCallback`, before the exchange of `FlagWWOutstanding`. -/
  | callback
  deriving DecidableEq

/-- What does not depend on these routines. -/
structure WakeChance where
  /-- `PoRequestPowerIrp` succeeds. -/
  granted : Bool
  /-- The callback finds the device to be powered up, with `WaitWakeEnable`. -/
  reissues : Bool
  deriving DecidableEq

namespace WakeState

/-- What a routine does next, and the irp it touches. -/
def advance
    (state : WakeState)
    (chance : WakeChance) :
    WakePoint → Option Nat × WakeState × List WakePoint
  | .issue =>
      (none, { state with flagWWOutstanding := true },
        if state.flagWWOutstanding then [] else [.resetCancel])
  | .resetCancel =>
      (none, { state with flagWWCancel := false }, [.requestIrp])
  | .requestIrp =>
      match state.irps.request chance.granted with
      | (none, _) => (none, state, [.resetOutstanding])
      | (some irp, irps) =>
          (none, { state with waitWakeIrp := some irp, irps := irps },
            [.lower irp])
  | .resetOutstanding =>
      (none, { state with flagWWOutstanding := false }, [])
  | .lower irp => (some irp, state, [.complete irp])
  | .complete irp =>
      (none, { state with waitWakeIrp := none },
        [if state.waitWakeIrp.isSome then .runThrough irp
        else .completeFlag irp])
  | .completeFlag irp =>
      (none, { state with flagWWCancel := true },
        -- otherwise `STATUS_MORE_PROCESSING_REQUIRED`
        if state.flagWWCancel then [.runThrough irp] else [])
  | .runThrough irp | .cancelComplete irp =>
      (some irp, { state with irps := state.irps.release irp }, [.callback])
  | .cancel =>
      (none, { state with waitWakeIrp := none },
        state.waitWakeIrp.toList.map .cancelIrp)
  | .cancelIrp irp => (some irp, state, [.cancelFlag irp])
  | .cancelFlag irp =>
      (none, { state with flagWWCancel := true },
        if state.flagWWCancel then [.cancelComplete irp] else [])
  | .callback =>
      (none, { state with flagWWOutstanding := false },
        if chance.reissues then [.issue] else [])

end WakeState

/-- The routines that begin from outside. -/
inductive WakeRoutine
  | issueWaitWake
  | cancelWaitWake
  deriving DecidableEq

/-- Where a routine begins. -/
def WakeRoutine.entry : WakeRoutine → WakePoint
  | issueWaitWake => .issue
  | cancelWaitWake => .cancel

/-- The four routines. -/
def wakeProgram :
    Program WakeState WakePoint WakeRoutine WakeChance (Option Nat) where
  enter state routine := some (state, routine.entry)
  advance state point chance := some (state.advance chance point)

/-- A device without a routine. -/
def wakeStart : Pool WakeState WakePoint where
  shared := .start
  strands := []

/-! ## The property -/

/-- The irp that is with the lower driver, with the completion routine or with
a canceller. -/
def WakePoint.irp : WakePoint → Option Nat
  | lower irp | complete irp | completeFlag irp | runThrough irp
  | cancelIrp irp | cancelFlag irp | cancelComplete irp => some irp
  | issue | resetCancel | requestIrp | resetOutstanding | cancel
  | callback => none

/-- At most one irp is outstanding, and each is completed once and not touched
afterwards. -/
structure WakeOnce
    (pool : Pool WakeState WakePoint)
    (output : Option (Option Nat))
    (next : Pool WakeState WakePoint) : Prop where
  /-- At most one irp is outstanding. -/
  single : ∀ first second, next.shared.irps.IsOpen first →
    next.shared.irps.IsOpen second → first = second
  /-- An irp is touched or completed only while it is outstanding. -/
  touched : ∀ touch ∈ output, ∀ irp ∈ touch, pool.shared.irps.IsOpen irp
  /-- No irp is completed twice. -/
  once : next.shared.irps.released.Nodup
  /-- An irp that is outstanding is with somebody. -/
  kept : ∀ irp, next.shared.irps.IsOpen irp →
    ∃ point ∈ next.strands, point.irp = some irp
  /-- Once all routines have ended every irp has been completed. -/
  ended : next.strands = [] → ∀ irp < next.shared.irps.issued,
    irp ∈ next.shared.irps.released

/-! ## Stages -/

/-- What a routine does on behalf of an irp. -/
inductive WakeRole
  | resetting
  | requesting
  | failed
  | lower (irp : Nat)
  | flagging (irp : Nat)
  | cancelling (irp : Nat)
  | finishing (irp : Nat)
  | calledBack
  deriving DecidableEq

/-- What a routine does on behalf of which irp. -/
def WakePoint.role : WakePoint → Option WakeRole
  | resetCancel => some .resetting
  | requestIrp => some .requesting
  | resetOutstanding => some .failed
  | lower irp | complete irp => some (.lower irp)
  | completeFlag irp => some (.flagging irp)
  | cancelIrp irp | cancelFlag irp => some (.cancelling irp)
  | runThrough irp | cancelComplete irp => some (.finishing irp)
  | callback => some .calledBack
  | issue | cancel => none

/-- How far the latest irp is. -/
inductive WakeStage
  /-- There is none. -/
  | idle
  /-- It is about to be requested. -/
  | resetting
  | requesting
  /-- It has not been granted. -/
  | failed
  /-- Its pointer is in the device extension. -/
  | pending (irp : Nat)
  /-- A canceller took the pointer. -/
  | grabbed (irp : Nat)
  /-- A canceller took the pointer, and the completion routine missed it. -/
  | missed (irp : Nat)
  /-- The canceller set the flag first. -/
  | cancelled (irp : Nat)
  /-- The canceller set the flag first, and the completion routine missed the
  pointer. -/
  | cancelledMissed (irp : Nat)
  /-- The completion routine set the flag first. -/
  | completed (irp : Nat)
  /-- The irp is about to be completed. -/
  | finishing (irp : Nat)
  /-- The callback is about to run. -/
  | calledBack
  deriving DecidableEq

namespace WakeStage

/-- `WaitWakeIrp`. -/
def waitWakeIrp : WakeStage → Option Nat
  | pending irp => some irp
  | _ => none

/-- `FlagWWCancel`, where it matters. -/
def flagWWCancel : WakeStage → Option Bool
  | requesting | pending _ | grabbed _ | missed _ => some false
  | cancelled _ | cancelledMissed _ | completed _ => some true
  | idle | resetting | failed | finishing _ | calledBack => none

/-- `FlagWWOutstanding`. -/
def flagWWOutstanding : WakeStage → Bool
  | idle => false
  | _ => true

/-- Who is at work on behalf of the irp. -/
def roles : WakeStage → List WakeRole
  | idle => []
  | resetting => [.resetting]
  | requesting => [.requesting]
  | failed => [.failed]
  | pending irp | cancelled irp => [.lower irp]
  | grabbed irp => [.lower irp, .cancelling irp]
  | missed irp => [.flagging irp, .cancelling irp]
  | cancelledMissed irp => [.flagging irp]
  | completed irp => [.cancelling irp]
  | finishing irp => [.finishing irp]
  | calledBack => [.calledBack]

/-- The irp, once it has been granted and until it is completed. -/
def irps : WakeStage → List Nat
  | pending irp | grabbed irp | missed irp | cancelled irp
  | cancelledMissed irp | completed irp | finishing irp => [irp]
  | idle | resetting | requesting | failed | calledBack => []

end WakeStage

/-- The state and the routines agree with a stage. -/
structure WakeHolds
    (state : WakeState)
    (stage : WakeStage)
    (strands : List WakePoint) : Prop where
  waitWakeIrp : state.waitWakeIrp = stage.waitWakeIrp
  flagWWCancel : ∀ flag ∈ stage.flagWWCancel, state.flagWWCancel = flag
  flagWWOutstanding : state.flagWWOutstanding = stage.flagWWOutstanding
  roles : (strands.filterMap WakePoint.role).Perm stage.roles
  irps : state.irps.Accounts stage.irps

/-- The state agrees with the routines. -/
def WakeKept (state : WakeState) (strands : List WakePoint) : Prop :=
  ∃ stage, WakeHolds state stage strands

theorem WakeKept.of_perm
    (kept : WakeKept state first)
    (perm : first.Perm second) : WakeKept state second := by
  obtain ⟨stage, holds⟩ := kept
  exact ⟨stage, { holds with
    roles := (perm.filterMap _).symm.trans holds.roles }⟩

theorem wakeKept_start : WakeKept .start [] :=
  ⟨.idle, {
    waitWakeIrp := rfl
    flagWWCancel := nofun
    flagWWOutstanding := rfl
    roles := .nil
    irps := Ledger.accounts_fresh }⟩

/-- The roles of the other routines, beside one in a role. -/
theorem WakeHolds.roles_cons
    (holds : WakeHolds state stage (point :: rest))
    (role : point.role = some taken) :
    (taken :: rest.filterMap WakePoint.role).Perm stage.roles := by
  have roles := holds.roles
  rwa [List.filterMap_cons, role] at roles

/-- The stages in which the completion routine has not looked for the
pointer. -/
theorem WakeStage.lower_cases
    {stage : WakeStage}
    (roles : (.lower irp :: others).Perm stage.roles) :
    (stage = .pending irp ∧ others = []) ∨
      (stage = .grabbed irp ∧ others.Perm [.cancelling irp]) ∨
      (stage = .cancelled irp ∧ others = []) := by
  have member := roles.mem_iff.mp List.mem_cons_self
  cases stage <;> simp [WakeStage.roles] at member <;> subst member
  · exact .inl ⟨rfl, roles.cons_inv.eq_nil⟩
  · exact .inr (.inl ⟨rfl, roles.cons_inv⟩)
  · exact .inr (.inr ⟨rfl, roles.cons_inv.eq_nil⟩)

/-- The stages in which the completion routine is to set the flag. -/
theorem WakeStage.flagging_cases
    {stage : WakeStage}
    (roles : (.flagging irp :: others).Perm stage.roles) :
    (stage = .missed irp ∧ others.Perm [.cancelling irp]) ∨
      (stage = .cancelledMissed irp ∧ others = []) := by
  have member := roles.mem_iff.mp List.mem_cons_self
  cases stage <;> simp [WakeStage.roles] at member <;> subst member
  · exact .inl ⟨rfl, roles.cons_inv⟩
  · exact .inr ⟨rfl, roles.cons_inv.eq_nil⟩

/-- The stages in which a canceller is to set the flag. -/
theorem WakeStage.cancelling_cases
    {stage : WakeStage}
    (roles : (.cancelling irp :: others).Perm stage.roles) :
    (stage = .grabbed irp ∧ others.Perm [.lower irp]) ∨
      (stage = .missed irp ∧ others.Perm [.flagging irp]) ∨
      (stage = .completed irp ∧ others = []) := by
  have member := roles.mem_iff.mp List.mem_cons_self
  cases stage <;> simp [WakeStage.roles] at member <;> subst member
  · exact .inl ⟨rfl, (roles.trans (.swap ..)).cons_inv⟩
  · exact .inr (.inl ⟨rfl, (roles.trans (.swap ..)).cons_inv⟩)
  · exact .inr (.inr ⟨rfl, roles.cons_inv.eq_nil⟩)

/-- The only stage in which a role is taken, if there is only one. -/
def WakeRole.onlyStage : WakeRole → Option WakeStage
  | resetting => some .resetting
  | requesting => some .requesting
  | failed => some .failed
  | finishing irp => some (.finishing irp)
  | calledBack => some .calledBack
  | lower _ | flagging _ | cancelling _ => none

/-- A routine in such a role is the only one in a role. -/
theorem WakeStage.eq_of_role
    {stage : WakeStage}
    (roles : (role :: others).Perm stage.roles)
    (only : role.onlyStage = some other) :
    stage = other ∧ others = [] := by
  have member := roles.mem_iff.mp List.mem_cons_self
  have single : stage = other ∧ stage.roles = [role] := by
    cases stage <;> simp only [WakeStage.roles, List.mem_cons,
      List.not_mem_nil, or_false] at member
    case grabbed irp => rcases member with rfl | rfl <;> cases only
    case missed irp => rcases member with rfl | rfl <;> cases only
    all_goals
      subst member
      cases only
      try exact ⟨rfl, rfl⟩
  rw [single.2] at roles
  exact ⟨single.1, roles.cons_inv.eq_nil⟩

/-- The irp of a role. -/
def WakeRole.irp : WakeRole → Option Nat
  | lower irp | flagging irp | cancelling irp | finishing irp => some irp
  | resetting | requesting | failed | calledBack => none

/-- An irp in a role has not been completed. -/
theorem WakeStage.mem_irps
    {stage : WakeStage}
    {irp : Nat}
    (member : role ∈ stage.roles)
    (taken : role.irp = some irp) : irp ∈ stage.irps := by
  cases stage <;> simp only [WakeStage.roles, List.mem_cons,
    List.not_mem_nil, or_false] at member
  case grabbed other =>
    rcases member with rfl | rfl <;> cases taken <;> exact List.mem_cons_self
  case missed other =>
    rcases member with rfl | rfl <;> cases taken <;> exact List.mem_cons_self
  all_goals
    subst member
    cases taken
    try exact List.mem_cons_self

/-! ## Steps -/

/-- A routine goes on, in the same role or without one. -/
theorem WakeHolds.move
    (holds : WakeHolds state stage (point :: rest))
    {later : List WakePoint}
    (role : later.filterMap WakePoint.role = point.role.toList) :
    WakeHolds state stage (later ++ rest) where
  waitWakeIrp := holds.waitWakeIrp
  flagWWCancel := holds.flagWWCancel
  flagWWOutstanding := holds.flagWWOutstanding
  roles := by
    have before := holds.roles
    rw [← List.singleton_append, List.filterMap_append] at before
    rw [List.filterMap_append, role]
    cases present : point.role <;> simpa [present] using before
  irps := holds.irps

/-- An irp is requested where none is outstanding. -/
theorem WakeHolds.issue
    (holds : WakeHolds state stage (.issue :: rest))
    (chance : WakeChance) :
    WakeKept (state.advance chance .issue).2.1
      ((state.advance chance .issue).2.2 ++ rest) := by
  have outstanding := holds.flagWWOutstanding
  cases stage with
  | idle =>
      rw [WakeState.advance, outstanding]
      exact ⟨.resetting, {
        waitWakeIrp := holds.waitWakeIrp
        flagWWCancel := nofun
        flagWWOutstanding := rfl
        roles := holds.roles.cons WakeRole.resetting
        irps := holds.irps }⟩
  | _ =>
      have same : { state with flagWWOutstanding := true } = state := by
        rw [← show state.flagWWOutstanding = true from outstanding]
      rw [WakeState.advance, outstanding, same]
      exact ⟨_, holds.move rfl⟩

/-- The completion routine looks for the pointer. -/
theorem WakeHolds.complete
    (holds : WakeHolds state stage (.complete irp :: rest))
    (chance : WakeChance) :
    WakeKept (state.advance chance (.complete irp)).2.1
      ((state.advance chance (.complete irp)).2.2 ++ rest) := by
  have found := holds.waitWakeIrp
  have roles := holds.roles_cons rfl
  rw [WakeState.advance, found]
  rcases WakeStage.lower_cases roles with
    ⟨rfl, others⟩ | ⟨rfl, others⟩ | ⟨rfl, others⟩
  · exact ⟨.finishing irp, {
      waitWakeIrp := rfl
      flagWWCancel := nofun
      flagWWOutstanding := holds.flagWWOutstanding
      roles := (List.Perm.of_eq others).cons (WakeRole.finishing irp)
      irps := holds.irps }⟩
  · exact ⟨.missed irp, {
      waitWakeIrp := rfl
      flagWWCancel := holds.flagWWCancel
      flagWWOutstanding := holds.flagWWOutstanding
      roles := others.cons (WakeRole.flagging irp)
      irps := holds.irps }⟩
  · exact ⟨.cancelledMissed irp, {
      waitWakeIrp := rfl
      flagWWCancel := holds.flagWWCancel
      flagWWOutstanding := holds.flagWWOutstanding
      roles := (List.Perm.of_eq others).cons (WakeRole.flagging irp)
      irps := holds.irps }⟩

/-- A routine sets the flag, and another stage begins. -/
theorem WakeHolds.exchange
    {later : List WakePoint}
    (holds : WakeHolds state stage (point :: rest))
    (next : WakeStage)
    (waitWakeIrp : next.waitWakeIrp = stage.waitWakeIrp)
    (flag : ∀ flag ∈ next.flagWWCancel, true = flag)
    (outstanding : next.flagWWOutstanding = stage.flagWWOutstanding)
    (irps : next.irps = stage.irps)
    (roles : ((later ++ rest).filterMap WakePoint.role).Perm next.roles) :
    WakeKept { state with flagWWCancel := true } (later ++ rest) :=
  ⟨next, {
    waitWakeIrp := holds.waitWakeIrp.trans waitWakeIrp.symm
    flagWWCancel := flag
    flagWWOutstanding := holds.flagWWOutstanding.trans outstanding.symm
    roles := roles
    irps := irps ▸ holds.irps }⟩

/-- The completion routine sets the flag. -/
theorem WakeHolds.completeFlag
    (holds : WakeHolds state stage (.completeFlag irp :: rest))
    (chance : WakeChance) :
    WakeKept (state.advance chance (.completeFlag irp)).2.1
      ((state.advance chance (.completeFlag irp)).2.2 ++ rest) := by
  have roles := holds.roles_cons rfl
  rcases WakeStage.flagging_cases roles with
    ⟨rfl, others⟩ | ⟨rfl, others⟩
  · rw [WakeState.advance, holds.flagWWCancel false rfl]
    refine holds.exchange (.completed irp) rfl ?_ rfl rfl ?_
    · rintro flag ⟨⟩
      rfl
    · exact others
  · rw [WakeState.advance, holds.flagWWCancel true rfl]
    apply holds.exchange (.finishing irp) rfl nofun rfl rfl
    exact (List.Perm.of_eq others).cons (WakeRole.finishing irp)

/-- A canceller sets the flag. -/
theorem WakeHolds.cancelFlag
    (holds : WakeHolds state stage (.cancelFlag irp :: rest))
    (chance : WakeChance) :
    WakeKept (state.advance chance (.cancelFlag irp)).2.1
      ((state.advance chance (.cancelFlag irp)).2.2 ++ rest) := by
  have roles := holds.roles_cons rfl
  rcases WakeStage.cancelling_cases roles with
    ⟨rfl, others⟩ | ⟨rfl, others⟩ | ⟨rfl, others⟩
  · rw [WakeState.advance, holds.flagWWCancel false rfl]
    refine holds.exchange (.cancelled irp) rfl ?_ rfl rfl ?_
    · rintro flag ⟨⟩
      rfl
    · exact others
  · rw [WakeState.advance, holds.flagWWCancel false rfl]
    refine holds.exchange (.cancelledMissed irp) rfl ?_ rfl rfl ?_
    · rintro flag ⟨⟩
      rfl
    · exact others
  · rw [WakeState.advance, holds.flagWWCancel true rfl]
    apply holds.exchange (.finishing irp) rfl nofun rfl rfl
    exact (List.Perm.of_eq others).cons (WakeRole.finishing irp)

/-- A canceller takes the pointer. -/
theorem WakeHolds.cancel
    (holds : WakeHolds state stage (.cancel :: rest)) :
    WakeKept { state with waitWakeIrp := none }
      (state.waitWakeIrp.toList.map .cancelIrp ++ rest) := by
  have found := holds.waitWakeIrp
  cases stage with
  | pending irp =>
      rw [found]
      exact ⟨.grabbed irp, {
        waitWakeIrp := rfl
        flagWWCancel := holds.flagWWCancel
        flagWWOutstanding := holds.flagWWOutstanding
        roles := (holds.roles.cons (WakeRole.cancelling irp)).trans (.swap ..)
        irps := holds.irps }⟩
  | _ =>
      have same : { state with waitWakeIrp := none } = state := by
        rw [← show state.waitWakeIrp = none from found]
      rw [found, same]
      exact ⟨_, holds.move rfl⟩

/-- An irp is completed. -/
theorem WakeHolds.finish
    (holds : WakeHolds state stage (point :: rest))
    (role : point.role = some (.finishing irp)) :
    WakeKept { state with irps := state.irps.release irp }
      (.callback :: rest) := by
  obtain ⟨rfl, others⟩ := WakeStage.eq_of_role (holds.roles_cons role) rfl
  exact ⟨.calledBack, {
    waitWakeIrp := holds.waitWakeIrp
    flagWWCancel := nofun
    flagWWOutstanding := holds.flagWWOutstanding
    roles := (List.Perm.of_eq others).cons WakeRole.calledBack
    irps := holds.irps.release }⟩

/-- Every step keeps the invariant. -/
theorem WakeKept.advance
    (kept : WakeKept state (point :: rest))
    (chance : WakeChance) :
    WakeKept (state.advance chance point).2.1
      ((state.advance chance point).2.2 ++ rest) := by
  obtain ⟨stage, holds⟩ := kept
  cases point with
  | issue => exact holds.issue chance
  | resetCancel =>
      obtain ⟨rfl, others⟩ := WakeStage.eq_of_role (holds.roles_cons rfl) rfl
      exact ⟨.requesting, {
        waitWakeIrp := holds.waitWakeIrp
        flagWWCancel := by
          rintro flag ⟨⟩
          rfl
        flagWWOutstanding := holds.flagWWOutstanding
        roles := (List.Perm.of_eq others).cons WakeRole.requesting
        irps := holds.irps }⟩
  | requestIrp =>
      obtain ⟨rfl, others⟩ := WakeStage.eq_of_role (holds.roles_cons rfl) rfl
      cases granted : chance.granted with
      | true =>
          rw [WakeState.advance, granted]
          exact ⟨.pending state.irps.issued, {
            waitWakeIrp := rfl
            flagWWCancel := holds.flagWWCancel
            flagWWOutstanding := holds.flagWWOutstanding
            roles := (List.Perm.of_eq others).cons
              (WakeRole.lower state.irps.issued)
            irps := holds.irps.issue }⟩
      | false =>
          rw [WakeState.advance, granted]
          exact ⟨.failed, {
            waitWakeIrp := holds.waitWakeIrp
            flagWWCancel := nofun
            flagWWOutstanding := holds.flagWWOutstanding
            roles := (List.Perm.of_eq others).cons WakeRole.failed
            irps := holds.irps }⟩
  | resetOutstanding =>
      obtain ⟨rfl, others⟩ := WakeStage.eq_of_role (holds.roles_cons rfl) rfl
      exact ⟨.idle, {
        waitWakeIrp := holds.waitWakeIrp
        flagWWCancel := nofun
        flagWWOutstanding := rfl
        roles := List.Perm.of_eq others
        irps := holds.irps }⟩
  | lower irp | cancelIrp irp => exact ⟨stage, holds.move rfl⟩
  | complete irp => exact holds.complete chance
  | completeFlag irp => exact holds.completeFlag chance
  | runThrough irp | cancelComplete irp => exact holds.finish rfl
  | cancel => exact holds.cancel
  | cancelFlag irp => exact holds.cancelFlag chance
  | callback =>
      obtain ⟨rfl, others⟩ := WakeStage.eq_of_role (holds.roles_cons rfl) rfl
      have ended : WakeHolds { state with flagWWOutstanding := false } .idle
          rest := {
        waitWakeIrp := holds.waitWakeIrp
        flagWWCancel := nofun
        flagWWOutstanding := rfl
        roles := List.Perm.of_eq others
        irps := holds.irps }
      unfold WakeState.advance
      dsimp only
      split
      · exact ⟨.idle, { ended with roles := ended.roles }⟩
      · exact ⟨.idle, ended⟩

/-- A routine that begins has no role. -/
theorem WakeKept.enter
    (kept : WakeKept state strands)
    (routine : WakeRoutine) :
    WakeKept state (routine.entry :: strands) := by
  obtain ⟨stage, holds⟩ := kept
  cases routine <;> exact ⟨stage, { holds with roles := holds.roles }⟩

/-- Every turn keeps the invariant. -/
theorem WakeKept.step
    {pool next : Pool WakeState WakePoint}
    (kept : WakeKept pool.shared pool.strands)
    (stepped : wakeProgram.machine.step pool turn = some (output, next)) :
    WakeKept next.shared next.strands := by
  refine Program.invariant_of_step WakeKept ?_ ?_ ?_ kept
    (Program.obeys_of_forall (fun _ _ _ _ => trivial) pool turn) stepped
  · intro state first second perm kept
    exact kept.of_perm perm
  · intro state strands routine behind point kept entered
    cases entered
    exact kept.enter routine
  · intro state point rest chance touch behind later kept _ advanced
    have keeps := kept.advance chance
    rwa [Option.some.inj advanced] at keeps

/-! ## The irps -/

/-- The irp that a step touches is outstanding. -/
theorem WakeKept.isOpen
    (kept : WakeKept state (point :: rest))
    (chance : WakeChance)
    {irp : Nat}
    (touched : (state.advance chance point).1 = some irp) :
    state.irps.IsOpen irp := by
  obtain ⟨stage, holds⟩ := kept
  have held (role : WakeRole) (taken : point.role = some role)
      (same : role.irp = some irp) : state.irps.IsOpen irp :=
    holds.irps.isOpen (WakeStage.mem_irps
      ((holds.roles_cons taken).mem_iff.mp List.mem_cons_self) same)
  cases point with
  | lower other | cancelIrp other | runThrough other | cancelComplete other =>
      cases touched
      exact held _ rfl rfl
  | requestIrp =>
      simp only [WakeState.advance] at touched
      split at touched <;> cases touched
  | _ => cases touched

/-- An irp that is outstanding is with somebody. -/
theorem WakeHolds.exists_point
    (holds : WakeHolds state stage strands)
    {irp : Nat}
    (isOpen : state.irps.IsOpen irp) :
    ∃ point ∈ strands, point.irp = some irp := by
  have member := holds.irps.mem_of_isOpen isOpen
  have role : ∃ role ∈ stage.roles, ∀ point : WakePoint,
      point.role = some role → point.irp = some irp := by
    cases stage <;> simp only [WakeStage.irps, List.mem_singleton,
      List.not_mem_nil] at member <;> subst member <;>
      refine ⟨_, List.mem_cons_self, ?_⟩ <;> intro point role <;>
      cases point <;> cases role <;> rfl
  obtain ⟨role, inStage, irp_eq⟩ := role
  obtain ⟨point, inStrands, taken⟩ :=
    List.mem_filterMap.mp (holds.roles.mem_iff.mpr inStage)
  exact ⟨point, inStrands, irp_eq point taken⟩

/-- A step between kept states has the property. -/
theorem WakeKept.once
    {pool next : Pool WakeState WakePoint}
    (kept : WakeKept pool.shared pool.strands)
    (later : WakeKept next.shared next.strands)
    (stepped : wakeProgram.machine.step pool turn = some (output, next)) :
    WakeOnce pool output next := by
  obtain ⟨stage, holds⟩ := later
  have distinct : (stage.irps ++ next.shared.irps.released).Nodup :=
    holds.irps.nodup_iff.mpr List.nodup_range
  constructor
  · intro first second firstOpen secondOpen
    have inFirst := holds.irps.mem_of_isOpen firstOpen
    have inSecond := holds.irps.mem_of_isOpen secondOpen
    cases stage <;> simp_all [WakeStage.irps]
  · intro touch member irp touched
    rcases Program.cases_of_step stepped with
      ⟨entry, shared, point, rfl, entered, rfl, rfl⟩ |
      ⟨index, chance, point, rest, result, shared, after, rfl, picked,
        advanced, rfl, rfl⟩
    · cases member
    · cases member
      apply (kept.of_perm (perm_of_pick picked)).isOpen chance
      rw [Option.some.inj advanced]
      exact touched
  · exact (List.nodup_append.mp distinct).2.1
  · intro irp isOpen
    exact holds.exists_point isOpen
  · intro ended irp issued
    by_contra notReleased
    obtain ⟨point, member, -⟩ := holds.exists_point ⟨issued, notReleased⟩
    rw [ended] at member
    cases member

/-! ## Runs -/

/-- In every run at most one irp is outstanding, and each is completed once, by
the completion that runs through or by a canceller, and is not touched
afterwards. -/
theorem always_wakeOnce
    (turns : List (Turn WakeRoutine WakeChance)) :
    wakeProgram.machine.Always (fun pool _ touch next => WakeOnce pool touch next)
      wakeStart turns := by
  apply Machine.always_of_admits
    (fun pool => WakeKept pool.shared pool.strands) ?_ wakeKept_start
    (Machine.admits_of_forall (fun _ _ => trivial) wakeStart turns)
  intro pool turn touch next kept _ stepped
  have later := kept.step stepped
  exact ⟨kept.once later stepped, later⟩

end Usb
end BthEmul
