import BthEmul.Usb.SelectiveSuspend

/-!
# Who owns an idle request

An idle request passes through stages: it is pending with its irp in the device
extension, a canceller may have grabbed the irp, and from then on whoever of the
canceller and the completion routine counts down last frees it. The stage says
which routines are at work on the irp and what the count is.
-/

namespace BthEmul

open Foundation

namespace Usb

/-! ## Stages -/

/-- What a routine does to an irp. -/
inductive IdleRole
  /-- The request is with its submitter, the lower driver or the completion
  routine. -/
  | active
  /-- A canceller grabbed the irp and has not counted down. -/
  | cancelling
  /-- The completion routine has not counted down. -/
  | waiting
  /-- The irp is about to be freed. -/
  | freeing
  deriving DecidableEq

namespace IdlePoint

/-- What a routine does to which irp. -/
def role : IdlePoint → Option (IdleRole × Nat)
  | check irp _ | withdraw irp _ | callDriver irp | lower irp
  | complete irp => some (.active, irp)
  | freeInfo irp _ | freeIrp irp | freeAndSet irp => some (.freeing, irp)
  | completed irp _ found =>
      some (if found then .freeing else .waiting, irp)
  | completeDecrement irp => some (.waiting, irp)
  | cancelIrp irp | cancelDecrement irp => some (.cancelling, irp)
  | submit | request | dropInfo _ | setEvent | cancel => none

/-- The callback information of a request that its submitter still has. -/
def submittedInfo : IdlePoint → Option Nat
  | check _ info | withdraw _ info => some info
  | _ => none

/-- The irp of a withdrawn request, which its submitter is about to free. -/
def withdrawn : IdlePoint → Option Nat
  | freeInfo irp _ | freeIrp irp => some irp
  | _ => none

/-- The routine sets the event before it ends. -/
def sets : IdlePoint → Bool
  | completed _ _ found => found
  | freeAndSet _ | setEvent => true
  | _ => false

end IdlePoint

/-- How far the latest request is. -/
inductive IdleStage
  /-- There is none. -/
  | idle
  /-- Its irp is in the device extension. -/
  | pending (irp : Nat)
  /-- A canceller grabbed the irp. -/
  | grabbed (irp : Nat)
  /-- The canceller has counted down. -/
  | cancelled (irp : Nat)
  /-- The request has ended; neither has counted down. -/
  | both (irp : Nat)
  /-- The completion routine has counted down. -/
  | canceller (irp : Nat)
  /-- The canceller has counted down. -/
  | completion (irp : Nat)
  /-- The request was withdrawn; the canceller has not counted down. -/
  | stray (irp : Nat)
  deriving DecidableEq

namespace IdleStage

/-- `IdleReqPend`. -/
def pends : IdleStage → Bool
  | pending _ | grabbed _ | cancelled _ => true
  | idle | both _ | canceller _ | completion _ | stray _ => false

/-- `PendingIdleIrp`. -/
def pendingIrp : IdleStage → Option Nat
  | pending irp => some irp
  | _ => none

/-- `FreeIdleIrpCount`, where it matters. -/
def count : IdleStage → Option Int
  | idle => none
  | pending _ | grabbed _ | both _ | stray _ => some 2
  | cancelled _ | canceller _ | completion _ => some 1

/-- Who is at work on the irp. -/
def roles : IdleStage → List (IdleRole × Nat)
  | idle => []
  | pending irp | cancelled irp => [(.active, irp)]
  | grabbed irp => [(.active, irp), (.cancelling, irp)]
  | both irp => [(.waiting, irp), (.cancelling, irp)]
  | canceller irp | stray irp => [(.cancelling, irp)]
  | completion irp => [(.waiting, irp)]

/-- The irp that is not yet about to be freed. -/
def owned : IdleStage → List Nat
  | idle | stray _ => []
  | pending irp | grabbed irp | cancelled irp | both irp | canceller irp
  | completion irp => [irp]

/-- Somebody will set the event behind the end of the request. -/
def unsettled : IdleStage → Bool
  | idle | stray _ => false
  | _ => true

end IdleStage

/-- The roles of irps that are about to be freed. -/
def freeingRoles (freeing : List Nat) : List (IdleRole × Nat) :=
  freeing.map fun irp => (.freeing, irp)

/-- The state of a request agrees with its stage and with the routines. -/
structure IrpHolds
    (state : IdleState)
    (stage : IdleStage)
    (freeing : List Nat)
    (strands : List IdlePoint) : Prop where
  idleReqPend : state.idleReqPend = stage.pends
  pendingIdleIrp : state.pendingIdleIrp = stage.pendingIrp
  count : ∀ count ∈ stage.count, state.freeIdleIrpCount = count
  roles : (strands.filterMap IdlePoint.role).Perm
    (stage.roles ++ freeingRoles freeing)
  irps : state.irps.Accounts (stage.owned ++ freeing)
  event : state.noIdleReqPendEvent = true ∨ stage.unsettled = true ∨
    ∃ point ∈ strands, point.sets
  stray : ∀ irp, stage = .stray irp → .cancelIrp irp ∈ strands →
    ∃ point ∈ strands, point.withdrawn = some irp

/-- The callback information is in the device extension while the request is,
or about to be freed. -/
structure InfoHolds
    (state : IdleState)
    (strands : List IdlePoint) : Prop where
  infos : state.infos.Accounts
    (state.idleCallbackInfo.toList ++ strands.filterMap IdlePoint.info)
  present : state.idleCallbackInfo.isSome = state.idleReqPend
  submitted : ∀ point ∈ strands, ∀ info ∈ point.submittedInfo,
    state.idleCallbackInfo = some info

/-- The state agrees with the routines. -/
def IdleKept (state : IdleState) (strands : List IdlePoint) : Prop :=
  (∃ stage freeing, IrpHolds state stage freeing strands) ∧
    InfoHolds state strands

/-! ## The order of the strands -/

theorem IdleKept.of_perm
    (kept : IdleKept state first)
    (perm : first.Perm second) : IdleKept state second := by
  obtain ⟨⟨stage, freeing, irps⟩, infos⟩ := kept
  refine ⟨⟨stage, freeing, ?_⟩, ?_⟩
  · exact {
      irps with
      roles := (perm.filterMap _).symm.trans irps.roles
      event := by simpa only [perm.mem_iff] using irps.event
      stray := by simpa only [perm.mem_iff] using irps.stray }
  · exact {
      infos with
      infos := infos.infos.of_perm ((perm.filterMap _).append_left _)
      submitted := by simpa only [perm.mem_iff] using infos.submitted }

theorem idleKept_start : IdleKept .start [] := by
  refine ⟨⟨.idle, [], ?_⟩, ?_⟩
  · exact {
      idleReqPend := rfl
      pendingIdleIrp := rfl
      count := nofun
      roles := .nil
      irps := Ledger.accounts_fresh
      event := .inl rfl
      stray := nofun }
  · exact {
      infos := Ledger.accounts_fresh
      present := rfl
      submitted := nofun }

/-! ## Which stage a routine is in -/

/-- An irp in a role other than the last one is not about to be freed. -/
theorem mem_roles_of_mem
    (member : (role, irp) ∈ stage.roles ++ freeingRoles freeing)
    (other : role ≠ .freeing) : (role, irp) ∈ IdleStage.roles stage := by
  rcases List.mem_append.mp member with member | member
  · exact member
  · obtain ⟨each, -, same⟩ := List.mem_map.mp member
    cases same
    exact absurd rfl other

/-- The stages of a request that has not ended. -/
theorem active_cases
    {stage : IdleStage}
    (roles : ((.active, irp) :: others).Perm
      (stage.roles ++ freeingRoles freeing)) :
    (stage = .pending irp ∧ others.Perm (freeingRoles freeing)) ∨
      (stage = .grabbed irp ∧
        others.Perm ((.cancelling, irp) :: freeingRoles freeing)) ∨
      (stage = .cancelled irp ∧ others.Perm (freeingRoles freeing)) := by
  have member := mem_roles_of_mem
    (roles.mem_iff.mp List.mem_cons_self) (by decide)
  cases stage <;> simp only [IdleStage.roles, List.mem_cons, Prod.mk.injEq,
    reduceCtorEq, true_and, false_and, List.not_mem_nil, or_false, or_self]
    at member <;> subst member
  · exact .inl ⟨rfl, roles.cons_inv⟩
  · exact .inr (.inl ⟨rfl, roles.cons_inv⟩)
  · exact .inr (.inr ⟨rfl, roles.cons_inv⟩)

/-- The stages in which a canceller has not counted down. -/
theorem cancelling_cases
    {stage : IdleStage}
    (roles : ((.cancelling, irp) :: others).Perm
      (stage.roles ++ freeingRoles freeing)) :
    (stage = .grabbed irp ∧
        others.Perm ((.active, irp) :: freeingRoles freeing)) ∨
      (stage = .both irp ∧
        others.Perm ((.waiting, irp) :: freeingRoles freeing)) ∨
      (stage = .canceller irp ∧ others.Perm (freeingRoles freeing)) ∨
      (stage = .stray irp ∧ others.Perm (freeingRoles freeing)) := by
  have member := mem_roles_of_mem
    (roles.mem_iff.mp List.mem_cons_self) (by decide)
  cases stage <;> simp only [IdleStage.roles, List.mem_cons, Prod.mk.injEq,
    reduceCtorEq, true_and, false_and, List.not_mem_nil, or_false, or_self,
    false_or] at member <;> subst member
  · exact .inl ⟨rfl, (roles.trans (.swap ..)).cons_inv⟩
  · exact .inr (.inl ⟨rfl, (roles.trans (.swap ..)).cons_inv⟩)
  · exact .inr (.inr (.inl ⟨rfl, roles.cons_inv⟩))
  · exact .inr (.inr (.inr ⟨rfl, roles.cons_inv⟩))

/-- The stages in which the completion routine has not counted down. -/
theorem waiting_cases
    {stage : IdleStage}
    (roles : ((.waiting, irp) :: others).Perm
      (stage.roles ++ freeingRoles freeing)) :
    (stage = .both irp ∧
        others.Perm ((.cancelling, irp) :: freeingRoles freeing)) ∨
      (stage = .completion irp ∧ others.Perm (freeingRoles freeing)) := by
  have member := mem_roles_of_mem
    (roles.mem_iff.mp List.mem_cons_self) (by decide)
  cases stage <;> simp only [IdleStage.roles, List.mem_cons, Prod.mk.injEq,
    reduceCtorEq, true_and, false_and, List.not_mem_nil, or_false, or_self]
    at member <;> subst member
  · exact .inl ⟨rfl, roles.cons_inv⟩
  · exact .inr ⟨rfl, roles.cons_inv⟩

/-- An irp in the last role is one of those that are about to be freed. -/
theorem freeing_cases
    {stage : IdleStage}
    (roles : ((.freeing, irp) :: others).Perm
      (stage.roles ++ freeingRoles freeing)) :
    freeing.Perm (irp :: freeing.erase irp) ∧
      others.Perm (stage.roles ++ freeingRoles (freeing.erase irp)) := by
  have member : irp ∈ freeing := by
    rcases List.mem_append.mp (roles.mem_iff.mp List.mem_cons_self) with
      member | member
    · cases stage <;> simp [IdleStage.roles] at member
    · obtain ⟨each, inFreeing, same⟩ := List.mem_map.mp member
      cases same
      exact inFreeing
  have perm := List.perm_cons_erase member
  refine ⟨perm, ?_⟩
  have moved : (stage.roles ++ freeingRoles freeing).Perm
      ((.freeing, irp) ::
        (stage.roles ++ freeingRoles (freeing.erase irp))) :=
    ((perm.map _).append_left _).trans List.perm_middle
  exact (roles.trans moved).cons_inv

/-! ## Steps that leave the request as it is -/

/-- A step that leaves what the others rely on leaves the request. -/
theorem IrpHolds.steady
    (holds : IrpHolds state stage freeing (point :: rest))
    {next : IdleState}
    (idleReqPend : next.idleReqPend = state.idleReqPend)
    (pendingIdleIrp : next.pendingIdleIrp = state.pendingIdleIrp)
    (count : next.freeIdleIrpCount = state.freeIdleIrpCount)
    (irps : next.irps = state.irps)
    (event : next.noIdleReqPendEvent = true ∨
      next.noIdleReqPendEvent = state.noIdleReqPendEvent ∧
        (point.sets → ∃ each ∈ later, each.sets))
    (roles : later.filterMap IdlePoint.role = point.role.toList)
    (stray : ∀ irp, .cancelIrp irp ∉ later)
    (withdrawn : ∀ irp, point.withdrawn = some irp →
      ∃ each ∈ later, each.withdrawn = some irp) :
    IrpHolds next stage freeing (later ++ rest) where
  idleReqPend := idleReqPend.trans holds.idleReqPend
  pendingIdleIrp := pendingIdleIrp.trans holds.pendingIdleIrp
  count each member := count.trans (holds.count each member)
  roles := by
    have before := holds.roles
    rw [← List.singleton_append, List.filterMap_append] at before
    rw [List.filterMap_append, roles]
    cases present : point.role <;> simpa [present] using before
  irps := irps ▸ holds.irps
  event := by
    rcases event with set | ⟨same, hands⟩
    · exact .inl set
    rcases holds.event with set | unsettled | ⟨each, member, sets⟩
    · exact .inl (same.trans set)
    · exact .inr (.inl unsettled)
    · right
      right
      rcases List.mem_cons.mp member with rfl | member
      · obtain ⟨each, inLater, sets⟩ := hands sets
        exact ⟨each, List.mem_append_left _ inLater, sets⟩
      · exact ⟨each, List.mem_append_right _ member, sets⟩
  stray irp atStage cancels := by
    rcases List.mem_append.mp cancels with inLater | inRest
    · exact absurd inLater (stray irp)
    obtain ⟨each, member, withdraws⟩ :=
      holds.stray irp atStage (List.mem_cons_of_mem _ inRest)
    rcases List.mem_cons.mp member with rfl | member
    · obtain ⟨each, inLater, withdraws⟩ := withdrawn irp withdraws
      exact ⟨each, List.mem_append_left _ inLater, withdraws⟩
    · exact ⟨each, List.mem_append_right _ member, withdraws⟩

/-- A step that leaves what the others rely on leaves the callback
information. -/
theorem InfoHolds.steady
    (holds : InfoHolds state (point :: rest))
    {next : IdleState}
    (idleReqPend : next.idleReqPend = state.idleReqPend)
    (idleCallbackInfo : next.idleCallbackInfo = state.idleCallbackInfo)
    (infos : next.infos = state.infos)
    (info : later.filterMap IdlePoint.info = point.info.toList)
    (submitted : ∀ each ∈ later, ∀ info ∈ each.submittedInfo,
      point.submittedInfo = some info) :
    InfoHolds next (later ++ rest) where
  infos := by
    have before := holds.infos
    rw [← List.singleton_append, List.filterMap_append] at before
    rw [infos, idleCallbackInfo, List.filterMap_append, info]
    cases present : point.info <;> simpa [present] using before
  present := by rw [idleCallbackInfo, idleReqPend, holds.present]
  submitted each member info inInfo := by
    rw [idleCallbackInfo]
    rcases List.mem_append.mp member with inLater | inRest
    · exact holds.submitted point List.mem_cons_self info
        (submitted each inLater info inInfo)
    · exact holds.submitted each (List.mem_cons_of_mem _ inRest) info inInfo

/-- Freeing callback information that was about to be freed. -/
theorem InfoHolds.free
    (holds : InfoHolds state (point :: rest))
    {next : IdleState}
    (idleReqPend : next.idleReqPend = state.idleReqPend)
    (idleCallbackInfo : next.idleCallbackInfo = state.idleCallbackInfo)
    (present : point.info = some info)
    (infos : next.infos = state.infos.release info)
    (none_ : later.filterMap IdlePoint.info = [])
    (submitted : ∀ each ∈ later, each.submittedInfo = none) :
    InfoHolds next (later ++ rest) where
  infos := by
    have before := holds.infos
    rw [List.filterMap_cons, present] at before
    rw [infos, idleCallbackInfo, List.filterMap_append, none_]
    exact (before.of_perm List.perm_middle).release
  present := by rw [idleCallbackInfo, idleReqPend, holds.present]
  submitted each member info inInfo := by
    rw [idleCallbackInfo]
    rcases List.mem_append.mp member with inLater | inRest
    · rw [submitted each inLater] at inInfo
      cases inInfo
    · exact holds.submitted each (List.mem_cons_of_mem _ inRest) info inInfo

/-- The callback information leaves the device extension to be freed. -/
theorem InfoHolds.takeInfo
    (holds : InfoHolds state (point :: rest))
    {next : IdleState}
    (idleReqPend : next.idleReqPend = false)
    (idleCallbackInfo : next.idleCallbackInfo = none)
    (infos : next.infos = state.infos)
    (none_ : point.info = none)
    (taken : later.info = state.idleCallbackInfo)
    (notSubmitted : later.submittedInfo = none)
    (alone : ∀ other ∈ rest, other.submittedInfo = none) :
    InfoHolds next ([later] ++ rest) where
  infos := by
    have before := holds.infos
    rw [List.filterMap_cons, none_] at before
    rw [infos, idleCallbackInfo, List.filterMap_append]
    cases present : state.idleCallbackInfo <;>
      simpa [taken, present] using before
  present := by
    rw [idleCallbackInfo, idleReqPend]
    rfl
  submitted each member info inInfo := by
    rcases List.mem_append.mp member with isLater | inRest
    · rw [List.mem_singleton.mp isLater, notSubmitted] at inInfo
      cases inInfo
    · rw [alone each inRest] at inInfo
      cases inInfo

/-! ## Steps that change the stage -/

/-- The roles of the other strands, next to a strand in a role. -/
theorem IrpHolds.roles_cons
    (holds : IrpHolds state stage freeing (point :: rest))
    (role : point.role = some taken) :
    (taken :: rest.filterMap IdlePoint.role).Perm
      (stage.roles ++ freeingRoles freeing) := by
  have roles := holds.roles
  rwa [List.filterMap_cons, role] at roles

/-- Only one strand has a request that has not ended. -/
theorem IrpHolds.alone
    (holds : IrpHolds state stage freeing (point :: rest))
    (role : point.role = some (.active, irp)) :
    ∀ other ∈ rest, other.submittedInfo = none := by
  have inactive (other : Nat) :
      (IdleRole.active, other) ∉ rest.filterMap IdlePoint.role := by
    intro member
    have notFreeing : (IdleRole.active, other) ∉ freeingRoles freeing := by
      simp [freeingRoles]
    rcases active_cases (holds.roles_cons role) with
      ⟨-, others⟩ | ⟨-, others⟩ | ⟨-, others⟩
    · exact notFreeing (others.mem_iff.mp member)
    · rcases List.mem_cons.mp (others.mem_iff.mp member) with same | member
      · cases same
      · exact notFreeing member
    · exact notFreeing (others.mem_iff.mp member)
  intro other member
  by_contra has
  have found (otherIrp : Nat) (same : other.role = some (.active, otherIrp)) :
      False :=
    inactive otherIrp (List.mem_filterMap.mpr ⟨other, member, same⟩)
  cases other with
  | check otherIrp info => exact found otherIrp rfl
  | withdraw otherIrp info => exact found otherIrp rfl
  | _ => exact has rfl

/-- Without a request and without a routine that has to count down there is no
request at all. -/
theorem IrpHolds.stage_eq_idle
    (holds : IrpHolds state stage freeing strands)
    (notPending : state.idleReqPend = false)
    (settled : ∀ point ∈ strands, ¬ point.decrements) : stage = .idle := by
  have unused (role : IdleRole × Nat)
      (other : role.1 = .cancelling ∨ role.1 = .waiting) :
      role ∉ stage.roles := by
    intro member
    obtain ⟨point, inStrands, same⟩ := List.mem_filterMap.mp
      (holds.roles.mem_iff.mpr (List.mem_append_left _ member))
    apply settled point inStrands
    cases point with
    | completed irp info found =>
        cases same
        cases found with
        | true => rcases other with same | same <;> cases same
        | false => rfl
    | completeDecrement irp | cancelIrp irp | cancelDecrement irp => rfl
    | _ =>
        cases same <;> rcases other with same | same <;> cases same
  have pends := holds.idleReqPend.symm.trans notPending
  cases stage with
  | idle => rfl
  | pending irp | grabbed irp | cancelled irp => cases pends
  | both irp | completion irp =>
      exact absurd List.mem_cons_self (unused (.waiting, irp) (.inr rfl))
  | canceller irp | stray irp =>
      exact absurd List.mem_cons_self (unused (.cancelling, irp) (.inl rfl))

/-- The event, of a routine that does not set it, is left to the others. -/
theorem IrpHolds.event_rest
    (holds : IrpHolds state stage freeing (point :: rest))
    (quiet : point.sets = false)
    (settled : stage.unsettled = false)
    (later : List IdlePoint) :
    state.noIdleReqPendEvent = true ∨
      ∃ each ∈ later ++ rest, each.sets := by
  rcases holds.event with set | unsettled | ⟨each, member, sets⟩
  · exact .inl set
  · rw [settled] at unsettled
    cases unsettled
  · right
    rcases List.mem_cons.mp member with rfl | member
    · rw [quiet] at sets
      cases sets
    · exact ⟨each, List.mem_append_right _ member, sets⟩

/-- A request begins where there is none. -/
theorem IrpHolds.request
    (holds : IrpHolds state .idle freeing (.request :: rest))
    {next : IdleState}
    (idleReqPend : next.idleReqPend = true)
    (pendingIdleIrp : next.pendingIdleIrp = some state.irps.issued)
    (count : next.freeIdleIrpCount = 2)
    (irps : next.irps = state.irps.issue)
    (info : Nat) :
    IrpHolds next (.pending state.irps.issued) freeing
      ([.check state.irps.issued info] ++ rest) where
  idleReqPend := idleReqPend
  pendingIdleIrp := pendingIdleIrp
  count each member := by
    cases member
    exact count
  roles := holds.roles.cons (IdleRole.active, state.irps.issued)
  irps := irps ▸ holds.irps.issue.of_perm (List.perm_append_singleton _ _)
  event := .inr (.inl rfl)
  stray := nofun

/-- A request is withdrawn. -/
theorem IrpHolds.withdraw
    (holds : IrpHolds state stage freeing (.withdraw irp info :: rest)) :
    ∃ stage freeing, IrpHolds state.withdrawSection stage freeing
      ([.freeInfo irp info] ++ rest) := by
  have irps := holds.irps
  have count := holds.count
  have roles := holds.roles_cons rfl
  rcases active_cases roles with
    ⟨rfl, others⟩ | ⟨rfl, others⟩ | ⟨rfl, others⟩
  · exact ⟨.idle, irp :: freeing, {
      idleReqPend := rfl
      pendingIdleIrp := rfl
      count := nofun
      roles := others.cons (IdleRole.freeing, irp)
      irps := irps
      event := .inl rfl
      stray := nofun }⟩
  · refine ⟨.stray irp, irp :: freeing, {
      idleReqPend := rfl
      pendingIdleIrp := rfl
      count := count
      roles := (others.cons (IdleRole.freeing, irp)).trans (.swap ..)
      irps := irps
      event := .inl rfl
      stray := ?_ }⟩
    rintro other ⟨⟩ -
    exact ⟨.freeInfo irp info, List.mem_cons_self, rfl⟩
  · exact ⟨.idle, irp :: freeing, {
      idleReqPend := rfl
      pendingIdleIrp := rfl
      count := nofun
      roles := others.cons (IdleRole.freeing, irp)
      irps := irps
      event := .inl rfl
      stray := nofun }⟩

/-- The completion routine ends a request. -/
theorem IrpHolds.complete
    (holds : IrpHolds state stage freeing (.complete irp :: rest)) :
    ∃ stage freeing, IrpHolds (state.completeSection irp).2.1 stage freeing
      ((state.completeSection irp).2.2 ++ rest) := by
  have irps := holds.irps
  have count := holds.count
  have found := holds.pendingIdleIrp
  have roles := holds.roles_cons rfl
  rcases active_cases roles with
    ⟨rfl, others⟩ | ⟨rfl, others⟩ | ⟨rfl, others⟩
  · refine ⟨.idle, irp :: freeing, {
      idleReqPend := rfl
      pendingIdleIrp := rfl
      count := nofun
      roles := ?_
      irps := irps
      event := .inr (.inr ⟨_, List.mem_cons_self, ?_⟩)
      stray := nofun }⟩
    · rw [IdleState.completeSection, found]
      exact others.cons (IdleRole.freeing, irp)
    · rw [found]
      rfl
  · refine ⟨.both irp, freeing, {
      idleReqPend := rfl
      pendingIdleIrp := rfl
      count := count
      roles := ?_
      irps := irps
      event := .inr (.inl rfl)
      stray := nofun }⟩
    rw [IdleState.completeSection, found]
    exact others.cons (IdleRole.waiting, irp)
  · refine ⟨.completion irp, freeing, {
      idleReqPend := rfl
      pendingIdleIrp := rfl
      count := count
      roles := ?_
      irps := irps
      event := .inr (.inl rfl)
      stray := nofun }⟩
    rw [IdleState.completeSection, found]
    exact others.cons (IdleRole.waiting, irp)

/-- A count of two goes down to one, and nothing else happens. -/
theorem decrement_two
    {state : IdleState}
    (two : state.freeIdleIrpCount = 2)
    (irp : Nat) :
    (state.decrement irp).2 = ({ state with freeIdleIrpCount := 1 }, []) := by
  rw [IdleState.decrement, two]
  rfl

/-- A count of one goes down to zero, and the irp is about to be freed. -/
theorem decrement_one
    {state : IdleState}
    (one : state.freeIdleIrpCount = 1)
    (irp : Nat) :
    (state.decrement irp).2 =
      ({ state with freeIdleIrpCount := 0 }, [.freeAndSet irp]) := by
  rw [IdleState.decrement, one]
  rfl

/-- The first to count down leaves the irp to the other. -/
theorem IrpHolds.decrement_first
    (holds : IrpHolds state stage freeing (point :: rest))
    (next : IdleStage)
    (two : stage.count = some 2)
    (one : next.count = some 1)
    (pends : next.pends = stage.pends)
    (pendingIrp : next.pendingIrp = stage.pendingIrp)
    (owned : next.owned = stage.owned)
    (unsettled : next.unsettled = true)
    (notStray : ∀ irp, next ≠ .stray irp)
    (others : (rest.filterMap IdlePoint.role).Perm
      (next.roles ++ freeingRoles freeing)) :
    ∃ stage freeing, IrpHolds (state.decrement irp).2.1 stage freeing
      ((state.decrement irp).2.2 ++ rest) := by
  rw [decrement_two (holds.count 2 two)]
  exact ⟨next, freeing, {
    idleReqPend := holds.idleReqPend.trans pends.symm
    pendingIdleIrp := holds.pendingIdleIrp.trans pendingIrp.symm
    count := by
      rw [one]
      rintro _ ⟨⟩
      rfl
    roles := others
    irps := owned ▸ holds.irps
    event := .inr (.inl unsettled)
    stray := fun irp stray => absurd stray (notStray irp) }⟩

/-- The last to count down is about to free the irp. -/
theorem IrpHolds.decrement_last
    (holds : IrpHolds state stage freeing (point :: rest))
    (one : stage.count = some 1)
    (ended : stage.pends = false)
    (owned : stage.owned = [irp])
    (others : (rest.filterMap IdlePoint.role).Perm (freeingRoles freeing)) :
    ∃ stage freeing, IrpHolds (state.decrement irp).2.1 stage freeing
      ((state.decrement irp).2.2 ++ rest) := by
  have count := holds.count 1 one
  have pending := holds.pendingIdleIrp
  have irps := holds.irps
  rw [owned] at irps
  rw [decrement_one count]
  refine ⟨.idle, irp :: freeing, {
    idleReqPend := holds.idleReqPend.trans ended
    pendingIdleIrp := ?_
    count := nofun
    roles := others.cons (IdleRole.freeing, irp)
    irps := irps
    event := .inr (.inr ⟨.freeAndSet irp, List.mem_cons_self, rfl⟩)
    stray := nofun }⟩
  cases stage with
  | pending irp => cases ended
  | _ => exact pending

/-- The completion routine counts down. -/
theorem IrpHolds.completeDecrement
    (holds : IrpHolds state stage freeing (.completeDecrement irp :: rest)) :
    ∃ stage freeing, IrpHolds (state.decrement irp).2.1 stage freeing
      ((state.decrement irp).2.2 ++ rest) := by
  have roles := holds.roles_cons rfl
  rcases waiting_cases roles with ⟨rfl, others⟩ | ⟨rfl, others⟩
  · exact holds.decrement_first (.canceller irp) rfl rfl rfl rfl rfl rfl nofun
      others
  · exact holds.decrement_last rfl rfl rfl others

/-- A canceller counts down. -/
theorem IrpHolds.cancelDecrement
    (holds : IrpHolds state stage freeing (.cancelDecrement irp :: rest)) :
    ∃ stage freeing, IrpHolds (state.decrement irp).2.1 stage freeing
      ((state.decrement irp).2.2 ++ rest) := by
  have roles := holds.roles_cons rfl
  rcases cancelling_cases roles with
    ⟨rfl, others⟩ | ⟨rfl, others⟩ | ⟨rfl, others⟩ | ⟨rfl, others⟩
  · exact holds.decrement_first (.cancelled irp) rfl rfl rfl rfl rfl rfl nofun
      others
  · exact holds.decrement_first (.completion irp) rfl rfl rfl rfl rfl rfl nofun
      others
  · exact holds.decrement_last rfl rfl rfl others
  · have count := holds.count 2 rfl
    have event := holds.event_rest rfl rfl []
    rw [decrement_two count]
    exact ⟨.idle, freeing, {
      idleReqPend := holds.idleReqPend
      pendingIdleIrp := holds.pendingIdleIrp
      count := nofun
      roles := others
      irps := holds.irps
      event := event.imp_right .inr
      stray := nofun }⟩

/-- A canceller takes the irp out of the device extension. -/
theorem IrpHolds.grab
    (holds : IrpHolds state stage freeing (.cancel :: rest)) :
    ∃ stage freeing,
      IrpHolds { state with pendingIdleIrp := none } stage freeing
        (state.pendingIdleIrp.toList.map .cancelIrp ++ rest) := by
  have found := holds.pendingIdleIrp
  cases stage with
  | pending irp =>
      rw [found]
      exact ⟨.grabbed irp, freeing, {
        idleReqPend := holds.idleReqPend
        pendingIdleIrp := rfl
        count := holds.count
        roles :=
          (holds.roles.cons (IdleRole.cancelling, irp)).trans (.swap ..)
        irps := holds.irps
        event := .inr (.inl rfl)
        stray := nofun }⟩
  | _ =>
      rw [found]
      refine ⟨_, freeing, holds.steady rfl found.symm rfl rfl
        (.inr ⟨rfl, nofun⟩) rfl nofun nofun⟩

/-- A routine frees an irp that was about to be freed. -/
theorem IrpHolds.free
    (holds : IrpHolds state stage freeing (point :: rest))
    (role : point.role = some (.freeing, irp))
    (later : List IdlePoint)
    (roles : later.filterMap IdlePoint.role = [])
    (sets : point.sets → ∃ each ∈ later, each.sets)
    (stray : ∀ irp, .cancelIrp irp ∉ later)
    (withdrawn : ∀ irp, point.withdrawn = some irp → .cancelIrp irp ∉ rest) :
    IrpHolds { state with irps := state.irps.release irp } stage
      (freeing.erase irp) (later ++ rest) where
  idleReqPend := holds.idleReqPend
  pendingIdleIrp := holds.pendingIdleIrp
  count := holds.count
  roles := by
    rw [List.filterMap_append, roles]
    exact (freeing_cases (holds.roles_cons role)).2
  irps := by
    have perm := (freeing_cases (holds.roles_cons role)).1
    have taken : (stage.owned ++ freeing).Perm
        (irp :: (stage.owned ++ freeing.erase irp)) :=
      (perm.append_left _).trans List.perm_middle
    exact (holds.irps.of_perm taken).release
  event := by
    rcases holds.event with set | unsettled | ⟨each, member, isSet⟩
    · exact .inl set
    · exact .inr (.inl unsettled)
    · right
      right
      rcases List.mem_cons.mp member with rfl | member
      · obtain ⟨each, inLater, isSet⟩ := sets isSet
        exact ⟨each, List.mem_append_left _ inLater, isSet⟩
      · exact ⟨each, List.mem_append_right _ member, isSet⟩
  stray other atStage cancels := by
    rcases List.mem_append.mp cancels with inLater | inRest
    · exact absurd inLater (stray other)
    obtain ⟨each, member, withdraws⟩ :=
      holds.stray other atStage (List.mem_cons_of_mem _ inRest)
    rcases List.mem_cons.mp member with rfl | member
    · exact absurd inRest (withdrawn other withdraws)
    · exact ⟨each, List.mem_append_right _ member, withdraws⟩

/-! ## Every step -/

/-- A routine goes on, in the same role. -/
theorem IdleKept.move
    (kept : IdleKept state (point :: rest))
    (later : IdlePoint)
    (role : later.role = point.role)
    (info : later.info = point.info)
    (submitted : later.submittedInfo = point.submittedInfo ∨
      later.submittedInfo = none)
    (sets : point.sets → later.sets)
    (stray : ∀ irp, later ≠ .cancelIrp irp)
    (withdrawn : point.withdrawn = none) :
    IdleKept state ([later] ++ rest) := by
  obtain ⟨⟨stage, freeing, irps⟩, infos⟩ := kept
  refine ⟨⟨stage, freeing, irps.steady rfl rfl rfl rfl ?_ ?_ ?_ ?_⟩,
    infos.steady rfl rfl rfl ?_ ?_⟩
  · exact .inr ⟨rfl, fun set => ⟨later, List.mem_cons_self, sets set⟩⟩
  · rw [← role]
    cases present : later.role <;> simp [present]
  · intro irp member
    exact stray irp (List.mem_singleton.mp member).symm
  · intro irp withdraws
    rw [withdrawn] at withdraws
    cases withdraws
  · rw [← info]
    cases present : later.info <;> simp [present]
  · intro each member info inInfo
    rw [List.mem_singleton.mp member] at inInfo
    rcases submitted with same | absent
    · exact same.symm.trans inInfo
    · rw [absent] at inInfo
      cases inInfo

/-- A routine without a role ends. -/
theorem IdleKept.leave
    (kept : IdleKept state (point :: rest))
    (role : point.role = none)
    (info : point.info = none)
    (withdrawn : point.withdrawn = none)
    {event : Bool}
    (set : event = true ∨
      event = state.noIdleReqPendEvent ∧ point.sets = false) :
    IdleKept { state with noIdleReqPendEvent := event } rest := by
  obtain ⟨⟨stage, freeing, irps⟩, infos⟩ := kept
  change IdleKept _ ([] ++ rest)
  refine ⟨⟨stage, freeing, irps.steady rfl rfl rfl rfl ?_ ?_ ?_ ?_⟩,
    infos.steady rfl rfl rfl ?_ ?_⟩
  · exact set.imp_right fun quiet => ⟨quiet.1, fun sets => by
      rw [quiet.2] at sets
      cases sets⟩
  · rw [role]
    rfl
  · exact fun _ => List.not_mem_nil
  · intro irp withdraws
    rw [withdrawn] at withdraws
    cases withdraws
  · rw [info]
    rfl
  · exact fun _ member => absurd member List.not_mem_nil

/-- The section that allocates a request keeps the invariant. -/
theorem IdleKept.request
    (kept : IdleKept state (.request :: rest))
    (conforms : IdleConforms state .request rest chance) :
    IdleKept (state.requestSection chance).2.1
      ((state.requestSection chance).2.2 ++ rest) := by
  unfold IdleState.requestSection
  by_cases pending : state.idleReqPend
  case pos =>
    rw [if_pos pending]
    exact kept.leave rfl rfl rfl (.inr ⟨rfl, rfl⟩)
  rw [if_neg pending]
  cases allocatesInfo : chance.allocatesInfo with
  | false => exact kept.leave rfl rfl rfl (.inl rfl)
  | true =>
      obtain ⟨⟨stage, freeing, irps⟩, infos⟩ := kept
      have notPending : state.idleReqPend = false := by simpa using pending
      obtain ⟨allocatesIrp, settled⟩ := conforms notPending allocatesInfo
      have atIdle : stage = .idle :=
        irps.stage_eq_idle notPending (List.forall_mem_cons.mpr ⟨nofun, settled⟩)
      subst atIdle
      rw [allocatesIrp]
      refine ⟨⟨_, _, irps.request rfl rfl rfl rfl state.infos.issued⟩, ?_⟩
      have absent : state.idleCallbackInfo = none := by
        have present := infos.present
        rw [notPending] at present
        simpa using present
      have held := infos.infos
      rw [absent] at held
      refine ⟨?_, rfl, ?_⟩
      · exact held.issue.of_perm (List.perm_append_singleton _ _)
      · intro each member info inInfo
        rcases List.mem_cons.mp member with rfl | member
        · exact inInfo
        · have submitted := infos.submitted each
            (List.mem_cons_of_mem _ member) info inInfo
          rw [absent] at submitted
          cases submitted

/-- Freeing callback information keeps the invariant. -/
theorem IdleKept.freeInfo
    (kept : IdleKept state (point :: rest))
    (present : point.info = some info)
    (later : IdlePoint)
    (role : later.role = point.role)
    (none_ : later.info = none)
    (submitted : later.submittedInfo = none)
    (sets : point.sets → later.sets)
    (stray : ∀ irp, later ≠ .cancelIrp irp)
    (withdrawn : ∀ irp, point.withdrawn = some irp →
      later.withdrawn = some irp) :
    IdleKept { state with infos := state.infos.release info }
      ([later] ++ rest) := by
  obtain ⟨⟨stage, freeing, irps⟩, infos⟩ := kept
  refine ⟨⟨stage, freeing, irps.steady rfl rfl rfl rfl ?_ ?_ ?_ ?_⟩,
    infos.free rfl rfl present rfl ?_ ?_⟩
  · exact .inr ⟨rfl, fun set => ⟨later, List.mem_cons_self, sets set⟩⟩
  · rw [← role]
    cases present : later.role <;> simp [present]
  · intro irp member
    exact stray irp (List.mem_singleton.mp member).symm
  · intro irp withdraws
    exact ⟨later, List.mem_cons_self, withdrawn irp withdraws⟩
  · rw [List.filterMap_cons, none_]
    rfl
  · intro each member
    rwa [List.mem_singleton.mp member]

/-- A count that goes down leaves the callback information. -/
theorem InfoHolds.decrement
    (holds : InfoHolds state (point :: rest))
    (info : point.info = none)
    (irp : Nat) :
    InfoHolds (state.decrement irp).2.1
      ((state.decrement irp).2.2 ++ rest) := by
  change InfoHolds
    { state with freeIdleIrpCount := state.freeIdleIrpCount - 1 } (_ ++ rest)
  unfold IdleState.decrement IdleState.quietly
  refine holds.steady rfl rfl rfl ?_ ?_
  · rw [info]
    dsimp only
    split <;> rfl
  · intro each member info inInfo
    dsimp only at member
    split at member
    · rw [List.mem_singleton.mp member] at inInfo
      cases inInfo
    · exact absurd member List.not_mem_nil

/-- A routine that frees its irp goes on to the event. -/
theorem IdleKept.freeAndSet
    (kept : IdleKept state (.freeAndSet irp :: rest)) :
    IdleKept (state.advance chance (.freeAndSet irp)).2.1
      ((state.advance chance (.freeAndSet irp)).2.2 ++ rest) := by
  obtain ⟨⟨stage, freeing, irps⟩, infos⟩ := kept
  refine ⟨⟨stage, _, irps.free rfl [.setEvent] rfl
    (fun _ => ⟨_, List.mem_cons_self, rfl⟩) ?_ nofun⟩,
    infos.steady rfl rfl rfl rfl ?_⟩
  · rintro other (_ | ⟨_, member⟩)
    cases member
  · intro each member info inInfo
    rw [List.mem_singleton.mp member] at inInfo
    cases inInfo

/-- The section that takes the pending irp to cancel it keeps the invariant. -/
theorem IdleKept.cancel
    (kept : IdleKept state (.cancel :: rest)) :
    IdleKept (state.cancelSection chance).2.1
      ((state.cancelSection chance).2.2 ++ rest) := by
  unfold IdleState.cancelSection
  split
  · exact kept.leave rfl rfl rfl (.inr ⟨rfl, rfl⟩)
  obtain ⟨⟨stage, freeing, irps⟩, infos⟩ := kept
  refine ⟨irps.grab, infos.steady rfl rfl rfl ?_ ?_⟩
  · cases state.pendingIdleIrp <;> rfl
  · intro each member info inInfo
    obtain ⟨irp, -, rfl⟩ := List.mem_map.mp member
    cases inInfo

/-- Every step that conforms keeps the invariant. -/
theorem IdleKept.advance
    (kept : IdleKept state (point :: rest))
    (conforms : IdleConforms state point rest chance) :
    IdleKept (state.advance chance point).2.1
      ((state.advance chance point).2.2 ++ rest) := by
  cases point with
  | submit =>
      unfold IdleState.advance
      dsimp only
      split
      · exact kept.move .request rfl rfl (.inl rfl) nofun nofun rfl
      · exact kept.leave rfl rfl rfl (.inr ⟨rfl, rfl⟩)
  | request => exact kept.request conforms
  | dropInfo info =>
      obtain ⟨⟨stage, freeing, irps⟩, infos⟩ := kept
      exact ⟨⟨stage, freeing, irps.steady rfl rfl rfl rfl
          (.inr ⟨rfl, nofun⟩) rfl (fun _ => List.not_mem_nil) nofun⟩,
        infos.free rfl rfl rfl rfl rfl
          fun _ member => absurd member List.not_mem_nil⟩
  | check irp info =>
      unfold IdleState.advance
      dsimp only
      split
      · exact kept.move (.withdraw irp info) rfl rfl (.inl rfl) nofun nofun rfl
      · exact kept.move (.callDriver irp) rfl rfl (.inr rfl) nofun nofun rfl
  | withdraw irp info =>
      obtain ⟨⟨stage, freeing, irps⟩, infos⟩ := kept
      have present : state.idleCallbackInfo = some info :=
        infos.submitted _ List.mem_cons_self info rfl
      exact ⟨irps.withdraw,
        infos.takeInfo rfl rfl rfl rfl present.symm rfl (irps.alone rfl)⟩
  | freeInfo irp info =>
      exact kept.freeInfo rfl (.freeIrp irp) rfl rfl rfl nofun nofun
        fun _ => id
  | freeIrp irp =>
      obtain ⟨⟨stage, freeing, irps⟩, infos⟩ := kept
      refine ⟨⟨stage, _, irps.free rfl [] rfl nofun
        (fun _ => List.not_mem_nil) ?_⟩,
        infos.steady rfl rfl rfl rfl
          fun _ member => absurd member List.not_mem_nil⟩
      rintro other ⟨⟩
      exact conforms
  | callDriver irp =>
      exact kept.move (.lower irp) rfl rfl (.inl rfl) nofun nofun rfl
  | lower irp =>
      exact kept.move (.complete irp) rfl rfl (.inl rfl) nofun nofun rfl
  | complete irp =>
      obtain ⟨⟨stage, freeing, irps⟩, infos⟩ := kept
      exact ⟨irps.complete,
        infos.takeInfo rfl rfl rfl rfl rfl rfl (irps.alone rfl)⟩
  | completed irp info found =>
      cases found with
      | true =>
          cases info with
          | some info =>
              exact kept.freeInfo rfl (.freeAndSet irp) rfl rfl rfl
                (fun _ => rfl) nofun nofun
          | none =>
              exact kept.move (.freeAndSet irp) rfl rfl (.inl rfl)
                (fun _ => rfl) nofun rfl
      | false =>
          cases info with
          | some info =>
              exact kept.freeInfo rfl (.completeDecrement irp) rfl rfl rfl
                nofun nofun nofun
          | none =>
              exact kept.move (.completeDecrement irp) rfl rfl (.inl rfl)
                nofun nofun rfl
  | completeDecrement irp =>
      obtain ⟨⟨stage, freeing, irps⟩, infos⟩ := kept
      exact ⟨irps.completeDecrement, infos.decrement rfl irp⟩
  | cancelDecrement irp =>
      obtain ⟨⟨stage, freeing, irps⟩, infos⟩ := kept
      exact ⟨irps.cancelDecrement, infos.decrement rfl irp⟩
  | freeAndSet irp =>
      exact kept.freeAndSet
  | setEvent => exact kept.leave rfl rfl rfl (.inl rfl)
  | cancel =>
      exact kept.cancel
  | cancelIrp irp =>
      exact kept.move (.cancelDecrement irp) rfl rfl (.inl rfl) nofun nofun rfl

/-! ## The property -/

/-- An irp in a role is one that a routine has. -/
theorem IdlePoint.irp_of_role
    {point : IdlePoint}
    {irp : Nat}
    (role : point.role = some (taken, irp)) : point.irp = some irp := by
  cases point <;> cases role <;> rfl

/-- A withdrawn irp is about to be freed. -/
theorem IdlePoint.role_of_withdrawn
    {point : IdlePoint}
    {irp : Nat}
    (withdraws : point.withdrawn = some irp) :
    point.role = some (.freeing, irp) := by
  cases point <;> cases withdraws <;> rfl

/-- The irp of a stage is owned, but for a stray one. -/
theorem IdleStage.owned_of_mem_roles
    {stage : IdleStage}
    {irp : Nat}
    (member : (role, irp) ∈ stage.roles) :
    stage.owned = [irp] ∨ stage = .stray irp ∧ role = .cancelling := by
  cases stage <;> grind [IdleStage.roles, IdleStage.owned]

/-- An irp in a role is held, but for a stray one that is cancelled. -/
theorem IrpHolds.isOpen
    (holds : IrpHolds state stage freeing strands)
    {irp : Nat}
    (member : point ∈ strands)
    (role : point.role = some (taken, irp)) :
    state.irps.IsOpen irp ∨ stage = .stray irp ∧ taken = .cancelling := by
  have found := holds.roles.mem_iff.mp
    (List.mem_filterMap.mpr ⟨point, member, role⟩)
  rcases List.mem_append.mp found with inStage | inFreeing
  · apply (IdleStage.owned_of_mem_roles inStage).imp_left
    intro owned
    apply holds.irps.isOpen
    rw [owned]
    exact List.mem_cons_self
  · left
    obtain ⟨each, inFreeing, same⟩ := List.mem_map.mp inFreeing
    cases same
    exact holds.irps.isOpen (List.mem_append_right _ inFreeing)

/-- The irp that a step uses is not freed. -/
theorem IdleKept.irp_isOpen
    (kept : IdleKept state (point :: rest))
    (chance : IdleChance)
    {irp : Nat}
    (used : (state.advance chance point).1.irp = some irp) :
    state.irps.IsOpen irp := by
  obtain ⟨⟨stage, freeing, irps⟩, -⟩ := kept
  have open_of_role (taken : IdleRole)
      (role : point.role = some (taken, irp))
      (other : taken ≠ .cancelling) : state.irps.IsOpen irp :=
    (irps.isOpen List.mem_cons_self role).resolve_right
      fun stray => other stray.2
  cases point with
  | callDriver other | lower other =>
      cases used
      exact open_of_role .active rfl nofun
  | freeIrp other | freeAndSet other =>
      cases used
      exact open_of_role .freeing rfl nofun
  | cancelIrp other =>
      cases used
      rcases irps.isOpen List.mem_cons_self rfl with isOpen | ⟨stray, -⟩
      · exact isOpen
      obtain ⟨each, member, withdraws⟩ :=
        irps.stray _ stray List.mem_cons_self
      exact (irps.isOpen member (IdlePoint.role_of_withdrawn withdraws)).resolve_right
        fun stray => nomatch stray.2
  | completed other info found => cases info <;> cases used
  | request =>
      simp only [IdleState.advance, IdleState.requestSection] at used
      split at used
      · cases used
      split at used
      · cases used
      split at used <;> cases used
  | cancel =>
      simp only [IdleState.advance, IdleState.cancelSection] at used
      split at used <;> cases used
  | submit | dropInfo _ | check _ _ | withdraw _ _ | freeInfo _ _ | complete _
  | completeDecrement _ | setEvent | cancelDecrement _ => cases used

/-- The callback information that a step frees is not freed. -/
theorem IdleKept.info_isOpen
    (kept : IdleKept state (point :: rest))
    (chance : IdleChance)
    {info : Nat}
    (used : (state.advance chance point).1.info = some info) :
    state.infos.IsOpen info := by
  have infos := kept.2.infos
  have present : point.info = some info := by
    cases point with
    | dropInfo other | freeInfo irp other => exact used
    | completed irp other found =>
        cases other with
        | none => cases used
        | some other => exact used
    | request =>
        simp only [IdleState.advance, IdleState.requestSection] at used
        split at used
        · cases used
        split at used
        · cases used
        split at used <;> cases used
    | cancel =>
        simp only [IdleState.advance, IdleState.cancelSection] at used
        split at used <;> cases used
    | _ => cases used
  apply infos.isOpen
  apply List.mem_append_right
  exact List.mem_filterMap.mpr ⟨point, List.mem_cons_self, present⟩

/-- Nothing is lost, and without a request nothing is left behind. -/
theorem IdleKept.quiet
    (kept : IdleKept state strands)
    (notPending : state.idleReqPend = false)
    (ended : ∀ point ∈ strands, ¬ point.inRoutine) :
    state.pendingIdleIrp = none ∧ state.idleCallbackInfo = none ∧
      state.noIdleReqPendEvent = true := by
  obtain ⟨⟨stage, freeing, irps⟩, infos⟩ := kept
  have settled : ∀ point ∈ strands, ¬ point.decrements := by
    intro point member decrements
    apply ended point member
    cases point with
    | lower irp => cases decrements
    | _ => rfl
  have atIdle := irps.stage_eq_idle notPending settled
  subst atIdle
  refine ⟨irps.pendingIdleIrp, ?_, ?_⟩
  · have present := infos.present
    rw [notPending] at present
    simpa using present
  · rcases irps.event with set | unsettled | ⟨point, member, sets⟩
    · exact set
    · cases unsettled
    · exfalso
      apply ended point member
      cases point with
      | lower irp => cases sets
      | _ => rfl

/-- A kept state owns what it has. -/
theorem IdleKept.owned
    {pool next : Pool IdleState IdlePoint}
    (kept : IdleKept pool.shared pool.strands)
    (later : IdleKept next.shared next.strands)
    (stepped : idleProgram.machine.step pool turn = some (output, next)) :
    IdleOwned pool output next := by
  have used (use : IdleUse) (member : use ∈ output) :
      ∃ point rest chance,
        IdleKept pool.shared (point :: rest) ∧
          use = (pool.shared.advance chance point).1 := by
    rcases Program.cases_of_step stepped with
      ⟨entry, shared, point, rfl, entered, rfl, rfl⟩ |
      ⟨index, choice, point, rest, result, shared, later', rfl, picked,
        advanced, rfl, rfl⟩
    · cases member
    · cases member
      refine ⟨point, rest, choice, kept.of_perm (perm_of_pick picked), ?_⟩
      exact congrArg Prod.fst (Option.some.inj advanced).symm
  constructor
  · intro use member irp inUse
    obtain ⟨point, rest, chance, kept, rfl⟩ := used use member
    exact kept.irp_isOpen chance inUse
  · intro use member info inUse
    obtain ⟨point, rest, chance, kept, rfl⟩ := used use member
    exact kept.info_isOpen chance inUse
  · intro irp isOpen
    obtain ⟨⟨stage, freeing, irps⟩, -⟩ := later
    have held := irps.irps.mem_of_isOpen isOpen
    have role : ∃ taken, (taken, irp) ∈ stage.roles ++ freeingRoles freeing := by
      rcases List.mem_append.mp held with inStage | inFreeing
      · cases stage <;> grind [IdleStage.roles, IdleStage.owned]
      · exact ⟨.freeing, List.mem_append_right _
          (List.mem_map.mpr ⟨irp, inFreeing, rfl⟩)⟩
    obtain ⟨taken, member⟩ := role
    obtain ⟨point, inStrands, role⟩ := List.mem_filterMap.mp
      (irps.roles.mem_iff.mpr member)
    exact ⟨point, inStrands, IdlePoint.irp_of_role role⟩
  · intro info isOpen
    have held := later.2.infos.mem_of_isOpen isOpen
    rcases List.mem_append.mp held with inDevice | inStrands
    · exact .inl (Option.mem_toList.mp inDevice)
    · exact .inr (List.mem_filterMap.mp inStrands)
  · intro notPending ended
    exact later.quiet notPending ended

/-! ## Runs -/

/-- A routine that begins has nothing to do with the request. -/
theorem IdleKept.enter
    (kept : IdleKept state strands)
    (routine : IdleRoutine) :
    IdleKept state (routine.entry :: strands) := by
  obtain ⟨⟨stage, freeing, irps⟩, infos⟩ := kept
  cases routine <;> exact ⟨⟨stage, freeing, {
    irps with
    roles := irps.roles
    event := irps.event.imp_right fun others => others.imp_right
      fun ⟨point, member, sets⟩ =>
        ⟨point, List.mem_cons_of_mem _ member, sets⟩
    stray := fun irp stray cancels => by
      obtain ⟨point, member, withdraws⟩ :=
        irps.stray irp stray ((List.mem_cons.mp cancels).resolve_left nofun)
      exact ⟨point, List.mem_cons_of_mem _ member, withdraws⟩ }⟩, {
    infos with
    infos := infos.infos
    submitted := List.forall_mem_cons.mpr ⟨nofun, infos.submitted⟩ }⟩

/-- Every step that conforms keeps the invariant. -/
theorem IdleKept.step
    {pool next : Pool IdleState IdlePoint}
    (kept : IdleKept pool.shared pool.strands)
    (conforms : Program.Obeys IdleConforms pool turn)
    (stepped : idleProgram.machine.step pool turn = some (output, next)) :
    IdleKept next.shared next.strands := by
  refine Program.invariant_of_step IdleKept ?_ ?_ ?_ kept conforms stepped
  · intro state first second perm kept
    exact kept.of_perm perm
  · intro state strands routine behind point kept entered
    cases entered
    exact kept.enter routine
  · intro state point rest chance use behind later kept conforms advanced
    have keeps := kept.advance conforms
    rwa [Option.some.inj advanced] at keeps

/-- A device without a routine. -/
def idleStart : Pool IdleState IdlePoint where
  shared := .start
  strands := []

/-- No irp and no callback information is lost, or used or freed once it has
been freed, and without a request nothing is left behind, in every run in which
no irp fails to be allocated behind the callback information, no request begins
before the earlier ones are counted down, and no withdrawn irp is freed before
its canceller has cancelled it. -/
theorem idleOwned_of_conforms
    (turns : List (Turn IdleRoutine IdleChance))
    (conforms : idleProgram.machine.Admits (Program.Obeys IdleConforms)
      idleStart turns) :
    idleProgram.machine.Always (fun pool _ use next => IdleOwned pool use next)
      idleStart turns := by
  apply Machine.always_of_admits
    (fun pool => IdleKept pool.shared pool.strands) ?_ idleKept_start conforms
  intro pool turn use next kept conforms stepped
  have later := kept.step conforms stepped
  exact ⟨kept.owned later stepped, later⟩

instance
    (state : IdleState)
    (rest : List IdlePoint)
    (chance : IdleChance) :
    (point : IdlePoint) → Decidable (IdleConforms state point rest chance)
  | .request =>
      inferInstanceAs (Decidable (_ = false → _ = true → _ ∧ ∀ _ ∈ rest, _))
  | .freeIrp _ => inferInstanceAs (Decidable (_ ∉ rest))
  | .submit | .dropInfo _ | .check _ _ | .withdraw _ _ | .freeInfo _ _
  | .callDriver _ | .lower _ | .complete _ | .completed _ _ _
  | .completeDecrement _ | .freeAndSet _ | .setEvent | .cancel | .cancelIrp _
  | .cancelDecrement _ => isTrue trivial

/-- An idle device whose allocations succeed. -/
def IdleChance.idle : IdleChance where
  powered := true
  canSuspend := true
  allocatesInfo := true
  allocatesIrp := true

/-- A device that is in use. -/
def IdleChance.inUse : IdleChance :=
  { IdleChance.idle with canSuspend := false }

/-- A request is cancelled while the lower driver has it, and the completion
routine counts down last. -/
def cancelledRequest : List (Turn IdleRoutine IdleChance) :=
  [.start .submitIdleRequestIrp, .advance 0 .idle, .advance 0 .idle,
    .advance 0 .idle, .advance 0 .idle, .start .cancelSelectSuspend,
    .advance 1 .inUse, .advance 1 .inUse, .advance 0 .inUse,
    .advance 1 .inUse, .advance 0 .inUse, .advance 0 .inUse,
    .advance 0 .inUse, .advance 0 .inUse, .advance 0 .inUse]

theorem idleOwned_cancelledRequest :
    idleProgram.machine.Admits (Program.Obeys IdleConforms) idleStart
        cancelledRequest ∧
      idleProgram.machine.Always
        (fun pool _ use next => IdleOwned pool use next) idleStart
        cancelledRequest ∧
      ∃ uses final,
        idleProgram.machine.run idleStart cancelledRequest =
            some (uses, final) ∧
          final.strands = [] ∧ final.shared.irps.released = [0] := by
  have conforms : idleProgram.machine.Admits (Program.Obeys IdleConforms)
      idleStart cancelledRequest := by
    decide +kernel
  refine ⟨conforms, idleOwned_of_conforms cancelledRequest conforms, ?_⟩
  decide +kernel

/-- No irp can be allocated for a request. -/
def requestWithoutIrp : List (Turn IdleRoutine IdleChance) :=
  [.start .submitIdleRequestIrp, .advance 0 .idle,
    .advance 0 { IdleChance.idle with allocatesIrp := false },
    .advance 0 .idle]

/-- The callback information is freed and left in the device extension. -/
theorem not_idleOwned_requestWithoutIrp :
    ¬ idleProgram.machine.Always
        (fun pool _ use next => IdleOwned pool use next) idleStart
        requestWithoutIrp := by
  intro always
  obtain ⟨-, always⟩ := always _ _ rfl
  obtain ⟨-, always⟩ := always _ _ rfl
  obtain ⟨-, always⟩ := always _ _ rfl
  obtain ⟨owned, -⟩ := always _ _ rfl
  have left := owned.quiet rfl nofun
  exact absurd left.2.1 (by decide)

end Usb
end BthEmul
