import BthEmul.Usb.Counting

/-!
# The count of outstanding requests

As long as every step is balanced, the count is the bias and the number of
requests in progress, for every interleaving of the requests. `RemoveEvent` is
then set only when none is in progress. `StopEvent` says as much only while the
bias is there: afterwards the count passes one with a request in progress.
-/

namespace BthEmul

open Foundation

namespace Usb

/-! ## Requests in progress -/

/-- The share of a strand in the requests in progress. -/
def Strand.share
    (select : Nat → Bool)
    (inProgress : At → Nat)
    (strand : Strand At) : Nat :=
  if select strand.request then inProgress strand.point else 0

/-- The strands of one request have its share together. -/
theorem sum_share_strands
    (select : Nat → Bool)
    (request : Nat)
    (points : List Point) :
    ((points.map (Strand.mk request ·)).map
        (Strand.share select Point.inProgress)).sum =
      if select request then inProgressAt points else 0 := by
  induction points with
  | nil => simp [inProgressAt]
  | cons point rest inductionHypothesis =>
      rw [List.map_cons, List.map_cons, List.sum_cons, inductionHypothesis]
      simp only [Strand.share, inProgressAt, List.map_cons, List.sum_cons]
      split <;> rfl

namespace Driver

/-- The requests in progress, of those selected. -/
def inProgressWhere (select : Nat → Bool) (driver : Driver) : Nat :=
  driver.pnp.elim 0 (Strand.share select PnpPoint.inProgress) +
    (driver.strands.map (Strand.share select Point.inProgress)).sum

/-- The number of requests in progress. -/
def inProgress (driver : Driver) : Nat :=
  driver.inProgressWhere fun _ => true

/-- How many times a request is in progress: a power request is in progress
together with the one for the device. -/
def inProgressOf (request : Nat) (driver : Driver) : Nat :=
  driver.inProgressWhere fun other => decide (other = request)

/-- Every increment is matched by a decrement, except those of the requests in
progress. -/
def Matched (driver : Driver) : Prop :=
  ∀ request, driver.increments.count request =
    driver.decrements.count request + driver.inProgressOf request

/-- Before the bias is given up the count is one and the number of the requests
in progress; every increment is matched by one decrement; the count is at least
the number of the requests in progress; and none of them is in progress when
`RemoveEvent` is set or while `StopEvent` is. -/
structure Accounted
    (_driver : Driver)
    (_action : DriverAction)
    (event : Option KEvent)
    (next : Driver) : Prop where
  biased : next.biased = true →
    next.device.outStandingIO.count = 1 + next.inProgress
  matched : next.Matched
  inUse : (next.inProgress : Int) ≤ next.device.outStandingIO.count
  removeEvent : event = some .removeEvent → next.inProgress = 0
  stopEvent : next.device.stopEvent = true → next.inProgress = 0

/-- The step a request takes is balanced, and quiet for the device as it is
before the step. -/
def Conforms (driver : Driver) : DriverAction → Prop
  | .startPnp _ | .start _ => True
  | .advancePnp outcome =>
      ∀ strand ∈ driver.pnp,
        ∀ taken ∈ progressPnp driver.device strand.point outcome,
          driver.device.Quiet driver.biased taken.1
  | .advance index outcome =>
      ∀ picked ∈ pick driver.strands index,
        ∀ taken ∈ progress driver.device picked.1.point outcome,
          picked.1.point.balanced outcome ∧
            driver.device.Quiet driver.biased taken.1

/-! ## Steps -/

/-- A request takes a step. Its share in the requests in progress, and who has
counted, change as the effect of the step says. -/
structure Moves
    (driver : Driver)
    (effect : Effect)
    (event : Option KEvent)
    (next : Driver)
    (request before after : Nat) : Prop where
  performed : driver.device.perform effect = some (event, next.device)
  biased : next.biased = effect.biasBehind driver.biased
  increments : next.increments =
    if effect = .increment then driver.increments ++ [request]
    else driver.increments
  decrements : next.decrements =
    if effect = .decrement then driver.decrements ++ [request]
    else driver.decrements
  shares : ∀ select,
    next.inProgressWhere select + (if select request then before else 0) =
      driver.inProgressWhere select + if select request then after else 0

/-- A plug and play request that begins is not in progress yet. -/
theorem startPnp_moves
    (driver : Driver)
    (minor : PnpMinor)
    (idle : driver.pnp = none) :
    Moves driver .skip none
      { driver with
        pnp := some ⟨driver.requests, .dispatch minor⟩
        requests := driver.requests + 1 } driver.requests 0 0 where
  performed := rfl
  biased := (Bool.and_true _).symm
  increments := rfl
  decrements := rfl
  shares select := by
    simp [inProgressWhere, idle, Strand.share, PnpPoint.inProgress]

/-- A request that begins is not in progress yet. -/
theorem start_moves
    (driver : Driver)
    (request : Request) :
    Moves driver .skip none
      { driver with
        strands := driver.strands ++ [⟨driver.requests, request.entry⟩]
        requests := driver.requests + 1 } driver.requests 0 0 where
  performed := rfl
  biased := (Bool.and_true _).symm
  increments := rfl
  decrements := rfl
  shares select := by
    have fresh : request.entry.inProgress = 0 := by cases request <;> rfl
    simp [inProgressWhere, Strand.share, fresh]

/-- The plug and play request takes a step. -/
theorem advancePnp_moves
    {driver : Driver}
    (present : driver.pnp = some strand)
    (performed : driver.perform strand.request effect = some (event, middle))
    (later : Option PnpPoint) :
    Moves driver effect event
      { middle with pnp := later.map (⟨strand.request, ·⟩) }
      strand.request strand.point.inProgress
      (later.elim 0 PnpPoint.inProgress) := by
  simp only [perform, Option.bind_eq_bind, Option.bind_eq_some_iff] at performed
  obtain ⟨⟨event', device⟩, performed, same⟩ := performed
  cases same
  refine ⟨performed, rfl, rfl, rfl, ?_⟩
  intro select
  simp only [inProgressWhere, present, Option.elim_some]
  cases later with
  | none =>
      simp only [Option.map_none, Option.elim_none, Strand.share]
      split <;> omega
  | some point =>
      simp only [Option.map_some, Option.elim_some, Strand.share]
      omega

/-- A strand of another request takes a step. -/
theorem advance_moves
    {driver : Driver}
    (picked : pick driver.strands index = some (strand, others))
    (performed : driver.perform strand.request effect = some (event, middle))
    (points : List Point) :
    Moves driver effect event
      { middle with strands := others ++ points.map (⟨strand.request, ·⟩) }
      strand.request strand.point.inProgress (inProgressAt points) := by
  simp only [perform, Option.bind_eq_bind, Option.bind_eq_some_iff] at performed
  obtain ⟨⟨event', device⟩, performed, same⟩ := performed
  cases same
  refine ⟨performed, rfl, rfl, rfl, ?_⟩
  intro select
  have parts := List.Perm.sum_nat
    ((perm_of_pick picked).map (Strand.share select Point.inProgress))
  rw [List.map_cons, List.sum_cons, Strand.share] at parts
  have own := sum_share_strands select strand.request points
  simp only [inProgressWhere, List.map_append, List.sum_append_nat]
  omega

/-- A step moves the difference of the increments and decrements of its own
request. -/
theorem Moves.counted
    {driver : Driver}
    (moves : Moves driver effect event next request before after)
    (other : Nat) :
    (next.increments.count other : Int) - next.decrements.count other =
      driver.increments.count other - driver.decrements.count other +
        if request = other then effect.delta else 0 := by
  rw [moves.increments, moves.decrements]
  cases effect with
  | increment =>
      simp only [if_true, List.count_append, List.count_singleton,
        Effect.delta, beq_iff_eq, reduceCtorEq, if_false]
      split <;> omega
  | decrement =>
      simp only [if_true, List.count_append, List.count_singleton,
        Effect.delta, beq_iff_eq, reduceCtorEq, if_false]
      split <;> omega
  | _ => simp [Effect.delta]

/-- A step keeps the increments matched exactly when it moves the count as it
moves the requests in progress. -/
theorem Moves.matched_iff
    {driver : Driver}
    (moves : Moves driver effect event next request before after)
    (matched : driver.Matched) :
    next.Matched ↔ (after : Int) = before + effect.delta := by
  constructor
  · intro later
    have counted := moves.counted request
    have earlier := matched request
    have here := later request
    have share := moves.shares fun other => decide (other = request)
    simp only [decide_true, if_true] at share
    rw [if_pos rfl] at counted
    simp only [inProgressOf] at earlier here
    omega
  · intro moved other
    have counted := moves.counted other
    have earlier := matched other
    have share := moves.shares fun each => decide (each = other)
    simp only [decide_eq_true_eq] at share
    simp only [inProgressOf] at earlier ⊢
    by_cases own : request = other
    · rw [if_pos own] at counted share
      rw [if_pos own] at share
      omega
    · rw [if_neg own] at counted share
      rw [if_neg own] at share
      omega

/-! ## The invariant -/

/-- The plug and play request has the bias where it needs it. -/
structure Sheltered (driver : Driver) : Prop where
  secured : Secured driver.device.deviceState driver.biased
  pnp : ∀ strand ∈ driver.pnp,
    strand.point.Holds driver.device.deviceState driver.biased

/-- The matching, the count and the bias of the driver. -/
structure Kept (driver : Driver) : Prop where
  matched : driver.Matched
  counts : driver.device.outStandingIO.Counts driver.biased driver.inProgress
  sheltered : driver.Sheltered

theorem kept_start : start.Kept where
  matched _ := rfl
  counts := ⟨rfl, fun _ => rfl⟩
  sheltered := ⟨nofun, nofun⟩

/-- A step that moves the count as the requests in progress leaves it the bias
and their number. -/
theorem Moves.count_eq
    {driver : Driver}
    (moves : Moves driver effect event next request before after)
    (kept : driver.Kept)
    (released : effect = .giveUpBias → driver.biased = true)
    (moved : (after : Int) = before + effect.delta) :
    next.device.outStandingIO.count =
      next.biased.toNat + (next.inProgress : Int) := by
  have counted := DeviceExtension.count_of_perform moves.performed
  rw [kept.counts.count] at counted
  have share := moves.shares fun _ => true
  simp only [if_true] at share
  simp only [inProgress] at counted ⊢
  rw [moves.biased]
  by_cases release : effect = .giveUpBias
  · rw [if_pos release, released release] at counted
    rw [release, Effect.biasBehind, decide_eq_false (not_not_intro rfl),
      Bool.and_false]
    simp only [Bool.toNat_true, Bool.toNat_false] at counted ⊢
    omega
  · rw [if_neg release] at counted
    rw [Effect.biasBehind_of_ne release]
    omega

/-- A step that moves the count as the requests in progress leaves it right
exactly when it is quiet. -/
theorem Moves.counts_iff
    {driver : Driver}
    (moves : Moves driver effect event next request before after)
    (kept : driver.Kept)
    (released : effect = .giveUpBias → driver.biased = true)
    (moved : (after : Int) = before + effect.delta) :
    next.device.outStandingIO.Counts next.biased next.inProgress ↔
      driver.device.Quiet driver.biased effect := by
  rw [moves.biased]
  apply DeviceExtension.counts_perform_iff moves.performed kept.counts released
  have share := moves.shares fun _ => true
  simp only [if_true] at share
  simp only [inProgress]
  omega

/-- A step is accounted for exactly when it moves the count as the requests in
progress, and is quiet. -/
theorem Moves.accounted_iff
    {driver : Driver}
    (moves : Moves driver effect event next request before after)
    (kept : driver.Kept)
    (released : effect = .giveUpBias → driver.biased = true) :
    Accounted driver action event next ↔
      (after : Int) = before + effect.delta ∧
        driver.device.Quiet driver.biased effect := by
  constructor
  · intro accounted
    have moved := (moves.matched_iff kept.matched).mp accounted.matched
    refine ⟨moved, ?_⟩
    apply (moves.counts_iff kept released moved).mp
    exact ⟨moves.count_eq kept released moved, accounted.stopEvent⟩
  · rintro ⟨moved, quiet⟩
    have matched := (moves.matched_iff kept.matched).mpr moved
    have counts := (moves.counts_iff kept released moved).mpr quiet
    refine ⟨?_, matched, ?_, ?_, counts.idle⟩
    · intro biased
      rw [counts.count, biased]
      rfl
    · rw [counts.count]
      omega
    · rintro rfl
      exact (counts.eq_zero
        (DeviceExtension.count_of_removeEvent moves.performed)).2

/-- A plug and play request has the bias where it needs it behind its step. -/
theorem Sheltered.advancePnp
    {driver : Driver}
    (sheltered : driver.Sheltered)
    (present : driver.pnp = some strand)
    (progressed : progressPnp driver.device strand.point outcome =
      some (effect, later))
    (moves : Moves driver effect event next request before after)
    (behind : next.pnp = later.map (⟨strand.request, ·⟩)) :
    next.Sheltered := by
  have proceeds := progressPnp_proceeds progressed
    (sheltered.pnp strand present) sheltered.secured
  have state := DeviceExtension.deviceState_of_perform moves.performed
  refine ⟨?_, ?_⟩
  · rw [state, moves.biased]
    exact proceeds.secured
  · intro each member
    rw [behind] at member
    obtain ⟨point, found, rfl⟩ := Option.map_eq_some_iff.mp member
    rw [state, moves.biased]
    exact proceeds.holds point found

/-- A step that leaves the bias and the device state leaves the plug and play
request its bias. -/
theorem Sheltered.of_steady
    {driver : Driver}
    (sheltered : driver.Sheltered)
    (moves : Moves driver effect event next request before after)
    (steady : effect.Steady)
    (same : next.pnp = driver.pnp) : next.Sheltered := by
  have state := DeviceExtension.deviceState_of_perform moves.performed
  rw [steady.stateBehind_eq] at state
  have biased := moves.biased
  rw [Effect.biasBehind_of_ne steady.ne] at biased
  refine ⟨?_, ?_⟩
  · rw [state, biased]
    exact sheltered.secured
  · rw [same, state, biased]
    exact sheltered.pnp

/-- An action is a step of a request that gives up the bias only once, and
conforms exactly when it is balanced and quiet. -/
theorem Kept.moves
    {driver : Driver}
    (kept : driver.Kept)
    (stepped : driver.step action = some (event, next)) :
    ∃ effect request before after,
      Moves driver effect event next request before after ∧
        (effect = .giveUpBias → driver.biased = true) ∧
        next.Sheltered ∧
        (driver.Conforms action ↔
          (after : Int) = before + effect.delta ∧
            driver.device.Quiet driver.biased effect) := by
  cases action with
  | startPnp minor =>
      simp only [step] at stepped
      split at stepped
      · rename_i idle
        cases stepped
        refine ⟨_, _, _, _, driver.startPnp_moves minor idle, nofun,
          ⟨kept.sheltered.secured, ?_⟩, iff_of_true trivial ⟨rfl, trivial⟩⟩
        rintro strand ⟨⟩
        trivial
      · cases stepped
  | start request =>
      cases stepped
      exact ⟨_, _, _, _, driver.start_moves request, nofun,
        ⟨kept.sheltered.secured, kept.sheltered.pnp⟩,
        iff_of_true trivial ⟨rfl, trivial⟩⟩
  | advancePnp outcome =>
      simp only [step, Option.bind_eq_bind, Option.bind_eq_some_iff] at stepped
      obtain ⟨strand, present, ⟨effect, point⟩, progressed,
        ⟨event', middle⟩, performed, same⟩ := stepped
      cases same
      have moves := advancePnp_moves present performed point
      have proceeds := progressPnp_proceeds progressed
        (kept.sheltered.pnp strand present) kept.sheltered.secured
      refine ⟨_, _, _, _, moves, proceeds.released,
        kept.sheltered.advancePnp present progressed moves rfl, ?_⟩
      simp only [Conforms, present, progressed, Option.mem_def,
        Option.some.injEq, forall_eq']
      exact (and_iff_right (progressPnp_delta progressed)).symm
  | advance index outcome =>
      simp only [step, Option.bind_eq_bind, Option.bind_eq_some_iff] at stepped
      obtain ⟨⟨strand, others⟩, picked, ⟨effect, points⟩, progressed,
        ⟨event', middle⟩, performed, same⟩ := stepped
      cases same
      have moves := advance_moves picked performed points
      have accounts := progress_accounts progressed
      have unchanged : middle.pnp = driver.pnp := by
        simp only [perform, Option.bind_eq_bind, Option.bind_eq_some_iff]
          at performed
        obtain ⟨_, _, same⟩ := performed
        cases same
        rfl
      refine ⟨_, _, _, _, moves,
        fun release => absurd release accounts.steady.ne,
        kept.sheltered.of_steady moves accounts.steady unchanged, ?_⟩
      simp only [Conforms, picked, progressed, Option.mem_def,
        Option.some.injEq, forall_eq']
      rw [accounts.balanced]

/-- What is put together from a result is missing only with the result. -/
theorem eq_none_of_bind_some
    {result : Option Result}
    {build : Result → Built}
    (missing : (result.bind fun each => some (build each)) = none) :
    result = none := by
  cases result with
  | none => rfl
  | some each => cases missing

/-- A step that cannot be done waits for an event. -/
theorem waits_of_perform
    {driver : Driver}
    (stuck : driver.perform request effect = none) : effect.Waits :=
  DeviceExtension.waits_of_perform (eq_none_of_bind_some stuck)

/-- An action without a result conforms. -/
theorem conforms_of_stuck
    {driver : Driver}
    (stuck : driver.step action = none) : driver.Conforms action := by
  cases action with
  | startPnp minor | start request => trivial
  | advancePnp outcome =>
      intro strand present taken progressed
      rw [Option.mem_def] at present progressed
      simp only [step, present, progressed, Option.bind_eq_bind,
        Option.bind_some] at stuck
      have waits := waits_of_perform (eq_none_of_bind_some stuck)
      exact DeviceExtension.quiet_of_waits _ _ waits
  | advance index outcome =>
      intro picked present taken progressed
      rw [Option.mem_def] at present progressed
      simp only [step, present, progressed, Option.bind_eq_bind,
        Option.bind_some] at stuck
      have waits := waits_of_perform (eq_none_of_bind_some stuck)
      exact ⟨(progress_accounts progressed).waits waits,
        DeviceExtension.quiet_of_waits _ _ waits⟩

/-! ## Runs -/

/-- From a kept driver on, every step is accounted for exactly when every step
conforms. -/
theorem Kept.always_iff
    {driver : Driver}
    (kept : driver.Kept)
    (actions : List DriverAction) :
    driverMachine.Always Accounted driver actions ↔
      driverMachine.Admits Conforms driver actions := by
  apply Machine.always_iff_admits Kept ?_ ?_ ?_ kept
  · intro driver action event next kept stepped
    obtain ⟨effect, request, before, after, moves, released, -, conforms⟩ :=
      kept.moves stepped
    exact (moves.accounted_iff kept released).trans conforms.symm
  · intro driver action kept stuck
    exact conforms_of_stuck stuck
  · intro driver action event next kept conforms stepped
    obtain ⟨effect, request, before, after, moves, released, sheltered, exact_⟩ :=
      kept.moves stepped
    obtain ⟨moved, quiet⟩ := exact_.mp conforms
    exact {
      matched := (moves.matched_iff kept.matched).mpr moved
      counts := (moves.counts_iff kept released moved).mpr quiet
      sheltered := sheltered }

/-- The count, the increments and decrements and the two events agree with the
requests in progress at every step, exactly when no read or write is handed to
the lower driver, no command or read of an event is failed by `IoCallDriver`,
no callback fails to request a power change, and the count does not pass one
once the bias has been given up. -/
theorem accounted_iff_conforms (actions : List DriverAction) :
    driverMachine.Always Accounted start actions ↔
      driverMachine.Admits Conforms start actions :=
  kept_start.always_iff actions

instance (driver : Driver) :
    (action : DriverAction) → Decidable (driver.Conforms action)
  | .startPnp _ | .start _ => isTrue trivial
  | .advancePnp outcome =>
      inferInstanceAs (Decidable (∀ strand ∈ driver.pnp,
        ∀ taken ∈ progressPnp driver.device strand.point outcome,
          driver.device.Quiet driver.biased taken.1))
  | .advance index outcome =>
      inferInstanceAs (Decidable (∀ picked ∈ pick driver.strands index,
        ∀ taken ∈ progress driver.device picked.1.point outcome,
          picked.1.point.balanced outcome ∧
            driver.device.Quiet driver.biased taken.1))

/-- A device starts, and `IoCallDriver` fails a command that the lower driver
has completed. -/
def failedCommand : List DriverAction :=
  [.startPnp .startDevice, .advancePnp .success, .advancePnp .success,
    .advancePnp .success, .advancePnp .success,
    .start (.hci .sendHciCommand), .advance 0 .success, .advance 0 .success,
    .advance 0 .success, .advance 1 .failure, .advance 0 .failure]

/-- The command is counted down twice, and `RemoveEvent` is set for a device
that is working. -/
theorem not_accounted_failedCommand :
    ¬ driverMachine.Always Accounted start failedCommand ∧
      ∃ events final,
        driverMachine.run start failedCommand = some (events, final) ∧
        events.getLast? = some (some .removeEvent) ∧
        final.device.deviceState = .working ∧
        final.device.outStandingIO.count = 0 ∧
        final.biased = true := by
  constructor
  · rw [kept_start.always_iff]
    decide +kernel
  · decide +kernel

end Driver

end Usb
end BthEmul
