import BthEmul.Foundation.Machine
import Mathlib.Data.Stream.Init

/-!
# Loops that transfer a number of units

A loop requests the units that are missing until none is, and gives up where a
request both fails and transfers nothing. A request that succeeds and transfers
nothing is simply made again, so such a loop makes progress exactly where every
request that succeeds transfers something, and then it ends after at most as
many requests as there are units.
-/

namespace Foundation

/-- A loop that transfers some units, one request after the other. -/
structure TransferLoop (State Report : Type) where
  /-- The number of units to transfer. -/
  wanted : Nat
  /-- The condition of the loop, after so many units. -/
  more : Nat → Bool
  /-- The loop goes on while units are missing. -/
  more_iff : ∀ filled ≤ wanted, (more filled = true ↔ filled < wanted)
  /-- Whether a request succeeds. -/
  succeeds : Report → Bool
  /-- The number of units transferred by a request for the missing ones, and
  the state it leaves behind; no result where it leaves its block. -/
  request : Report → Nat → Nat → State → Option (Nat × State)
  /-- No more units are transferred than requested. -/
  request_le : ∀ {report filled missing state count next},
    request report filled missing state = some (count, next) →
      count ≤ missing

namespace TransferLoop

variable {State Report : Type}

/-- A loop between two requests. -/
structure Progress (State : Type) where
  /-- The number of units transferred so far. -/
  filled : Nat
  /-- The value the loop has returned, if it has. -/
  returned : Option Bool
  /-- What the requests work on. -/
  state : State

/-- A request: behind how many units it begins, and for how many it asks. -/
structure Request where
  /-- Behind how many units it begins. -/
  start : Nat
  /-- The number of units asked for. -/
  length : Nat
  deriving DecidableEq

/-- The head of the loop, after some units. -/
def enter
    (loop : TransferLoop State Report)
    (filled : Nat)
    (state : State) : Progress State where
  filled := filled
  returned := if loop.more filled then none else some true
  state := state

/-- The loop goes on. -/
theorem enter_of_more
    {loop : TransferLoop State Report}
    (state : State)
    (more : loop.more filled = true) :
    loop.enter filled state =
      { filled := filled, returned := none, state := state } := by
  rw [enter, if_pos more]

/-- The loop ends. -/
theorem enter_of_not_more
    {loop : TransferLoop State Report}
    (state : State)
    (ends : ¬ loop.more filled = true) :
    loop.enter filled state =
      { filled := filled, returned := some true, state := state } := by
  rw [enter, if_neg ends]

/-- The next request. -/
def nextRequest
    (loop : TransferLoop State Report)
    (progress : Progress State) : Request where
  start := progress.filled
  length := loop.wanted - progress.filled

/-- What a request that has been made leads to. -/
def resume
    (loop : TransferLoop State Report)
    (progress : Progress State)
    (report : Report)
    (count : Nat)
    (state : State) : Progress State :=
  if loop.succeeds report = false ∧ count = 0 then
    { filled := progress.filled, returned := some false, state := state }
  else loop.enter (progress.filled + count) state

/-- One iteration, with the request it makes; a loop that has returned makes
none. -/
def iterate
    (loop : TransferLoop State Report)
    (progress : Progress State)
    (report : Report) : Option (Option Request × Progress State) :=
  match progress.returned with
  | some _ => some (none, progress)
  | none =>
      match loop.request report progress.filled
          (loop.wanted - progress.filled) progress.state with
      | none => none
      | some (count, state) =>
          some (some (loop.nextRequest progress),
            loop.resume progress report count state)

/-- A loop under the reports of its requests. -/
def machine
    (loop : TransferLoop State Report) :
    Machine (Progress State) Report (Option Request) where
  step := loop.iterate

/-- What an iteration does. -/
theorem step_cases
    {loop : TransferLoop State Report}
    {progress next : Progress State}
    (stepped : loop.machine.step progress report = some (made, next)) :
    (∃ value, progress.returned = some value ∧ made = none ∧
        next = progress) ∨
      ∃ count state, progress.returned = none ∧
        made = some (loop.nextRequest progress) ∧
        loop.request report progress.filled
            (loop.wanted - progress.filled) progress.state =
          some (count, state) ∧
        next = loop.resume progress report count state := by
  simp only [machine, iterate] at stepped
  cases returned : progress.returned with
  | some value =>
      rw [returned] at stepped
      cases stepped
      exact .inl ⟨value, rfl, rfl, rfl⟩
  | none =>
      rw [returned] at stepped
      cases requested : loop.request report progress.filled
          (loop.wanted - progress.filled) progress.state with
      | none =>
          rw [requested] at stepped
          contradiction
      | some result =>
          obtain ⟨count, state⟩ := result
          rw [requested] at stepped
          cases stepped
          exact .inr ⟨count, state, rfl, rfl, rfl, rfl⟩

/-- An iteration that makes a request with a result. -/
theorem step_of_request
    {loop : TransferLoop State Report}
    {state next : State}
    (requested : loop.request report filled (loop.wanted - filled) state =
      some (count, next)) :
    loop.machine.step
        { filled := filled, returned := none, state := state } report =
      some (some ⟨filled, loop.wanted - filled⟩, loop.resume
        { filled := filled, returned := none, state := state } report count
        next) := by
  simp only [machine, iterate, requested, nextRequest]

/-- An iteration that makes a request without a result has none. -/
theorem step_eq_none
    {loop : TransferLoop State Report}
    {state : State}
    (requested : loop.request report filled (loop.wanted - filled) state =
      none) :
    loop.machine.step
        { filled := filled, returned := none, state := state } report =
      none := by
  simp only [machine, iterate, requested]

/-! ## What every iteration keeps -/

/-- The loop has transferred no more than it should, goes on only while units
are missing, and returns true only when none is. -/
structure Sound
    (loop : TransferLoop State Report)
    (progress : Progress State) : Prop where
  /-- No more units are transferred than wanted. -/
  filled_le : progress.filled ≤ loop.wanted
  /-- The loop goes on only while units are missing. -/
  missing : progress.returned = none → progress.filled < loop.wanted
  /-- The loop returns true only when no unit is missing. -/
  complete : progress.returned = some true → progress.filled = loop.wanted

/-- The head of the loop is sound. -/
theorem sound_enter
    (loop : TransferLoop State Report)
    (state : State)
    (filled_le : filled ≤ loop.wanted) :
    loop.Sound (loop.enter filled state) := by
  have condition := loop.more_iff filled filled_le
  by_cases more : loop.more filled = true
  · rw [enter_of_more state more]
    exact ⟨filled_le, fun _ => condition.mp more, nofun⟩
  · rw [enter_of_not_more state more]
    have noneMissing : ¬ filled < loop.wanted :=
      fun missing => more (condition.mpr missing)
    exact ⟨filled_le, nofun, fun _ =>
      Nat.le_antisymm filled_le (Nat.le_of_not_lt noneMissing)⟩

/-- What is requested and transferred stays within what is missing. -/
theorem filled_add_le
    {loop : TransferLoop State Report}
    {progress : Progress State}
    (sound : loop.Sound progress)
    (requested : loop.request report progress.filled
      (loop.wanted - progress.filled) progress.state = some (count, state)) :
    progress.filled + count ≤ loop.wanted := by
  have short := loop.request_le requested
  have filled_le := sound.filled_le
  omega

/-- An iteration keeps a loop sound. -/
theorem sound_of_step
    {loop : TransferLoop State Report}
    {progress next : Progress State}
    (sound : loop.Sound progress)
    (stepped : loop.machine.step progress report = some (made, next)) :
    loop.Sound next := by
  rcases step_cases stepped with
    ⟨value, -, -, rfl⟩ | ⟨count, state, -, -, requested, rfl⟩
  · exact sound
  · unfold resume
    split
    · exact ⟨sound.filled_le, nofun, nofun⟩
    · exact loop.sound_enter state (filled_add_le sound requested)

/-- A request stays within the units that are transferred. -/
theorem request_inside
    {loop : TransferLoop State Report}
    {progress next : Progress State}
    {request : Request}
    (sound : loop.Sound progress)
    (stepped : loop.machine.step progress report =
      some (some request, next)) :
    request.start + request.length = loop.wanted := by
  rcases step_cases stepped with
    ⟨value, -, same, -⟩ | ⟨count, state, -, same, -, -⟩
  · contradiction
  · cases same
    exact Nat.add_sub_of_le sound.filled_le

/-! ## Progress -/

/-- An iteration transfers something or returns false. -/
def Advances
    (progress : Progress State)
    (_ : Report)
    (_ : Option Request)
    (next : Progress State) : Prop :=
  progress.returned = none →
    progress.filled < next.filled ∨ next.returned = some false

/-- A request that succeeds transfers something. -/
def Delivers
    (loop : TransferLoop State Report)
    (progress : Progress State)
    (report : Report) : Prop :=
  progress.returned = none → loop.succeeds report = true →
    ∀ count state,
      loop.request report progress.filled (loop.wanted - progress.filled)
          progress.state = some (count, state) →
        count ≠ 0

/-- An iteration advances exactly where its request, if it succeeds, transfers
something. -/
theorem advances_iff_delivers
    {loop : TransferLoop State Report}
    {progress next : Progress State}
    (stepped : loop.machine.step progress report = some (made, next)) :
    Advances progress report made next ↔ loop.Delivers progress report := by
  rcases step_cases stepped with
    ⟨value, returned, -, -⟩ | ⟨count, state, returned, -, requested, rfl⟩
  · refine iff_of_true ?_ ?_ <;>
    · intro running
      rw [returned] at running
      contradiction
  · unfold Advances Delivers resume
    by_cases gaveUp : loop.succeeds report = false ∧ count = 0
    · rw [if_pos gaveUp]
      refine iff_of_true (fun _ => .inr rfl) ?_
      intro _ succeeds
      rw [gaveUp.1] at succeeds
      contradiction
    · rw [if_neg gaveUp]
      constructor
      · intro advances _ _ count' state' requested'
        rw [requested] at requested'
        cases requested'
        rcases advances returned with further | ended
        · change progress.filled < progress.filled + count at further
          omega
        · simp only [enter] at ended
          split at ended <;> contradiction
      · intro delivers _
        have positive : count ≠ 0 := by
          intro nothing
          cases succeeds : loop.succeeds report with
          | false => exact gaveUp ⟨succeeds, nothing⟩
          | true =>
              exact delivers returned succeeds count state requested nothing
        exact .inl (Nat.lt_add_of_pos_right (Nat.pos_of_ne_zero positive))

/-- All iterations of a run advance exactly where all its requests that
succeed transfer something. -/
theorem always_advances_iff
    (loop : TransferLoop State Report)
    (progress : Progress State)
    (reports : List Report) :
    loop.machine.Always Advances progress reports ↔
      loop.machine.Admits loop.Delivers progress reports := by
  refine Machine.always_iff_admits (fun _ => True) ?_ ?_
    (fun _ _ _ _ _ _ _ => trivial) trivial reports
  · intro state report made next _ stepped
    exact advances_iff_delivers stepped
  · intro state report _ stuck running _ count next requested
    simp only [machine, iterate, running, requested] at stuck
    contradiction

/-! ## Termination -/

section Total

variable {loop : TransferLoop State Report}

/-- A request that stays within the units to transfer has a result. -/
def Total (loop : TransferLoop State Report) : Prop :=
  ∀ report filled missing state, filled + missing = loop.wanted →
    (loop.request report filled missing state).isSome

/-- An iteration of a total loop has a result. -/
theorem exists_step
    (total : loop.Total)
    {progress : Progress State}
    (sound : loop.Sound progress)
    (report : Report) :
    ∃ made next, loop.machine.step progress report = some (made, next) := by
  have requested := total report progress.filled
    (loop.wanted - progress.filled) progress.state
    (Nat.add_sub_of_le sound.filled_le)
  obtain ⟨⟨count, state⟩, result⟩ := Option.isSome_iff_exists.mp requested
  simp only [machine, iterate]
  cases progress.returned with
  | some value => exact ⟨_, _, rfl⟩
  | none =>
      rw [result]
      exact ⟨_, _, rfl⟩

/-- Every run of a total loop has a result and leaves the loop sound. -/
theorem exists_run
    (total : loop.Total)
    {progress : Progress State}
    (sound : loop.Sound progress)
    (reports : List Report) :
    ∃ made final,
      loop.machine.run progress reports = some (made, final) ∧
        loop.Sound final := by
  have admits : loop.machine.Admits (fun _ _ => True) progress reports :=
    Machine.admits_of_forall (fun _ _ => trivial) progress reports
  refine Machine.exists_run_of_history loop.machine
    (fun _ progress => loop.Sound progress) ?_ [] sound admits
  intro history progress report sound _
  obtain ⟨made, next, stepped⟩ := exists_step total sound report
  exact ⟨made, next, stepped, sound_of_step sound stepped⟩

/-- A loop whose successful requests all transfer something returns. -/
theorem exists_returned
    (total : loop.Total)
    {progress : Progress State}
    (sound : loop.Sound progress)
    {reports : Stream' Report}
    (delivers : ∀ count,
      loop.machine.Admits loop.Delivers progress (reports.take count)) :
    ∃ count made final,
      loop.machine.run progress (reports.take count) = some (made, final) ∧
        final.returned.isSome := by
  -- The units still missing bound the number of requests.
  obtain ⟨missing, bound⟩ :
      ∃ missing, loop.wanted - progress.filled ≤ missing := ⟨_, Nat.le_refl _⟩
  induction missing generalizing progress reports with
  | zero =>
      refine ⟨0, [], progress, rfl, ?_⟩
      cases returned : progress.returned with
      | some value => rfl
      | none =>
          have missing := sound.missing returned
          omega
  | succ missing inductionHypothesis =>
      cases returned : progress.returned with
      | some value =>
          exact ⟨0, [], progress, rfl, by rw [returned]; rfl⟩
      | none =>
          obtain ⟨made, next, stepped⟩ := exists_step total sound reports.head
          have first := delivers 1
          rw [Stream'.take_succ, Machine.admits_cons_iff_of_step stepped]
            at first
          rcases (advances_iff_delivers stepped).mpr first.1 returned with
            further | ended
          · have later : ∀ count, loop.machine.Admits loop.Delivers next
                (reports.tail.take count) := by
              intro count
              have all := delivers (count + 1)
              rw [Stream'.take_succ,
                Machine.admits_cons_iff_of_step stepped] at all
              exact all.2
            obtain ⟨count, outputs, final, ran, isSome⟩ :=
              inductionHypothesis (sound_of_step sound stepped) later (by omega)
            exact ⟨count + 1, made :: outputs, final,
              Machine.run_cons_eq_some_iff.mpr
                ⟨_, _, _, stepped, ran, rfl⟩, isSome⟩
          · exact ⟨1, [made], next,
              Machine.run_cons_eq_some_iff.mpr ⟨_, _, _, stepped, rfl, rfl⟩,
              by rw [ended]; rfl⟩

end Total

/-- A loop that has returned makes no further requests. -/
theorem exists_run_of_returned
    (loop : TransferLoop State Report)
    (filled : Nat)
    (value : Bool)
    (state : State)
    (reports : List Report) :
    ∃ made,
      loop.machine.run
          { filled := filled, returned := some value, state := state }
          reports =
        some (made,
          { filled := filled, returned := some value, state := state }) := by
  induction reports with
  | nil => exact ⟨[], rfl⟩
  | cons report rest inductionHypothesis =>
      obtain ⟨made, ran⟩ := inductionHypothesis
      exact ⟨none :: made,
        Machine.run_cons_eq_some_iff.mpr ⟨_, _, _, rfl, ran, rfl⟩⟩

/-- Where a request succeeds and leaves everything as it was, the loop makes it
again and again. -/
theorem exists_run_of_stall
    (loop : TransferLoop State Report)
    (report : Report)
    (filled : Nat)
    (state : State)
    (more : loop.more filled = true)
    (succeeds : loop.succeeds report = true)
    (stalls : loop.request report filled (loop.wanted - filled) state =
      some (0, state))
    (count : Nat) :
    ∃ made,
      loop.machine.run (loop.enter filled state)
          ((Stream'.const report).take count) =
        some (made,
          { filled := filled, returned := none, state := state }) := by
  rw [enter_of_more state more]
  induction count with
  | zero => exact ⟨[], rfl⟩
  | succ count inductionHypothesis =>
      obtain ⟨made, ran⟩ := inductionHypothesis
      have stepped : loop.machine.step
          { filled := filled, returned := none, state := state } report =
            some (some ⟨filled, loop.wanted - filled⟩,
              { filled := filled, returned := none, state := state }) := by
        rw [step_of_request stalls]
        simp only [resume, succeeds, Bool.true_eq_false, false_and, if_false,
          Nat.add_zero, enter_of_more state more]
      refine ⟨_, Machine.run_cons_eq_some_iff.mpr
        ⟨_, _, made, stepped, ?_, rfl⟩⟩
      rw [Stream'.tail_const]
      exact ran

/-! ## Whole transfers -/

/-- A request that is made stays within the units to transfer. -/
def Within
    (loop : TransferLoop State Report)
    (_ : Progress State)
    (_ : Report)
    (made : Option Request)
    (_ : Progress State) : Prop :=
  ∀ request, made = some request →
    request.start + request.length ≤ loop.wanted

/-- Under any sequence of reports the loop stays within its units and its
block, advances in every iteration, ends, and returns true only when all units
were moved. -/
structure Transfers
    (loop : TransferLoop State Report)
    (Moved : Nat → State → Prop)
    (initial : State)
    (reports : Stream' Report) : Prop where
  /-- Every request has a result. -/
  exists_run : ∀ count, ∃ made final,
    loop.machine.run (loop.enter 0 initial) (reports.take count) =
      some (made, final)
  /-- Every request stays within the units to transfer. -/
  within : ∀ count,
    loop.machine.Always loop.Within (loop.enter 0 initial)
      (reports.take count)
  /-- Every iteration transfers something or returns false. -/
  advances : ∀ count,
    loop.machine.Always Advances (loop.enter 0 initial) (reports.take count)
  /-- The loop returns. -/
  terminates : ∃ count made final,
    loop.machine.run (loop.enter 0 initial) (reports.take count) =
        some (made, final) ∧
      final.returned.isSome
  /-- The loop returns true only when all units were moved. -/
  exact : ∀ count made final,
    loop.machine.run (loop.enter 0 initial) (reports.take count) =
        some (made, final) →
      final.returned = some true → Moved loop.wanted final.state

/-- A loop that makes its first request again and again transfers nothing. -/
theorem not_transfers_of_stall
    (loop : TransferLoop State Report)
    (Moved : Nat → State → Prop)
    (report : Report)
    (initial : State)
    (more : loop.more 0 = true)
    (succeeds : loop.succeeds report = true)
    (stalls : loop.request report 0 loop.wanted initial =
      some (0, initial)) :
    ¬ loop.Transfers Moved initial (Stream'.const report) := by
  intro transfers
  obtain ⟨count, made, final, ran, isSome⟩ := transfers.terminates
  obtain ⟨_, stalled⟩ :=
    loop.exists_run_of_stall report 0 initial more succeeds stalls count
  rw [ran] at stalled
  cases stalled
  contradiction

section Moved

variable {loop : TransferLoop State Report}
variable {Moved : Nat → State → Prop}

/-- What every request extends by the units it transfers holds of the units
transferred so far. -/
theorem moved_of_run
    (step : ∀ report filled missing count state next,
      Moved filled state →
        loop.request report filled missing state = some (count, next) →
          Moved (filled + count) next)
    {progress final : Progress State}
    (moved : Moved progress.filled progress.state)
    (ran : loop.machine.run progress reports = some (made, final)) :
    Moved final.filled final.state := by
  have admits : loop.machine.Admits (fun _ _ => True) progress reports :=
    Machine.admits_of_forall (fun _ _ => trivial) progress reports
  refine Machine.holds_of_run
    (fun _ progress => Moved progress.filled progress.state) ?_ [] moved
    admits ran
  intro history progress report made next moved _ stepped
  rcases step_cases stepped with
    ⟨value, -, -, rfl⟩ | ⟨count, state, -, -, requested, rfl⟩
  · exact moved
  · have further := step _ _ _ _ _ _ moved requested
    unfold resume
    split
    · rename_i gaveUp
      rwa [gaveUp.2] at further
    · exact further

/-- A loop transfers what it should under every sequence of reports whose
successful requests transfer something, and under no other. -/
theorem transfers_iff
    (total : loop.Total)
    (step : ∀ report filled missing count state next,
      Moved filled state →
        loop.request report filled missing state = some (count, next) →
          Moved (filled + count) next)
    {initial : State}
    (moved : Moved 0 initial)
    (reports : Stream' Report) :
    loop.Transfers Moved initial reports ↔
      ∀ count, loop.machine.Admits loop.Delivers (loop.enter 0 initial)
        (reports.take count) := by
  have sound : loop.Sound (loop.enter 0 initial) :=
    loop.sound_enter initial (Nat.zero_le _)
  constructor
  · intro transfers count
    exact (loop.always_advances_iff _ _).mp (transfers.advances count)
  · intro delivers
    refine ⟨?_, ?_, ?_, exists_returned total sound delivers, ?_⟩
    · intro count
      obtain ⟨made, final, ran, -⟩ :=
        TransferLoop.exists_run total sound (reports.take count)
      exact ⟨made, final, ran⟩
    · intro count
      refine Machine.always_of_admits loop.Sound ?_ sound
        (Machine.admits_of_forall (fun _ _ => trivial) _ _)
      intro progress report made next sound _ stepped
      refine ⟨?_, sound_of_step sound stepped⟩
      rintro request rfl
      exact Nat.le_of_eq (request_inside sound stepped)
    · intro count
      exact (loop.always_advances_iff _ _).mpr (delivers count)
    · intro count made final ran returned
      obtain ⟨_, _, ran', sound'⟩ :=
        TransferLoop.exists_run total sound (reports.take count)
      rw [ran] at ran'
      cases ran'
      rw [← sound'.complete returned]
      exact moved_of_run step moved ran

end Moved

end TransferLoop
end Foundation
