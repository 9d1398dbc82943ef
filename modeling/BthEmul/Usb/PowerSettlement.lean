import BthEmul.Usb.PowerRequests

/-!
# How power requests end

Two ledgers keep the irps: those completed, and those the power manager was
told about. A routine holds the irp it works for and, while that one was asked
for with a context, the irp for the system behind it; so nothing is completed
twice, and nothing is left. The routines between also hold the memory.
-/

namespace BthEmul

open Foundation

namespace Usb
namespace Power

/-! ## What the irps are owed -/

/-- The irps that are not completed yet. -/
def Point.held (point : Point) : List Nat :=
  point.irp.toList.flatMap Irp.numbers

/-- The irps `PoStartNextPowerIrp` was not called for yet. -/
def Point.unstarted : Point → List Nat
  | skip irp => irp.context.toList.map fun context => context.sIrp.number
  | waitWake _ | cancelWaitWake _ => []
  | point => point.held

theorem held_of_irp
    {point : Point}
    (here : point.irp = some irp) : point.held = irp.numbers := by
  rw [Point.held, here]
  exact List.append_nil _

theorem flatMap_held (points : List Point) :
    points.flatMap Point.held =
      (points.filterMap Point.irp).flatMap Irp.numbers := by
  induction points with
  | nil => rfl
  | cons point rest ih =>
      rw [List.flatMap_cons, ih, Point.held]
      cases here : point.irp with
      | none => rw [List.filterMap_cons_none here]; rfl
      | some irp =>
          rw [List.filterMap_cons_some here, List.flatMap_cons]
          simp

theorem Point.Undecided.unstarted_eq_held
    {point : Point}
    (undecided : point.Undecided) : point.unstarted = point.held := by
  cases point with
  | skip irp => exact undecided.elim
  | waitWake number => exact undecided.elim
  | cancelWaitWake number => exact undecided.elim
  | _ => rfl

/-- The routines that are called for a completed irp hold the irp for the
system. -/
theorem flatMap_held_complete (irp : Irp) (status : NtStatus) :
    (irp.context.toList.map (Point.devPoCompletion · status)).flatMap
        Point.held =
      irp.context.toList.map fun context => context.sIrp.number := by
  cases irp.context with
  | none => rfl
  | some context => rfl

theorem flatMap_unstarted_complete (irp : Irp) (status : NtStatus) :
    (irp.context.toList.map (Point.devPoCompletion · status)).flatMap
        Point.unstarted =
      irp.context.toList.map fun context => context.sIrp.number := by
  cases irp.context with
  | none => rfl
  | some context => rfl

/-- The irp waits for the device to wake the system. -/
def Irp.isWaitWake : Irp → Bool
  | waitWake _ => true
  | _ => false

/-- The irps that were completed and waited for the device to wake the
system. -/
def Shared.waitWakes (shared : Shared) : List Nat :=
  (shared.finished.filter fun entry => entry.1.isWaitWake).map fun entry =>
    entry.1.number

/-- A routine keeps the books about the irps. -/
structure Settles (shared : Shared) (point : Point)
    (result : Shared × List Point) : Prop where
  irps : shared.irps.Moves result.1.irps point.held
    (result.2.flatMap Point.held)
  nextStarted : shared.nextStarted.Moves result.1.nextStarted point.unstarted
    (result.2.flatMap Point.unstarted)
  issued : shared.nextStarted.issued = shared.irps.issued →
    result.1.nextStarted.issued = result.1.irps.issued
  statuses :
    shared.finished.map (fun entry => entry.1.number) =
        shared.irps.released →
      result.1.finished.map (fun entry => entry.1.number) =
        result.1.irps.released
  startedAgain : shared.startedAgain.Sublist shared.waitWakes →
    result.1.startedAgain.Sublist result.1.waitWakes

/-- What is done first leaves the irp with one routine. -/
theorem Settles.trans
    (first : Settles shared point (between, [middle]))
    (second : Settles between middle result) :
    Settles shared point result where
  irps := by
    apply first.irps.trans
    simpa using second.irps
  nextStarted := by
    apply first.nextStarted.trans
    simpa using second.nextStarted
  issued same := second.issued (first.issued same)
  statuses same := second.statuses (first.statuses same)
  startedAgain again := second.startedAgain (first.startedAgain again)

/-- The books are about the irps only. -/
theorem Settles.of_sameIrps
    (same : SameIrps shared after)
    (settles : Settles after point result) : Settles shared point result where
  irps := by
    rw [← same.irps]
    exact settles.irps
  nextStarted := by
    rw [← same.nextStarted]
    exact settles.nextStarted
  issued := by
    rw [← same.irps, ← same.nextStarted]
    exact settles.issued
  statuses := by
    rw [← same.irps, ← same.finished]
    exact settles.statuses
  startedAgain := by
    rw [Shared.waitWakes, ← same.finished, ← same.startedAgain]
    exact settles.startedAgain

/-- Something else is done for the irp. -/
theorem settles_move
    (undecided : point.Undecided)
    (stay : ∀ next ∈ later, next.Undecided)
    (irps : later.filterMap Point.irp = point.irp.toList) :
    Settles shared point (shared, later) where
  irps := by
    rw [flatMap_held, irps]
    exact .refl _ _
  nextStarted := by
    have unstarted : later.flatMap Point.unstarted = later.flatMap Point.held := by
      apply List.flatMap_congr
      intro next member
      exact (stay next member).unstarted_eq_held
    rw [unstarted, flatMap_held, irps, undecided.unstarted_eq_held]
    exact .refl _ _
  issued := id
  statuses := id
  startedAgain := id

/-- An irp that is completed waits no longer. -/
theorem waitWakes_complete (shared : Shared) (irp : Irp) (status : NtStatus) :
    (shared.complete irp status).1.waitWakes =
      shared.waitWakes ++ if irp.isWaitWake then [irp.number] else [] := by
  rw [Shared.complete, Shared.waitWakes, List.filter_append, List.map_append]
  cases waited : irp.isWaitWake with
  | false => simp [waited, Shared.waitWakes]
  | true => simp [waited, Shared.waitWakes]

theorem settles_complete
    (shared : Shared)
    (irp : Irp)
    (status : NtStatus) :
    Settles shared (.skip irp) (shared.complete irp status) where
  irps := by
    have held : (Point.skip irp).held = irp.numbers := held_of_irp rfl
    rw [held, Shared.complete, flatMap_held_complete]
    exact Ledger.moves_release _ _ _
  nextStarted := by
    rw [Shared.complete, flatMap_unstarted_complete]
    exact .refl _ _
  issued := id
  statuses same := by
    rw [Shared.complete, List.map_append, same]
    rfl
  startedAgain again := by
    rw [waitWakes_complete]
    exact again.trans (List.sublist_append_left _ _)

/-- `PoStartNextPowerIrp`. -/
theorem settles_startNext
    (shared : Shared)
    (here : point.irp = some irp)
    (unstarted : point.unstarted = point.held)
    (there : next.irp = some irp)
    (left : next.unstarted =
      irp.context.toList.map fun context => context.sIrp.number) :
    Settles shared point (shared.startNext irp, [next]) where
  irps := by
    rw [List.flatMap_singleton, held_of_irp there, held_of_irp here]
    exact .refl _ _
  nextStarted := by
    rw [List.flatMap_singleton, unstarted, held_of_irp here, left]
    exact Ledger.moves_release _ _ _
  issued := id
  statuses := id
  startedAgain := id

/-- `PoStartNextPowerIrp` and `IoCompleteRequest`. -/
theorem settles_finish
    (shared : Shared)
    (status : NtStatus)
    (here : point.irp = some irp)
    (unstarted : point.unstarted = point.held) :
    Settles shared point (shared.finish irp status) :=
  (settles_startNext shared here unstarted rfl rfl).trans
    (settles_complete _ irp status)

theorem settles_requestDevice
    (capabilities : Capabilities)
    (shared : Shared)
    (irp : SystemIrp)
    (block : Nat)
    (issued : shared.nextStarted.issued = shared.irps.issued) :
    Settles shared (.requestPowerIrp irp block)
      (shared.requestDevice capabilities irp block) where
  irps := Ledger.moves_issue _ _
  nextStarted := by
    have moves := Ledger.moves_issue shared.nextStarted [irp.number]
    rw [issued] at moves
    exact moves
  issued same := congrArg (· + 1) same
  statuses := id
  startedAgain := id

/-- `PoStartNextPowerIrp` is called for an irp that waited when it is
completed. -/
theorem settles_finishWaitWake
    (shared : Shared)
    (status : NtStatus)
    (here : point.irp = some (.waitWake number))
    (started : point.unstarted = []) :
    Settles shared point (shared.finishWaitWake number status) where
  irps := by
    rw [held_of_irp here]
    exact Ledger.moves_release _ _ _
  nextStarted := by
    rw [started]
    exact .refl _ _
  issued := id
  statuses same := by
    rw [Shared.finishWaitWake, Shared.complete, List.map_append, same]
    rfl
  startedAgain again := by
    rw [Shared.finishWaitWake, waitWakes_complete]
    exact again.append (List.Sublist.refl [number])

/-- Every step keeps the books about the irps. -/
theorem Effect.settles
    (effect : Effect capabilities shared point result)
    (issued : shared.nextStarted.issued = shared.irps.issued) :
    Settles shared point result := by
  cases effect with
  | move undecided same stay irps =>
      exact (settles_move undecided stay irps).of_sameIrps same
  | finish undecided same here fails =>
      exact (settles_finish _ _ here undecided.unstarted_eq_held).of_sameIrps same
  | passDown undecided here =>
      have started : Settles shared point (shared.startNext _, [.skip _]) :=
        settles_startNext shared here undecided.unstarted_eq_held rfl rfl
      exact ⟨started.irps, started.nextStarted, started.issued, started.statuses,
        started.startedAgain⟩
  | complete => exact settles_complete _ _ _
  | request => exact settles_requestDevice _ _ _ _ issued
  | follow same => exact (settles_finish _ _ rfl rfl).of_sameIrps same
  | sendDown => exact settles_startNext shared rfl rfl rfl rfl
  | leave => exact ⟨.refl _ _, .refl _ _, id, id, id⟩
  | finishWaitWake here =>
      rcases here with rfl | rfl
      · exact settles_finishWaitWake shared _ rfl rfl
      · exact settles_finishWaitWake shared _ rfl rfl

/-- Every irp is with one routine until it is completed. -/
structure Owes (shared : Shared) (strands : List Point) : Prop where
  irps : shared.irps.Accounts (strands.flatMap Point.held)
  nextStarted : shared.nextStarted.Accounts (strands.flatMap Point.unstarted)
  issued : shared.nextStarted.issued = shared.irps.issued
  statuses : shared.finished.map (fun entry => entry.1.number) =
    shared.irps.released
  startedAgain : shared.startedAgain.Sublist shared.waitWakes

theorem owes_start : Owes .start [] where
  irps := Ledger.accounts_fresh
  nextStarted := Ledger.accounts_fresh
  issued := rfl
  statuses := rfl
  startedAgain := List.Sublist.refl _

theorem Owes.of_perm
    (owes : Owes shared first)
    (perm : first.Perm second) : Owes shared second where
  irps := owes.irps.of_perm (perm.flatMap_right Point.held)
  nextStarted := owes.nextStarted.of_perm (perm.flatMap_right Point.unstarted)
  issued := owes.issued
  statuses := owes.statuses
  startedAgain := owes.startedAgain

/-- An irp comes from outside. -/
theorem Owes.arrive
    (owes : Owes shared strands)
    (arrival : Arrival) :
    let arrived := shared.arrive (arrival.irp shared.irps.issued)
    Owes arrived.1 (arrived.2 :: strands) := by
  have held : (Point.dispatch (arrival.irp shared.irps.issued)).held =
      [shared.irps.issued] := by
    cases arrival with
    | _ => rfl
  constructor
  · rw [List.flatMap_cons, Shared.arrive, held]
    exact Ledger.moves_issue _ [] _ owes.irps
  · have unstarted : (Point.dispatch
        (arrival.irp shared.irps.issued)).unstarted = [shared.irps.issued] := held
    rw [List.flatMap_cons, Shared.arrive, unstarted, ← owes.issued]
    exact Ledger.moves_issue _ [] _ owes.nextStarted
  · exact congrArg (· + 1) owes.issued
  · exact owes.statuses
  · exact owes.startedAgain

/-- Every step keeps the books. -/
theorem Owes.advance
    (owes : Owes shared (point :: rest))
    (effect : Effect capabilities shared point result) :
    Owes result.1 (result.2 ++ rest) := by
  have settles := effect.settles owes.issued
  constructor
  · rw [List.flatMap_append]
    exact settles.irps _ owes.irps
  · rw [List.flatMap_append]
    exact settles.nextStarted _ owes.nextStarted
  · exact settles.issued owes.issued
  · exact settles.statuses owes.statuses
  · exact settles.startedAgain owes.startedAgain

/-! ## How the irps end -/

/-- What a routine relies on. -/
structure Point.Sound
    (capabilities : Capabilities)
    (shared : Shared)
    (point : Point) : Prop where
  asked : ∀ device context,
    point.irp = some (.device device (some context)) →
      context.Asks capabilities device
  skipped : ∀ irp, point = .skip irp → irp.number ∈ shared.skipped
  answered : ∀ context status, point = .devPoCompletion context status →
    ∃ device, (.device device (some context), status) ∈ shared.finished ∧
      context.Asks capabilities device

/-- The irps completed agree with each other. -/
structure History
    (capabilities : Capabilities)
    (shared : Shared)
    (strands : List Point) : Prop where
  sound : ∀ point ∈ strands, point.Sound capabilities shared
  granted : ∀ irp status, (.system irp, status) ∈ shared.finished →
    NtSuccess status → Granted capabilities shared irp status
  passedOn : ∀ device context status,
    (.device device (some context), status) ∈ shared.finished →
      .devPoCompletion context status ∈ strands ∨
        (.system context.sIrp, status) ∈ shared.finished

/-- Nothing is forgotten. -/
structure Extends (before after : Shared) : Prop where
  finished : before.finished ⊆ after.finished
  skipped : before.skipped ⊆ after.skipped

theorem SameIrps.extends (same : SameIrps before after) :
    Extends before after where
  finished := by rw [same.finished]; exact List.Subset.refl _
  skipped := by rw [same.skipped]; exact List.Subset.refl _

theorem Granted.mono
    (granted : Granted capabilities before irp status)
    (grows : Extends before after) :
    Granted capabilities after irp status := by
  rcases granted with skipped | ⟨device, context, finished, same, asks⟩
  · exact .inl (grows.skipped skipped)
  · exact .inr ⟨device, context, grows.finished finished, same, asks⟩

theorem Point.Sound.mono
    (sound : Point.Sound capabilities before point)
    (grows : Extends before after) : point.Sound capabilities after where
  asked := sound.asked
  skipped irp same := grows.skipped (sound.skipped irp same)
  answered context status same := by
    obtain ⟨device, finished, asks⟩ := sound.answered context status same
    exact ⟨device, grows.finished finished, asks⟩

/-- A routine for which the end of the irp is open relies on little. -/
theorem Point.Undecided.sound
    {point : Point}
    (undecided : point.Undecided)
    (asked : ∀ device context,
      point.irp = some (.device device (some context)) →
        context.Asks capabilities device) :
    point.Sound capabilities shared where
  asked := asked
  skipped irp same := by
    rw [same] at undecided
    exact undecided.elim
  answered context status same := by
    rw [same] at undecided
    exact undecided.elim

theorem Point.Undecided.ne_devPoCompletion
    {point : Point}
    (undecided : point.Undecided)
    (context : Context)
    (status : NtStatus) : point ≠ .devPoCompletion context status := by
  rintro rfl
  exact undecided.elim

/-- No irp is completed, and the routines that go on have what they rely
on. -/
theorem History.goOn
    (history : History capabilities shared (point :: rest))
    (going : ∀ context status, point ≠ .devPoCompletion context status)
    (grows : Extends shared after)
    (same : after.finished = shared.finished)
    (sound : ∀ next ∈ later, next.Sound capabilities after) :
    History capabilities after (later ++ rest) where
  sound next member := by
    rcases List.mem_append.mp member with begun | waiting
    · exact sound next begun
    · exact (history.sound next (List.mem_cons_of_mem _ waiting)).mono grows
  granted irp status member success := by
    rw [same] at member
    exact (history.granted irp status member success).mono grows
  passedOn device context status member := by
    rw [same] at member ⊢
    rcases history.passedOn device context status member with called | ended
    · rcases List.mem_cons.mp called with here | waiting
      · exact absurd here.symm (going context status)
      · exact .inl (List.mem_append_right _ waiting)
    · exact .inr ended

/-- Something else is done for the irp. -/
theorem History.move
    (history : History capabilities shared (point :: rest))
    (undecided : point.Undecided)
    (same : SameIrps shared after)
    (stay : ∀ next ∈ later, next.Undecided)
    (irps : later.filterMap Point.irp = point.irp.toList) :
    History capabilities after (later ++ rest) := by
  apply history.goOn undecided.ne_devPoCompletion same.extends same.finished
  intro next begun
  apply (stay next begun).sound
  intro device context here
  have listed := List.mem_filterMap.mpr ⟨next, begun, here⟩
  rw [irps, Option.mem_toList] at listed
  exact (history.sound point List.mem_cons_self).asked _ _ listed

theorem History.passDown
    (history : History capabilities shared (point :: rest))
    (undecided : point.Undecided)
    (here : point.irp = some irp) :
    History capabilities (shared.passDown irp).1
      ((shared.passDown irp).2 ++ rest) := by
  refine history.goOn undecided.ne_devPoCompletion ?_ ?_ ?_
  · exact ⟨List.Subset.refl _, List.subset_append_left _ _⟩
  · rfl
  · intro next begun
    cases List.mem_singleton.mp begun
    constructor
    · intro device context same
      apply (history.sound point List.mem_cons_self).asked
      exact here.trans same
    · rintro irp ⟨⟩
      exact List.mem_append_right _ (List.mem_singleton_self _)
    · rintro context status ⟨⟩

theorem History.requestDevice
    (history : History capabilities shared (.requestPowerIrp irp block :: rest)) :
    History capabilities (shared.requestDevice capabilities irp block).1
      ((shared.requestDevice capabilities irp block).2 ++ rest) := by
  refine history.goOn nofun ?_ ?_ ?_
  · exact ⟨List.Subset.refl _, List.Subset.refl _⟩
  · rfl
  · intro next begun
    cases List.mem_singleton.mp begun
    refine Point.Undecided.sound ?_ ?_
    · trivial
    · rintro device context ⟨⟩
      exact ⟨rfl, rfl⟩

/-- An irp that was asked for with a context is one for the device. -/
theorem Irp.eq_device_of_context
    {irp : Irp}
    {context : Context}
    (asked : irp.context = some context) :
    ∃ device, irp = .device device (some context) := by
  cases irp with
  | system irp => cases asked
  | device device other =>
      cases asked
      exact ⟨device, rfl⟩
  | waitWake number => cases asked
  | other number => cases asked

/-- An irp is completed. Where it is one for the system that succeeded, it may
be, and the routine that waited for its irp for the device is at its end. -/
theorem History.complete
    (history : History capabilities shared (point :: rest))
    (here : point.irp = some irp)
    (granted : ∀ system, irp = .system system → NtSuccess status →
      Granted capabilities shared system status)
    (follows : ∀ context ended, point = .devPoCompletion context ended →
      irp = .system context.sIrp ∧ status = ended) :
    History capabilities (shared.complete irp status).1
      ((shared.complete irp status).2 ++ rest) := by
  have grows : Extends shared (shared.complete irp status).1 :=
    ⟨List.subset_append_left _ _, List.Subset.refl _⟩
  have ends : (irp, status) ∈ (shared.complete irp status).1.finished :=
    List.mem_append_right _ (List.mem_singleton_self _)
  have sound := history.sound point List.mem_cons_self
  constructor
  · intro next member
    rcases List.mem_append.mp member with begun | waiting
    · obtain ⟨context, asked, rfl⟩ := List.mem_map.mp begun
      obtain ⟨device, rfl⟩ :=
        Irp.eq_device_of_context (Option.mem_toList.mp asked)
      constructor
      · rintro other context ⟨⟩
      · rintro irp ⟨⟩
      · rintro context status ⟨⟩
        exact ⟨device, ends, sound.asked device context here⟩
    · exact (history.sound next (List.mem_cons_of_mem _ waiting)).mono grows
  · intro system ended member success
    rcases List.mem_append.mp member with before | now
    · exact (history.granted system ended before success).mono grows
    · cases List.mem_singleton.mp now
      exact (granted system rfl success).mono grows
  · intro device context ended member
    rcases List.mem_append.mp member with before | now
    · rcases history.passedOn device context ended before with called | answered
      · rcases List.mem_cons.mp called with same | waiting
        · obtain ⟨rfl, rfl⟩ := follows context ended same.symm
          exact .inr ends
        · exact .inl (List.mem_append_right _ waiting)
      · exact .inr (grows.finished answered)
    · cases List.mem_singleton.mp now
      exact .inl (List.mem_append_left _ (List.mem_singleton_self _))

/-- The history is about the irps that were completed and passed down. -/
theorem History.of_same
    (history : History capabilities shared strands)
    (finished : after.finished = shared.finished)
    (skipped : after.skipped = shared.skipped) :
    History capabilities after strands := by
  have grows : Extends shared after := by
    constructor
    · rw [finished]
      exact List.Subset.refl _
    · rw [skipped]
      exact List.Subset.refl _
  constructor
  · intro point member
    exact (history.sound point member).mono grows
  · intro irp status member success
    rw [finished] at member
    exact (history.granted irp status member success).mono grows
  · intro device context status
    rw [finished]
    exact history.passedOn device context status

/-- `PoStartNextPowerIrp` and `IoCompleteRequest`. -/
theorem History.finish
    (history : History capabilities shared (point :: rest))
    (same : SameIrps shared after)
    (here : point.irp = some irp)
    (granted : ∀ system, irp = .system system → NtSuccess status →
      Granted capabilities shared system status)
    (follows : ∀ context ended, point = .devPoCompletion context ended →
      irp = .system context.sIrp ∧ status = ended) :
    History capabilities (after.finish irp status).1
      ((after.finish irp status).2 ++ rest) := by
  have started : History capabilities (after.startNext irp) (point :: rest) :=
    history.of_same same.finished same.skipped
  apply started.complete here ?_ follows
  intro system isSystem success
  exact (granted system isSystem success).mono
    ⟨same.extends.finished, same.extends.skipped⟩

/-- The irp waits for the device to wake the system. -/
theorem History.waitOn
    (history : History capabilities shared (point :: rest))
    (going : ∀ context status, point ≠ .devPoCompletion context status)
    (grows : Extends shared after)
    (same : after.finished = shared.finished)
    (waits : next = .waitWake number ∨ next = .cancelWaitWake number) :
    History capabilities after ([next] ++ rest) := by
  apply history.goOn going grows same
  intro other begun
  rw [List.mem_singleton.mp begun]
  rcases waits with rfl | rfl
  · exact ⟨nofun, nofun, nofun⟩
  · exact ⟨nofun, nofun, nofun⟩

/-- An irp that waited is completed. -/
theorem History.finishWaitWake
    (history : History capabilities shared (point :: rest))
    (here : point.irp = some (.waitWake number))
    (going : ∀ context status, point ≠ .devPoCompletion context status) :
    History capabilities (shared.finishWaitWake number status).1
      ((shared.finishWaitWake number status).2 ++ rest) := by
  have told : History capabilities
      { shared with startedAgain := shared.startedAgain ++ [number] }
      (point :: rest) := history.of_same rfl rfl
  apply told.complete here nofun
  intro context ended same
  exact absurd same (going context ended)

/-- Every step keeps the history. -/
theorem History.advance
    (history : History capabilities shared (point :: rest))
    (effect : Effect capabilities shared point result) :
    History capabilities result.1 (result.2 ++ rest) := by
  have sound := history.sound point List.mem_cons_self
  cases effect with
  | move undecided same stay irps => exact history.move undecided same stay irps
  | finish undecided same here fails =>
      apply history.finish same here
      · intro system isSystem success
        exact absurd success (fails system isSystem)
      · rintro context ended rfl
        exact undecided.elim
  | passDown undecided here => exact history.passDown undecided here
  | complete =>
      apply history.complete rfl
      · rintro system rfl _
        exact .inl (sound.skipped (.system system) rfl)
      · rintro context ended ⟨⟩
  | request => exact history.requestDevice
  | follow same =>
      apply history.finish same rfl
      · rintro system ⟨⟩ _
        obtain ⟨device, finished, asks⟩ := sound.answered _ _ rfl
        exact .inr ⟨device, _, finished, rfl, asks⟩
      · rintro context ended ⟨⟩
        exact ⟨rfl, rfl⟩
  | sendDown =>
      exact history.waitOn nofun ⟨List.Subset.refl _, List.Subset.refl _⟩ rfl
        (.inl rfl)
  | leave =>
      exact history.waitOn nofun ⟨List.Subset.refl _, List.Subset.refl _⟩ rfl
        (.inr rfl)
  | finishWaitWake here =>
      rcases here with rfl | rfl
      · exact history.finishWaitWake rfl nofun
      · exact history.finishWaitWake rfl nofun

theorem History.of_perm
    (history : History capabilities shared first)
    (perm : first.Perm second) : History capabilities shared second where
  sound point member := history.sound point (perm.mem_iff.mpr member)
  granted := history.granted
  passedOn device context status member := by
    rw [← perm.mem_iff]
    exact history.passedOn device context status member

/-- An irp comes from outside. -/
theorem History.arrive
    (history : History capabilities shared strands)
    (number : Nat)
    (arrival : Arrival) :
    let arrived := shared.arrive (arrival.irp number)
    History capabilities arrived.1 (arrived.2 :: strands) := by
  have before : History capabilities
      (shared.arrive (arrival.irp number)).1 strands :=
    history.of_same rfl rfl
  constructor
  · intro point member
    rcases List.mem_cons.mp member with rfl | waiting
    · refine Point.Undecided.sound ?_ ?_
      · trivial
      · intro device context here
        cases arrival with
        | _ => cases here
    · exact before.sound point waiting
  · exact before.granted
  · intro device context status member
    rcases before.passedOn device context status member with called | ended
    · exact .inl (List.mem_cons_of_mem _ called)
    · exact .inr ended

/-! ## Memory -/

/-- The blocks for `POWER_COMPLETION_CONTEXT` that a routine has. -/
def Point.contexts : Point → List Nat
  | requestPowerIrp _ block => [block]
  | devPoCompletion context _ => [context.block]
  | point => (point.irp.bind Irp.context).toList.map Context.block

/-- What a routine has of `HoldIoRequests`. -/
def Point.workers : Point → List Worker
  | hold _ _ worker | freeWorker worker => [worker]
  | _ => []

/-- A routine keeps the books about the memory. -/
structure Frees
    (shared : Shared)
    (point : Point)
    (result : Shared × List Point) : Prop where
  contexts : shared.contexts.Moves result.1.contexts point.contexts
    (result.2.flatMap Point.contexts)
  workers : shared.workers.Moves result.1.workers
    (point.workers.map Worker.block)
    ((result.2.flatMap Point.workers).map Worker.block)
  workItems : shared.workItems.Moves result.1.workItems
    (point.workers.map Worker.workItem)
    ((result.2.flatMap Point.workers).map Worker.workItem)

/-- The routines that are called for a completed irp have its context. -/
theorem flatMap_contexts_complete (irp : Irp) (status : NtStatus) :
    (irp.context.toList.map (Point.devPoCompletion · status)).flatMap
        Point.contexts =
      irp.context.toList.map Context.block := by
  cases irp.context with
  | none => rfl
  | some context => rfl

theorem flatMap_workers_complete (irp : Irp) (status : NtStatus) :
    (irp.context.toList.map (Point.devPoCompletion · status)).flatMap
        Point.workers = [] := by
  cases irp.context with
  | none => rfl
  | some context => rfl

/-- The irp is completed when only its context is left. -/
theorem frees_complete
    {shared after : Shared}
    {point : Point}
    {irp : Irp}
    (status : NtStatus)
    (contexts : shared.contexts.Moves after.contexts point.contexts
      (irp.context.toList.map Context.block))
    (workers : shared.workers.Moves after.workers
      (point.workers.map Worker.block) [])
    (workItems : shared.workItems.Moves after.workItems
      (point.workers.map Worker.workItem) []) :
    Frees shared point (after.complete irp status) where
  contexts := by
    rw [Shared.complete, flatMap_contexts_complete]
    exact contexts
  workers := by
    rw [Shared.complete, flatMap_workers_complete]
    exact workers
  workItems := by
    rw [Shared.complete, flatMap_workers_complete]
    exact workItems

theorem frees_finish
    {shared after : Shared}
    {point : Point}
    {irp : Irp}
    (status : NtStatus)
    (contexts : shared.contexts.Moves after.contexts point.contexts
      (irp.context.toList.map Context.block))
    (workers : shared.workers.Moves after.workers
      (point.workers.map Worker.block) [])
    (workItems : shared.workItems.Moves after.workItems
      (point.workers.map Worker.workItem) []) :
    Frees shared point (after.finish irp status) :=
  frees_complete status contexts workers workItems

/-- The memory that a routine has goes to the next one. -/
theorem Frees.goOn
    {shared after : Shared}
    (contexts : shared.contexts.Moves after.contexts point.contexts
      next.contexts)
    (workers : shared.workers.Moves after.workers
      (point.workers.map Worker.block) (next.workers.map Worker.block))
    (workItems : shared.workItems.Moves after.workItems
      (point.workers.map Worker.workItem)
      (next.workers.map Worker.workItem)) :
    Frees shared point (after, [next]) where
  contexts := by
    rw [List.flatMap_singleton]
    exact contexts
  workers := by
    rw [List.flatMap_singleton]
    exact workers
  workItems := by
    rw [List.flatMap_singleton]
    exact workItems

/-- `HoldIoRequests`. -/
theorem frees_holdIoRequests
    (shared : Shared)
    (irp : DeviceIrp)
    (context : Option Context)
    (chance : Chance) :
    Frees shared (.handle (.device irp context))
      (shared.holdIoRequests irp context chance) := by
  fun_cases Shared.holdIoRequests with
  | case1 workers requested =>
      exact frees_finish _ (.refl _ _) (.refl _ _) (.refl _ _)
  | case2 block workers requested workItems failed =>
      apply frees_finish _ (.refl _ _) ?_ (.refl _ _)
      obtain ⟨rfl, rfl⟩ := Ledger.eq_of_request requested
      exact (Ledger.moves_issue _ _).trans (Ledger.moves_release _ _ _)
  | case3 block workers requested workItem workItems granted =>
      obtain ⟨rfl, rfl⟩ := Ledger.eq_of_request requested
      obtain ⟨rfl, rfl⟩ := Ledger.eq_of_request granted
      apply Frees.goOn
      · exact .refl _ _
      · exact Ledger.moves_issue _ _
      · exact Ledger.moves_issue _ _

/-- The handlers of the minor functions. -/
theorem frees_handle
    (capabilities : Capabilities)
    (shared : Shared)
    (chance : Chance)
    (irp : Irp) :
    Frees shared (.handle irp)
      (shared.advance capabilities chance (.handle irp)) := by
  match irp with
  | .system irp =>
      rw [Shared.advance]
      fun_cases Shared.handleSystem with
      | case1 incompatible =>
          exact frees_finish _ (.refl _ _) (.refl _ _) (.refl _ _)
      | case2 compatible => exact .goOn (.refl _ _) (.refl _ _) (.refl _ _)
  | .device irp context =>
      rw [Shared.advance]
      cases irp.minor with
      | setPower =>
          dsimp only
          fun_cases Shared.handleDeviceSetPower with
          | case1 up => exact .goOn (.refl _ _) (.refl _ _) (.refl _ _)
          | case2 notUp down => exact frees_holdIoRequests shared irp context chance
          | case3 notUp notDown => exact .goOn (.refl _ _) (.refl _ _) (.refl _ _)
      | queryPower =>
          dsimp only
          fun_cases Shared.handleDeviceQueryPower with
          | case1 incompatible =>
              exact frees_finish _ (.refl _ _) (.refl _ _) (.refl _ _)
          | case2 compatible up => exact .goOn (.refl _ _) (.refl _ _) (.refl _ _)
          | case3 compatible notUp =>
              exact frees_holdIoRequests shared irp context chance
  | .waitWake number => exact .goOn (.refl _ _) (.refl _ _) (.refl _ _)
  | .other number => exact .goOn (.refl _ _) (.refl _ _) (.refl _ _)

/-- Every step keeps the books about the memory. -/
theorem frees_advance
    (capabilities : Capabilities)
    (shared : Shared)
    (chance : Chance)
    (point : Point) :
    Frees shared point (shared.advance capabilities chance point) := by
  cases point with
  | dispatch irp =>
      rw [Shared.advance]
      split_ifs with removed notStarted
      · exact frees_finish _ (.refl _ _) (.refl _ _) (.refl _ _)
      · exact .goOn (.refl _ _) (.refl _ _) (.refl _ _)
      · exact .goOn (.refl _ _) (.refl _ _) (.refl _ _)
  | handle irp => exact frees_handle capabilities shared chance irp
  | skip irp =>
      exact frees_complete _ (.refl _ _) (.refl _ _) (.refl _ _)
  | systemPending irp =>
      rw [Shared.advance]
      split_ifs with succeeds
      · fun_cases Shared.sysPoCompletion with
        | case1 set => exact .goOn (.refl _ _) (.refl _ _) (.refl _ _)
        | case2 query => exact .goOn (.refl _ _) (.refl _ _) (.refl _ _)
      · exact frees_finish _ (.refl _ _) (.refl _ _) (.refl _ _)
  | sendDeviceIrp irp =>
      rw [Shared.advance]
      split
      case h_1 contexts failed =>
        exact frees_finish _ (.refl _ _) (.refl _ _) (.refl _ _)
      case h_2 block contexts granted =>
        obtain ⟨rfl, rfl⟩ := Ledger.eq_of_request granted
        exact .goOn (Ledger.moves_issue _ _) (.refl _ _) (.refl _ _)
  | requestPowerIrp irp block =>
      rw [Shared.advance]
      split_ifs with succeeds
      · exact .goOn (.refl _ _) (.refl _ _) (.refl _ _)
      · exact frees_finish _ (Ledger.moves_release _ _ _) (.refl _ _) (.refl _ _)
  | powerUp irp context =>
      rw [Shared.advance]
      split_ifs with succeeds
      · exact frees_finish _ (.refl _ _) (.refl _ _) (.refl _ _)
      · exact frees_finish _ (.refl _ _) (.refl _ _) (.refl _ _)
  | powerDown irp context =>
      rw [Shared.advance]
      split_ifs with down
      · exact frees_finish _ (.refl _ _) (.refl _ _) (.refl _ _)
      · exact frees_finish _ (.refl _ _) (.refl _ _) (.refl _ _)
  | hold irp context worker =>
      constructor
      · have later :
            [.powerDown irp context, .freeWorker worker].flatMap Point.contexts =
              (Point.hold irp context worker).contexts := List.append_nil _
        rw [Shared.advance, later]
        exact .refl _ _
      · exact .refl _ _
      · exact .refl _ _
  | freeWorker worker =>
      exact ⟨.refl _ _, Ledger.moves_release _ _ _, Ledger.moves_release _ _ _⟩
  | devPoCompletion context status =>
      exact frees_finish _ (Ledger.moves_release _ _ _) (.refl _ _) (.refl _ _)
  | waitWake number =>
      rw [Shared.advance]
      split_ifs with cancelled
      · exact .goOn (.refl _ _) (.refl _ _) (.refl _ _)
      · exact frees_complete _ (.refl _ _) (.refl _ _) (.refl _ _)
  | cancelWaitWake number =>
      exact frees_complete _ (.refl _ _) (.refl _ _) (.refl _ _)

/-! ## Runs -/

/-- What holds between any two steps. -/
structure Orderly
    (capabilities : Capabilities)
    (shared : Shared)
    (strands : List Point) : Prop where
  owes : Owes shared strands
  history : History capabilities shared strands
  reported : shared.devPower = shared.reported
  contexts : shared.contexts.Accounts (strands.flatMap Point.contexts)
  workers : shared.workers.Accounts
    ((strands.flatMap Point.workers).map Worker.block)
  workItems : shared.workItems.Accounts
    ((strands.flatMap Point.workers).map Worker.workItem)

theorem Orderly.of_perm
    (orderly : Orderly capabilities shared first)
    (perm : first.Perm second) : Orderly capabilities shared second where
  owes := orderly.owes.of_perm perm
  history := orderly.history.of_perm perm
  reported := orderly.reported
  contexts := orderly.contexts.of_perm (perm.flatMap_right _)
  workers := orderly.workers.of_perm ((perm.flatMap_right _).map _)
  workItems := orderly.workItems.of_perm ((perm.flatMap_right _).map _)

/-- An irp comes from outside. -/
theorem Orderly.arrive
    (orderly : Orderly capabilities shared strands)
    (arrival : Arrival) :
    let arrived := shared.arrive (arrival.irp shared.irps.issued)
    Orderly capabilities arrived.1 (arrived.2 :: strands) := by
  have contexts : (Point.dispatch (arrival.irp shared.irps.issued)).contexts =
      [] := by
    cases arrival with
    | _ => rfl
  constructor
  · exact orderly.owes.arrive arrival
  · exact orderly.history.arrive _ arrival
  · exact orderly.reported
  · rw [List.flatMap_cons, Shared.arrive, contexts]
    exact orderly.contexts
  · exact orderly.workers
  · exact orderly.workItems

/-- The power manager knows the state of the device. -/
theorem Effect.reported
    (effect : Effect capabilities shared point result)
    (told : shared.devPower = shared.reported) :
    result.1.devPower = result.1.reported := by
  cases effect with
  | move undecided same stay irps => exact same.reported told
  | finish undecided same here fails => exact same.reported told
  | passDown undecided here => exact told
  | complete => exact told
  | request => exact told
  | follow same => exact same.reported told
  | sendDown => exact told
  | leave => exact told
  | finishWaitWake here => exact told

theorem Orderly.advance
    (orderly : Orderly capabilities shared (point :: rest))
    (chance : Chance) :
    let result := shared.advance capabilities chance point
    Orderly capabilities result.1 (result.2 ++ rest) := by
  have effect := effect_advance capabilities shared chance point
  have frees := frees_advance capabilities shared chance point
  constructor
  · exact orderly.owes.advance effect
  · exact orderly.history.advance effect
  · exact effect.reported orderly.reported
  · rw [List.flatMap_append]
    exact frees.contexts _ orderly.contexts
  · rw [List.flatMap_append, List.map_append]
    apply frees.workers
    rw [← List.map_append, ← List.flatMap_cons]
    exact orderly.workers
  · rw [List.flatMap_append, List.map_append]
    apply frees.workItems
    rw [← List.map_append, ← List.flatMap_cons]
    exact orderly.workItems

/-- A turn keeps everything in order. -/
theorem Orderly.step
    (orderly : Orderly capabilities pool.shared pool.strands)
    (stepped : (program capabilities).machine.step pool turn =
      some (output, next)) :
    Orderly capabilities next.shared next.strands := by
  refine Program.invariant_of_step (Orderly capabilities)
    (fun _ _ _ perm kept => kept.of_perm perm) ?_ ?_ orderly
    (Program.obeys_of_forall (fun _ _ _ _ => trivial) pool turn) stepped
  · intro shared strands arrival behind point kept entered
    cases entered
    exact kept.arrive arrival
  · intro shared point rest chance output behind later kept _ advanced
    have advances := kept.advance chance
    rwa [advance_of_eq_some advanced] at advances

/-- An irp is held where `PoStartNextPowerIrp` was not called for it. -/
theorem Point.unstarted_subset_held (point : Point) :
    point.unstarted ⊆ point.held := by
  cases point with
  | skip irp =>
      rw [held_of_irp rfl]
      exact List.subset_cons_self _ _
  | waitWake number => exact List.nil_subset _
  | cancelWaitWake number => exact List.nil_subset _
  | _ => exact List.Subset.refl _

/-- `PoStartNextPowerIrp` has been called for an irp that was completed. -/
theorem Owes.mem_nextStarted
    (owes : Owes shared strands)
    (ended : irp ∈ shared.irps.released) :
    irp ∈ shared.nextStarted.released := by
  have issued : irp < shared.nextStarted.issued := by
    rw [owes.issued]
    apply List.mem_range.mp
    exact owes.irps.mem_iff.mp (List.mem_append_right _ ended)
  by_contra waiting
  have unstarted := owes.nextStarted.mem_of_isOpen ⟨issued, waiting⟩
  obtain ⟨point, member, listed⟩ := List.mem_flatMap.mp unstarted
  have held : irp ∈ strands.flatMap Point.held :=
    List.mem_flatMap.mpr ⟨point, member, point.unstarted_subset_held listed⟩
  exact (owes.irps.isOpen held).2 ended

/-- The number of an irp with a status is that of a completed one. -/
theorem Owes.number_mem
    (owes : Owes shared strands)
    (finished : (irp, status) ∈ shared.finished) :
    irp.number ∈ shared.irps.released := by
  rw [← owes.statuses]
  exact List.mem_map.mpr ⟨_, finished, rfl⟩

/-- An irp has one status. -/
theorem Owes.status_unique
    (owes : Owes shared strands)
    (first : (irp, status) ∈ shared.finished)
    (second : (irp, ended) ∈ shared.finished) : ended = status := by
  have once := owes.irps.nodup_released
  rw [← owes.statuses] at once
  have same := List.inj_on_of_nodup_map once second first rfl
  exact congrArg Prod.snd same

/-- `PoStartNextPowerIrp` is called again once for an irp, which waited for the
device to wake the system. -/
theorem Owes.startedAgain_once
    (owes : Owes shared strands) : shared.startedAgain.Nodup := by
  have once := owes.irps.nodup_released
  rw [← owes.statuses] at once
  exact once.sublist (owes.startedAgain.trans (List.filter_sublist.map _))

theorem Owes.exists_finished
    (owes : Owes shared strands)
    (again : irp ∈ shared.startedAgain) :
    ∃ status, (.waitWake irp, status) ∈ shared.finished := by
  obtain ⟨⟨ended, status⟩, finished, rfl⟩ :=
    List.mem_map.mp (owes.startedAgain.subset again)
  obtain ⟨finished, waited⟩ := List.mem_filter.mp finished
  cases ended with
  | waitWake number => exact ⟨status, finished⟩
  | _ => cases waited

/-- The irp for the system waits for the one for the device, and ends as that
one did. -/
theorem Orderly.agrees
    (orderly : Orderly capabilities shared strands)
    (device : (.device irp (some context), status) ∈ shared.finished)
    (system : (.system context.sIrp, ended) ∈ shared.finished) :
    ended = status := by
  rcases orderly.history.passedOn irp context status device with called | answered
  · have held : context.sIrp.number ∈ strands.flatMap Point.held :=
      List.mem_flatMap.mpr ⟨_, called, List.mem_cons_self⟩
    have waits := (orderly.owes.irps.isOpen held).2
    exact absurd (orderly.owes.number_mem system) waits
  · exact orderly.owes.status_unique answered system

/-- Nothing is open that nobody holds. -/
theorem openResources_eq_nil
    {ledger : Ledger}
    (accounts : ledger.Accounts []) : ledger.openResources = [] :=
  accounts.perm_openResources.nil_eq.symm

theorem Orderly.settled
    (orderly : Orderly capabilities pool.shared pool.strands) :
    Settled capabilities pool where
  once := orderly.owes.irps.nodup_released
  startedOnce := orderly.owes.nextStarted.nodup_released
  startedAgain := ⟨orderly.owes.startedAgain_once,
    fun _ again => orderly.owes.exists_finished again⟩
  started irp ended := orderly.owes.mem_nextStarted ended
  statuses := orderly.owes.statuses
  granted := orderly.history.granted
  agrees device context status ended first second :=
    orderly.agrees first second
  reported := orderly.reported
  freedOnce :=
    ⟨orderly.contexts.nodup_released, orderly.workers.nodup_released,
      orderly.workItems.nodup_released⟩
  ended none := by
    obtain ⟨owes, history, reported, contexts, workers, workItems⟩ := orderly
    rw [none] at owes contexts workers workItems
    refine ⟨?_, ?_, ?_, ?_⟩
    · intro irp issued
      by_contra waiting
      cases owes.irps.mem_of_isOpen ⟨issued, waiting⟩
    · exact openResources_eq_nil contexts
    · exact openResources_eq_nil workers
    · exact openResources_eq_nil workItems

end Power
end Usb
end BthEmul
