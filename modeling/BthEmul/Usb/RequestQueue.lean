import BthEmul.Foundation.Ledger
import BthEmul.Foundation.Pool
import BthEmul.Usb.QueueState
import Mathlib.Data.List.Nodup

/-!
# The queue of held requests

`QueueRequest` puts an irp on `NewRequestsQueue` with a cancel routine. The irp
leaves the queue through that routine, through the cleanup of its handle, or
through `ProcessQueuedRequests`. Whoever exchanges the cancel routine for null
has the irp: the others find null and leave it alone.

What a routine does under the queue lock is one step, and so are the assertion of
`QueueRequest` and what it does. An irp that is cancelled before it is queued
arrives with its `Cancel` flag set.
-/

namespace BthEmul

open Foundation

namespace Usb

/-- An irp on the queue. -/
structure HeldIrp where
  /-- The number of irps queued before it. -/
  irp : Nat
  /-- `FileObject` of its stack location. -/
  fileObject : Nat
  /-- `Cancel`. -/
  cancel : Bool
  /-- The cancel routine is `CancelQueued`, and not null. -/
  cancelRoutine : Bool
  deriving DecidableEq

/-- The queue, the irps that went through it, and those whose cancellation or
cleanup was asked for. -/
structure RequestQueue where
  /-- `NewRequestsQueue`. -/
  newRequestsQueue : List HeldIrp
  /-- The irps queued, and those that have left the driver. -/
  irps : Ledger
  /-- The irps to be cancelled or cleaned up. -/
  asked : List Nat
  deriving DecidableEq

/-- How far a routine is. -/
inductive QueuePoint
  /-- `QueueRequest`. -/
  | queueRequest (fileObject : Nat) (cancel : Bool)
  /-- `IoCancelIrp`, before the `Cancel` flag is set. -/
  | setCancel (irp : Nat)
  /-- Before the cancel routine is exchanged for null. -/
  | takeRoutine (irp : Nat)
  /-- `CancelQueued`. -/
  | cancelQueued (irp : Nat)
  /-- `FreeBT_DispatchClean`. -/
  | dispatchClean (fileObject : Nat)
  /-- In the loop of `ProcessQueuedRequests`, with its `cancelledIrpList`. -/
  | process (cancelledIrpList : List Nat)
  /-- Before `QueueState` is read. -/
  | decide (irp : Nat) (cancelledIrpList : List Nat)
  /-- Before irps are completed with `STATUS_CANCELLED`. -/
  | complete (cancelledIrpList : List Nat)
  deriving DecidableEq

/-- What becomes of an irp in a step. -/
inductive IrpFate
  /-- It is put on the queue. -/
  | queued (irp : Nat)
  /-- It is sent to the lower driver. -/
  | sent (irp : Nat)
  /-- It is completed with `STATUS_CANCELLED`. -/
  | cancelled (irp : Nat)
  /-- It is completed with `STATUS_DELETE_PENDING`. -/
  | deletePending (irp : Nat)
  deriving DecidableEq

/-- The entry with its `Cancel` flag set, if it is the irp. -/
def HeldIrp.setCancel (irp : Nat) (entry : HeldIrp) : HeldIrp :=
  if entry.irp = irp then { entry with cancel := true } else entry

/-- The entry without its cancel routine, if it is the irp. -/
def HeldIrp.takeRoutine (irp : Nat) (entry : HeldIrp) : HeldIrp :=
  if entry.irp = irp then { entry with cancelRoutine := false } else entry

/-- The irps of some entries that still have a cancel routine. -/
def armedIrps (entries : List HeldIrp) : List Nat :=
  (entries.filter (·.cancelRoutine)).map (·.irp)

namespace RequestQueue

/-- Nothing has been queued. -/
def start : RequestQueue where
  newRequestsQueue := []
  irps := .fresh
  asked := []

/-- What a routine does next while the queue is in a state, and what becomes of
an irp. -/
def advance
    (queue : RequestQueue)
    (queueState : QueueState) :
    QueuePoint → Option IrpFate × RequestQueue × List QueuePoint
  | .queueRequest fileObject cancel =>
      -- `ASSERT(HoldRequests == DeviceExtension->QueueState)`
      if queueState = .holdRequests then
        let irp := queue.irps.issued
        (some (.queued irp),
          { newRequestsQueue := queue.newRequestsQueue ++
              [{ irp, fileObject, cancel, cancelRoutine := true }]
            irps := queue.irps.issue
            asked := if cancel then queue.asked ++ [irp] else queue.asked }, [])
      else (none, queue, [])
  | .setCancel irp =>
      (none, { queue with
        newRequestsQueue := queue.newRequestsQueue.map (.setCancel irp)
        asked := queue.asked ++ [irp] }, [.takeRoutine irp])
  | .takeRoutine irp =>
      if irp ∈ armedIrps queue.newRequestsQueue then
        (none, { queue with
          newRequestsQueue := queue.newRequestsQueue.map (.takeRoutine irp) },
          [.cancelQueued irp])
      else (none, queue, [])
  | .cancelQueued irp =>
      (none, { queue with
        newRequestsQueue := queue.newRequestsQueue.filter (·.irp ≠ irp) },
        [.complete [irp]])
  | .dispatchClean fileObject =>
      let cleanup := armedIrps
        (queue.newRequestsQueue.filter (·.fileObject = fileObject))
      (none, { queue with
        newRequestsQueue :=
          queue.newRequestsQueue.filter (¬ ·.fileObject = fileObject)
        asked := queue.asked ++ cleanup }, [.complete cleanup])
  | .process cancelledIrpList =>
      match queue.newRequestsQueue with
      | [] => (none, queue, [.complete cancelledIrpList])
      | entry :: rest =>
          (none, { queue with newRequestsQueue := rest },
            if entry.cancel then
              if entry.cancelRoutine then
                [.process (cancelledIrpList ++ [entry.irp])]
              -- the cancel routine waits for the queue lock
              else [.process cancelledIrpList]
            else [.decide entry.irp cancelledIrpList])
  | .decide irp cancelledIrpList =>
      (some (if queueState = .failRequests then .deletePending irp
          else .sent irp),
        { queue with irps := queue.irps.release irp },
        [.process cancelledIrpList])
  | .complete [] => (none, queue, [])
  | .complete (irp :: rest) =>
      (some (.cancelled irp), { queue with irps := queue.irps.release irp },
        [.complete rest])

end RequestQueue

/-- The routines that begin from outside. -/
inductive QueueRoutine
  | queueRequest (fileObject : Nat) (cancel : Bool)
  | ioCancelIrp (irp : Nat)
  | dispatchClean (fileObject : Nat)
  deriving DecidableEq

/-- Where a routine begins. -/
def QueueRoutine.entry : QueueRoutine → QueuePoint
  | queueRequest fileObject cancel => .queueRequest fileObject cancel
  | ioCancelIrp irp => .setCancel irp
  | dispatchClean fileObject => .dispatchClean fileObject

/-- A routine may begin: only an irp that has been queued is cancelled. -/
def QueueRoutine.Begins (queue : RequestQueue) : QueueRoutine → Prop
  | ioCancelIrp irp => irp < queue.irps.issued
  | queueRequest _ _ | dispatchClean _ => True

instance (queue : RequestQueue) :
    (routine : QueueRoutine) → Decidable (routine.Begins queue)
  | .ioCancelIrp irp =>
      inferInstanceAs (Decidable (irp < queue.irps.issued))
  | .queueRequest _ _ | .dispatchClean _ => isTrue trivial

/-- The routines that use the queue. -/
def queueProgram :
    Program RequestQueue QueuePoint QueueRoutine QueueState
      (Option IrpFate) where
  enter queue routine :=
    if routine.Begins queue then some (queue, routine.entry) else none
  advance queue point queueState := some (queue.advance queueState point)

/-- The irp that leaves the driver, if one does. -/
def IrpFate.left : IrpFate → Option Nat
  | queued _ => none
  | sent irp | cancelled irp | deletePending irp => some irp

/-! ## Who has an irp -/

/-- The irps that a routine has. -/
def QueuePoint.irps : QueuePoint → List Nat
  | cancelQueued irp => [irp]
  | process cancelledIrpList | complete cancelledIrpList => cancelledIrpList
  | decide irp cancelledIrpList => irp :: cancelledIrpList
  | queueRequest _ _ | setCancel _ | takeRoutine _ | dispatchClean _ => []

/-- The irps that a routine is to cancel. -/
def QueuePoint.cancelling : QueuePoint → List Nat
  | takeRoutine irp | cancelQueued irp => [irp]
  | process cancelledIrpList | complete cancelledIrpList
  | decide _ cancelledIrpList => cancelledIrpList
  | queueRequest _ _ | setCancel _ | dispatchClean _ => []

/-- The irp is on the queue with its cancel routine, or a routine has it. -/
def Held (queue : RequestQueue) (strands : List QueuePoint) (irp : Nat) : Prop :=
  irp ∈ armedIrps queue.newRequestsQueue ∨ ∃ point ∈ strands, irp ∈ point.irps

/-- An irp that was queued is held by somebody until it leaves the driver, and
leaves it once: it is sent only while requests are allowed, completed with
`STATUS_DELETE_PENDING` only while they are failed, and completed with
`STATUS_CANCELLED` only where that was asked for. -/
structure SettledOnce
    (queue : RequestQueue)
    (queueState : QueueState)
    (fate : Option IrpFate)
    (next : RequestQueue)
    (strands : List QueuePoint) : Prop where
  settled : next.irps.released =
    queue.irps.released ++ (fate.bind IrpFate.left).toList
  once : next.irps.released.Nodup
  kept : ∀ irp, next.irps.IsOpen irp → Held next strands irp
  sent : ∀ irp, fate = some (.sent irp) → queueState = .allowRequests
  deletePending : ∀ irp, fate = some (.deletePending irp) →
    queueState = .failRequests
  cancelled : ∀ irp, fate = some (.cancelled irp) → irp ∈ next.asked

/-- The routines have the irps of the queue, each once. An irp without a cancel
routine was cancelled, and so was one that is about to lose it. -/
structure QueueKept (queue : RequestQueue) (strands : List QueuePoint) : Prop where
  irps : queue.irps.Accounts
    (armedIrps queue.newRequestsQueue ++ strands.flatMap QueuePoint.irps)
  disarmed : ∀ entry ∈ queue.newRequestsQueue,
    entry.cancelRoutine = false → entry.cancel = true
  cancelled : ∀ entry ∈ queue.newRequestsQueue, entry.cancel = true →
    entry.irp ∈ queue.asked
  asked : ∀ point ∈ strands, ∀ irp ∈ point.cancelling, irp ∈ queue.asked
  taking : ∀ irp, .takeRoutine irp ∈ strands →
    irp < queue.irps.issued ∧
      ∀ entry ∈ queue.newRequestsQueue, entry.irp = irp → entry.cancel = true
  setting : ∀ irp, .setCancel irp ∈ strands → irp < queue.irps.issued

theorem queueKept_start : QueueKept .start [] where
  irps := Ledger.accounts_fresh
  disarmed := nofun
  cancelled := nofun
  asked := nofun
  taking := nofun
  setting := nofun

/-! ## Entries -/

@[simp] theorem HeldIrp.setCancel_irp
    (irp : Nat)
    (entry : HeldIrp) : (entry.setCancel irp).irp = entry.irp := by
  unfold setCancel
  split <;> rfl

@[simp] theorem HeldIrp.setCancel_cancelRoutine
    (irp : Nat)
    (entry : HeldIrp) :
    (entry.setCancel irp).cancelRoutine = entry.cancelRoutine := by
  unfold setCancel
  split <;> rfl

@[simp] theorem HeldIrp.setCancel_cancel
    (irp : Nat)
    (entry : HeldIrp) :
    (entry.setCancel irp).cancel =
      (entry.cancel || decide (entry.irp = irp)) := by
  unfold setCancel
  split
  case isTrue same => rw [decide_eq_true same, Bool.or_true]
  case isFalse other => rw [decide_eq_false other, Bool.or_false]

@[simp] theorem HeldIrp.takeRoutine_irp
    (irp : Nat)
    (entry : HeldIrp) : (entry.takeRoutine irp).irp = entry.irp := by
  unfold takeRoutine
  split <;> rfl

@[simp] theorem HeldIrp.takeRoutine_cancel
    (irp : Nat)
    (entry : HeldIrp) : (entry.takeRoutine irp).cancel = entry.cancel := by
  unfold takeRoutine
  split <;> rfl

/-- The other irps keep their cancel routines. -/
theorem HeldIrp.takeRoutine_of_ne
    {irp : Nat}
    {entry : HeldIrp}
    (other : entry.irp ≠ irp) : entry.takeRoutine irp = entry :=
  if_neg other

@[simp] theorem armedIrps_nil : armedIrps [] = [] := rfl

@[simp] theorem armedIrps_cons
    (entry : HeldIrp)
    (entries : List HeldIrp) :
    armedIrps (entry :: entries) =
      (if entry.cancelRoutine then [entry.irp] else []) ++
        armedIrps entries := by
  cases armed : entry.cancelRoutine <;> simp [armedIrps, armed]

@[simp] theorem armedIrps_append
    (front back : List HeldIrp) :
    armedIrps (front ++ back) = armedIrps front ++ armedIrps back := by
  rw [armedIrps, List.filter_append, List.map_append]
  rfl

/-- A `Cancel` flag does not change who has a cancel routine. -/
theorem armedIrps_setCancel
    (irp : Nat)
    (entries : List HeldIrp) :
    armedIrps (entries.map (.setCancel irp)) = armedIrps entries := by
  induction entries with
  | nil => rfl
  | cons entry rest inductionHypothesis =>
      rw [List.map_cons, armedIrps_cons, armedIrps_cons, inductionHypothesis]
      unfold HeldIrp.setCancel
      split <;> rfl

/-- The irp whose cancel routine is taken has none any more. -/
theorem armedIrps_takeRoutine
    (irp : Nat)
    (entries : List HeldIrp) :
    armedIrps (entries.map (.takeRoutine irp)) =
      (armedIrps entries).filter (· != irp) := by
  induction entries with
  | nil => rfl
  | cons entry rest inductionHypothesis =>
      rw [List.map_cons, armedIrps_cons, armedIrps_cons, inductionHypothesis,
        List.filter_append]
      congr 1
      unfold HeldIrp.takeRoutine
      by_cases same : entry.irp = irp
      · cases armed : entry.cancelRoutine <;> simp [same]
      · cases armed : entry.cancelRoutine <;> simp [same, armed]

/-- Taking an irp off the queue takes it from those with a cancel routine. -/
theorem armedIrps_filter
    (irp : Nat)
    (entries : List HeldIrp) :
    armedIrps (entries.filter (·.irp ≠ irp)) =
      (armedIrps entries).filter (· != irp) := by
  induction entries with
  | nil => rfl
  | cons entry rest inductionHypothesis =>
      rw [armedIrps_cons, List.filter_append, ← inductionHypothesis]
      by_cases same : entry.irp = irp
      · cases armed : entry.cancelRoutine <;> simp [same]
      · cases armed : entry.cancelRoutine <;> simp [same, armed]

/-- The entries of a kind and the others have the irps between them. -/
theorem armedIrps_partition
    (kind : HeldIrp → Bool)
    (entries : List HeldIrp) :
    (armedIrps entries).Perm
      (armedIrps (entries.filter kind) ++
        armedIrps (entries.filter (¬ kind ·))) := by
  rw [← armedIrps_append]
  have parts := (List.filter_append_perm kind entries).symm
  simpa [armedIrps] using (parts.filter (·.cancelRoutine)).map (·.irp)

/-! ## Steps -/

theorem QueueKept.of_perm
    (kept : QueueKept queue first)
    (perm : first.Perm second) : QueueKept queue second where
  irps := kept.irps.of_perm ((perm.flatMap_right _).append_left _)
  disarmed := kept.disarmed
  cancelled := kept.cancelled
  asked point member := kept.asked point (perm.mem_iff.mpr member)
  taking irp member := kept.taking irp (perm.mem_iff.mpr member)
  setting irp member := kept.setting irp (perm.mem_iff.mpr member)

/-- Behind a step of a routine the irps are kept where its own are, no irp that
is to be cancelled is forgotten, and an irp that was cancelled stays so. -/
theorem QueueKept.of_step
    (kept : QueueKept queue (point :: rest))
    {behind : RequestQueue}
    {later : List QueuePoint}
    (irps : behind.irps.Accounts
      (armedIrps behind.newRequestsQueue ++
        (later.flatMap QueuePoint.irps ++ rest.flatMap QueuePoint.irps)))
    (disarmed : ∀ entry ∈ behind.newRequestsQueue,
      entry.cancelRoutine = false → entry.cancel = true)
    (cancelled : ∀ entry ∈ behind.newRequestsQueue, entry.cancel = true →
      entry.irp ∈ behind.asked)
    (grows : queue.asked ⊆ behind.asked)
    (issued : queue.irps.issued ≤ behind.irps.issued)
    (stays : ∀ irp < queue.irps.issued,
      (∀ entry ∈ queue.newRequestsQueue, entry.irp = irp →
        entry.cancel = true) →
      ∀ entry ∈ behind.newRequestsQueue, entry.irp = irp →
        entry.cancel = true)
    (asked : ∀ next ∈ later, ∀ irp ∈ next.cancelling, irp ∈ behind.asked)
    (taking : ∀ irp, .takeRoutine irp ∈ later →
      irp < behind.irps.issued ∧
        ∀ entry ∈ behind.newRequestsQueue, entry.irp = irp →
          entry.cancel = true)
    (setting : ∀ irp, .setCancel irp ∉ later) :
    QueueKept behind (later ++ rest) where
  irps := by
    rw [List.flatMap_append]
    exact irps
  disarmed := disarmed
  cancelled := cancelled
  asked next member irp own := by
    rcases List.mem_append.mp member with new | old
    · exact asked next new irp own
    · exact grows (kept.asked next (List.mem_cons_of_mem _ old) irp own)
  taking irp member := by
    rcases List.mem_append.mp member with new | old
    · exact taking irp new
    · obtain ⟨queued, before⟩ := kept.taking irp (List.mem_cons_of_mem _ old)
      exact ⟨by omega, stays irp queued before⟩
  setting irp member := by
    rcases List.mem_append.mp member with new | old
    · exact absurd new (setting irp)
    · have queued := kept.setting irp (List.mem_cons_of_mem _ old)
      omega

/-- What holds of the entries that stay on the queue holds behind a step that
only takes entries off. -/
theorem QueueKept.of_sublist
    (kept : QueueKept queue (point :: rest))
    {behind : RequestQueue}
    {later : List QueuePoint}
    (irps : behind.irps.Accounts
      (armedIrps behind.newRequestsQueue ++
        (later.flatMap QueuePoint.irps ++ rest.flatMap QueuePoint.irps)))
    (sublist : behind.newRequestsQueue ⊆ queue.newRequestsQueue)
    (grows : queue.asked ⊆ behind.asked)
    (issued : queue.irps.issued ≤ behind.irps.issued)
    (asked : ∀ next ∈ later, ∀ irp ∈ next.cancelling, irp ∈ behind.asked)
    (taking : ∀ irp, .takeRoutine irp ∉ later)
    (setting : ∀ irp, .setCancel irp ∉ later) :
    QueueKept behind (later ++ rest) := by
  apply kept.of_step irps
  · exact fun entry member => kept.disarmed entry (sublist member)
  · exact fun entry member flag =>
      grows (kept.cancelled entry (sublist member) flag)
  · exact grows
  · exact issued
  · exact fun irp _ before entry member => before entry (sublist member)
  · exact asked
  · exact fun irp member => absurd member (taking irp)
  · exact setting

/-- A routine goes on in one strand, with fewer entries on the queue. -/
theorem QueueKept.goesOn
    {entries : List HeldIrp}
    (kept : QueueKept queue (point :: rest))
    (later : QueuePoint)
    (irps : queue.irps.Accounts
      (armedIrps entries ++ (later.irps ++ rest.flatMap QueuePoint.irps)))
    (fewer : entries ⊆ queue.newRequestsQueue)
    (asked : ∀ irp ∈ later.cancelling, irp ∈ queue.asked)
    (taking : ∀ irp, .takeRoutine irp ≠ later)
    (setting : ∀ irp, .setCancel irp ≠ later) :
    QueueKept { queue with newRequestsQueue := entries }
      ([later] ++ rest) := by
  apply kept.of_sublist
  · rw [List.flatMap_singleton]
    exact irps
  · exact fewer
  · exact List.Subset.refl _
  · exact Nat.le_refl _
  · intro next member irp own
    rw [List.mem_singleton.mp member] at own
    exact asked irp own
  · intro irp member
    exact taking irp (List.mem_singleton.mp member)
  · intro irp member
    exact setting irp (List.mem_singleton.mp member)

/-- The irps of a routine and of the others are not on the queue with a cancel
routine. -/
theorem QueueKept.distinct
    (kept : QueueKept queue (point :: rest)) :
    (armedIrps queue.newRequestsQueue).Nodup ∧
      ∀ irp ∈ point.irps, irp ∉ armedIrps queue.newRequestsQueue := by
  have held := kept.irps.nodup_iff.mpr List.nodup_range
  rw [List.flatMap_cons] at held
  have split := List.nodup_append.mp (List.nodup_append.mp held).1
  refine ⟨split.1, fun irp own armed => ?_⟩
  exact split.2.2 irp armed irp (List.mem_append_left _ own) rfl

/-- `QueueRequest` puts an irp on the queue while it is on hold. -/
theorem QueueKept.queueRequest
    (kept : QueueKept queue (.queueRequest fileObject cancel :: rest))
    (queueState : QueueState) :
    QueueKept
      (queue.advance queueState (.queueRequest fileObject cancel)).2.1
      ((queue.advance queueState (.queueRequest fileObject cancel)).2.2 ++
        rest) := by
  by_cases hold : queueState ≠ .holdRequests
  · simp only [RequestQueue.advance, if_neg hold]
    exact kept.of_sublist kept.irps (List.Subset.refl _) (List.Subset.refl _)
      (Nat.le_refl _) nofun nofun nofun
  rw [ne_eq, not_not] at hold
  simp only [RequestQueue.advance, if_pos hold]
  have grows : queue.asked ⊆
      if cancel then queue.asked ++ [queue.irps.issued] else queue.asked := by
    split
    · exact List.subset_append_left _ _
    · exact List.Subset.refl _
  have fresh {irp : Nat} (queued : irp < queue.irps.issued) :
      queue.irps.issued ≠ irp := by omega
  apply kept.of_step
  · refine kept.irps.issue.of_perm ?_
    simp only [armedIrps_append, armedIrps_cons, armedIrps_nil,
      List.flatMap_cons, List.flatMap_nil, QueuePoint.irps, List.nil_append,
      List.append_nil, if_true]
    rw [List.append_assoc, List.append_assoc]
    exact List.perm_append_comm.append_left _
  · intro entry member
    rcases List.mem_append.mp member with old | new
    · exact kept.disarmed entry old
    · rw [List.mem_singleton.mp new]
      exact nofun
  · intro entry member flag
    rcases List.mem_append.mp member with old | new
    · exact grows (kept.cancelled entry old flag)
    · rw [List.mem_singleton.mp new] at flag ⊢
      simp [show cancel = true from flag]
  · exact grows
  · exact Nat.le_succ _
  · intro irp queued before entry member same
    rcases List.mem_append.mp member with old | new
    · exact before entry old same
    · rw [List.mem_singleton.mp new] at same
      exact absurd same (fresh queued)
  · exact nofun
  · exact nofun
  · exact nofun

/-- `IoCancelIrp` sets the `Cancel` flag. -/
theorem QueueKept.setCancel
    (kept : QueueKept queue (.setCancel irp :: rest))
    (queueState : QueueState) :
    QueueKept (queue.advance queueState (.setCancel irp)).2.1
      ([.takeRoutine irp] ++ rest) := by
  have queued := kept.setting irp List.mem_cons_self
  apply kept.of_step
  · change queue.irps.Accounts (armedIrps (queue.newRequestsQueue.map _) ++ _)
    rw [armedIrps_setCancel]
    exact kept.irps
  · intro entry member disarmed
    obtain ⟨old, present, rfl⟩ := List.mem_map.mp member
    rw [HeldIrp.setCancel_cancelRoutine] at disarmed
    rw [HeldIrp.setCancel_cancel, kept.disarmed old present disarmed]
    rfl
  · intro entry member flag
    obtain ⟨old, present, rfl⟩ := List.mem_map.mp member
    rw [HeldIrp.setCancel_cancel, Bool.or_eq_true, decide_eq_true_iff] at flag
    rw [HeldIrp.setCancel_irp]
    rcases flag with flag | rfl
    · exact List.mem_append_left _ (kept.cancelled old present flag)
    · exact List.mem_append_right _ (List.mem_singleton_self _)
  · exact List.subset_append_left _ _
  · exact Nat.le_refl _
  · intro other _ before entry member same
    obtain ⟨old, present, rfl⟩ := List.mem_map.mp member
    rw [HeldIrp.setCancel_irp] at same
    rw [HeldIrp.setCancel_cancel, before old present same]
    rfl
  · intro next member other own
    rw [List.mem_singleton.mp member] at own
    exact List.mem_append_right _ own
  · intro other member
    cases List.mem_singleton.mp member
    refine ⟨queued, fun entry member same => ?_⟩
    obtain ⟨old, present, rfl⟩ := List.mem_map.mp member
    rw [HeldIrp.setCancel_irp] at same
    rw [HeldIrp.setCancel_cancel, decide_eq_true same, Bool.or_true]
  · intro other member
    cases List.mem_singleton.mp member

/-- The canceller takes the cancel routine, or leaves the irp to somebody
else. -/
theorem QueueKept.takeRoutine
    (kept : QueueKept queue (.takeRoutine irp :: rest))
    (queueState : QueueState) :
    QueueKept (queue.advance queueState (.takeRoutine irp)).2.1
      ((queue.advance queueState (.takeRoutine irp)).2.2 ++ rest) := by
  obtain ⟨-, flagged⟩ := kept.taking irp List.mem_cons_self
  have asked := kept.asked _ List.mem_cons_self irp List.mem_cons_self
  by_cases armed : irp ∈ armedIrps queue.newRequestsQueue
  · simp only [RequestQueue.advance, if_pos armed]
    apply kept.of_step
    · refine kept.irps.of_perm ?_
      have taken := (List.perm_cons_erase armed).append_right
        (rest.flatMap QueuePoint.irps)
      rw [kept.distinct.1.erase_eq_filter] at taken
      rw [armedIrps_takeRoutine]
      refine taken.trans ?_
      simpa [QueuePoint.irps] using List.perm_middle.symm
    · intro entry member disarmed
      obtain ⟨old, present, rfl⟩ := List.mem_map.mp member
      rw [HeldIrp.takeRoutine_cancel]
      by_cases same : old.irp = irp
      · exact flagged old present same
      · rw [HeldIrp.takeRoutine_of_ne same] at disarmed
        exact kept.disarmed old present disarmed
    · intro entry member flag
      obtain ⟨old, present, rfl⟩ := List.mem_map.mp member
      rw [HeldIrp.takeRoutine_cancel] at flag
      rw [HeldIrp.takeRoutine_irp]
      exact kept.cancelled old present flag
    · exact List.Subset.refl _
    · exact Nat.le_refl _
    · intro other _ before entry member same
      obtain ⟨old, present, rfl⟩ := List.mem_map.mp member
      rw [HeldIrp.takeRoutine_irp] at same
      rw [HeldIrp.takeRoutine_cancel]
      exact before old present same
    · intro next member other own
      rw [List.mem_singleton.mp member] at own
      rwa [List.mem_singleton.mp own]
    · intro other member
      cases List.mem_singleton.mp member
    · intro other member
      cases List.mem_singleton.mp member
  · simp only [RequestQueue.advance, if_neg armed]
    exact kept.of_sublist kept.irps (List.Subset.refl _) (List.Subset.refl _)
      (Nat.le_refl _) nofun nofun nofun

/-- `CancelQueued` takes its irp off the queue. -/
theorem QueueKept.cancelQueued
    (kept : QueueKept queue (.cancelQueued irp :: rest))
    (queueState : QueueState) :
    QueueKept (queue.advance queueState (.cancelQueued irp)).2.1
      ([.complete [irp]] ++ rest) := by
  have own := kept.distinct.2 irp List.mem_cons_self
  have asked := kept.asked _ List.mem_cons_self irp List.mem_cons_self
  refine kept.goesOn (.complete [irp]) ?_ List.filter_sublist.subset ?_ nofun
    nofun
  · rw [armedIrps_filter, List.filter_eq_self.mpr]
    · exact kept.irps
    · intro other armed
      refine bne_iff_ne.mpr ?_
      rintro rfl
      exact own armed
  · intro other own
    rwa [List.mem_singleton.mp own]

/-- The cleanup of a handle takes its irps off the queue. -/
theorem QueueKept.dispatchClean
    (kept : QueueKept queue (.dispatchClean fileObject :: rest))
    (queueState : QueueState) :
    QueueKept (queue.advance queueState (.dispatchClean fileObject)).2.1
      ((queue.advance queueState (.dispatchClean fileObject)).2.2 ++ rest) := by
  apply kept.of_sublist
  · refine kept.irps.of_perm ?_
    have parts := (armedIrps_partition (·.fileObject = fileObject)
      queue.newRequestsQueue).append_right (rest.flatMap QueuePoint.irps)
    refine parts.trans ?_
    simpa [RequestQueue.advance, QueuePoint.irps] using
      List.perm_append_comm_assoc _ _ _
  · exact List.filter_sublist.subset
  · exact List.subset_append_left _ _
  · exact Nat.le_refl _
  · intro next member irp own
    rw [List.mem_singleton.mp member] at own
    exact List.mem_append_right _ own
  · simp [RequestQueue.advance]
  · simp [RequestQueue.advance]

/-- `ProcessQueuedRequests` takes the first irp off the queue. -/
theorem QueueKept.process
    (kept : QueueKept queue (.process cancelledIrpList :: rest))
    (queueState : QueueState) :
    QueueKept (queue.advance queueState (.process cancelledIrpList)).2.1
      ((queue.advance queueState (.process cancelledIrpList)).2.2 ++ rest) := by
  have asked := kept.asked _ List.mem_cons_self
  have irps := kept.irps
  cases present : queue.newRequestsQueue with
  | nil =>
      simp only [RequestQueue.advance, present]
      refine kept.goesOn (.complete cancelledIrpList) ?_ (List.Subset.refl _)
        asked nofun nofun
      simpa [QueuePoint.irps] using kept.irps
  | cons entry entries =>
      simp only [RequestQueue.advance, present]
      rw [present, armedIrps_cons] at irps
      have here : entry ∈ queue.newRequestsQueue := by
        rw [present]
        exact List.mem_cons_self
      have fewer : entries ⊆ queue.newRequestsQueue := by
        rw [present]
        exact List.subset_cons_self _ _
      cases flag : entry.cancel with
      | false =>
          have armed : entry.cancelRoutine = true := by
            cases routine : entry.cancelRoutine with
            | true => rfl
            | false =>
                have flagged := kept.disarmed entry here routine
                rw [flag] at flagged
                cases flagged
          refine kept.goesOn (.decide entry.irp cancelledIrpList) ?_ fewer asked
            nofun nofun
          refine irps.of_perm ?_
          simpa [armed, QueuePoint.irps] using List.perm_middle.symm
      | true =>
          cases armed : entry.cancelRoutine with
          | true =>
              refine kept.goesOn (.process (cancelledIrpList ++ [entry.irp])) ?_
                fewer ?_ nofun nofun
              · refine irps.of_perm ?_
                have moved : (entry.irp :: (armedIrps entries ++
                    cancelledIrpList) ++ rest.flatMap QueuePoint.irps).Perm
                    (armedIrps entries ++ cancelledIrpList ++
                      entry.irp :: rest.flatMap QueuePoint.irps) :=
                  List.perm_middle.symm
                simpa [armed, QueuePoint.irps] using moved
              · intro irp own
                rcases List.mem_append.mp own with old | new
                · exact asked irp old
                · rw [List.mem_singleton.mp new]
                  exact kept.cancelled entry here flag
          | false =>
              refine kept.goesOn (.process cancelledIrpList) ?_ fewer asked nofun
                nofun
              simpa [armed, QueuePoint.irps] using irps

/-- The irps that are left when one leaves the driver. -/
theorem QueueKept.release
    (kept : QueueKept queue (point :: rest))
    (own : point.irps = irp :: others)
    (later : List QueuePoint)
    (keeps : later.flatMap QueuePoint.irps = others)
    (asked : ∀ next ∈ later, ∀ each ∈ next.cancelling,
      each ∈ point.cancelling)
    (taking : ∀ each, .takeRoutine each ∉ later)
    (setting : ∀ each, .setCancel each ∉ later) :
    QueueKept { queue with irps := queue.irps.release irp }
      (later ++ rest) := by
  apply kept.of_sublist
  · apply Ledger.Accounts.release
    refine kept.irps.of_perm ?_
    rw [List.flatMap_cons, own, keeps]
    exact List.perm_middle
  · exact List.Subset.refl _
  · exact List.Subset.refl _
  · exact Nat.le_refl _
  · intro next member each cancelling
    exact kept.asked _ List.mem_cons_self each
      (asked next member each cancelling)
  · exact taking
  · exact setting

/-- `ProcessQueuedRequests` sends an irp or has it deleted. -/
theorem QueueKept.decide
    (kept : QueueKept queue (.decide irp cancelledIrpList :: rest))
    (queueState : QueueState) :
    QueueKept (queue.advance queueState (.decide irp cancelledIrpList)).2.1
      ([.process cancelledIrpList] ++ rest) := by
  apply kept.release rfl
  · exact List.append_nil _
  · intro next member
    rw [List.mem_singleton.mp member]
    exact fun each own => own
  · simp
  · simp

/-- A cancelled irp is completed. -/
theorem QueueKept.complete
    (kept : QueueKept queue (.complete cancelledIrpList :: rest))
    (queueState : QueueState) :
    QueueKept (queue.advance queueState (.complete cancelledIrpList)).2.1
      ((queue.advance queueState (.complete cancelledIrpList)).2.2 ++ rest) := by
  cases cancelledIrpList with
  | nil =>
      exact kept.of_sublist kept.irps (List.Subset.refl _)
        (List.Subset.refl _) (Nat.le_refl _) nofun nofun nofun
  | cons irp others =>
      apply kept.release rfl
      · exact List.append_nil _
      · intro next member
        rw [List.mem_singleton.mp member]
        exact fun each own => List.mem_cons_of_mem _ own
      · simp [RequestQueue.advance]
      · simp [RequestQueue.advance]

/-- A step of a routine keeps the queue. -/
theorem QueueKept.advance
    (kept : QueueKept queue (point :: rest))
    (queueState : QueueState) :
    QueueKept (queue.advance queueState point).2.1
      ((queue.advance queueState point).2.2 ++ rest) := by
  cases point with
  | queueRequest fileObject cancel => exact kept.queueRequest queueState
  | setCancel irp => exact kept.setCancel queueState
  | takeRoutine irp => exact kept.takeRoutine queueState
  | cancelQueued irp => exact kept.cancelQueued queueState
  | dispatchClean fileObject => exact kept.dispatchClean queueState
  | process cancelledIrpList => exact kept.process queueState
  | decide irp cancelledIrpList => exact kept.decide queueState
  | complete cancelledIrpList => exact kept.complete queueState

/-- An irp that has not left the driver is held. -/
theorem QueueKept.held
    (kept : QueueKept queue strands)
    (isOpen : queue.irps.IsOpen irp) : Held queue strands irp := by
  rcases List.mem_append.mp (kept.irps.mem_of_isOpen isOpen) with
    armed | taken
  · exact .inl armed
  · exact .inr (List.mem_flatMap.mp taken)

/-- Where no irp leaves the driver they are settled as before. -/
theorem QueueKept.settledOnce_of_same
    (kept : QueueKept next strands)
    (queue : RequestQueue)
    (fate : Option IrpFate)
    (queueState : QueueState)
    (released : next.irps.released = queue.irps.released)
    (stays : ∀ each ∈ fate, ∃ irp, each = .queued irp) :
    SettledOnce queue queueState fate next strands where
  settled := by
    cases fate with
    | none => exact released.trans (List.append_nil _).symm
    | some each =>
        obtain ⟨irp, rfl⟩ := stays each rfl
        exact released.trans (List.append_nil _).symm
  once := kept.irps.nodup_released
  kept _ isOpen := kept.held isOpen
  sent irp same := by
    obtain ⟨_, other⟩ := stays _ same
    cases other
  deletePending irp same := by
    obtain ⟨_, other⟩ := stays _ same
    cases other
  cancelled irp same := by
    obtain ⟨_, other⟩ := stays _ same
    cases other

/-- An irp does not leave the driver for the lower one while the queue is on
hold. -/
def QueuePoint.Waits (queueState : QueueState) : QueuePoint → Prop
  | decide _ _ => queueState ≠ .holdRequests
  | _ => True

instance (queueState : QueueState) :
    (point : QueuePoint) → Decidable (point.Waits queueState)
  | .decide _ _ => inferInstanceAs (Decidable (_ ≠ _))
  | .queueRequest _ _ | .setCancel _ | .takeRoutine _ | .cancelQueued _
  | .dispatchClean _ | .process _ | .complete _ => isTrue trivial

/-- The order of the routines does not matter. -/
theorem SettledOnce.of_perm
    (settled : SettledOnce queue queueState fate next first)
    (perm : first.Perm second) :
    SettledOnce queue queueState fate next second :=
  { settled with
    kept := by
      intro irp isOpen
      rcases settled.kept irp isOpen with armed | ⟨point, member, own⟩
      · exact .inl armed
      · exact .inr ⟨point, perm.mem_iff.mp member, own⟩ }

/-- The irp that `ProcessQueuedRequests` decides about is settled exactly if the
queue is not on hold: then it would be sent. -/
theorem QueueKept.settledOnce_decide_iff
    (kept : QueueKept queue (.decide irp cancelledIrpList :: rest))
    (queueState : QueueState) :
    SettledOnce queue queueState
        (queue.advance queueState (.decide irp cancelledIrpList)).1
        (queue.advance queueState (.decide irp cancelledIrpList)).2.1
        ((queue.advance queueState (.decide irp cancelledIrpList)).2.2 ++
          rest) ↔
      queueState ≠ .holdRequests := by
  have behind := kept.advance queueState
  constructor
  · intro settled hold
    have allowed := settled.sent irp (by simp [RequestQueue.advance, hold])
    rw [hold] at allowed
    cases allowed
  · intro waits
    refine {
      settled := ?_
      once := behind.irps.nodup_released
      kept := fun _ isOpen => behind.held isOpen
      sent := ?_
      deletePending := ?_
      cancelled := ?_ }
    all_goals cases queueState
    all_goals simp_all [RequestQueue.advance, Ledger.release, IrpFate.left]

/-- The irps are settled behind a step of a routine exactly where it does not
send one while the queue is on hold. -/
theorem QueueKept.settledOnce_iff
    (kept : QueueKept queue (point :: rest))
    (queueState : QueueState) :
    SettledOnce queue queueState (queue.advance queueState point).1
        (queue.advance queueState point).2.1
        ((queue.advance queueState point).2.2 ++ rest) ↔
      point.Waits queueState := by
  have behind := kept.advance queueState
  cases point with
  | decide irp cancelledIrpList =>
      exact kept.settledOnce_decide_iff queueState
  | complete cancelledIrpList =>
      refine iff_of_true ?_ trivial
      cases cancelledIrpList with
      | nil => exact behind.settledOnce_of_same queue none queueState rfl nofun
      | cons irp others =>
          have asked := kept.asked _ List.mem_cons_self irp List.mem_cons_self
          exact {
            settled := rfl
            once := behind.irps.nodup_released
            kept := fun _ isOpen => behind.held isOpen
            sent := nofun
            deletePending := nofun
            cancelled := by
              rintro other ⟨⟩
              exact asked }
  | queueRequest fileObject cancel =>
      refine iff_of_true ?_ trivial
      by_cases hold : queueState = .holdRequests
      · simp only [RequestQueue.advance, if_pos hold] at behind ⊢
        refine behind.settledOnce_of_same queue (some (.queued _)) queueState
          rfl ?_
        rintro each ⟨⟩
        exact ⟨_, rfl⟩
      · simp only [RequestQueue.advance, if_neg hold] at behind ⊢
        exact behind.settledOnce_of_same queue none queueState rfl nofun
  | process cancelledIrpList =>
      refine iff_of_true ?_ trivial
      cases present : queue.newRequestsQueue with
      | nil =>
          simp only [RequestQueue.advance, present] at behind ⊢
          exact behind.settledOnce_of_same queue none queueState rfl nofun
      | cons entry entries =>
          simp only [RequestQueue.advance, present] at behind ⊢
          exact behind.settledOnce_of_same queue none queueState rfl nofun
  | takeRoutine irp =>
      refine iff_of_true ?_ trivial
      by_cases armed : irp ∈ armedIrps queue.newRequestsQueue
      · simp only [RequestQueue.advance, if_pos armed] at behind ⊢
        exact behind.settledOnce_of_same queue none queueState rfl nofun
      · simp only [RequestQueue.advance, if_neg armed] at behind ⊢
        exact behind.settledOnce_of_same queue none queueState rfl nofun
  | setCancel irp | cancelQueued irp | dispatchClean irp =>
      refine iff_of_true ?_ trivial
      exact behind.settledOnce_of_same queue none queueState rfl nofun

/-! ## Draining -/

/-- The routine is in the loop of `ProcessQueuedRequests`. -/
def QueuePoint.processes : QueuePoint → Bool
  | process _ | decide _ _ => true
  | queueRequest _ _ | setCancel _ | takeRoutine _ | cancelQueued _
  | dispatchClean _ | complete _ => false

/-- The queue is on hold or empty, or `ProcessQueuedRequests` empties it. -/
def Drains
    (queue : RequestQueue)
    (queueState : QueueState)
    (strands : List QueuePoint) : Prop :=
  queueState = .holdRequests ∨ queue.newRequestsQueue = [] ∨
    ∃ point ∈ strands, point.processes = true

theorem Drains.of_perm
    (drains : Drains queue queueState first)
    (perm : first.Perm second) : Drains queue queueState second := by
  refine drains.imp_right fun drains => drains.imp_right ?_
  rintro ⟨point, member, processes⟩
  exact ⟨point, perm.mem_iff.mp member, processes⟩

/-- More routines take nothing from those there are. -/
theorem Drains.of_subset
    (drains : Drains queue queueState strands)
    (subset : strands ⊆ more) : Drains queue queueState more := by
  refine drains.imp_right fun drains => drains.imp_right ?_
  rintro ⟨point, member, processes⟩
  exact ⟨point, subset member, processes⟩

/-- An empty queue stays empty while it is not on hold. -/
theorem RequestQueue.advance_of_empty
    {queue : RequestQueue}
    (empty : queue.newRequestsQueue = [])
    (hold : queueState ≠ .holdRequests)
    (point : QueuePoint) :
    (queue.advance queueState point).2.1.newRequestsQueue = [] := by
  cases point with
  | queueRequest fileObject cancel => simpa [advance, hold] using empty
  | takeRoutine irp => simp [advance, empty, armedIrps]
  | complete cancelledIrpList => cases cancelledIrpList <;> exact empty
  | setCancel irp | cancelQueued irp | dispatchClean irp | process irps
  | decide irp irps => simp [advance, empty]

/-- A routine in the loop stays in it, or finds the queue empty. -/
theorem RequestQueue.advance_of_processes
    (queue : RequestQueue)
    (queueState : QueueState)
    {point : QueuePoint}
    (processes : point.processes = true) :
    (queue.advance queueState point).2.1.newRequestsQueue = [] ∨
      ∃ next ∈ (queue.advance queueState point).2.2, next.processes = true := by
  cases point with
  | process cancelledIrpList =>
      cases present : queue.newRequestsQueue with
      | nil => exact .inl (by simp [advance, present])
      | cons entry rest =>
          refine .inr ?_
          simp only [advance, present]
          split
          · split <;> exact ⟨_, List.mem_cons_self, rfl⟩
          · exact ⟨_, List.mem_cons_self, rfl⟩
  | decide irp cancelledIrpList => exact .inr ⟨_, List.mem_cons_self, rfl⟩
  | queueRequest _ _ | setCancel _ | takeRoutine _ | cancelQueued _
  | dispatchClean _ | complete _ => cases processes

/-- A step of a routine leaves a queue that is emptied while it is not on
hold. -/
theorem Drains.advance
    (drains : Drains queue queueState (point :: rest)) :
    Drains (queue.advance queueState point).2.1 queueState
      ((queue.advance queueState point).2.2 ++ rest) := by
  by_cases hold : queueState = .holdRequests
  · exact .inl hold
  refine .inr ?_
  rcases drains.resolve_left hold with empty | ⟨other, member, processes⟩
  · exact .inl (queue.advance_of_empty empty hold point)
  · rcases List.mem_cons.mp member with rfl | old
    · refine (queue.advance_of_processes queueState processes).imp_right ?_
      rintro ⟨next, present, still⟩
      exact ⟨next, List.mem_append_left _ present, still⟩
    · exact .inr ⟨other, List.mem_append_right _ old, processes⟩

/-- Where no routine is in progress and the queue is not on hold, every irp has
left the driver. -/
theorem QueueKept.drained
    (kept : QueueKept queue [])
    (drains : Drains queue queueState [])
    (hold : queueState ≠ .holdRequests)
    (irp : Nat) : ¬ queue.irps.IsOpen irp := by
  intro isOpen
  rcases drains.resolve_left hold with empty | ⟨point, member, -⟩
  · have held := kept.held isOpen
    rw [Held, empty] at held
    rcases held with armed | ⟨point, member, -⟩
    · cases armed
    · cases member
  · cases member

end Usb
end BthEmul
