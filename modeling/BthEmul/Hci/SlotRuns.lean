import BthEmul.Hci.SlotOwnership

/-!
# Runs of the command queue

A step is sound exactly where it conforms: where a call finds a free slot, where
`DeQueueCommand` clears only what no other call has stored, where a call with a
status buffer was answered, and where a handler reports as many bytes as the
call behind the slot expects.
-/

namespace BthEmul

open Foundation

namespace Hci

/-- A step is sound exactly where it conforms, and then keeps the invariant. -/
def SlotStepSound
    (table : SlotTable)
    (point : SlotPoint)
    (rest : List SlotPoint)
    (output : SlotOutput)
    (behind : SlotTable)
    (strands : List SlotPoint) : Prop :=
  (SlotsSound (some output) behind strands ↔ point.Conforms table rest) ∧
    (point.Conforms table rest → SlotsKept behind strands)

/-- A step that only indexes a slot of the queue, and keeps the invariant. -/
theorem SlotsKept.stepSound
    {point : SlotPoint}
    (kept : SlotsKept behind strands)
    (conforms : point.Conforms table rest)
    {output : SlotOutput}
    (inBounds : ∀ nSlot ∈ output.nSlot, 0 ≤ nSlot ∧ nSlot < maxQueuedCommands)
    (refused : output.refused = none)
    (returned : output.returned = none) :
    SlotStepSound table point rest output behind strands := by
  refine ⟨iff_of_true ?_ conforms, fun _ => kept⟩
  apply kept.sound inBounds refused
  · rw [returned]
    nofun
  · rw [returned]
    nofun

/-- A slot of the queue is indexed. -/
theorem inBounds_index
    {nSlot : Int}
    (bounds : 0 ≤ nSlot ∧ nSlot < maxQueuedCommands) :
    ∀ index ∈ (SlotOutput.index nSlot).nSlot,
      0 ≤ index ∧ index < maxQueuedCommands := by
  rintro _ ⟨⟩
  exact bounds

/-- The step of `QueueCommand` in the critical section. -/
theorem SlotsKept.queue_stepSound
    {succeeds : Bool}
    (kept : SlotsKept table (.queue call :: rest))
    (advanced : table.advance succeeds (.queue call) =
      some (output, behind, later)) :
    SlotStepSound table (.queue call) rest output behind (later ++ rest) := by
  simp only [SlotTable.advance] at advanced
  split at advanced
  case h_1 nSlot found =>
    cases advanced
    obtain ⟨below, free⟩ := SlotsKept.free_of_freeSlot found
    apply (kept.queue found).stepSound ?_ ?_ rfl rfl
    · exact ⟨nSlot, below, free⟩
    · apply inBounds_index
      omega
  case h_2 full =>
    cases advanced
    have none : ¬ ∃ nSlot < maxQueuedCommands,
        (table.slots nSlot).nCommand = 0 := by
      rw [SlotsKept.exists_freeSlot_iff, full]
      nofun
    refine ⟨iff_of_false ?_ none, fun free => absurd free none⟩
    intro sound
    exact sound.refused _ rfl call rfl _ (List.mem_cons_self ..) call rfl rfl

/-- The second assignment of `DeQueueCommand`. -/
theorem SlotsKept.clearBuffer_stepSound
    (kept : SlotsKept table (.clearBuffer call nSlot exit :: rest)) :
    SlotStepSound table (.clearBuffer call nSlot exit) rest (.index nSlot)
      (table.assign nSlot { table.slots nSlot with pResultBuffer := none })
      ([.clearSize call nSlot exit] ++ rest) := by
  have own := kept.relies _ (List.mem_cons_self ..)
  by_cases alone : ∀ point ∈ rest, ∀ held ∈ point.stores, held.2 ≠ nSlot
  · refine (kept.clearBuffer alone).stepSound ?_
      (inBounds_index (own.index nSlot rfl)) rfl rfl
    exact alone
  · refine ⟨iff_of_false ?_ alone, fun conforms => absurd conforms alone⟩
    intro sound
    apply alone
    intro point member held stores same
    have buffer := sound.buffers point (List.mem_cons_of_mem _ member) held stores
    simp only [SlotTable.assign, same, Function.update_self] at buffer
    cases buffer

/-- The third assignment of `DeQueueCommand`, behind which the call returns. -/
theorem SlotsKept.clearSize_stepSound
    (kept : SlotsKept table (.clearSize call nSlot exit :: rest)) :
    SlotStepSound table (.clearSize call nSlot exit) rest
      { SlotOutput.index nSlot with returned := some (call, nSlot) }
      (table.assign nSlot { table.slots nSlot with dwBufferSize := 0 })
      ([] ++ rest) := by
  have own := kept.relies _ (List.mem_cons_self ..)
  have freed : table.freed.count call.number =
      if call.wrapper.form = .commandStatus ∧ exit = .completed then 1 else 0 :=
    own.freed call rfl
  by_cases conforms : SlotPoint.Conforms table rest (.clearSize call nSlot exit)
  · obtain ⟨alone, answered⟩ := conforms
    have later := kept.clearSize alone
    refine ⟨iff_of_true ?_ ⟨alone, answered⟩, fun _ => later⟩
    refine later.sound (inBounds_index (own.index nSlot rfl)) rfl ?_ ?_
    · rintro _ ⟨⟩
      obtain ⟨bound, below⟩ := own.index nSlot rfl
      by_cases free : ((table.assign nSlot { table.slots nSlot with
          dwBufferSize := 0 }).slots nSlot).nCommand = 0
      · exact .inl free
      · exact .inr (later.held nSlot bound below free)
    · rintro _ ⟨⟩ form
      exact freed.trans (if_pos ⟨form, answered form⟩)
  · refine ⟨iff_of_false ?_ conforms, fun conforming => absurd conforming conforms⟩
    intro sound
    apply conforms
    constructor
    · intro point member held sizes same
      have size := sound.sizes point member held sizes
      simp only [SlotTable.assign, same, Function.update_self] at size
      exact held.1.wrapper.bufferSize_ne_zero size.symm
    · intro form
      have once : table.freed.count call.number = 1 :=
        sound.freed _ rfl (call, nSlot) rfl form
      by_contra failed
      rw [freed, if_neg fun both => failed both.2] at once
      cases once

/-- The assignment of an event handler. -/
theorem SlotsKept.storeLength_stepSound
    (kept : SlotsKept table (.storeLength answer nSlot :: rest)) :
    SlotStepSound table (.storeLength answer nSlot) rest (.index nSlot)
      (table.assign nSlot { table.slots nSlot with
        dwBufferSize := answer.size })
      ([.signal nSlot] ++ rest) := by
  have own := kept.relies _ (List.mem_cons_self ..)
  by_cases fits : ∀ point ∈ rest, ∀ held ∈ point.sizes, held.2 = nSlot →
      answer.size = held.1.wrapper.bufferSize
  · refine (kept.storeLength fits).stepSound ?_
      (inBounds_index (own.index nSlot rfl)) rfl rfl
    exact fits
  · refine ⟨iff_of_false ?_ fits, fun conforms => absurd conforms fits⟩
    intro sound
    apply fits
    intro point member held sizes same
    have size := sound.sizes point (List.mem_cons_of_mem _ member) held sizes
    simpa only [SlotTable.assign, same, Function.update_self] using size

/-- The first steps of an event handler. -/
theorem SlotsKept.scan_stepSound
    {succeeds : Bool}
    (kept : SlotsKept table (.scan answer nSlot :: rest))
    (advanced : table.advance succeeds (.scan answer nSlot) =
      some (output, behind, later)) :
    SlotStepSound table (.scan answer nSlot) rest output behind
      (later ++ rest) := by
  have own := kept.relies _ (List.mem_cons_self ..)
  have bounds := own.index nSlot rfl
  cases advanced
  refine stepSound ?_ ?_ (inBounds_index bounds) rfl rfl
  · split
    · apply kept.handles rfl rfl
      rintro _ ⟨⟩
      exact bounds
    · split
      case isTrue below =>
        apply kept.handles rfl rfl
        rintro _ ⟨⟩
        omega
      case isFalse => exact kept.handlerEnds rfl
  · trivial

theorem SlotsKept.check_stepSound
    {succeeds : Bool}
    (kept : SlotsKept table (.check answer nSlot :: rest))
    (advanced : table.advance succeeds (.check answer nSlot) =
      some (output, behind, later)) :
    SlotStepSound table (.check answer nSlot) rest output behind
      (later ++ rest) := by
  have own := kept.relies _ (List.mem_cons_self ..)
  cases advanced
  refine stepSound ?_ ?_ (inBounds_index (own.index nSlot rfl)) rfl rfl
  · split
    · exact kept.handlerEnds rfl
    · split
      · exact kept.handles rfl rfl own.index
      · exact kept.handles rfl rfl own.index
  · trivial

/-- Every step of a thread is sound exactly where it conforms. -/
theorem SlotsKept.advance_stepSound
    {point : SlotPoint}
    {succeeds : Bool}
    (kept : SlotsKept table (point :: rest))
    (advanced : table.advance succeeds point = some (output, behind, later)) :
    SlotStepSound table point rest output behind (later ++ rest) := by
  have own := kept.relies _ (List.mem_cons_self ..)
  have inBounds (nSlot : Int) (here : nSlot ∈ point.nSlot?) :=
    inBounds_index (own.index nSlot here)
  cases point with
  | queue call => exact kept.queue_stepSound advanced
  | resetEvent call nSlot =>
      cases advanced
      exact stepSound kept.resetEvent (by trivial) (inBounds nSlot rfl) rfl rfl
  | storeBuffer call nSlot =>
      cases advanced
      exact stepSound kept.storeBuffer (by trivial) (inBounds nSlot rfl) rfl rfl
  | storeSize call nSlot =>
      cases advanced
      exact stepSound kept.storeSize (by trivial) (inBounds nSlot rfl) rfl rfl
  | send call nSlot =>
      cases advanced
      exact stepSound (kept.send succeeds) (by trivial) nofun rfl rfl
  | wait call nSlot =>
      simp only [SlotTable.advance] at advanced
      split at advanced
      · split at advanced
        · cases advanced
          exact stepSound kept.wait (by trivial) (inBounds nSlot rfl) rfl rfl
        · cases advanced
      · cases advanced
        exact stepSound kept.waitFails (by trivial) (inBounds nSlot rfl) rfl
          rfl
  | freeStatus call nSlot =>
      have buffer : (table.slots nSlot).pResultBuffer = some call.number :=
        own.buffer (call, nSlot) rfl
      simp only [SlotTable.advance, buffer] at advanced
      cases advanced
      exact stepSound kept.freeStatus (by trivial) (inBounds nSlot rfl) rfl rfl
  | getCommand call nSlot =>
      cases advanced
      refine stepSound kept.getCommand (by trivial) ?_ rfl rfl
      intro index looked
      change index ∈ (if succeeds then getQueuedCommand nSlot else none) at looked
      unfold getQueuedCommand at looked
      split at looked
      · split at looked
        · cases looked
        · cases looked
          exact own.index nSlot rfl
      · cases looked
  | clearCommand call nSlot exit =>
      cases advanced
      exact stepSound kept.clearCommand (by trivial) (inBounds nSlot rfl) rfl rfl
  | clearBuffer call nSlot exit =>
      cases advanced
      exact kept.clearBuffer_stepSound
  | clearSize call nSlot exit =>
      cases advanced
      exact kept.clearSize_stepSound
  | scan answer nSlot => exact kept.scan_stepSound advanced
  | check answer nSlot => exact kept.check_stepSound advanced
  | copy answer nSlot =>
      cases advanced
      refine stepSound ?_ ?_ (inBounds nSlot rfl) rfl rfl
      · split
        · exact kept.handlerEnds rfl
        · exact kept.handles rfl rfl own.index
      · trivial
  | storeLength answer nSlot =>
      cases advanced
      exact kept.storeLength_stepSound
  | signal nSlot =>
      cases advanced
      exact stepSound kept.signal (by trivial) (inBounds nSlot rfl) rfl rfl

/-! ## Runs -/

/-- It does not matter in which order the threads are. -/
theorem SlotsSound.of_perm
    {output : Option SlotOutput}
    (sound : SlotsSound output next first)
    (perm : first.Perm second) : SlotsSound output next second where
  inBounds := sound.inBounds
  refused step present call refused point member :=
    sound.refused step present call refused point (perm.mem_iff.mpr member)
  distinct := (perm.filterMap _).nodup_iff.mp sound.distinct
  buffers point member := sound.buffers point (perm.mem_iff.mpr member)
  sizes point member := sound.sizes point (perm.mem_iff.mpr member)
  released step present held returned := by
    rcases sound.released step present held returned with free | held
    · exact .inl free
    · exact .inr ((perm.filterMap _).mem_iff.mp held)
  freed := sound.freed

/-- A turn that begins a thread is sound. -/
theorem SlotsKept.sound_none
    (kept : SlotsKept table strands) : SlotsSound none table strands where
  inBounds _ present := by cases present
  refused _ present := by cases present
  distinct := kept.slots
  buffers point member := (kept.relies point member).buffer
  sizes point member := (kept.relies point member).size
  released _ present := by cases present
  freed _ present := by cases present

/-- Only a wait for an event that is not signalled has no result, and it
conforms. -/
theorem SlotPoint.conforms_of_stuck
    {point : SlotPoint}
    {succeeds : Bool}
    (stuck : table.advance succeeds point = none) :
    point.Conforms table rest := by
  cases point with
  | queue call =>
      simp only [SlotTable.advance] at stuck
      split at stuck <;> cases stuck
  | wait call nSlot => trivial
  | freeStatus call nSlot => trivial
  | _ => cases stuck

/-- In every run the slots are sound in every step exactly where every step
conforms. -/
theorem slotsSound_iff_conforms
    (turns : List (Turn SlotEntry Bool)) :
    slotProgram.machine.Always
        (fun _ _ output next => SlotsSound output next.shared next.strands)
        slotStart turns ↔
      slotProgram.machine.Admits
        (Program.Obeys fun table point rest (_ : Bool) =>
          point.Conforms table rest)
        slotStart turns := by
  apply Program.always_iff_obeys
    (fun table point rest (_ : Bool) => point.Conforms table rest)
    (fun _ output behind strands => SlotsSound output behind strands)
    SlotsKept
  · intro table first second perm kept
    exact kept.of_perm perm
  · intro table output behind first second perm sound
    exact sound.of_perm perm
  · intro table strands entry behind point kept entered
    have later := kept.enter entered
    exact ⟨later, later.sound_none⟩
  · intro table point rest succeeds output behind later kept advanced
    exact kept.advance_stepSound advanced
  · intro table point rest succeeds _ stuck
    exact SlotPoint.conforms_of_stuck stuck
  · exact slotsKept_create

instance
    (table : SlotTable)
    (rest : List SlotPoint) :
    (point : SlotPoint) → Decidable (point.Conforms table rest)
  | .queue _ =>
      inferInstanceAs (Decidable (∃ nSlot < maxQueuedCommands, _ = _))
  | .clearBuffer _ _ _ => inferInstanceAs (Decidable (∀ _ ∈ rest, _))
  | .clearSize _ _ _ => inferInstanceAs (Decidable ((∀ _ ∈ rest, _) ∧ (_ → _)))
  | .storeLength _ _ => inferInstanceAs (Decidable (∀ _ ∈ rest, _))
  | .resetEvent _ _ | .storeBuffer _ _ | .storeSize _ _ | .send _ _
  | .wait _ _ | .freeStatus _ _ | .getCommand _ _ | .clearCommand _ _ _
  | .scan _ _ | .check _ _ | .copy _ _ | .signal _ => isTrue trivial

/-- An inquiry whose status arrives. -/
def answeredInquiry : List (Turn SlotEntry Bool) :=
  .start (.send (.sendInquiry 0x9e8b33 8 0)) ::
      List.replicate 5 (.advance 0 true) ++
    .start (.event (.status cmdInquiry)) :: List.replicate 5 (.advance 1 true) ++
    List.replicate 5 (.advance 0 true)

example :
    slotProgram.machine.Admits
        (Program.Obeys fun table point rest (_ : Bool) =>
          point.Conforms table rest)
        slotStart answeredInquiry ∧
      (slotProgram.machine.run slotStart answeredInquiry).map
        (fun result => (result.2.strands.length, result.2.shared.freed)) =
          some (0, [0]) := by
  decide +kernel

/-- Two resets: the first one is answered and has released its slot when the
second one claims it, and then clears what that has stored there. -/
def lateClearing : List (Turn SlotEntry Bool) :=
  [.start (.send .sendReset), .advance 0 true, .advance 0 true,
    .advance 0 true, .advance 0 true, .advance 0 true,
    .start (.event (.complete cmdReset 1)), .advance 1 true, .advance 1 true,
    .advance 1 true, .advance 1 true, .advance 1 true,
    .advance 0 true, .advance 0 true,
    .start (.send .sendReset), .advance 1 true, .advance 1 true,
    .advance 1 true, .advance 0 true]

theorem not_slotsSound_lateClearing :
    ¬ slotProgram.machine.Always
      (fun _ _ output next => SlotsSound output next.shared next.strands)
      slotStart lateClearing := by
  decide +kernel

end Hci
end BthEmul
