import BthEmul.Hci.CommandSlots

/-!
# Who owns a slot of the command queue

The calls that hold a slot hold different ones, and what a call has stored in its
slot stays there until it gives the slot back, unless another call that has
given it back already still clears it, or an event handler changes the size.
-/

namespace BthEmul

open Foundation

namespace Hci

/-! ## What the wrappers queue -/

namespace Wrapper

/-- No wrapper queues the opcode of a free slot. -/
theorem nCommand_ne_zero (wrapper : Wrapper) : wrapper.nCommand ≠ 0 := by
  cases wrapper with
  | sendSetEventFilter => exact show cmdSetEventFilter ≠ 0 by decide
  | sendInquiry => exact show cmdInquiry ≠ 0 by decide
  | sendInquiryCancel => exact show cmdInquiryCancel ≠ 0 by decide
  | sendCreateConnection => exact show cmdCreateConnection ≠ 0 by decide
  | sendDisconnect => exact show cmdDisconnect ≠ 0 by decide
  | sendSwitchRole => exact show cmdSwitchRole ≠ 0 by decide
  | sendRemoteNameRequest => exact show cmdRemoteNameRequest ≠ 0 by decide
  | sendReset => exact show cmdReset ≠ 0 by decide
  | sendWriteClassOfDevice => exact show cmdWriteClassOfDevice ≠ 0 by decide
  | sendReadLocalVersionInformation =>
      exact show cmdReadLocalVersionInformation ≠ 0 by decide
  | sendReadBDADDR => exact show cmdReadBDADDR ≠ 0 by decide
  | sendReadBufferSize => exact show cmdReadBufferSize ≠ 0 by decide
  | readClassOfDevice => exact show cmdInquiry ≠ 0 by decide
  | readLocalName => exact show cmdReadLocalName ≠ 0 by decide

/-- No wrapper has an empty result buffer. -/
theorem bufferSize_ne_zero (wrapper : Wrapper) : wrapper.bufferSize ≠ 0 := by
  cases wrapper with
  | readLocalName =>
      change (Buffer.fill (1 + nameSize) (0 : UInt8)).cells.length ≠ 0
      rw [Buffer.length_eq]
      decide
  | _ => exact Nat.succ_ne_zero _

end Wrapper

namespace SlotPoint

theorem stores_of_sizes
    {point : SlotPoint}
    (sizes : held ∈ point.sizes) : held ∈ point.stores := by
  cases point with
  | storeSize => cases sizes
  | _ => exact sizes

/-- A call holds the slot that it has stored something in. -/
theorem holds_of_stores
    {point : SlotPoint}
    (stores : held ∈ point.stores) : held ∈ point.holds := by
  cases point with
  | resetEvent => cases stores
  | storeBuffer => cases stores
  | _ => exact stores

/-- The slot that a thread is about to index, if it was found. -/
def nSlot? : SlotPoint → Option Int
  | resetEvent _ nSlot | storeBuffer _ nSlot | storeSize _ nSlot
  | send _ nSlot | wait _ nSlot | freeStatus _ nSlot | getCommand _ nSlot
  | clearCommand _ nSlot _ | clearBuffer _ nSlot _ | clearSize _ nSlot _
  | check _ nSlot | copy _ nSlot | storeLength _ nSlot | signal nSlot =>
      some nSlot
  | scan _ nSlot => some nSlot
  | queue _ => none

/-- How often the status buffer of the call has been freed. -/
def freedCount : SlotPoint → Nat
  | clearCommand call _ exit | clearBuffer call _ exit
  | clearSize call _ exit =>
      if call.wrapper.form = .commandStatus ∧ exit = .completed then 1 else 0
  | queue _ | resetEvent _ _ | storeBuffer _ _ | storeSize _ _ | send _ _
  | wait _ _ | freeStatus _ _ | getCommand _ _ | scan _ _ | check _ _
  | copy _ _ | storeLength _ _ | signal _ => 0

/-- Only a call with a status buffer frees it, and only another one looks its slot
up. -/
def Suits : SlotPoint → Prop
  | freeStatus call _ => call.wrapper.form = .commandStatus
  | getCommand call _ => call.wrapper.form = .classOfDevice
  | queue _ | resetEvent _ _ | storeBuffer _ _ | storeSize _ _ | send _ _
  | wait _ _ | clearCommand _ _ _ | clearBuffer _ _ _ | clearSize _ _ _
  | scan _ _ | check _ _ | copy _ _ | storeLength _ _ | signal _ => True

end SlotPoint

/-- An assignment that leaves a field of its slot, or is to another slot, leaves
the field. -/
theorem SlotTable.field_assign
    {Field : Type}
    (field : CommandSlot → Field)
    {table : SlotTable}
    {nSlot other : Int}
    {slot : CommandSlot}
    (same : field slot = field (table.slots nSlot) ∨ other ≠ nSlot) :
    field ((table.assign nSlot slot).slots other) = field (table.slots other) := by
  simp only [SlotTable.assign]
  by_cases here : other = nSlot
  · rw [here, Function.update_self]
    exact same.resolve_right fun apart => apart here
  · rw [Function.update_of_ne here]

namespace SlotPoint

/-- What a thread relies on. -/
structure Relies (table : SlotTable) (point : SlotPoint) : Prop where
  index : ∀ nSlot ∈ point.nSlot?, 0 ≤ nSlot ∧ nSlot < maxQueuedCommands
  command : ∀ held ∈ point.holds, (table.slots held.2).nCommand ≠ 0
  buffer : ∀ held ∈ point.stores,
    (table.slots held.2).pResultBuffer = some held.1.number
  size : ∀ held ∈ point.sizes,
    (table.slots held.2).dwBufferSize = held.1.wrapper.bufferSize
  number : ∀ call ∈ point.call?, call.number < table.calls
  freed : ∀ call ∈ point.call?, table.freed.count call.number = point.freedCount
  suits : point.Suits

/-- A thread that holds no slot relies on nothing that a slot contains. -/
theorem relies_of_unheld
    {table : SlotTable}
    {point : SlotPoint}
    (unheld : point.holds = none)
    (index : ∀ nSlot ∈ point.nSlot?, 0 ≤ nSlot ∧ nSlot < maxQueuedCommands)
    (number : ∀ call ∈ point.call?, call.number < table.calls)
    (freed : ∀ call ∈ point.call?,
      table.freed.count call.number = point.freedCount)
    (suits : point.Suits) : point.Relies table where
  index := index
  command held holds := by
    rw [unheld] at holds
    cases holds
  buffer held stores := by
    have holds := holds_of_stores stores
    rw [unheld] at holds
    cases holds
  size held sizes := by
    have holds := holds_of_stores (stores_of_sizes sizes)
    rw [unheld] at holds
    cases holds
  number := number
  freed := freed
  suits := suits

/-- A thread still relies on what an assignment to a slot leaves as it was. -/
theorem Relies.assign
    {table : SlotTable}
    {point : SlotPoint}
    {nSlot : Int}
    {slot : CommandSlot}
    (relies : point.Relies table)
    (command : slot.nCommand = (table.slots nSlot).nCommand ∨
      ∀ held ∈ point.holds, held.2 ≠ nSlot)
    (buffer : slot.pResultBuffer = (table.slots nSlot).pResultBuffer ∨
      ∀ held ∈ point.stores, held.2 ≠ nSlot)
    (size : slot.dwBufferSize = (table.slots nSlot).dwBufferSize ∨
      ∀ held ∈ point.sizes, held.2 ≠ nSlot) :
    point.Relies (table.assign nSlot slot) where
  index := relies.index
  command held holds := by
    rw [SlotTable.field_assign CommandSlot.nCommand
      (command.imp_right fun apart => apart held holds)]
    exact relies.command held holds
  buffer held stores := by
    rw [SlotTable.field_assign CommandSlot.pResultBuffer
      (buffer.imp_right fun apart => apart held stores)]
    exact relies.buffer held stores
  size held sizes := by
    rw [SlotTable.field_assign CommandSlot.dwBufferSize
      (size.imp_right fun apart => apart held sizes)]
    exact relies.size held sizes
  number := relies.number
  freed := relies.freed
  suits := relies.suits

/-- An assignment to a slot that a thread does not hold does not concern it. -/
theorem Relies.assign_of_apart
    {table : SlotTable}
    {point : SlotPoint}
    {nSlot : Int}
    (relies : point.Relies table)
    (apart : ∀ held ∈ point.holds, held.2 ≠ nSlot)
    (slot : CommandSlot) : point.Relies (table.assign nSlot slot) := by
  apply relies.assign
  · exact .inr apart
  · exact .inr fun held stores => apart held (holds_of_stores stores)
  · exact .inr fun held sizes =>
      apart held (holds_of_stores (stores_of_sizes sizes))

/-- The number of the call that a thread is in. -/
def number? (point : SlotPoint) : Option Nat :=
  point.call?.map SlotCall.number

end SlotPoint

/-! ## The invariant -/

/-- Every thread has what it relies on. The calls have different numbers and hold
different slots, and a slot that is not free is held. -/
structure SlotsKept (table : SlotTable) (strands : List SlotPoint) : Prop where
  relies : ∀ point ∈ strands, point.Relies table
  numbers : (strands.filterMap SlotPoint.number?).Nodup
  slots : (strands.filterMap SlotPoint.slot?).Nodup
  held : ∀ nSlot : Int, 0 ≤ nSlot → nSlot < maxQueuedCommands →
    (table.slots nSlot).nCommand ≠ 0 →
      nSlot ∈ strands.filterMap SlotPoint.slot?
  freed : ∀ number ∈ table.freed, number < table.calls

theorem slotsKept_create : SlotsKept .create [] where
  relies := nofun
  numbers := .nil
  slots := .nil
  held _ _ _ used := absurd rfl used
  freed := nofun

namespace SlotsKept

theorem of_perm
    (kept : SlotsKept table first)
    (perm : first.Perm second) : SlotsKept table second where
  relies point member := kept.relies point (perm.mem_iff.mpr member)
  numbers := (perm.filterMap _).nodup_iff.mp kept.numbers
  slots := (perm.filterMap _).nodup_iff.mp kept.slots
  held nSlot bound below used :=
    (perm.filterMap _).mem_iff.mp (kept.held nSlot bound below used)
  freed := kept.freed

/-- What the invariant says about the slots is sound, behind a step that only
indexes a slot of the queue. -/
theorem sound
    (kept : SlotsKept table strands)
    {step : SlotOutput}
    (inBounds : ∀ nSlot ∈ step.nSlot, 0 ≤ nSlot ∧ nSlot < maxQueuedCommands)
    (refused : step.refused = none)
    (released : ∀ held ∈ step.returned,
      (table.slots held.2).nCommand = 0 ∨
        held.2 ∈ strands.filterMap SlotPoint.slot?)
    (freed : ∀ held ∈ step.returned,
      held.1.wrapper.form = .commandStatus →
        table.freed.count held.1.number = 1) :
    SlotsSound (some step) table strands where
  inBounds := by
    rintro _ ⟨⟩
    exact inBounds
  refused := by
    rintro _ ⟨⟩
    rw [refused]
    nofun
  distinct := kept.slots
  buffers point member := (kept.relies point member).buffer
  sizes point member := (kept.relies point member).size
  released := by
    rintro _ ⟨⟩
    exact released
  freed := by
    rintro _ ⟨⟩
    exact freed

/-- The threads other than the one that holds a slot do not hold it. -/
theorem apart
    (kept : SlotsKept table (point :: rest))
    (here : point.slot? = some nSlot) :
    ∀ other ∈ rest, ∀ held ∈ other.holds, held.2 ≠ nSlot := by
  have distinct := kept.slots
  rw [List.filterMap_cons_some here] at distinct
  intro other member held holds same
  apply (List.nodup_cons.mp distinct).1
  apply List.mem_filterMap.mpr
  refine ⟨other, member, ?_⟩
  rw [SlotPoint.slot?, Option.mem_def.mp holds, Option.map_some, same]

/-- A thread that goes on in the same call and with the same slot. -/
theorem goesOn
    {point later : SlotPoint}
    (kept : SlotsKept table (point :: rest))
    (number : later.number? = point.number?)
    (slot : later.slot? = point.slot?)
    (own : later.Relies next)
    (others : ∀ other ∈ rest, other.Relies next)
    (command : ∀ nSlot,
      (next.slots nSlot).nCommand = (table.slots nSlot).nCommand)
    (freed : ∀ number ∈ next.freed, number < next.calls) :
    SlotsKept next ([later] ++ rest) where
  relies := by
    intro other member
    rcases List.mem_cons.mp member with rfl | earlier
    · exact own
    · exact others other earlier
  numbers := by
    have numbers := kept.numbers
    rwa [List.filterMap_cons, ← number] at numbers
  slots := by
    have slots := kept.slots
    rwa [List.filterMap_cons, ← slot] at slots
  held nSlot bound below used := by
    rw [command] at used
    have held := kept.held nSlot bound below used
    rwa [List.filterMap_cons, ← slot] at held
  freed := freed

/-- A thread that ends without a slot. -/
theorem ends
    {point : SlotPoint}
    (kept : SlotsKept table (point :: rest))
    (slot : point.slot? = none)
    (others : ∀ other ∈ rest, other.Relies next)
    (command : ∀ nSlot,
      (next.slots nSlot).nCommand = (table.slots nSlot).nCommand)
    (freed : ∀ number ∈ next.freed, number < next.calls) :
    SlotsKept next ([] ++ rest) where
  relies := others
  numbers := by
    have numbers := kept.numbers
    rw [List.filterMap_cons] at numbers
    split at numbers
    · exact numbers
    · exact (List.nodup_cons.mp numbers).2
  slots := by
    have slots := kept.slots
    rwa [List.filterMap_cons_none slot] at slots
  held nSlot bound below used := by
    rw [command] at used
    have held := kept.held nSlot bound below used
    rwa [List.filterMap_cons_none slot] at held
  freed := freed

/-- The other threads. -/
theorem relies_others
    (kept : SlotsKept table (point :: others)) :
    ∀ other ∈ others, other.Relies table := by
  intro other member
  exact kept.relies other (List.mem_cons_of_mem _ member)

/-- An assignment that leaves the opcode leaves it in every slot. -/
theorem nCommand_assign
    {table : SlotTable}
    {nSlot : Int}
    {slot : CommandSlot}
    (same : slot.nCommand = (table.slots nSlot).nCommand)
    (other : Int) :
    ((table.assign nSlot slot).slots other).nCommand =
      (table.slots other).nCommand :=
  SlotTable.field_assign CommandSlot.nCommand (.inl same)

/-! ## Claiming and filling a slot -/

/-- A slot that `QueueCommand` finds is one of the queue, and free. -/
theorem free_of_freeSlot
    {table : SlotTable}
    (found : table.freeSlot = some nSlot) :
    nSlot < maxQueuedCommands ∧ (table.slots nSlot).nCommand = 0 := by
  have member := List.mem_of_find?_eq_some found
  have free := List.find?_some found
  exact ⟨List.mem_range.mp member, of_decide_eq_true free⟩

/-- There is a free slot exactly where `QueueCommand` finds one. -/
theorem exists_freeSlot_iff
    {table : SlotTable} :
    (∃ nSlot < maxQueuedCommands, (table.slots nSlot).nCommand = 0) ↔
      ∃ nSlot, table.freeSlot = some nSlot := by
  constructor
  · rintro ⟨nSlot, below, free⟩
    apply Option.isSome_iff_exists.mp
    apply List.find?_isSome.mpr
    exact ⟨nSlot, List.mem_range.mpr below, decide_eq_true free⟩
  · rintro ⟨nSlot, found⟩
    obtain ⟨below, free⟩ := free_of_freeSlot found
    exact ⟨nSlot, below, free⟩

/-- `QueueCommand` claims a slot that no call holds. -/
theorem queue
    (kept : SlotsKept table (.queue call :: others))
    (found : table.freeSlot = some nSlot) :
    SlotsKept
      (table.assign nSlot { table.slots nSlot with
        nCommand := call.wrapper.nCommand })
      ([.resetEvent call nSlot] ++ others) := by
  obtain ⟨below, free⟩ := free_of_freeSlot found
  have own := kept.relies _ (List.mem_cons_self ..)
  have apart : ∀ other ∈ others, ∀ held ∈ other.holds, held.2 ≠ (nSlot : Int) := by
    intro other member held holds same
    apply (kept.relies_others other member).command held holds
    rw [same]
    exact free
  exact {
    relies := by
      intro other member
      rcases List.mem_cons.mp member with rfl | earlier
      · exact {
          index := by
            rintro _ ⟨⟩
            omega
          command := by
            rintro _ ⟨⟩
            simp only [SlotTable.assign, Function.update_self]
            exact call.wrapper.nCommand_ne_zero
          buffer := nofun
          size := nofun
          number := own.number
          freed := own.freed
          suits := trivial }
      · have before := kept.relies_others other earlier
        exact before.assign_of_apart (apart other earlier) _
    numbers := kept.numbers
    slots := by
      refine List.nodup_cons.mpr ⟨?_, kept.slots⟩
      intro member
      obtain ⟨other, present, slot⟩ := List.mem_filterMap.mp member
      obtain ⟨held, holds, same⟩ := Option.map_eq_some_iff.mp slot
      exact apart other present held holds same
    held := by
      intro other bound below used
      by_cases here : other = nSlot
      · rw [here]
        exact List.mem_cons_self ..
      · simp only [SlotTable.assign, Function.update_of_ne here] at used
        exact List.mem_cons_of_mem _ (kept.held other bound below used)
    freed := kept.freed }

/-- The event of a slot concerns no call. -/
theorem assign_hEvent
    (kept : SlotsKept table (point :: others))
    (nSlot : Int)
    (hEvent : Bool) :
    ∀ other ∈ point :: others, other.Relies
      (table.assign nSlot { table.slots nSlot with hEvent := hEvent }) := by
  intro other member
  exact (kept.relies other member).assign (.inl rfl) (.inl rfl) (.inl rfl)

/-- `QueueCommand` resets the event of its slot. -/
theorem resetEvent
    (kept : SlotsKept table (.resetEvent call nSlot :: others)) :
    SlotsKept
      (table.assign nSlot { table.slots nSlot with hEvent := false })
      ([.storeBuffer call nSlot] ++ others) := by
  have relies := kept.assign_hEvent nSlot false
  have own := relies _ (List.mem_cons_self ..)
  refine kept.goesOn rfl rfl { own with } ?_ (nCommand_assign rfl) kept.freed
  intro other member
  exact relies other (List.mem_cons_of_mem _ member)

/-- `QueueCommand` stores the buffer in its slot. -/
theorem storeBuffer
    (kept : SlotsKept table (.storeBuffer call nSlot :: others)) :
    SlotsKept
      (table.assign nSlot { table.slots nSlot with
        pResultBuffer := some call.number })
      ([.storeSize call nSlot] ++ others) := by
  have apart := kept.apart rfl
  have own : SlotPoint.Relies
      (table.assign nSlot { table.slots nSlot with
        pResultBuffer := some call.number })
      (.storeBuffer call nSlot) :=
    (kept.relies _ (List.mem_cons_self ..)).assign (.inl rfl) (.inr nofun)
      (.inl rfl)
  refine kept.goesOn rfl rfl ?_ ?_ (nCommand_assign rfl) kept.freed
  · exact { own with
      buffer := by
        rintro _ ⟨⟩
        simp only [SlotTable.assign, Function.update_self] }
  · intro other member
    have before := kept.relies_others other member
    exact before.assign_of_apart (apart other member) _

/-- `QueueCommand` stores the size of the buffer in its slot. -/
theorem storeSize
    (kept : SlotsKept table (.storeSize call nSlot :: others)) :
    SlotsKept
      (table.assign nSlot { table.slots nSlot with
        dwBufferSize := call.wrapper.bufferSize })
      ([.send call nSlot] ++ others) := by
  have apart := kept.apart rfl
  have own : SlotPoint.Relies
      (table.assign nSlot { table.slots nSlot with
        dwBufferSize := call.wrapper.bufferSize })
      (.storeSize call nSlot) :=
    (kept.relies _ (List.mem_cons_self ..)).assign (.inl rfl) (.inl rfl)
      (.inr nofun)
  refine kept.goesOn rfl rfl ?_ ?_ (nCommand_assign rfl) kept.freed
  · exact { own with
      size := by
        rintro _ ⟨⟩
        simp only [SlotTable.assign, Function.update_self] }
  · intro other member
    have before := kept.relies_others other member
    exact before.assign_of_apart (apart other member) _

/-! ## Sending and waiting -/

/-- A call goes on and leaves the slots. -/
theorem goesOn_same
    {point later : SlotPoint}
    (kept : SlotsKept table (point :: others))
    (number : later.number? = point.number?)
    (slot : later.slot? = point.slot?)
    (own : later.Relies table) : SlotsKept table ([later] ++ others) :=
  kept.goesOn number slot own kept.relies_others (fun _ => rfl) kept.freed

/-- A wrapper that failed gives its slot back without having freed anything. -/
theorem relies_of_failure
    {call : SlotCall}
    {nSlot : Int}
    (relies : SlotPoint.Relies table (.send call nSlot))
    {exit : WrapperExit}
    (failed : exit ≠ .completed) :
    SlotPoint.Relies table (.clearCommand call nSlot exit) :=
  { relies with
    freed := by
      intro other here
      rw [relies.freed other here]
      exact (if_neg fun freed => failed freed.2).symm
    suits := trivial }

/-- A wrapper sends its command. -/
theorem send
    (kept : SlotsKept table (.send call nSlot :: others))
    (succeeds : Bool) :
    SlotsKept table
      ([if succeeds then .wait call nSlot
        else .clearCommand call nSlot .sendFailed] ++ others) := by
  have own := kept.relies _ (List.mem_cons_self ..)
  cases succeeds with
  | true => exact kept.goesOn_same rfl rfl { own with }
  | false => exact kept.goesOn_same rfl rfl (relies_of_failure own nofun)

/-- A wrapper whose wait fails gives its slot back. -/
theorem waitFails
    (kept : SlotsKept table (.wait call nSlot :: others)) :
    SlotsKept table ([.clearCommand call nSlot .waitFailed] ++ others) := by
  have own : SlotPoint.Relies table (.send call nSlot) :=
    { kept.relies _ (List.mem_cons_self ..) with }
  exact kept.goesOn_same rfl rfl (relies_of_failure own nofun)

/-- A wrapper whose command has been answered. -/
theorem wait
    (kept : SlotsKept table (.wait call nSlot :: others)) :
    SlotsKept
      (table.assign nSlot { table.slots nSlot with hEvent := false })
      ([match call.wrapper.form with
        | .commandStatus => .freeStatus call nSlot
        | .classOfDevice => .getCommand call nSlot
        | .statusByte | .completion _ | .localName =>
            .clearCommand call nSlot .completed] ++ others) := by
  have relies := kept.assign_hEvent nSlot false
  have own := relies _ (List.mem_cons_self ..)
  have rest : ∀ other ∈ others, other.Relies
      (table.assign nSlot { table.slots nSlot with hEvent := false }) := by
    intro other member
    exact relies other (List.mem_cons_of_mem _ member)
  -- without a status buffer there is nothing to free
  have completed (other : call.wrapper.form ≠ .commandStatus) :
      SlotPoint.Relies
        (table.assign nSlot { table.slots nSlot with hEvent := false })
        (.clearCommand call nSlot .completed) :=
    { own with
      freed := by
        intro same here
        rw [own.freed same here]
        exact (if_neg fun freed => other freed.1).symm
      suits := trivial }
  cases form : call.wrapper.form with
  | commandStatus =>
      exact kept.goesOn rfl rfl { own with suits := form } rest
        (nCommand_assign rfl) kept.freed
  | classOfDevice =>
      exact kept.goesOn rfl rfl { own with suits := form } rest
        (nCommand_assign rfl) kept.freed
  | statusByte | completion | localName =>
      refine kept.goesOn rfl rfl (completed ?_) rest (nCommand_assign rfl)
        kept.freed
      rw [form]
      nofun

/-- The status buffer that is freed is that of the call. -/
theorem freeStatus
    (kept : SlotsKept table (.freeStatus call nSlot :: others)) :
    SlotsKept
      { table with freed := table.freed ++ [call.number] }
      ([.clearCommand call nSlot .completed] ++ others) := by
  have own := kept.relies _ (List.mem_cons_self ..)
  have numbers : (call.number :: others.filterMap SlotPoint.number?).Nodup :=
    kept.numbers
  refine kept.goesOn rfl rfl ?_ ?_ (fun _ => rfl) ?_
  · exact { own with
      freed := by
        rintro _ ⟨⟩
        have none : table.freed.count call.number = 0 := own.freed call rfl
        rw [List.count_append, none, List.count_singleton_self]
        exact (if_pos ⟨own.suits, rfl⟩).symm
      suits := trivial }
  · intro other member
    have before := kept.relies_others other member
    exact { before with
      freed := by
        intro different here
        have apart : call.number ≠ different.number := by
          intro same
          apply (List.nodup_cons.mp numbers).1
          apply List.mem_filterMap.mpr
          refine ⟨other, member, ?_⟩
          rw [SlotPoint.number?, Option.mem_def.mp here, Option.map_some, ← same]
        rw [List.count_append, before.freed different here,
          List.count_singleton, beq_false_of_ne apart]
        rfl }
  · intro number member
    rcases List.mem_append.mp member with earlier | last
    · exact kept.freed number earlier
    · rw [List.mem_singleton.mp last]
      exact own.number call rfl

/-- A wrapper that has looked its slot up gives it back. -/
theorem getCommand
    (kept : SlotsKept table (.getCommand call nSlot :: others)) :
    SlotsKept table ([.clearCommand call nSlot .completed] ++ others) := by
  have own := kept.relies _ (List.mem_cons_self ..)
  refine kept.goesOn_same rfl rfl { own with freed := ?_, suits := trivial }
  intro same here
  rw [own.freed same here]
  refine (if_neg ?_).symm
  rintro ⟨form, -⟩
  rw [show call.wrapper.form = .classOfDevice from own.suits] at form
  cases form

/-! ## Giving a slot back -/

/-- The first assignment of `DeQueueCommand` releases the slot. -/
theorem clearCommand
    (kept : SlotsKept table (.clearCommand call nSlot exit :: others)) :
    SlotsKept
      (table.assign nSlot { table.slots nSlot with nCommand := 0 })
      ([.clearBuffer call nSlot exit] ++ others) := by
  have own := kept.relies _ (List.mem_cons_self ..)
  have apart := kept.apart rfl
  have slots : (nSlot :: others.filterMap SlotPoint.slot?).Nodup := kept.slots
  exact {
    relies := by
      intro other member
      rcases List.mem_cons.mp member with rfl | earlier
      · exact SlotPoint.relies_of_unheld rfl own.index own.number own.freed
          trivial
      · have before := kept.relies_others other earlier
        exact before.assign_of_apart (apart other earlier) _
    numbers := kept.numbers
    slots := (List.nodup_cons.mp slots).2
    held := by
      intro other bound below used
      have different : other ≠ nSlot := by
        rintro rfl
        simp only [SlotTable.assign, Function.update_self] at used
        exact used rfl
      simp only [SlotTable.assign, Function.update_of_ne different] at used
      have held := kept.held other bound below used
      exact (List.mem_cons.mp held).resolve_left different
    freed := kept.freed }

/-- The second assignment keeps the invariant where no other call has stored its
buffer in the slot. -/
theorem clearBuffer
    (kept : SlotsKept table (.clearBuffer call nSlot exit :: others))
    (alone : ∀ point ∈ others, ∀ held ∈ point.stores, held.2 ≠ nSlot) :
    SlotsKept
      (table.assign nSlot { table.slots nSlot with pResultBuffer := none })
      ([.clearSize call nSlot exit] ++ others) := by
  have own := kept.relies _ (List.mem_cons_self ..)
  refine kept.goesOn rfl rfl ?_ ?_ (nCommand_assign rfl) kept.freed
  · exact SlotPoint.relies_of_unheld rfl own.index own.number own.freed trivial
  · intro other member
    have before := kept.relies_others other member
    exact before.assign (.inl rfl) (.inr (alone other member)) (.inl rfl)

/-- The third assignment keeps the invariant where no other call has stored its
size in the slot. -/
theorem clearSize
    (kept : SlotsKept table (.clearSize call nSlot exit :: others))
    (alone : ∀ point ∈ others, ∀ held ∈ point.sizes, held.2 ≠ nSlot) :
    SlotsKept
      (table.assign nSlot { table.slots nSlot with dwBufferSize := 0 })
      ([] ++ others) := by
  refine kept.ends rfl ?_ (nCommand_assign rfl) kept.freed
  intro other member
  have before := kept.relies_others other member
  exact before.assign (.inl rfl) (.inl rfl) (.inr (alone other member))

/-! ## Answering -/

/-- An event handler holds no slot. -/
theorem holds_eq_none
    {point : SlotPoint}
    (handler : point.call? = none) : point.holds = none := by
  cases point <;> first | rfl | cases handler

theorem slot?_eq_none
    {point : SlotPoint}
    (handler : point.call? = none) : point.slot? = none := by
  rw [SlotPoint.slot?, holds_eq_none handler, Option.map_none]

/-- An event handler relies only on the slot that it has found. -/
theorem relies_of_handler
    {table : SlotTable}
    {point : SlotPoint}
    (handler : point.call? = none)
    (index : ∀ nSlot ∈ point.nSlot?, 0 ≤ nSlot ∧ nSlot < maxQueuedCommands) :
    point.Relies table := by
  apply SlotPoint.relies_of_unheld (holds_eq_none handler) index
  · rw [handler]
    nofun
  · rw [handler]
    nofun
  · cases point <;> trivial

/-- An event handler goes on. -/
theorem handles
    {point later : SlotPoint}
    (kept : SlotsKept table (point :: others))
    (apart : point.call? = none)
    (idle : later.call? = none)
    (index : ∀ nSlot ∈ later.nSlot?, 0 ≤ nSlot ∧ nSlot < maxQueuedCommands) :
    SlotsKept table ([later] ++ others) := by
  apply kept.goesOn_same
  · rw [SlotPoint.number?, SlotPoint.number?, apart, idle]
  · rw [slot?_eq_none apart, slot?_eq_none idle]
  · exact relies_of_handler idle index

/-- An event handler ends. -/
theorem handlerEnds
    {point : SlotPoint}
    (kept : SlotsKept table (point :: others))
    (handler : point.call? = none) : SlotsKept table ([] ++ others) :=
  kept.ends (slot?_eq_none handler) kept.relies_others (fun _ => rfl) kept.freed

/-- An event handler signals the event of the slot, and ends. -/
theorem signal
    (kept : SlotsKept table (.signal nSlot :: others)) :
    SlotsKept
      (table.assign nSlot { table.slots nSlot with hEvent := true })
      ([] ++ others) := by
  refine kept.ends rfl ?_ (nCommand_assign rfl) kept.freed
  intro other member
  exact kept.assign_hEvent nSlot true other (List.mem_cons_of_mem _ member)

/-- An event handler that stores the size of its result keeps the invariant where
the call behind the slot expects as many bytes. -/
theorem storeLength
    (kept : SlotsKept table (.storeLength answer nSlot :: others))
    (fits : ∀ point ∈ others, ∀ held ∈ point.sizes, held.2 = nSlot →
      answer.size = held.1.wrapper.bufferSize) :
    SlotsKept
      (table.assign nSlot { table.slots nSlot with
        dwBufferSize := answer.size })
      ([.signal nSlot] ++ others) := by
  have own := kept.relies _ (List.mem_cons_self ..)
  refine kept.goesOn rfl rfl ?_ ?_ (nCommand_assign rfl) kept.freed
  · exact relies_of_handler rfl own.index
  · intro other member
    have before := kept.relies_others other member
    refine before.assign (.inl rfl) (.inl rfl) ?_
    by_cases here : ∃ held ∈ other.sizes, held.2 = nSlot
    · obtain ⟨held, sizes, same⟩ := here
      left
      rw [fits other member held sizes same, ← before.size held sizes, same]
    · right
      intro held sizes same
      exact here ⟨held, sizes, same⟩

/-! ## Beginning -/

/-- A wrapper that is called, or an event that arrives, keeps the invariant. -/
theorem enter
    (kept : SlotsKept table strands)
    (entered : slotProgram.enter table entry = some (behind, point)) :
    SlotsKept behind (point :: strands) := by
  cases entry with
  | send wrapper =>
      cases entered
      have fresh : table.freed.count table.calls = 0 := by
        apply List.count_eq_zero_of_not_mem
        intro member
        exact Nat.lt_irrefl _ (kept.freed _ member)
      exact {
        relies := by
          intro other member
          rcases List.mem_cons.mp member with rfl | earlier
          · apply SlotPoint.relies_of_unheld rfl
            · rintro _ ⟨⟩
            · rintro _ ⟨⟩
              exact Nat.lt_succ_self _
            · rintro _ ⟨⟩
              exact fresh
            · trivial
          · have before := kept.relies other earlier
            exact { before with
              number := fun call here =>
                Nat.lt_succ_of_lt (before.number call here) }
        numbers := by
          refine List.nodup_cons.mpr ⟨?_, kept.numbers⟩
          intro member
          obtain ⟨other, present, number⟩ := List.mem_filterMap.mp member
          obtain ⟨call, here, same⟩ := Option.map_eq_some_iff.mp number
          have below := (kept.relies other present).number call here
          rw [same] at below
          exact Nat.lt_irrefl _ below
        slots := kept.slots
        held := kept.held
        freed := fun number member =>
          Nat.lt_succ_of_lt (kept.freed number member) }
  | event answer =>
      cases entered
      exact {
        relies := by
          intro other member
          rcases List.mem_cons.mp member with rfl | earlier
          · apply relies_of_handler rfl
            rintro _ ⟨⟩
            decide
          · exact kept.relies other earlier
        numbers := kept.numbers
        slots := kept.slots
        held := kept.held
        freed := kept.freed }

end SlotsKept
end Hci
end BthEmul
