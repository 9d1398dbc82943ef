import BthEmul.Foundation.Provenance
import BthEmul.Runtime.DataReader
import Mathlib.Data.List.FinRange

/-!
# Events and packets on their way to the listener

The runtime keeps several reads for events with the driver. A read that is
finished is noticed by the listener thread, which hands the event to a thread
of its own and issues the read again. The data reader does the same with each
ACL packet. All these threads call the subscribed listener, one at a time, in
the order in which they are let into a critical section.

Neither the order in which finished reads are noticed nor the one in which
threads enter is the order of the events: a run is any order of the steps.
-/

namespace BthEmul

open Foundation

namespace Runtime

/-- `FBT_HCI_EVENT_MAX_SIZE`. -/
def eventMaxSize : Nat := 257

/-- `FBT_HCI_SYNC_HCI_EVENT_PACKET`. -/
def syncHciEventPacket : UInt8 := 4

/-- `HCI_NUMBER_OF_OVERLAPPED_LISTENS`. -/
def overlappedListens : Nat := 63

/-- `CBthEmulHci::OnEvent`: what the listener is given for an event. -/
def onEvent (pEvent : List UInt8) : Option (List UInt8) := do
  let cleared : Buffer UInt8 (eventMaxSize + 1) := Buffer.fill _ 0
  let typed ← cleared.store 0 [syncHciEventPacket]
  let filled ← typed.store 1 pEvent
  filled.load 0 (pEvent.length + 1)

/-- An event that fits the read buffer is given to the listener behind its type
byte. -/
theorem onEvent_eq
    {pEvent : List UInt8}
    (fits : pEvent.length ≤ eventMaxSize) :
    onEvent pEvent = some (syncHciEventPacket :: pEvent) :=
  load_of_typed fits syncHciEventPacket

/-- What a thread gives to the listener. -/
inductive ItemKind
  | event
  | packet
  deriving DecidableEq

namespace ItemKind

/-- The type byte in front of an item. -/
def type : ItemKind → UInt8
  | .event => syncHciEventPacket
  | .packet => syncAclDataPacket

/-- The longest items of a kind. -/
def maxSize : ItemKind → Nat
  | .event => eventMaxSize
  | .packet => dataMaxSize

/-- What the listener is given for an item. -/
def handler : ItemKind → List UInt8 → Option (List UInt8)
  | .event => onEvent
  | .packet => dataEventHandler

/-- An item that fits is given to the listener behind its type byte. -/
theorem handler_eq
    {kind : ItemKind}
    (fits : item.length ≤ kind.maxSize) :
    kind.handler item = some (kind.type :: item) := by
  cases kind with
  | event => exact onEvent_eq fits
  | packet => exact dataEventHandler_eq fits

theorem type_injective {first second : ItemKind}
    (same : first.type = second.type) : first = second := by
  cases first <;> cases second <;> first | rfl | exact absurd same (by decide)

end ItemKind

/-- A thread that runs `EventHandler` or `DataEventHandler` and has not entered
the critical section yet. -/
structure HandlerThread where
  /-- The routine. -/
  kind : ItemKind
  /-- A copy of the event or packet. -/
  item : List UInt8
  deriving DecidableEq

/-- A read for events that the driver has finished. -/
structure FinishedRead where
  /-- Its place in `m_Overlappeds`. -/
  slot : Fin overlappedListens
  /-- The event. -/
  event : List UInt8
  deriving DecidableEq

/-- The receiving part of the runtime. The last three fields are the history:
what the controller and the data reader produced, and the calls made. -/
structure Receiver where
  /-- The reads with the driver, in the order in which they were issued. -/
  pending : List (Fin overlappedListens)
  /-- The finished reads, in the order in which they were finished. -/
  finished : List FinishedRead
  /-- The listener thread is in its loop. -/
  listening : Bool
  /-- The data reader. -/
  reader : DataReader
  /-- The threads, in the order in which they were created. -/
  threads : List HandlerThread
  /-- `m_hciEventListener` is not null. -/
  listener : Bool
  /-- The events the controller produced. -/
  events : List (List UInt8)
  /-- The ACL packets the data reader completed. -/
  packets : List (List UInt8)
  /-- What the listener was called with. -/
  calls : List (List UInt8)

namespace Receiver

/-- The listener thread has issued all reads and a listener is subscribed. -/
def start : Receiver where
  pending := List.finRange overlappedListens
  finished := []
  listening := true
  reader := DataReader.start
  threads := []
  listener := true
  events := []
  packets := []
  calls := []

/-- The driver finishes the read issued first with an event. -/
def finishRead
    (receiver : Receiver)
    (event : List UInt8) : Option (Option (List UInt8) × Receiver) :=
  match receiver.pending with
  | [] => none
  | slot :: pending =>
      if event.length ≤ eventMaxSize then
        some (none, {
          receiver with
          pending := pending
          finished := receiver.finished ++ [{ slot, event }]
          events := receiver.events ++ [event] })
      else none

/-- `WaitForMultipleObjects`: of the reads that are finished it reports the one
with the lowest slot. -/
def waitForMultipleObjects (finished : List FinishedRead) : Option Nat :=
  (List.finRange overlappedListens).findSome? fun slot =>
    finished.findIdx? fun read => read.slot = slot

/-- One turn of the loop of `Listener`. The arguments say whether the thread is
created and whether the read is issued again; without a thread the event is
lost and the loop is left. -/
def listen
    (receiver : Receiver)
    (created resent : Bool) : Option (Option (List UInt8) × Receiver) := do
  if receiver.listening then
    let index ← waitForMultipleObjects receiver.finished
    let (read, finished) ← pick receiver.finished index
    if created then
      some (none, {
        receiver with
        finished := finished
        pending := receiver.pending ++ (if resent then [read.slot] else [])
        threads := receiver.threads ++ [{ kind := .event, item := read.event }] })
    else
      some (none, { receiver with finished := finished, listening := false })
  else none

/-- One turn of the loop of `DataReader`. Without a thread the packet is lost. -/
def readData
    (receiver : Receiver)
    (chunk : List UInt8)
    (created : Bool) : Option (Option (List UInt8) × Receiver) := do
  let (packet, reader) ← receiver.reader.step chunk
  match packet with
  | none => some (none, { receiver with reader := reader })
  | some packet =>
      some (none, {
        receiver with
        reader := reader
        packets := receiver.packets ++ [packet]
        threads := receiver.threads ++
          (if created then [{ kind := .packet, item := packet }] else []) })

/-- A thread is let into the critical section and calls the listener, if there
is one. -/
def enter
    (receiver : Receiver)
    (index : Nat) : Option (Option (List UInt8) × Receiver) := do
  let (thread, threads) ← pick receiver.threads index
  if receiver.listener then
    let call ← thread.kind.handler thread.item
    some (some call, {
      receiver with
      threads := threads
      calls := receiver.calls ++ [call] })
  else
    some (none, { receiver with threads := threads })

/-- The progress of the driver, of one of the two loops, or of a thread. -/
inductive Action
  | finishRead (event : List UInt8)
  | listen (created resent : Bool)
  | readData (chunk : List UInt8) (created : Bool)
  | enter (index : Nat)
  deriving DecidableEq

/-- What the listener is called with in a step, if it is, and the receiver
afterwards. A step that has to wait has no result. -/
def step (receiver : Receiver) :
    Action → Option (Option (List UInt8) × Receiver)
  | .finishRead event => receiver.finishRead event
  | .listen created resent => receiver.listen created resent
  | .readData chunk created => receiver.readData chunk created
  | .enter index => receiver.enter index

end Receiver

/-- The receiver under successive steps. -/
def receiverMachine :
    Machine Receiver Receiver.Action (Option (List UInt8)) where
  step := Receiver.step

namespace Receiver

/-! ## The property -/

/-- What the listener was called with for items of a kind. -/
def callsOf (kind : ItemKind) (calls : List (List UInt8)) : List (List UInt8) :=
  calls.filter fun call => call.head? = some kind.type

/-- The calls that items of a kind are to make. -/
def announced (kind : ItemKind) (items : List (List UInt8)) :
    List (List UInt8) :=
  items.map (kind.type :: ·)

/-- The items of a kind in the order in which they were produced. -/
def produced (receiver : Receiver) : ItemKind → List (List UInt8)
  | .event => receiver.events
  | .packet => receiver.packets

/-- The listener was called in order, with no item twice and none left out, and
with all of them when nothing is on its way. -/
structure InOrder (receiver : Receiver) : Prop where
  /-- The calls are the first items produced. -/
  ordered : ∀ kind,
    callsOf kind receiver.calls <+: announced kind (receiver.produced kind)
  /-- Nothing is lost. -/
  complete : receiver.finished = [] → receiver.threads = [] → ∀ kind,
    callsOf kind receiver.calls = announced kind (receiver.produced kind)

/-! ## The condition -/

/-- The read that is noticed was finished before the others, a thread enters
before the later ones of its kind, and threads can be created. -/
def Conforms (receiver : Receiver) : Action → Prop
  | .finishRead _ => True
  | .listen created _ =>
      created ∧ waitForMultipleObjects receiver.finished = some 0
  | .readData _ created => created
  | .enter index =>
      ∀ thread ∈ receiver.threads[index]?,
        ∀ earlier ∈ receiver.threads.take index, earlier.kind ≠ thread.kind

instance decidableConforms (receiver : Receiver) :
    (action : Action) → Decidable (receiver.Conforms action)
  | .finishRead _ => isTrue trivial
  | .listen _ _ => inferInstanceAs (Decidable (_ ∧ _))
  | .readData _ _ => inferInstanceAs (Decidable (_ = _))
  | .enter _ =>
      inferInstanceAs (Decidable (∀ thread ∈ (_ : Option HandlerThread), _))

/-! ## The invariant -/

/-- The items of a kind that threads hold. -/
def held (receiver : Receiver) (kind : ItemKind) : List (List UInt8) :=
  (receiver.threads.filter fun thread => thread.kind = kind).map
    HandlerThread.item

/-- The items of a kind that finished reads hold. -/
def unnoticed (receiver : Receiver) : ItemKind → List (List UInt8)
  | .event => receiver.finished.map FinishedRead.event
  | .packet => []

/-- The calls made, the items threads hold and those finished reads hold are
the items produced, in this order. -/
structure Tracks (receiver : Receiver) : Prop where
  /-- Nothing is lost, duplicated or reordered. -/
  conserved : ∀ kind,
    callsOf kind receiver.calls ++
        announced kind (receiver.held kind ++ receiver.unnoticed kind) =
      announced kind (receiver.produced kind)
  /-- The items of the threads fit the buffer of the listener. -/
  threads_fit : ∀ thread ∈ receiver.threads,
    thread.item.length ≤ thread.kind.maxSize
  /-- The events of the reads fit the buffer of the listener. -/
  finished_fit : ∀ read ∈ receiver.finished, read.event.length ≤ eventMaxSize
  /-- The data reader is sound. -/
  sound : receiver.reader.Sound
  /-- A listener is subscribed. -/
  subscribed : receiver.listener = true

@[simp] theorem callsOf_append
    (kind : ItemKind)
    (first second : List (List UInt8)) :
    callsOf kind (first ++ second) =
      callsOf kind first ++ callsOf kind second :=
  List.filter_append ..

/-- A call for an item is one of its kind. -/
theorem callsOf_singleton_self
    (kind : ItemKind)
    (item : List UInt8) :
    callsOf kind [kind.type :: item] = [kind.type :: item] := by
  simp [callsOf]

/-- A call for an item is none of another kind. -/
theorem callsOf_singleton_other
    {kind other : ItemKind}
    (differ : other ≠ kind)
    (item : List UInt8) :
    callsOf kind [other.type :: item] = [] := by
  have types : other.type ≠ kind.type := fun same =>
    differ (ItemKind.type_injective same)
  simp [callsOf, types]

@[simp] theorem announced_append
    (kind : ItemKind)
    (first second : List (List UInt8)) :
    announced kind (first ++ second) =
      announced kind first ++ announced kind second :=
  List.map_append ..

@[simp] theorem announced_singleton
    (kind : ItemKind)
    (item : List UInt8) :
    announced kind [item] = [kind.type :: item] := rfl

theorem tracks_start : start.Tracks where
  conserved kind := by cases kind <;> rfl
  threads_fit := by simp [start]
  finished_fit := by simp [start]
  sound := DataReader.sound_start
  subscribed := rfl

/-- The driver puts the event behind those it has produced. -/
theorem Tracks.finishRead
    {receiver next : Receiver}
    (tracks : receiver.Tracks)
    (stepped : receiver.finishRead event = some (call, next)) :
    next.Tracks := by
  unfold Receiver.finishRead at stepped
  split at stepped
  · exact absurd stepped (by simp)
  · rename_i slot pending issued
    split at stepped
    · rename_i fits
      cases stepped
      refine { tracks with conserved := ?_, finished_fit := ?_ }
      · intro kind
        have before := tracks.conserved kind
        cases kind with
        | event =>
            simp only [unnoticed, produced, held, List.map_append,
              List.map_singleton, announced_append,
              announced_singleton] at before ⊢
            rw [← before]
            simp only [List.append_assoc]
        | packet => exact before
      · exact forall_mem_concat tracks.finished_fit fits
    · exact absurd stepped (by simp)

/-- The read that was finished first hands its event to the last thread. -/
theorem Tracks.listen
    {receiver next : Receiver}
    (tracks : receiver.Tracks)
    (created : Bool)
    (conforms : receiver.Conforms (.listen created resent))
    (stepped : receiver.listen created resent = some (call, next)) :
    next.Tracks := by
  obtain ⟨rfl, first⟩ := conforms
  unfold Receiver.listen at stepped
  split at stepped
  · rw [first] at stepped
    simp only [Option.bind_eq_bind, Option.bind_some, if_true,
      Option.bind_eq_some_iff, Prod.exists, Option.some.injEq,
      Prod.mk.injEq] at stepped
    obtain ⟨read, finished, picked, -, rfl⟩ := stepped
    obtain ⟨whole, rfl⟩ := eq_append_of_pick picked
    rw [List.take_zero, List.nil_append] at whole
    have fits := tracks.finished_fit
    rw [whole, List.forall_mem_cons] at fits
    refine { tracks with
      conserved := ?_, threads_fit := ?_, finished_fit := fits.2 }
    · intro kind
      have before := tracks.conserved kind
      cases kind with
      | event =>
          rw [unnoticed, whole] at before
          simpa [unnoticed, held, produced, List.filter_append] using before
      | packet =>
          simpa [unnoticed, held, produced, List.filter_append] using before
    · exact forall_mem_concat tracks.threads_fit fits.1
  · exact absurd stepped (by simp)

/-- A read of data gives the packet it completes, if any, to the last
thread. -/
theorem Tracks.readData
    {receiver next : Receiver}
    (tracks : receiver.Tracks)
    (created : Bool)
    (conforms : receiver.Conforms (.readData chunk created))
    (stepped : receiver.readData chunk created = some (call, next)) :
    next.Tracks := by
  change created = true at conforms
  subst conforms
  simp only [Receiver.readData, Option.bind_eq_bind, Option.bind_eq_some_iff,
    Prod.exists] at stepped
  obtain ⟨packet, reader, read, stepped⟩ := stepped
  have fits : receiver.reader.nBufferPos + chunk.length ≤ dataMaxSize := by
    simp only [DataReader.step, Option.bind_eq_bind,
      Option.bind_eq_some_iff] at read
    obtain ⟨block, stored, -⟩ := read
    exact Buffer.fits_of_store stored
  rcases tracks.sound.exists_step fits with
    ⟨-, complete⟩ | ⟨-, reader', incomplete, sound, -⟩
  · rw [complete] at read
    cases read
    cases stepped
    refine { tracks with
      conserved := ?_, threads_fit := ?_, sound := DataReader.sound_start }
    · intro kind
      have before := tracks.conserved kind
      cases kind with
      | event =>
          simpa [unnoticed, held, produced, List.filter_append] using before
      | packet =>
          simp only [unnoticed, List.append_nil, produced] at before
          simp only [unnoticed, List.append_nil, produced, announced_append]
          rw [← before]
          simp [held, List.filter_append]
    · apply forall_mem_concat tracks.threads_fit
      have counted := congrArg List.length
        (List.take_append_drop receiver.reader.nBufferPos
          receiver.reader.readBuffer.cells)
      rw [DataReader.pending]
      simp only [List.length_append, List.length_take, ItemKind.maxSize]
      omega
  · rw [incomplete] at read
    cases read
    cases stepped
    exact { tracks with sound := sound }

/-- The first thread of its kind makes the next call of its kind. -/
theorem Tracks.enter
    {receiver next : Receiver}
    (tracks : receiver.Tracks)
    (conforms : receiver.Conforms (.enter index))
    (stepped : receiver.enter index = some (call, next)) :
    next.Tracks := by
  simp only [Receiver.enter, Option.bind_eq_bind, Option.bind_eq_some_iff,
    Prod.exists, if_pos tracks.subscribed] at stepped
  obtain ⟨thread, threads, picked, stepped⟩ := stepped
  obtain ⟨fits, threads_fit⟩ := forall_of_pick picked tracks.threads_fit
  obtain ⟨present, -⟩ := pick_eq_some_iff.mp picked
  simp only [ItemKind.handler_eq fits, Option.some.injEq,
    Prod.mk.injEq] at stepped
  obtain ⟨-, rfl, -, rfl⟩ := stepped
  refine { tracks with conserved := ?_, threads_fit := threads_fit }
  intro kind
  have before := tracks.conserved kind
  change callsOf kind (receiver.calls ++ [_]) ++
      announced kind ((threads.filter _).map _ ++ receiver.unnoticed kind) =
    announced kind (receiver.produced kind)
  by_cases same : thread.kind = kind
  · subst same
    have front := filter_of_pick_first
      (fun other => decide (other.kind = thread.kind)) picked
      (decide_eq_true rfl) (fun earlier member => by
        simpa using conforms thread present earlier member)
    rw [← before, callsOf_append, callsOf_singleton_self, held, front]
    simp [announced]
  · have rest := filter_of_pick_other
      (fun other => decide (other.kind = kind)) picked
      (by simpa using same)
    rw [callsOf_append, callsOf_singleton_other same, List.append_nil]
    rw [held, rest] at before
    exact before

/-- Every step that conforms keeps the items in order. -/
theorem Tracks.step
    {receiver next : Receiver}
    (tracks : receiver.Tracks)
    (conforms : receiver.Conforms action)
    (stepped : receiver.step action = some (call, next)) :
    next.Tracks := by
  cases action with
  | finishRead event => exact tracks.finishRead stepped
  | listen created resent => exact tracks.listen created conforms stepped
  | readData chunk created => exact tracks.readData created conforms stepped
  | enter index => exact tracks.enter conforms stepped

/-- What is tracked is in order. -/
theorem Tracks.inOrder
    {receiver : Receiver}
    (tracks : receiver.Tracks) : receiver.InOrder where
  ordered kind := ⟨_, tracks.conserved kind⟩
  complete noReads noThreads kind := by
    have conserved := tracks.conserved kind
    have nothing : receiver.held kind ++ receiver.unnoticed kind = [] := by
      cases kind with
      | event => simp [held, unnoticed, noReads, noThreads]
      | packet => simp [held, unnoticed, noThreads]
    rw [nothing] at conserved
    simpa [announced] using conserved

/-- In every run of conforming steps the listener is called in order. -/
theorem inOrder_of_run
    (actions : List Action)
    (calls : List (Option (List UInt8)))
    (final : Receiver)
    (conforms : receiverMachine.Admits Conforms start actions)
    (ran : receiverMachine.run start actions = some (calls, final)) :
    final.InOrder :=
  (Machine.holds_of_run (fun _ (receiver : Receiver) => receiver.Tracks)
    (fun _ _ _ _ _ tracks conforms stepped => tracks.step conforms stepped)
    [] tracks_start conforms ran).inOrder

/-- An event and an ACL packet without data. -/
def eventAndPacket : List Action :=
  [.finishRead [0x0e, 0], .listen true true, .readData [1, 0, 0, 0] true,
    .enter 1, .enter 0]

theorem inOrder_event_and_packet :
    ∃ calls final,
      receiverMachine.run start eventAndPacket = some (calls, final) ∧
        final.InOrder := by
  obtain ⟨⟨calls, final⟩, ran⟩ := Option.isSome_iff_exists.mp
    (show (receiverMachine.run start eventAndPacket).isSome by decide +kernel)
  exact ⟨calls, final, ran,
    inOrder_of_run _ calls final (by decide +kernel) ran⟩

/-- Two events whose threads enter in the other order. -/
def overtakingEvents : List Action :=
  [.finishRead [0x0f, 0], .finishRead [0x0e, 0], .listen true true,
    .listen true true, .enter 1, .enter 0]

/-- The listener is called with the second event first. -/
theorem not_inOrder_overtaking_events :
    ∃ calls final,
      receiverMachine.run start overtakingEvents = some (calls, final) ∧
        ¬ final.InOrder := by
  obtain ⟨calls, final, same, called, produced⟩ :
      ∃ calls final,
        receiverMachine.run start overtakingEvents = some (calls, final) ∧
          callsOf .event final.calls = [[4, 0x0e, 0], [4, 0x0f, 0]] ∧
          final.events = [[0x0f, 0], [0x0e, 0]] := by
    decide +kernel
  refine ⟨calls, final, same, fun inOrder => ?_⟩
  have ordered := inOrder.ordered .event
  change _ <+: announced .event final.events at ordered
  rw [called, produced] at ordered
  exact absurd ordered (by decide)

end Receiver
end Runtime
end BthEmul
