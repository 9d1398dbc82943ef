import BthEmul.Foundation.Loss
import BthEmul.Hci.CommandQueue
import BthEmul.Runtime.SendCommand

/-!
# The objects of the runtime and what they hold

`CBTHW` holds the handle of the driver device. `CHci` holds an event, the
handle of its listener thread and the events that the listener waits on,
`CHciLocal` an event for each queued command, `CBthEmulHci` an event and what
belongs to its reader thread. Memory, events, threads and files are resources
of one ledger, critical sections are not; a handle that could not be created is
null, and closing null does nothing. Memory is never short.

The listener never closes its events. The reader closes its event when it ends
by itself; a thread that is terminated does not. An event that `CBTHW` makes
for one request is closed only where the request is pending first and succeeds
then.
-/

namespace BthEmul

open Foundation Routine Hci

namespace Runtime
namespace Lifetime

/-! ## The hardware -/

/-- A driver device that is open. -/
structure DriverHandle where
  /-- The number in the name of the device. -/
  device : Nat
  /-- The handle. -/
  handle : Nat
  deriving DecidableEq

/-- `CBTHW`. -/
structure HwObject where
  /-- The memory of the object. -/
  object : Nat
  /-- `m_hDriver`, if it is not `INVALID_HANDLE_VALUE`. -/
  hDriver : Option DriverHandle
  deriving DecidableEq

/-- The loop of `AttachHardware`: the first device that `CreateFile` opens. It
does not open one that is open. -/
def attachHardware (busy : List Nat) (present : Nat → Bool) : Option Nat :=
  (List.range maxDevices).find? fun device =>
    present device && decide (device ∉ busy)

namespace HwObject

/-- What the object holds. -/
def resources (hw : HwObject) : List Nat :=
  hw.object :: (hw.hDriver.map DriverHandle.handle).toList

/-- The driver devices that the object has open. -/
def devices (hw : HwObject) : List Nat :=
  (hw.hDriver.map DriverHandle.device).toList

/-- `CBTHW::Detach`. -/
def detach (hw : HwObject) : Routine HwObject := do
  touch hw.object
  freeAll (hw.hDriver.map DriverHandle.handle).toList
  return { hw with hDriver := none }

/-- `CBTHW::SendCommand` and `CBTHW::SendData` without an `OVERLAPPED` of the
caller; `event` says whether there is an event for the request. -/
def send
    (hw : HwObject)
    (driver : Driver)
    (event : Bool)
    (request : DriverRequest) : Routine SendResult := do
  touch hw.object
  match hw.hDriver with
  | none => return .refused errorInvalidHandle
  | some hDriver =>
      let hEvent ← acquire event
      touchAll (hDriver.handle :: hEvent.toList)
      let report := driver.submit request
      if report.succeeds then
        return { dwResult := errorSuccess, submitted := [request] }
      else if report.lastError ≠ errorIoPending then
        return { dwResult := report.lastError, submitted := [request] }
      else
        let result := driver.getOverlappedResult request
        if result.succeeds then
          freeAll hEvent.toList
          return { dwResult := errorSuccess, submitted := [request] }
        else
          return { dwResult := result.lastError, submitted := [request] }

/-- `delete` of the object. The destructor does not detach. -/
def delete (hw : HwObject) : Routine Unit :=
  free hw.object

end HwObject

/-! ## Talking to the hardware -/

/-- `CHci`. -/
structure HciObject where
  /-- The memory of the object. -/
  object : Nat
  /-- `m_btHw`, the memory of the hardware. -/
  btHw : Nat
  /-- `m_hStopListeningEvent`. -/
  hStopListeningEvent : Option Nat
  /-- `m_hListenerThread`. -/
  hListenerThread : Option Nat
  /-- The events of `m_Overlappeds`. -/
  overlappeds : List Nat
  deriving DecidableEq

/-- What `CHci::StartEventListener` is answered. -/
structure ListenerAnswers where
  /-- There is an event that says that the listener is ready. -/
  readyEvent : Bool
  /-- `CreateThread`. -/
  thread : Bool
  /-- The events that the listener creates. -/
  overlappeds : Vector Bool overlappedListens

namespace HciObject

/-- What the object holds. -/
def resources (hci : HciObject) : List Nat :=
  hci.object :: (hci.hStopListeningEvent.toList ++
    hci.hListenerThread.toList ++ hci.overlappeds)

/-- `CHci::CHci`. -/
def construct (btHw : Nat) (event : Bool) (object : Nat) : Routine HciObject := do
  let hStopListeningEvent ← acquire event
  return {
    object
    btHw
    hStopListeningEvent
    hListenerThread := none
    overlappeds := [] }

/-- The beginning of `Listener`: it sends the hardware a request for every event
that it could create. -/
def beginListener
    (hci : HciObject)
    (bthHw : HwObject)
    (overlappeds : List Bool) : Routine (List Nat) := do
  touchAll (hci.object :: hci.hStopListeningEvent.toList)
  let overlappeds ← acquireAll overlappeds
  touchAll (bthHw.resources ++ overlappeds)
  return overlappeds

/-- `CHci::StartEventListener`, with the beginning of `Listener`. -/
def startEventListener
    (hci : HciObject)
    (bthHw : HwObject)
    (answers : ListenerAnswers) : Routine (Bool × HciObject) := do
  touch hci.object
  if hci.hListenerThread.isSome then return (false, hci)
  else
    let hListenerReadyEvent ← acquire answers.readyEvent
    match ← acquire answers.thread with
    | none =>
        freeAll hListenerReadyEvent.toList
        return (false, hci)
    | some hListenerThread =>
        let overlappeds ←
          hci.beginListener bthHw answers.overlappeds.toList
        touchAll hListenerReadyEvent.toList
        freeAll hListenerReadyEvent.toList
        return (true, {
          hci with
          hListenerThread := some hListenerThread
          overlappeds })

/-- `CHci::StopEventListener`. It waits for the listener, which does not close
its events. -/
def stopEventListener (hci : HciObject) : Routine HciObject := do
  touchAll (hci.object :: (hci.hStopListeningEvent.toList ++
    hci.hListenerThread.toList))
  freeAll hci.hListenerThread.toList
  return { hci with hListenerThread := none }

/-- `CHci::~CHci`, and the memory of the object. -/
def destroy (hci : HciObject) : Routine Unit := do
  let hci ← hci.stopEventListener
  freeAll hci.hStopListeningEvent.toList
  free hci.object

end HciObject

/-- `CHciLocal`. -/
structure HciLocalObject extends HciObject where
  /-- The events of `m_QueuedCommands`. -/
  commandEvents : List Nat
  deriving DecidableEq

/-- Which events there are when a `CHciLocal` is made. -/
structure LocalAnswers where
  /-- `m_hStopListeningEvent`. -/
  stopListening : Bool
  /-- The events of `m_QueuedCommands`. -/
  commandEvents : Vector Bool maxQueuedCommands

namespace HciLocalObject

/-- What the object holds. -/
def resources (hci : HciLocalObject) : List Nat :=
  hci.commandEvents ++ hci.toHciObject.resources

/-- `CHciLocal::CHciLocal`. -/
def construct
    (btHw : Nat)
    (answers : LocalAnswers)
    (object : Nat) : Routine HciLocalObject := do
  let hci ← HciObject.construct btHw answers.stopListening object
  let commandEvents ← acquireAll answers.commandEvents.toList
  return { toHciObject := hci, commandEvents }

/-- `CHci::StartEventListener` of a `CHciLocal`. -/
def startEventListener
    (hci : HciLocalObject)
    (bthHw : HwObject)
    (answers : ListenerAnswers) : Routine HciLocalObject := do
  let result ← hci.toHciObject.startEventListener bthHw answers
  return { hci with toHciObject := result.2 }

/-- `CHci::StopEventListener` of a `CHciLocal`. -/
def stopEventListener (hci : HciLocalObject) : Routine HciLocalObject := do
  let parent ← hci.toHciObject.stopEventListener
  return { hci with toHciObject := parent }

/-- `CHciLocal::~CHciLocal`, and the memory of the object. -/
def destroy (hci : HciLocalObject) : Routine Unit := do
  freeAll hci.commandEvents
  hci.toHciObject.destroy

end HciLocalObject

/-- The reader thread of a `CBthEmulHci`. -/
structure ReaderThread where
  /-- `m_hReaderThread`. -/
  handle : Nat
  /-- `overlapped.hEvent` of `DataReader`. -/
  overlapped : Option Nat
  deriving DecidableEq

/-- What belongs to the thread. -/
def ReaderThread.resources (reader : ReaderThread) : List Nat :=
  reader.handle :: reader.overlapped.toList

/-- `CBthEmulHci`. -/
structure EmulHciObject extends HciObject where
  /-- `m_hStopReadingEvent`. -/
  hStopReadingEvent : Option Nat
  /-- The reader, if `m_hReaderThread` is not null. -/
  reader : Option ReaderThread
  deriving DecidableEq

/-- Which events there are when a `CBthEmulHci` is made. -/
structure EmulAnswers where
  /-- `m_hStopListeningEvent`. -/
  stopListening : Bool
  /-- `m_hStopReadingEvent`. -/
  stopReading : Bool

/-- What `CBthEmulHci::StartEventListener` is answered. -/
structure StartAnswers where
  /-- What `CHci::StartEventListener` is answered. -/
  listener : ListenerAnswers
  /-- There is an event that says that the reader is ready. -/
  readyEvent : Bool
  /-- `CreateThread`. -/
  thread : Bool
  /-- There is an event for the requests of the reader. -/
  overlapped : Bool

namespace EmulHciObject

/-- What belongs to the reader. -/
def readerResources (hci : EmulHciObject) : List Nat :=
  hci.reader.elim [] ReaderThread.resources

/-- What the object holds. -/
def resources (hci : EmulHciObject) : List Nat :=
  hci.hStopReadingEvent.toList ++ hci.readerResources ++
    hci.toHciObject.resources

/-- `CBthEmulHci::CBthEmulHci`. -/
def construct
    (btHw : Nat)
    (answers : EmulAnswers)
    (object : Nat) : Routine EmulHciObject := do
  let hci ← HciObject.construct btHw answers.stopListening object
  let hStopReadingEvent ← acquire answers.stopReading
  return { toHciObject := hci, hStopReadingEvent, reader := none }

/-- The beginning of `DataReader`: it asks the hardware for data. -/
def beginDataReader
    (hci : EmulHciObject)
    (bthHw : HwObject)
    (overlapped : Bool) : Routine (Option Nat) := do
  touchAll (hci.object :: hci.hStopReadingEvent.toList)
  let overlapped ← acquire overlapped
  touchAll (bthHw.resources ++ overlapped.toList)
  return overlapped

/-- What `CBthEmulHci::StartEventListener` does behind
`CHci::StartEventListener`, with the beginning of `DataReader`. -/
def startReader
    (hci : EmulHciObject)
    (bthHw : HwObject)
    (answers : StartAnswers) : Routine (Bool × EmulHciObject) := do
  if hci.reader.isSome then return (false, hci)
  else
    let hReaderReadyEvent ← acquire answers.readyEvent
    match ← acquire answers.thread with
    | none =>
        freeAll hReaderReadyEvent.toList
        return (false, hci)
    | some handle =>
        touchAll hReaderReadyEvent.toList
        let overlapped ← hci.beginDataReader bthHw answers.overlapped
        freeAll hReaderReadyEvent.toList
        return (true, { hci with reader := some { handle, overlapped } })

/-- `CBthEmulHci::StartEventListener`. -/
def startEventListener
    (hci : EmulHciObject)
    (bthHw : HwObject)
    (answers : StartAnswers) : Routine (Bool × EmulHciObject) := do
  let (started, parent) ←
    hci.toHciObject.startEventListener bthHw answers.listener
  let hci := { hci with toHciObject := parent }
  if started then hci.startReader bthHw answers
  else return (false, hci)

/-- `CBthEmulHci::StopEventListener`. The reader is terminated where it does
not end in time. -/
def stopEventListener
    (hci : EmulHciObject)
    (inTime : Bool) : Routine EmulHciObject := do
  let parent ← hci.toHciObject.stopEventListener
  touchAll (hci.hStopReadingEvent.toList)
  match hci.reader with
  | none => return { hci with toHciObject := parent }
  | some reader =>
      touch reader.handle
      -- The thread closes its event when it ends by itself.
      freeAll (if inTime then reader.overlapped.toList else [])
      free reader.handle
      return { hci with toHciObject := parent, reader := none }

/-- `CBthEmulHci::~CBthEmulHci`, and the memory of the object. -/
def destroy (hci : EmulHciObject) : Routine Unit := do
  freeAll hci.hStopReadingEvent.toList
  hci.toHciObject.destroy

/-- `CBthEmulHci::SendHCICommand`; a missing buffer is a null pointer. -/
def sendHCICommand
    (hci : EmulHciObject)
    (hw : HwObject)
    (driver : Driver)
    (event : Bool)
    (lpBuffer : Option CArray) : Routine SendResult := do
  touch hci.object
  match lpBuffer.map CArray.bytes with
  | some (hciType :: rest) =>
      if hciType = syncHciCommandPacket then
        hw.send driver event (.deviceIoControl ioctlFreebtHciSendCmd rest)
      else if hciType = syncAclDataPacket then
        hw.send driver event (.writeFile rest)
      else if hciType = syncScoDataPacket then
        return .refused errorCallNotImplemented
      else if hciType = syncHciEventPacket then
        return .refused errorInvalidParameter
      else return .refused errorSuccess
  | _ => return .refused errorInsufficientBuffer

end EmulHciObject

/-! ## What the hardware does -/

/-- The event for a request is closed: the request is pending first, and
succeeds then. -/
def Closes (driver : Driver) (request : DriverRequest) : Prop :=
  (driver.submit request).succeeds = false ∧
    (driver.submit request).lastError = errorIoPending ∧
    (driver.getOverlappedResult request).succeeds = true

instance (driver : Driver) (request : DriverRequest) :
    Decidable (Closes driver request) :=
  inferInstanceAs (Decidable (_ ∧ _ ∧ _))

/-- How many events a request loses. -/
def HwObject.sendLoses
    (hw : HwObject)
    (driver : Driver)
    (event : Bool)
    (request : DriverRequest) : Nat :=
  if hw.hDriver.isSome ∧ event = true ∧ ¬ Closes driver request then 1 else 0

theorem HwObject.mem_resources_of_hDriver
    {hw : HwObject}
    (opened : hw.hDriver = some opening) : opening.handle ∈ hw.resources := by
  rw [HwObject.resources, opened]
  exact List.mem_cons_of_mem _ (List.mem_singleton_self _)

/-- Where the event is not closed, it is lost. -/
theorem HwObject.length_toList_of_not_closes
    {hw : HwObject}
    {driver : Driver}
    {event : Bool}
    {request : DriverRequest}
    {hEvent : Option Nat}
    (opened : hw.hDriver.isSome = true)
    (given : hEvent.isSome = event)
    (keeps : ¬ Closes driver request) :
    hEvent.toList.length = hw.sendLoses driver event request := by
  subst given
  cases hEvent with
  | none => simp [HwObject.sendLoses]
  | some event => simp [HwObject.sendLoses, opened, keeps]

/-- A request is answered as it is by hardware that is attached, and loses its
event where it does not close it. -/
theorem HwObject.spends_send
    {hw : HwObject}
    (driver : Driver)
    (event : Bool)
    (request : DriverRequest)
    (belongs : ∀ resource ∈ hw.resources, resource ∈ held) :
    Spends held (hw.send driver event request) fun result own loses =>
      own = held ∧ loses = hw.sendLoses driver event request ∧
        ∀ bthHw : Runtime.BtHw, bthHw.attached = hw.hDriver.isSome →
          result = bthHw.send driver request := by
  rw [HwObject.send]
  refine Spends.bind_of_keeps
    (owns_touch (belongs _ List.mem_cons_self)) ?_
  rintro _ _ rfl
  cases opened : hw.hDriver with
  | none =>
      refine (owns_pure ⟨rfl, ?_, ?_⟩).spends
      · simp [HwObject.sendLoses, opened]
      · intro bthHw detached
        exact (BtHw.send_of_detached driver request detached).symm
  | some hDriver =>
      have attached : hw.hDriver.isSome = true := by rw [opened]; rfl
      refine Spends.bind_of_keeps (owns_acquire _ event) ?_
      rintro hEvent _ ⟨given, rfl⟩
      refine Spends.bind_of_keeps (owns_touchAll ?_) ?_
      · intro resource member
        rcases List.mem_cons.mp member with rfl | member
        · exact List.mem_append_right _
            (belongs _ (HwObject.mem_resources_of_hDriver opened))
        · exact List.mem_append_left _ member
      rintro _ _ rfl
      have loses : ¬ Closes driver request →
          hEvent.toList.length = hw.sendLoses driver event request :=
        HwObject.length_toList_of_not_closes attached given
      by_cases submitted : (driver.submit request).succeeds = true
      · rw [if_pos submitted]
        refine spends_pure List.perm_append_comm ⟨rfl, loses ?_, ?_⟩
        · simp [Closes, submitted]
        · intro bthHw same
          simp [BtHw.send, same, submitted]
      · rw [if_neg submitted]
        rw [Bool.not_eq_true] at submitted
        by_cases pending : (driver.submit request).lastError = errorIoPending
        · rw [if_neg (not_not_intro pending)]
          by_cases ended :
              (driver.getOverlappedResult request).succeeds = true
          · rw [if_pos ended]
            refine Spends.bind (spends_freeAll (List.Perm.refl _)) ?_
            rintro _ _ _ ⟨rfl, rfl⟩
            refine (owns_pure ⟨rfl, ?_, ?_⟩).spends
            · have closes : Closes driver request :=
                ⟨submitted, pending, ended⟩
              simp [HwObject.sendLoses, closes]
            · intro bthHw same
              simp [BtHw.send, same, submitted, pending, ended]
          · rw [if_neg ended]
            refine spends_pure List.perm_append_comm ⟨rfl, loses ?_, ?_⟩
            · simp [Closes, ended]
            · intro bthHw same
              simp [BtHw.send, same, submitted, pending, ended]
        · rw [if_pos pending]
          refine spends_pure List.perm_append_comm ⟨rfl, loses ?_, ?_⟩
          · simp [Closes, pending]
          · intro bthHw same
            simp [BtHw.send, same, submitted, pending]

/-- Detaching gives the handle back. -/
theorem HwObject.spends_detach (hw : HwObject) (others : List Nat) :
    Spends (hw.resources ++ others) hw.detach fun next own loses =>
      next = { hw with hDriver := none } ∧
        own = next.resources ++ others ∧ loses = 0 := by
  rw [HwObject.detach]
  refine Spends.bind_of_keeps (owns_touch List.mem_cons_self) ?_
  rintro _ _ rfl
  have perm : (hw.resources ++ others).Perm
      ((hw.hDriver.map DriverHandle.handle).toList ++
        (hw.object :: others)) :=
    List.perm_middle.symm
  refine Spends.bind (spends_freeAll perm) ?_
  rintro _ _ _ ⟨rfl, rfl⟩
  exact (owns_pure ⟨rfl, rfl, rfl⟩).spends

/-! ## What an object that talks to the hardware does -/

/-- The listener starts. -/
def HciObject.Starts (hci : HciObject) (answers : ListenerAnswers) : Prop :=
  hci.hListenerThread = none ∧ answers.thread = true

/-- The listener holds the events that it has created. -/
theorem HciObject.owns_beginListener
    {hci : HciObject}
    {bthHw : HwObject}
    (overlappeds : List Bool)
    (own : ∀ resource ∈ hci.resources, resource ∈ held)
    (hardware : ∀ resource ∈ bthHw.resources, resource ∈ held) :
    Owns held (hci.beginListener bthHw overlappeds) fun created kept =>
      kept.Perm (created ++ held) := by
  rw [HciObject.beginListener]
  refine Owns.bind (owns_touchAll ?_) ?_
  · intro resource member
    apply own
    rcases List.mem_cons.mp member with rfl | stops
    · exact List.mem_cons_self
    · apply List.mem_cons_of_mem
      exact List.mem_append_left _ (List.mem_append_left _ stops)
  rintro _ _ rfl
  refine Owns.bind (owns_acquireAll _ _) ?_
  rintro created kept perm
  refine Owns.bind (owns_touchAll ?_) ?_
  · intro resource member
    apply perm.mem_iff.mpr
    rcases List.mem_append.mp member with uses | new
    · exact List.mem_append_right _ (hardware resource uses)
    · exact List.mem_append_left _ new
  rintro _ _ rfl
  exact owns_pure perm

/-- What `CHci::StartEventListener` leaves. -/
structure HciObject.Started
    (hci : HciObject)
    (answers : ListenerAnswers)
    (result : Bool × HciObject) : Prop where
  object : result.2.object = hci.object
  btHw : result.2.btHw = hci.btHw
  starts : result.1 = true ↔ hci.Starts answers
  fails : result.1 = false → result.2 = hci

theorem HciObject.spends_startEventListener
    (hci : HciObject)
    (bthHw : HwObject)
    (answers : ListenerAnswers)
    (belongs : ∀ resource ∈ bthHw.resources, resource ∈ others) :
    Spends (hci.resources ++ others) (hci.startEventListener bthHw answers)
      fun result own loses =>
        hci.Started answers result ∧ own = result.2.resources ++ others ∧
          loses = if result.1 then hci.overlappeds.length else 0 := by
  rw [HciObject.startEventListener]
  refine Spends.bind_of_keeps (owns_touch List.mem_cons_self) ?_
  rintro _ _ rfl
  cases running : hci.hListenerThread with
  | some thread =>
      refine (owns_pure ⟨⟨rfl, rfl, ?_, fun _ => rfl⟩, rfl, rfl⟩).spends
      simp [HciObject.Starts, running]
  | none =>
      refine Spends.bind_of_keeps (owns_acquire _ answers.readyEvent) ?_
      rintro ready _ ⟨-, rfl⟩
      refine Spends.bind_of_keeps (owns_acquire _ answers.thread) ?_
      rintro thread _ ⟨given, rfl⟩
      cases thread with
      | none =>
          have perm : (ready.toList ++ (hci.resources ++ others)).Perm
              (ready.toList ++ (hci.resources ++ others)) := List.Perm.refl _
          refine Spends.bind (spends_freeAll perm) ?_
          rintro _ _ _ ⟨rfl, rfl⟩
          refine (owns_pure ⟨⟨rfl, rfl, ?_, fun _ => rfl⟩, rfl, rfl⟩).spends
          simp [HciObject.Starts, ← given]
      | some thread =>
          refine Spends.bind_of_keeps (hci.owns_beginListener _ ?_ ?_) ?_
          · intro resource own
            apply List.mem_append_right
            apply List.mem_append_right
            exact List.mem_append_left _ own
          · intro resource hardware
            apply List.mem_append_right
            apply List.mem_append_right
            exact List.mem_append_right _ (belongs resource hardware)
          rintro overlappeds kept perm
          refine Spends.bind_of_keeps (owns_touchAll ?_) ?_
          · intro resource member
            apply perm.mem_iff.mpr
            apply List.mem_append_right
            apply List.mem_append_right
            exact List.mem_append_left _ member
          rintro _ own rfl
          have order : own.Perm (ready.toList ++
              (overlappeds ++ thread :: (hci.resources ++ others))) :=
            perm.trans (List.perm_iff_count.mpr fun each => by
              simp only [List.count_append, List.count_cons, Option.toList,
                List.count_nil]
              omega)
          refine Spends.bind (spends_freeAll order) ?_
          rintro _ _ _ ⟨rfl, rfl⟩
          have split : (overlappeds ++ thread :: (hci.resources ++ others)).Perm
              (({ hci with
                hListenerThread := some thread
                overlappeds := overlappeds } : HciObject).resources ++
                  others ++ hci.overlappeds) := by
            refine List.perm_iff_count.mpr fun each => ?_
            simp only [HciObject.resources, running, List.count_append,
              List.count_cons, Option.toList, List.count_nil]
            omega
          refine spends_pure split ⟨⟨rfl, rfl, ?_, nofun⟩, rfl, ?_⟩
          · simp [HciObject.Starts, ← given, running]
          · exact Nat.zero_add _

theorem HciObject.spends_stopEventListener
    (hci : HciObject)
    (others : List Nat) :
    Spends (hci.resources ++ others) hci.stopEventListener
      fun next own loses =>
        next = { hci with hListenerThread := none } ∧
          own = next.resources ++ others ∧ loses = 0 := by
  rw [HciObject.stopEventListener]
  refine Spends.bind_of_keeps (owns_touchAll ?_) ?_
  · intro resource member
    apply List.mem_append_left
    rcases List.mem_cons.mp member with rfl | member
    · exact List.mem_cons_self
    · exact List.mem_cons_of_mem _ (List.mem_append_left _ member)
  rintro _ _ rfl
  have perm : (hci.resources ++ others).Perm (hci.hListenerThread.toList ++
      (({ hci with hListenerThread := none } : HciObject).resources ++
        others)) := by
    refine List.perm_iff_count.mpr fun each => ?_
    simp only [HciObject.resources, List.count_append, List.count_cons,
      Option.toList_none, List.count_nil]
    omega
  refine Spends.bind (spends_freeAll perm) ?_
  rintro _ _ _ ⟨rfl, rfl⟩
  exact (owns_pure ⟨rfl, rfl, rfl⟩).spends

/-- With the object, the events of the listener are lost. -/
theorem HciObject.spends_destroy (hci : HciObject) (others : List Nat) :
    Spends (hci.resources ++ others) hci.destroy fun _ own loses =>
      own = others ∧ loses = hci.overlappeds.length := by
  rw [HciObject.destroy]
  refine (hci.spends_stopEventListener others).bind ?_
  rintro _ _ _ ⟨rfl, rfl, rfl⟩
  have perm :
      (({ hci with hListenerThread := none } : HciObject).resources ++
          others).Perm
        (hci.hStopListeningEvent.toList ++
          (hci.object :: (hci.overlappeds ++ others))) := by
    refine List.perm_iff_count.mpr fun each => ?_
    simp only [HciObject.resources, List.count_append, List.count_cons,
      Option.toList_none, List.count_nil]
    omega
  refine Spends.bind (spends_freeAll perm) ?_
  rintro _ _ _ ⟨rfl, rfl⟩
  refine Owns.mono (owns_free (List.Perm.refl _)) ?_
  rintro _ _ rfl
  exact ⟨others, hci.overlappeds, ⟨rfl, by omega⟩, List.perm_append_comm⟩

/-- What `CHci::CHci` leaves. -/
structure HciObject.Constructed
    (btHw object : Nat)
    (hci : HciObject) : Prop where
  object : hci.object = object
  btHw : hci.btHw = btHw
  hListenerThread : hci.hListenerThread = none
  overlappeds : hci.overlappeds = []

theorem HciObject.spends_construct
    (btHw : Nat)
    (event : Bool)
    (object : Nat)
    (others : List Nat) :
    Spends (object :: others) (HciObject.construct btHw event object)
      fun hci own loses =>
        HciObject.Constructed btHw object hci ∧
          own = hci.resources ++ others ∧ loses = 0 := by
  rw [HciObject.construct]
  refine Spends.bind_of_keeps (owns_acquire _ event) ?_
  rintro hStopListeningEvent _ ⟨-, rfl⟩
  have perm : (hStopListeningEvent.toList ++ object :: others).Perm
      (object :: (hStopListeningEvent.toList ++ [] ++ []) ++ others ++ []) := by
    refine List.perm_iff_count.mpr fun each => ?_
    simp only [List.count_append, List.count_cons, List.count_nil]
    omega
  exact spends_pure perm ⟨⟨rfl, rfl, rfl, rfl⟩, rfl, rfl⟩

/-! ## What a `CHciLocal` does -/

theorem HciLocalObject.spends_construct
    (btHw : Nat)
    (answers : LocalAnswers)
    (object : Nat)
    (others : List Nat) :
    Spends (object :: others)
      (HciLocalObject.construct btHw answers object) fun hci own loses =>
        HciObject.Constructed btHw object hci.toHciObject ∧
          own = hci.resources ++ others ∧ loses = 0 := by
  rw [HciLocalObject.construct]
  refine (HciObject.spends_construct _ _ _ _).bind ?_
  rintro hci _ _ ⟨constructed, rfl, rfl⟩
  refine Spends.bind_of_keeps (owns_acquireAll _ _) ?_
  intro commandEvents kept perm
  rw [← List.append_assoc, ← List.append_nil (_ ++ others)] at perm
  exact spends_pure perm ⟨constructed, rfl, rfl⟩

theorem HciLocalObject.spends_startEventListener
    (hci : HciLocalObject)
    (bthHw : HwObject)
    (answers : ListenerAnswers)
    (belongs : ∀ resource ∈ bthHw.resources, resource ∈ others)
    (fresh : hci.overlappeds = []) :
    Spends (hci.resources ++ others) (hci.startEventListener bthHw answers)
      fun next own loses =>
        next.object = hci.object ∧ next.btHw = hci.btHw ∧
          own = next.resources ++ others ∧ loses = 0 := by
  rw [HciLocalObject.startEventListener, HciLocalObject.resources,
    List.append_assoc]
  have perm : (hci.commandEvents ++ (hci.toHciObject.resources ++ others)).Perm
      (hci.toHciObject.resources ++ (hci.commandEvents ++ others)) :=
    List.perm_append_comm_assoc _ _ _
  refine ((hci.toHciObject.spends_startEventListener bthHw answers
    fun resource member => List.mem_append_right _
      (belongs resource member)).of_perm perm).bind ?_
  rintro ⟨started, parent⟩ _ _ ⟨listening, rfl, rfl⟩
  refine Spends.of_perm (Owns.spends (owns_pure
    ⟨listening.object, listening.btHw, rfl, ?_⟩)) ?_
  · rw [fresh]
    cases started <;> rfl
  · rw [HciLocalObject.resources, List.append_assoc]
    exact List.perm_append_comm_assoc _ _ _

theorem HciLocalObject.spends_stopEventListener
    (hci : HciLocalObject)
    (others : List Nat) :
    Spends (hci.resources ++ others) hci.stopEventListener
      fun next own loses =>
        next.overlappeds = hci.overlappeds ∧
          own = next.resources ++ others ∧ loses = 0 := by
  rw [HciLocalObject.stopEventListener, HciLocalObject.resources,
    List.append_assoc]
  have perm : (hci.commandEvents ++ (hci.toHciObject.resources ++ others)).Perm
      (hci.toHciObject.resources ++ (hci.commandEvents ++ others)) :=
    List.perm_append_comm_assoc _ _ _
  refine ((hci.toHciObject.spends_stopEventListener _).of_perm perm).bind ?_
  rintro _ _ _ ⟨rfl, rfl, rfl⟩
  refine Spends.of_perm (Owns.spends (owns_pure ⟨rfl, rfl, rfl⟩)) ?_
  rw [HciLocalObject.resources, List.append_assoc]
  exact List.perm_append_comm_assoc _ _ _

/-- With the object, the events of the listener are lost. -/
theorem HciLocalObject.spends_destroy
    (hci : HciLocalObject)
    (others : List Nat) :
    Spends (hci.resources ++ others) hci.destroy fun _ own loses =>
      own = others ∧ loses = hci.overlappeds.length := by
  rw [HciLocalObject.destroy, HciLocalObject.resources, List.append_assoc]
  refine Spends.bind (spends_freeAll (List.Perm.refl _)) ?_
  rintro _ _ _ ⟨rfl, rfl⟩
  refine (hci.toHciObject.spends_destroy others).mono ?_
  rintro _ _ _ ⟨rfl, rfl⟩
  exact ⟨rfl, Nat.zero_add _⟩

/-! ## What a `CBthEmulHci` does -/

theorem EmulHciObject.spends_construct
    (btHw : Nat)
    (answers : EmulAnswers)
    (object : Nat)
    (others : List Nat) :
    Spends (object :: others)
      (EmulHciObject.construct btHw answers object) fun hci own loses =>
        HciObject.Constructed btHw object hci.toHciObject ∧
          hci.reader = none ∧ own = hci.resources ++ others ∧ loses = 0 := by
  rw [EmulHciObject.construct]
  refine (HciObject.spends_construct _ _ _ _).bind ?_
  rintro hci _ _ ⟨constructed, rfl, rfl⟩
  refine Spends.bind_of_keeps (owns_acquire _ _) ?_
  rintro event _ ⟨-, rfl⟩
  have perm : (event.toList ++ (hci.resources ++ others)).Perm
      ((event.toList ++ [] ++ hci.resources) ++ others ++ []) := by
    rw [List.append_nil, List.append_nil, List.append_assoc]
  exact spends_pure perm ⟨constructed, rfl, rfl, rfl⟩

/-- What `CBthEmulHci::StartEventListener` leaves. -/
structure EmulHciObject.Started
    (hci : EmulHciObject)
    (answers : StartAnswers)
    (result : Bool × EmulHciObject) : Prop where
  object : result.2.object = hci.object
  btHw : result.2.btHw = hci.btHw
  starts : result.1 = true ↔
    hci.toHciObject.Starts answers.listener ∧ hci.reader = none ∧
      answers.thread = true

/-- The reader holds the event that it has created. -/
theorem EmulHciObject.owns_beginDataReader
    {hci : EmulHciObject}
    {bthHw : HwObject}
    (overlapped : Bool)
    (own : ∀ resource ∈ hci.resources, resource ∈ held)
    (hardware : ∀ resource ∈ bthHw.resources, resource ∈ held) :
    Owns held (hci.beginDataReader bthHw overlapped) fun created kept =>
      kept = created.toList ++ held := by
  rw [EmulHciObject.beginDataReader]
  refine Owns.bind (owns_touchAll ?_) ?_
  · intro resource member
    apply own
    rcases List.mem_cons.mp member with rfl | stops
    · exact List.mem_append_right _ List.mem_cons_self
    · exact List.mem_append_left _ (List.mem_append_left _ stops)
  rintro _ _ rfl
  refine Owns.bind (owns_acquire _ _) ?_
  rintro created _ ⟨-, rfl⟩
  refine Owns.bind (owns_touchAll ?_) ?_
  · intro resource member
    rcases List.mem_append.mp member with uses | new
    · exact List.mem_append_right _ (hardware resource uses)
    · exact List.mem_append_left _ new
  rintro _ _ rfl
  exact owns_pure rfl

theorem EmulHciObject.spends_startReader
    (hci : EmulHciObject)
    (bthHw : HwObject)
    (answers : StartAnswers)
    (others : List Nat)
    (belongs : ∀ resource ∈ bthHw.resources, resource ∈ others) :
    Spends (hci.resources ++ others) (hci.startReader bthHw answers)
      fun result own loses =>
        result.2.toHciObject = hci.toHciObject ∧
          (result.1 = true ↔ hci.reader = none ∧ answers.thread = true) ∧
          own = result.2.resources ++ others ∧ loses = 0 := by
  rw [EmulHciObject.startReader]
  cases running : hci.reader with
  | some reader =>
      refine (owns_pure ⟨rfl, ?_, rfl, rfl⟩).spends
      simp
  | none =>
      refine Spends.bind_of_keeps (owns_acquire _ answers.readyEvent) ?_
      rintro ready _ ⟨-, rfl⟩
      refine Spends.bind_of_keeps (owns_acquire _ answers.thread) ?_
      rintro thread _ ⟨given, rfl⟩
      cases thread with
      | none =>
          have perm : (ready.toList ++ (hci.resources ++ others)).Perm
              (ready.toList ++ (hci.resources ++ others)) := List.Perm.refl _
          refine Spends.bind (spends_freeAll perm) ?_
          rintro _ _ _ ⟨rfl, rfl⟩
          refine (owns_pure ⟨rfl, ?_, rfl, rfl⟩).spends
          simp [← given]
      | some thread =>
          refine Spends.bind_of_keeps (owns_touchAll ?_) ?_
          · intro resource readies
            apply List.mem_append_right
            exact List.mem_append_left _ readies
          rintro _ _ rfl
          refine Spends.bind_of_keeps (hci.owns_beginDataReader _ ?_ ?_) ?_
          · intro resource own
            apply List.mem_append_right
            apply List.mem_append_right
            exact List.mem_append_left _ own
          · intro resource hardware
            apply List.mem_append_right
            apply List.mem_append_right
            exact List.mem_append_right _ (belongs resource hardware)
          rintro overlapped _ rfl
          have order : (overlapped.toList ++ ((some thread).toList ++
              (ready.toList ++ (hci.resources ++ others)))).Perm
              (ready.toList ++
                (({ hci with
                  reader := some {
                    handle := thread
                    overlapped := overlapped } } : EmulHciObject).resources ++
                  others)) := by
            refine List.perm_iff_count.mpr fun each => ?_
            simp only [EmulHciObject.resources, EmulHciObject.readerResources,
              ReaderThread.resources, running, List.count_append,
              List.count_cons, List.count_nil, Option.toList_some,
              Option.elim_none, Option.elim_some]
            omega
          refine Spends.bind (spends_freeAll order) ?_
          rintro _ _ _ ⟨rfl, rfl⟩
          refine (owns_pure ⟨rfl, ?_, rfl, rfl⟩).spends
          simp [← given]

theorem EmulHciObject.spends_startEventListener
    (hci : EmulHciObject)
    (bthHw : HwObject)
    (answers : StartAnswers)
    (belongs : ∀ resource ∈ bthHw.resources, resource ∈ others)
    (fresh : hci.overlappeds = []) :
    Spends (hci.resources ++ others) (hci.startEventListener bthHw answers)
      fun result own loses =>
        hci.Started answers result ∧ own = result.2.resources ++ others ∧
          loses = 0 := by
  rw [EmulHciObject.startEventListener]
  have perm : (hci.resources ++ others).Perm (hci.toHciObject.resources ++
      (hci.hStopReadingEvent.toList ++ hci.readerResources ++ others)) := by
    rw [EmulHciObject.resources, List.append_assoc, List.append_assoc,
      List.append_assoc]
    refine List.perm_iff_count.mpr fun each => ?_
    simp only [List.count_append]
    omega
  refine ((hci.toHciObject.spends_startEventListener bthHw answers.listener
    fun resource member => List.mem_append_right _
      (belongs resource member)).of_perm perm).bind ?_
  rintro ⟨started, parent⟩ _ _ ⟨listening, rfl, rfl⟩
  have loses : (if started then hci.overlappeds.length else 0) = 0 := by
    rw [fresh]
    cases started <;> rfl
  have order : (parent.resources ++ (hci.hStopReadingEvent.toList ++
      hci.readerResources ++ others)).Perm
      (({ hci with toHciObject := parent } : EmulHciObject).resources ++
        others) := by
    refine List.perm_iff_count.mpr fun each => ?_
    simp only [EmulHciObject.resources, EmulHciObject.readerResources,
      List.count_append]
    omega
  have starts := listening.starts
  cases started with
  | false =>
      refine Spends.of_perm (Owns.spends (owns_pure
        ⟨⟨listening.object, listening.btHw, ?_⟩, rfl, loses⟩)) order
      constructor
      · nofun
      · rintro ⟨begins, -⟩
        exact starts.mpr begins
  | true =>
      refine ((EmulHciObject.spends_startReader _ bthHw answers others
        belongs).of_perm order).mono ?_
      rintro ⟨began, next⟩ _ _ ⟨same, begins, rfl, rfl⟩
      refine ⟨⟨?_, ?_, ?_⟩, rfl, loses⟩
      · exact (congrArg HciObject.object same).trans listening.object
      · exact (congrArg HciObject.btHw same).trans listening.btHw
      · exact begins.trans (iff_and_self.mpr fun _ => starts.mp rfl)

/-- How many events a stop loses. -/
def EmulHciObject.stopLoses (hci : EmulHciObject) (inTime : Bool) : Nat :=
  if inTime then 0
  else (hci.reader.elim [] fun reader => reader.overlapped.toList).length

/-- A reader that is terminated does not close its event. -/
theorem EmulHciObject.spends_stopEventListener
    (hci : EmulHciObject)
    (inTime : Bool)
    (others : List Nat) :
    Spends (hci.resources ++ others) (hci.stopEventListener inTime)
      fun next own loses =>
        next = { hci with
          toHciObject := { hci.toHciObject with hListenerThread := none }
          reader := none } ∧
          own = next.resources ++ others ∧
          loses = hci.stopLoses inTime := by
  rw [EmulHciObject.stopEventListener]
  have perm : (hci.resources ++ others).Perm (hci.toHciObject.resources ++
      (hci.hStopReadingEvent.toList ++ (hci.readerResources ++ others))) := by
    refine List.perm_iff_count.mpr fun each => ?_
    simp only [EmulHciObject.resources, List.count_append]
    omega
  refine ((hci.toHciObject.spends_stopEventListener _).of_perm perm).bind ?_
  rintro _ _ _ ⟨rfl, rfl, rfl⟩
  refine Spends.bind_of_keeps (owns_touchAll ?_) ?_
  · intro resource member
    exact List.mem_append_right _ (List.mem_append_left _ member)
  rintro _ _ rfl
  cases reading : hci.reader with
  | none =>
      refine Spends.of_perm (Owns.spends (owns_pure ⟨rfl, rfl, ?_⟩)) ?_
      · simp [EmulHciObject.stopLoses, reading]
      · refine List.perm_iff_count.mpr fun each => ?_
        simp only [EmulHciObject.resources, EmulHciObject.readerResources,
          reading, List.count_append, Option.elim_none]
        omega
  | some reader =>
      have member : reader.handle ∈ ({ hci.toHciObject with
          hListenerThread := none } : HciObject).resources ++
            (hci.hStopReadingEvent.toList ++
              (hci.readerResources ++ others)) := by
        apply List.mem_append_right
        apply List.mem_append_right
        apply List.mem_append_left
        rw [EmulHciObject.readerResources, reading]
        exact List.mem_cons_self
      refine Spends.bind_of_keeps (owns_touch member) ?_
      rintro _ _ rfl
      let next : EmulHciObject := { hci with
        toHciObject := { hci.toHciObject with hListenerThread := none }
        reader := none }
      let lost := if inTime then [] else reader.overlapped.toList
      have order : (({ hci.toHciObject with
          hListenerThread := none } : HciObject).resources ++
            (hci.hStopReadingEvent.toList ++
              (hci.readerResources ++ others))).Perm
          ((if inTime then reader.overlapped.toList else []) ++
            (reader.handle :: (next.resources ++ others ++ lost))) := by
        refine List.perm_iff_count.mpr fun each => ?_
        simp only [next, lost, EmulHciObject.resources,
          EmulHciObject.readerResources, ReaderThread.resources, reading,
          List.count_append, List.count_cons, Option.elim_some,
          Option.elim_none, List.count_nil]
        cases inTime <;> simp only [Bool.false_eq_true, if_true, if_false,
          List.count_nil] <;> omega
      refine Spends.bind (spends_freeAll order) ?_
      rintro _ _ _ ⟨rfl, rfl⟩
      refine Spends.bind_of_keeps (owns_free (List.Perm.refl _)) ?_
      rintro _ _ rfl
      refine spends_pure (List.Perm.refl _) ⟨rfl, rfl, ?_⟩
      rw [EmulHciObject.stopLoses, reading]
      cases inTime <;> simp [lost]

/-- With the object, the events of the listener and what belongs to the reader
are lost. -/
theorem EmulHciObject.spends_destroy
    (hci : EmulHciObject)
    (others : List Nat) :
    Spends (hci.resources ++ others) hci.destroy fun _ own loses =>
      own = others ∧
        loses = hci.overlappeds.length + hci.readerResources.length := by
  rw [EmulHciObject.destroy]
  have perm : (hci.resources ++ others).Perm (hci.hStopReadingEvent.toList ++
      (hci.toHciObject.resources ++ (hci.readerResources ++ others))) := by
    refine List.perm_iff_count.mpr fun each => ?_
    simp only [EmulHciObject.resources, List.count_append]
    omega
  refine Spends.bind (spends_freeAll perm) ?_
  rintro _ _ _ ⟨rfl, rfl⟩
  refine Owns.mono (hci.toHciObject.spends_destroy _) ?_
  rintro _ kept ⟨_, lost, ⟨rfl, length⟩, split⟩
  refine ⟨others, hci.readerResources ++ lost, ⟨rfl, ?_⟩, ?_⟩
  · rw [List.length_append, length]
    omega
  · refine split.trans (List.perm_iff_count.mpr fun each => ?_)
    simp only [List.count_append]
    omega

/-- How many events a buffer from the device loses. -/
def EmulHciObject.sendLoses
    (hw : HwObject)
    (driver : Driver)
    (event : Bool)
    (lpBuffer : Option CArray) : Nat :=
  match lpBuffer.map CArray.bytes with
  | some (hciType :: rest) =>
      (forwardedAs hciType rest).elim 0 (hw.sendLoses driver event)
  | _ => 0

/-- A buffer is answered as it is by an object whose hardware is attached. -/
theorem EmulHciObject.spends_sendHCICommand
    {hci : EmulHciObject}
    {hw : HwObject}
    (driver : Driver)
    (event : Bool)
    (lpBuffer : Option CArray)
    (object : hci.object ∈ held)
    (belongs : ∀ resource ∈ hw.resources, resource ∈ held) :
    Spends held (hci.sendHCICommand hw driver event lpBuffer)
      fun result own loses =>
        own = held ∧
          loses = EmulHciObject.sendLoses hw driver event lpBuffer ∧
          ∀ bthHci : Runtime.BthEmulHci,
            bthHci.btHw.attached = hw.hDriver.isSome →
              result = bthHci.sendHCICommand driver lpBuffer := by
  rw [EmulHciObject.sendHCICommand]
  refine Spends.bind_of_keeps (owns_touch object) ?_
  rintro _ _ rfl
  simp only [EmulHciObject.sendLoses, Runtime.BthEmulHci.sendHCICommand]
  rcases bytes : lpBuffer.map CArray.bytes with _ | _ | ⟨hciType, rest⟩
  · exact (owns_pure ⟨rfl, rfl, fun _ _ => rfl⟩).spends
  · exact (owns_pure ⟨rfl, rfl, fun _ _ => rfl⟩).spends
  simp only [forwardedAs]
  by_cases command : hciType = syncHciCommandPacket
  · simp only [if_pos command]
    refine (HwObject.spends_send driver event _ belongs).mono ?_
    rintro result _ _ ⟨rfl, rfl, same⟩
    exact ⟨rfl, rfl, fun bthHci attached => same bthHci.btHw attached⟩
  simp only [if_neg command]
  by_cases data : hciType = syncAclDataPacket
  · simp only [if_pos data]
    refine (HwObject.spends_send driver event _ belongs).mono ?_
    rintro result _ _ ⟨rfl, rfl, same⟩
    exact ⟨rfl, rfl, fun bthHci attached => same bthHci.btHw attached⟩
  simp only [if_neg data]
  split
  · exact (owns_pure ⟨rfl, rfl, fun _ _ => rfl⟩).spends
  · split
    · exact (owns_pure ⟨rfl, rfl, fun _ _ => rfl⟩).spends
    · exact (owns_pure ⟨rfl, rfl, fun _ _ => rfl⟩).spends

end Lifetime
end Runtime
end BthEmul
