import BthEmul.Device.ReadStream
import BthEmul.Foundation.Provenance

/-!
# Sessions of the port

The transport opens the port, purges it, reads from it and closes it again.
The driver announces the opening and the closing to the agent. Its cache
belongs to the driver, not to the open port: closing leaves it, and the purge
reaches a control routine that reports success whatever it is asked.

A read that finds no data waits for a message. It goes on waiting when the port
is closed, and may get its message after the port was opened again.
-/

namespace BthEmul

open Foundation

namespace SerialPort

/-- `DEVICE_CONTEXT`. -/
def deviceContext : UInt32 := 0x1450

/-- A packet with a message for the agent. -/
def messagePacket (id : MessageId) : Option Packet := do
  let (_, typed) ← Packet.fresh.writeInt PacketType.message.code.toInt32
  let (_, filled) ← typed.writeInt id.code.toInt32
  some filled

/-- `BTE_Open`: the open context, or zero, and the message written. -/
def bteOpen
    (hDeviceContext : UInt32)
    (writeQueue : Option MessageQueue) : Option (UInt32 × Option Message) :=
  if hDeviceContext = deviceContext then do
    let packet ← messagePacket .comOpenMsg
    match ← writePacket writeQueue packet with
    | some message => some (openContext, some message)
    | none => some (0, none)
  else some (0, none)

/-- `BTE_Close`: whether it succeeds, and the message written. -/
def bteClose
    (hOpenContext : UInt32)
    (writeQueue : Option MessageQueue) : Option (Bool × Option Message) :=
  if hOpenContext = openContext then do
    let packet ← messagePacket .comCloseMsg
    match ← writePacket writeQueue packet with
    | some message => some (true, some message)
    | none => some (false, none)
  else some (false, none)

/-- An IO control code. -/
inductive IoControlCode
  /-- `IOCTL_SERIAL_PURGE`. -/
  | serialPurge
  | other (code : UInt32)
  deriving DecidableEq

/-- `BTE_IOControl`. The code is only logged. -/
def bteIOControl
    (hOpenContext : UInt32)
    (_dwIoControlCode : IoControlCode)
    (cache : Cache) : Bool × Cache :=
  if hOpenContext = openContext then (true, cache) else (false, cache)

/-- `BTE_Read` after it found no data in the cache. -/
def receiveData
    (dwCount : Nat)
    (received : Option Message)
    (cache : Cache) : Option (Except UInt32 (List UInt8) × Cache) := do
  match ← readPacket received with
  | none => some (.error errorTimeout, cache)
  | some packet =>
      let (type, rest) ← packet.readInt
      if type = PacketType.hciData.code.toInt32 then
        let refilled ← refill rest
        if 0 < refilled.dwDataSize then
          let (bytes, served) ← refilled.serve dwCount
          some (.ok bytes, served)
        else
          some (.error errorNoData, refilled)
      else
        some (.error errorBadCommand, cache)

/-- A call that finds no data in the cache takes its data from a message. -/
theorem bteRead_of_noData
    {cache : Cache}
    (noData : cache.dwDataSize = 0)
    (positive : 0 < dwCount)
    (received : Option Message) :
    bteRead openContext true dwCount received cache =
      receiveData dwCount received cache := by
  have empty : ¬ 0 < cache.dwDataSize := by omega
  unfold bteRead
  exact (if_pos rfl).trans ((if_pos ⟨rfl, positive⟩).trans (if_neg empty))

/-- A refilled cache is ordered. -/
theorem ordered_of_refill (refilled : refill packet = some cache) :
    cache.Ordered := by
  simp only [refill, Option.bind_eq_bind, Option.bind_eq_some_iff,
    Option.some.injEq, Prod.exists] at refilled
  obtain ⟨bytes, rest, -, buffer, stored, rfl⟩ := refilled
  have fits := Buffer.fits_of_store stored
  rw [Nat.zero_add] at fits
  exact ⟨Nat.zero_le _, fits⟩

/-- The data in a message that is a data packet. -/
def dataOf (message : Message) : Option (List UInt8) := do
  let packet ← (readPacket (some message)).join
  let (type, rest) ← packet.readInt
  if type = PacketType.hciData.code.toInt32 then
    let cache ← refill rest
    cache.buffer.load cache.dwBufReadPos cache.dwDataSize
  else none

/-- A message is decoded to its data. -/
theorem decodes_iff_dataOf :
    Decodes message payload ↔ dataOf message = some payload := by
  simp only [Decodes, dataOf, Option.bind_eq_bind, Option.bind_eq_some_iff,
    Option.join_eq_some_iff, Prod.exists]
  constructor
  · rintro ⟨packet, rest, cache, reading, typeRead, refilling, loaded⟩
    refine ⟨packet, reading, _, rest, typeRead, ?_⟩
    rw [if_pos rfl]
    exact Option.bind_eq_some_iff.mpr ⟨cache, refilling, loaded⟩
  · rintro ⟨packet, reading, type, rest, typeRead, taken⟩
    split at taken
    · rename_i data
      subst data
      obtain ⟨cache, refilling, loaded⟩ := Option.bind_eq_some_iff.mp taken
      exact ⟨packet, rest, cache, reading, typeRead, refilling, loaded⟩
    · cases taken

/-- What a call takes from a message are the first bytes of its data. The
others stay in the cache. -/
theorem decodes_of_receiveData
    (result : receiveData dwCount received cache = some (.ok bytes, served)) :
    served.Ordered ∧
      ∃ message payload,
        received = some message ∧ Decodes message payload ∧
          bytes = payload.take dwCount ∧
          served.unread = payload.drop dwCount := by
  simp only [receiveData, Option.bind_eq_bind,
    Option.bind_eq_some_iff] at result
  obtain ⟨read, reading, result⟩ := result
  cases read with
  | none => simp at result
  | some packet =>
      cases received with
      | none => simp [readPacket] at reading
      | some message =>
          simp only [Option.bind_eq_some_iff, Prod.exists] at result
          obtain ⟨type, rest, typeRead, result⟩ := result
          split at result
          · rename_i data
            subst data
            simp only [Option.bind_eq_some_iff] at result
            obtain ⟨refilled, refilling, result⟩ := result
            split at result
            · simp only [Option.bind_eq_some_iff, Prod.exists,
                Option.some.injEq, Prod.mk.injEq, Except.ok.injEq] at result
              obtain ⟨bytes, served, serving, rfl, rfl⟩ := result
              have ordered := ordered_of_refill refilling
              obtain ⟨served', serving', servedOrdered, behind⟩ :=
                ordered.exists_serve dwCount
              rw [serving] at serving'
              cases serving'
              exact ⟨servedOrdered, message, refilled.unread, rfl,
                ⟨packet, rest, refilled, reading, typeRead, refilling,
                  ordered.load_unread⟩, rfl, behind⟩
            · simp at result
          · simp at result

/-- A call that gets a message with data takes the first of them. -/
theorem exists_receiveData
    (taken : dataOf message = some payload)
    (nonempty : payload ≠ [])
    (dwCount : Nat)
    (cache : Cache) :
    ∃ served,
      receiveData dwCount (some message) cache =
          some (.ok (payload.take dwCount), served) ∧
        served.Ordered ∧ served.unread = payload.drop dwCount := by
  obtain ⟨packet, rest, refilled, reading, typeRead, refilling, loaded⟩ :=
    decodes_iff_dataOf.mpr taken
  have ordered := ordered_of_refill refilling
  have positive : 0 < refilled.dwDataSize := by
    rw [← Buffer.length_of_load loaded]
    exact List.length_pos_of_ne_nil nonempty
  rw [ordered.load_unread, Option.some.injEq] at loaded
  obtain ⟨served, serving, servedOrdered, behind⟩ :=
    ordered.exists_serve dwCount
  rw [loaded] at serving behind
  refine ⟨served, ?_, servedOrdered, behind⟩
  simp only [receiveData, reading, typeRead, refilling, if_pos positive,
    serving, if_true, Option.bind_eq_bind, Option.bind_some]

/-- A call that fails leaves the cache, or an ordered one without data. -/
theorem ordered_of_receiveData_error
    {cache : Cache}
    (ordered : cache.Ordered)
    (result : receiveData dwCount received cache =
      some (.error error, after)) :
    after = cache ∨ (after.Ordered ∧ after.dwDataSize = 0) := by
  simp only [receiveData, Option.bind_eq_bind,
    Option.bind_eq_some_iff] at result
  obtain ⟨read, reading, result⟩ := result
  cases read with
  | none =>
      cases result
      exact Or.inl rfl
  | some packet =>
      simp only [Option.bind_eq_some_iff, Prod.exists] at result
      obtain ⟨type, rest, typeRead, result⟩ := result
      split at result
      · simp only [Option.bind_eq_some_iff] at result
        obtain ⟨refilled, refilling, result⟩ := result
        split at result
        · obtain ⟨served, serving, result⟩ :=
            Option.bind_eq_some_iff.mp result
          cases result
        · rename_i noData
          cases result
          exact Or.inr ⟨ordered_of_refill refilling, by omega⟩
      · cases result
        exact Or.inl rfl

/-- A call of `BTE_Read` that waits for a message. -/
structure WaitingCall where
  /-- The number of bytes asked for. -/
  dwCount : Nat
  /-- The opening after which the call was made. -/
  opening : Nat
  deriving DecidableEq

/-- The transport and the driver. The last three fields are the history: how
often the port was opened, which opening the message in the cache was taken
after, and whether calls made since the last opening were given bytes. -/
structure Session where
  /-- `g_hFile`, with the context behind it. -/
  hFile : Option UInt32
  /-- The cache. -/
  cache : Cache
  /-- The calls that wait for a message. -/
  waiting : List WaitingCall
  /-- The openings of the port. -/
  opened : Nat
  /-- The opening after which the message in the cache was taken. -/
  filled : Nat
  /-- Calls made since the last opening were given bytes. -/
  begun : Bool

namespace Session

/-- The port was never opened. -/
def start : Session where
  hFile := none
  cache := Cache.empty
  waiting := []
  opened := 0
  filled := 0
  begun := false

/-- What the transport sees of a step. -/
inductive Outcome
  | connection (succeeds : Bool)
  | closed
  | read (outcome : ReadOutcome)

/-- `HCI_OpenConnection`. -/
def hciOpenConnection
    (session : Session)
    (writeQueue : Option MessageQueue) : Option (Outcome × Session) :=
  match session.hFile with
  | some _ => some (.connection false, session)
  | none => do
      let (context, _) ← bteOpen deviceContext writeQueue
      if context = 0 then some (.connection false, session)
      else
        let (purged, cache) :=
          bteIOControl context .serialPurge session.cache
        if purged then
          some (.connection true, {
            session with
            hFile := some context
            cache := cache
            opened := session.opened + 1
            begun := false })
        else some (.connection false, { session with cache := cache })

/-- `HCI_CloseConnection`. What `BTE_Close` returns is dropped. -/
def hciCloseConnection
    (session : Session)
    (writeQueue : Option MessageQueue) : Option (Outcome × Session) :=
  match session.hFile with
  | none => some (.closed, session)
  | some context => do
      let (_, _) ← bteClose context writeQueue
      some (.closed, { session with hFile := none })

/-- A call of `BTE_Read` through the open port. It waits when there is no data
in the cache. -/
def startRead
    (session : Session)
    (dwCount : Nat) : Option (Outcome × Session) := do
  let context ← session.hFile
  if 0 < dwCount ∧ session.cache.dwDataSize = 0 then
    some (.read .waiting, {
      session with
      waiting := session.waiting ++ [{ dwCount, opening := session.opened }] })
  else
    let (result, cache) ←
      bteRead context true dwCount none session.cache
    some (.read (.ofResult result), {
      session with
      cache := cache
      begun := session.begun || result.toBool })

/-- `ReadMsgQueue` returns to a waiting call, with a message unless it fails. -/
def receive
    (session : Session)
    (index : Nat)
    (received : Option Message) : Option (Outcome × Session) := do
  let (call, waiting) ← pick session.waiting index
  let (result, cache) ← receiveData call.dwCount received session.cache
  some (.read (.ofResult result), {
    session with
    cache := cache
    waiting := waiting
    filled := if result.toBool then session.opened else session.filled
    begun := session.begun ||
      (result.toBool && call.opening == session.opened) })

/-- A call of the transport, or the end of a wait. -/
inductive Action
  | openConnection (writeQueue : Option MessageQueue)
  | closeConnection (writeQueue : Option MessageQueue)
  | read (dwCount : Nat)
  | receive (index : Nat) (received : Option Message)

/-- What the transport sees of a step and the session after it. -/
def step (session : Session) : Action → Option (Outcome × Session)
  | .openConnection writeQueue => session.hciOpenConnection writeQueue
  | .closeConnection writeQueue => session.hciCloseConnection writeQueue
  | .read dwCount => session.startRead dwCount
  | .receive index received => session.receive index received

end Session

/-- Sessions under successive steps. -/
def sessionMachine : Machine Session Session.Action Session.Outcome where
  step := Session.step

namespace Session

/-! ## The property -/

/-- Whatever is read next comes from a message taken after the last opening,
and until calls made since then were given bytes, it is the front of a
message. -/
def Isolated (session : Session) : Prop :=
  ∀ action bytes next,
    session.step action = some (.read (.returned bytes), next) →
      next.filled = next.opened ∧
        (session.begun = false →
          ∃ index message payload,
            action = .receive index (some message) ∧
              Decodes message payload ∧ bytes <+: payload)

/-! ## The condition -/

/-- The port is only opened when the cache has no data, and a call made before
it was opened leaves nothing of a message to the first call made after. -/
def Conforms (session : Session) : Action → Prop
  | .openConnection writeQueue =>
      session.hFile = none → writeQueue.isSome →
        session.cache.dwDataSize = 0
  | .receive index received =>
      session.hFile.isSome → session.begun = false →
        ∀ call ∈ session.waiting[index]?, ∀ message ∈ received,
          ∀ payload ∈ dataOf message,
            call.opening = session.opened ∨ payload.length ≤ call.dwCount
  | _ => True

instance decidableConforms (session : Session) :
    (action : Action) → Decidable (session.Conforms action)
  | .openConnection _ => inferInstanceAs (Decidable (_ → _ → _))
  | .closeConnection _ => isTrue trivial
  | .read _ => isTrue trivial
  | .receive _ _ => inferInstanceAs (Decidable (_ → _ → _))

/-! ## The invariant -/

/-- The port is open with the context of the driver, and data in the cache
behind an open port were taken after it was opened, and not first by a call
made before. -/
structure Kept (session : Session) : Prop where
  /-- The port is open with the context of the driver. -/
  context : ∀ context ∈ session.hFile, context = openContext
  /-- The cache is ordered. -/
  ordered : session.cache.Ordered
  /-- No message was taken after a later opening. -/
  filled_le : session.filled ≤ session.opened
  /-- The data in the cache were taken after the last opening. -/
  fresh : session.hFile.isSome → session.cache.dwDataSize ≠ 0 →
    session.filled = session.opened ∧ session.begun = true

theorem kept_start : start.Kept where
  context := by simp [start]
  ordered := Cache.ordered_empty
  filled_le := Nat.le_refl 0
  fresh _ data := absurd rfl data

/-! ## Opening -/

/-- A packet with a message is built, and it is not empty. -/
theorem exists_messagePacket (id : MessageId) :
    ∃ packet, messagePacket id = some packet ∧ packet.written ≠ [] := by
  obtain ⟨typed, packet, typeDone, idDone, written⟩ :=
    exists_writeInt_message id.code
  refine ⟨packet, ?_, ?_⟩
  · simp only [messagePacket, typeDone, idDone, Option.bind_eq_bind,
      Option.bind_some]
  · rw [written]
    exact typeField_append_ne_nil _ _

/-- A port that is not open is opened when the write queue is open. -/
theorem hciOpenConnection_of_closed
    {session : Session}
    (closed : session.hFile = none)
    (writeQueue : MessageQueue) :
    session.hciOpenConnection (some writeQueue) =
      some (.connection true, {
        session with
        hFile := some openContext
        opened := session.opened + 1
        begun := false }) := by
  obtain ⟨packet, packed, nonempty⟩ := exists_messagePacket .comOpenMsg
  obtain ⟨message, written, -⟩ := exists_writePacket writeQueue packet nonempty
  have announced : bteOpen deviceContext (some writeQueue) =
      some (openContext, some message) := by
    simp only [bteOpen, if_true, packed, Option.bind_eq_bind,
      Option.bind_some, written]
  simp only [hciOpenConnection, closed, announced, Option.bind_eq_bind,
    Option.bind_some, bteIOControl, if_true]
  rfl

/-- A port is not opened without the write queue. -/
theorem hciOpenConnection_of_no_queue
    {session : Session}
    (closed : session.hFile = none) :
    session.hciOpenConnection none = some (.connection false, session) := by
  obtain ⟨packet, packed, nonempty⟩ := exists_messagePacket .comOpenMsg
  have refused : bteOpen deviceContext none = some (0, none) := by
    simp only [bteOpen, if_true, packed, Option.bind_eq_bind,
      Option.bind_some, writePacket]
  simp only [hciOpenConnection, closed, refused, Option.bind_eq_bind,
    Option.bind_some, if_true]

/-- Opening reports on the connection. -/
theorem connection_of_hciOpenConnection
    (stepped : hciOpenConnection session writeQueue = some (outcome, next)) :
    ∃ succeeds, outcome = .connection succeeds := by
  cases file : session.hFile with
  | some context =>
      rw [hciOpenConnection, file] at stepped
      cases stepped
      exact ⟨_, rfl⟩
  | none =>
      cases writeQueue with
      | none =>
          rw [hciOpenConnection_of_no_queue file] at stepped
          cases stepped
          exact ⟨_, rfl⟩
      | some writeQueue =>
          rw [hciOpenConnection_of_closed file] at stepped
          cases stepped
          exact ⟨_, rfl⟩

/-- Closing reports nothing, and leaves everything but the file. -/
theorem of_hciCloseConnection
    (stepped : hciCloseConnection session writeQueue = some (outcome, next)) :
    outcome = .closed ∧ next = { session with hFile := none } := by
  cases file : session.hFile with
  | none =>
      rw [hciCloseConnection, file] at stepped
      cases stepped
      refine ⟨rfl, ?_⟩
      rw [← file]
  | some context =>
      simp only [hciCloseConnection, file, Option.bind_eq_bind,
        Option.bind_eq_some_iff, Option.some.injEq, Prod.mk.injEq,
        Prod.exists] at stepped
      obtain ⟨succeeds, message, -, rfl, rfl⟩ := stepped
      exact ⟨rfl, rfl⟩

/-! ## Every step -/

/-- Opening keeps the session when it conforms. -/
theorem Kept.hciOpenConnection
    {session next : Session}
    (kept : session.Kept)
    (conforms : session.Conforms (.openConnection writeQueue))
    (stepped : session.hciOpenConnection writeQueue =
      some (outcome, next)) :
    next.Kept := by
  cases file : session.hFile with
  | some context =>
      rw [Session.hciOpenConnection, file] at stepped
      cases stepped
      exact kept
  | none =>
      cases writeQueue with
      | none =>
          rw [hciOpenConnection_of_no_queue file] at stepped
          cases stepped
          exact kept
      | some writeQueue =>
          have noData := conforms file rfl
          rw [hciOpenConnection_of_closed file] at stepped
          cases stepped
          refine ⟨?_, kept.ordered, ?_, fun _ data => absurd noData data⟩
          · intro context member
            exact (Option.some.inj member).symm
          · exact Nat.le_succ_of_le kept.filled_le

/-- What a call reads from the cache of a kept session. -/
theorem Kept.startRead_cases
    {session next : Session}
    (kept : session.Kept)
    (stepped : session.startRead dwCount = some (outcome, next)) :
    (∃ waiting, outcome = .read .waiting ∧
        next = { session with waiting := waiting }) ∨
      (∃ error, outcome = .read (.failed error) ∧ next = session) ∨
      (∃ bytes cache, outcome = .read (.returned bytes) ∧
        session.hFile.isSome ∧ session.cache.dwDataSize ≠ 0 ∧
        cache.Ordered ∧
        next = { session with cache := cache, begun := true }) := by
  simp only [Session.startRead, Option.bind_eq_bind,
    Option.bind_eq_some_iff] at stepped
  obtain ⟨context, file, stepped⟩ := stepped
  obtain rfl := kept.context context file
  split at stepped
  · cases stepped
    exact Or.inl ⟨_, rfl, rfl⟩
  · rename_i reads
    right
    by_cases positive : 0 < dwCount
    · have data : session.cache.dwDataSize ≠ 0 := fun none_ =>
        reads ⟨positive, none_⟩
      obtain ⟨served, done, ordered, -⟩ :=
        exists_bteRead_of_data kept.ordered data ⟨dwCount, positive, false⟩
          none
      rw [done] at stepped
      cases stepped
      right
      refine ⟨_, served, rfl, Option.isSome_of_eq_some file, data, ordered, ?_⟩
      simp [Except.toBool]
    · left
      simp only [bteRead, if_true, positive, and_false, if_false,
        Option.bind_some] at stepped
      cases stepped
      refine ⟨_, rfl, ?_⟩
      simp [Except.toBool]

/-- What a waiting call makes of the message it gets. -/
theorem Kept.receive_cases
    {session next : Session}
    (kept : session.Kept)
    (stepped : session.receive index received = some (outcome, next)) :
    (∃ error waiting cache, outcome = .read (.failed error) ∧
        (cache = session.cache ∨ (cache.Ordered ∧ cache.dwDataSize = 0)) ∧
        next = { session with cache := cache, waiting := waiting }) ∨
      (∃ call waiting cache message payload,
        session.waiting[index]? = some call ∧ received = some message ∧
        Decodes message payload ∧ cache.Ordered ∧
        cache.unread = payload.drop call.dwCount ∧
        outcome = .read (.returned (payload.take call.dwCount)) ∧
        next = {
          session with
          cache := cache
          waiting := waiting
          filled := session.opened
          begun := session.begun || call.opening == session.opened }) := by
  simp only [Session.receive, Option.bind_eq_bind, Option.bind_eq_some_iff,
    Prod.exists] at stepped
  obtain ⟨call, waiting, picked, result, cache, received, stepped⟩ := stepped
  cases result with
  | error error =>
      left
      cases stepped
      refine ⟨error, waiting, cache, rfl,
        ordered_of_receiveData_error kept.ordered received, ?_⟩
      simp [Except.toBool]
  | ok bytes =>
      right
      cases stepped
      obtain ⟨ordered, message, payload, rfl, decodes, rfl, behind⟩ :=
        decodes_of_receiveData received
      refine ⟨call, waiting, cache, message, payload,
        (pick_eq_some_iff.mp picked).1, rfl, decodes, ordered, behind, rfl, ?_⟩
      simp [Except.toBool]

/-- A waiting call that gets a message with data returns the first of them. -/
theorem exists_receive
    (session : Session)
    (present : session.waiting[index]? = some call)
    (taken : dataOf message = some payload)
    (nonempty : payload ≠ []) :
    ∃ waiting cache,
      session.receive index (some message) =
          some (.read (.returned (payload.take call.dwCount)), {
            session with
            cache := cache
            waiting := waiting
            filled := session.opened
            begun := session.begun || call.opening == session.opened }) ∧
        cache.Ordered ∧ cache.unread = payload.drop call.dwCount := by
  obtain ⟨served, done, ordered, behind⟩ :=
    exists_receiveData taken nonempty call.dwCount session.cache
  refine ⟨session.waiting.eraseIdx index, served, ?_, ordered, behind⟩
  simp only [receive, pick_eq_some_iff.mpr ⟨present, rfl⟩, done,
    Option.bind_eq_bind, Option.bind_some]
  rfl

/-- A call that does not conform takes the front of a message and leaves the
rest in the cache before a call of this session was given bytes. -/
theorem exists_receive_of_not_conforms
    {session : Session}
    (violates : ¬ session.Conforms (.receive index received)) :
    session.hFile.isSome ∧
      ∃ outcome next,
        session.receive index received = some (outcome, next) ∧
          next.hFile = session.hFile ∧ next.cache.Ordered ∧
          next.cache.dwDataSize ≠ 0 ∧ next.begun = false := by
  simp only [Conforms, not_forall, not_or] at violates
  obtain ⟨open_, begun, call, present, message, got, payload, taken, earlier,
    longer⟩ := violates
  obtain rfl : received = some message := got
  have nonempty : payload ≠ [] := by
    rintro rfl
    exact longer (Nat.zero_le _)
  obtain ⟨waiting, cache, done, ordered, behind⟩ :=
    session.exists_receive present taken nonempty
  refine ⟨open_, _, _, done, rfl, ordered, ?_, ?_⟩
  · have left := ordered.length_unread
    rw [behind, List.length_drop] at left
    change cache.dwDataSize ≠ 0
    omega
  · simp [begun, earlier]

/-- A call that gets a message keeps the session when it conforms. -/
theorem Kept.receive
    {session next : Session}
    (kept : session.Kept)
    (conforms : session.Conforms (.receive index received))
    (stepped : session.receive index received = some (outcome, next)) :
    next.Kept := by
  rcases kept.receive_cases stepped with
    ⟨error, waiting, cache, -, same | ⟨ordered, noData⟩, rfl⟩ |
      ⟨call, waiting, cache, message, payload, present, rfl, decodes, ordered,
        behind, -, rfl⟩
  · subst same
    exact { kept with }
  · exact { kept with
      ordered := ordered, fresh := fun _ data => absurd noData data }
  · refine { kept with
      ordered := ordered, filled_le := Nat.le_refl _, fresh := ?_ }
    intro open_ data
    refine ⟨rfl, ?_⟩
    cases begun : session.begun with
    | true => rfl
    | false =>
        rcases conforms open_ begun call present message rfl payload
          (decodes_iff_dataOf.mp decodes) with current | whole
        · simp [current]
        · have left := ordered.length_unread
          rw [behind, List.length_drop] at left
          change cache.dwDataSize ≠ 0 at data
          omega

/-- Every step that conforms keeps the session. -/
theorem Kept.step
    {session next : Session}
    (kept : session.Kept)
    (conforms : session.Conforms action)
    (stepped : session.step action = some (outcome, next)) :
    next.Kept := by
  cases action with
  | openConnection writeQueue =>
      exact kept.hciOpenConnection conforms stepped
  | closeConnection writeQueue =>
      obtain ⟨-, rfl⟩ := of_hciCloseConnection stepped
      exact { kept with context := by simp, fresh := by simp }
  | read dwCount =>
      rcases kept.startRead_cases stepped with ⟨waiting, -, rfl⟩ |
        ⟨error, -, rfl⟩ | ⟨bytes, cache, -, open_, data, ordered, rfl⟩
      · exact { kept with }
      · exact kept
      · exact { kept with
          ordered := ordered
          fresh := fun _ _ => ⟨(kept.fresh open_ data).1, rfl⟩ }
  | receive index received => exact kept.receive conforms stepped

/-- A session that is kept is isolated. -/
theorem Kept.isolated
    {session : Session}
    (kept : session.Kept) : session.Isolated := by
  intro action bytes next stepped
  cases action with
  | openConnection writeQueue =>
      obtain ⟨succeeds, other⟩ := connection_of_hciOpenConnection stepped
      cases other
  | closeConnection writeQueue =>
      obtain ⟨other, -⟩ := of_hciCloseConnection stepped
      cases other
  | read dwCount =>
      rcases kept.startRead_cases stepped with ⟨waiting, other, -⟩ |
        ⟨error, other, -⟩ | ⟨bytes', cache, same, open_, data, ordered, rfl⟩
      · cases other
      · cases other
      · obtain ⟨filled, begun⟩ := kept.fresh open_ data
        refine ⟨filled, fun first => ?_⟩
        rw [begun] at first
        cases first
  | receive index received =>
      rcases kept.receive_cases stepped with ⟨error, -, -, other, -, -⟩ |
        ⟨call, waiting, cache, message, payload, -, rfl, decodes, -, -, same,
          rfl⟩
      · cases other
      · cases same
        exact ⟨rfl, fun _ => ⟨index, message, payload, rfl, decodes,
          List.take_prefix _ _⟩⟩

/-- Data in the cache behind an open port that are of an earlier session, or
that no call of this session took first, are read next. -/
theorem not_isolated_of_data
    {session : Session}
    (open_ : session.hFile = some openContext)
    (ordered : session.cache.Ordered)
    (data : session.cache.dwDataSize ≠ 0)
    (stale : session.filled ≠ session.opened ∨ session.begun = false) :
    ¬ session.Isolated := by
  intro isolated
  obtain ⟨served, done, -⟩ :=
    exists_bteRead_of_data ordered data ⟨1, Nat.one_pos, false⟩ none
  change bteRead openContext true 1 none session.cache = _ at done
  have reading : session.step (.read 1) =
      some (.read (.returned (session.cache.unread.take 1)), {
        session with
        cache := served
        begun := session.begun || true }) := by
    simp only [step, startRead, open_, Option.bind_eq_bind,
      Option.bind_some, data, and_false, if_false, done]
    rfl
  obtain ⟨current, first⟩ := isolated _ _ _ reading
  rcases stale with earlier | notBegun
  · exact earlier current
  · obtain ⟨index, message, payload, other, -⟩ := first notBegun
    cases other

/-- The session behind a step is isolated exactly when the step conforms. -/
theorem Kept.isolated_iff
    {session next : Session}
    (kept : session.Kept)
    (stepped : session.step action = some (outcome, next)) :
    next.Isolated ↔ session.Conforms action := by
  constructor
  · intro isolated
    cases action with
    | openConnection writeQueue =>
        intro closed open_
        obtain ⟨queue, rfl⟩ := Option.isSome_iff_exists.mp open_
        change session.hciOpenConnection _ = _ at stepped
        rw [hciOpenConnection_of_closed closed] at stepped
        cases stepped
        by_contra data
        refine absurd isolated (not_isolated_of_data rfl kept.ordered data ?_)
        exact Or.inl (Nat.ne_of_lt (Nat.lt_succ_of_le kept.filled_le))
    | closeConnection writeQueue => trivial
    | read dwCount => trivial
    | receive index received =>
        by_contra violates
        obtain ⟨open_, outcome', next', done, same, ordered, data, begun⟩ :=
          exists_receive_of_not_conforms violates
        cases done.symm.trans stepped
        obtain ⟨context, file⟩ := Option.isSome_iff_exists.mp open_
        obtain rfl := kept.context context file
        refine absurd isolated
          (not_isolated_of_data (same.trans file) ordered data ?_)
        exact Or.inr begun
  · intro conforms
    exact (kept.step conforms stepped).isolated

/-- From a kept session on, every session reached is isolated exactly when the
steps conform. -/
theorem Kept.always_iff
    {session : Session}
    (kept : session.Kept)
    (actions : List Action) :
    sessionMachine.Always (fun _ _ _ next => next.Isolated) session actions ↔
      sessionMachine.Admits Conforms session actions := by
  apply Machine.always_iff_admits Kept ?_ ?_ ?_ kept
  · intro session action outcome next kept stepped
    exact kept.isolated_iff stepped
  · intro session action kept stuck
    cases action with
    | openConnection writeQueue =>
        intro closed open_
        obtain ⟨queue, rfl⟩ := Option.isSome_iff_exists.mp open_
        change session.hciOpenConnection _ = _ at stuck
        rw [hciOpenConnection_of_closed closed] at stuck
        cases stuck
    | closeConnection writeQueue => trivial
    | read dwCount => trivial
    | receive index received =>
        by_contra violates
        obtain ⟨-, outcome, next, done, -⟩ :=
          exists_receive_of_not_conforms violates
        cases done.symm.trans stuck
  · intro session action outcome next kept conforms stepped
    exact kept.step conforms stepped

/-- Every session reached is isolated exactly when the port is only opened
while the cache has no data, and no call made before takes the front of a
message from those made after. -/
theorem isolated_iff_conforms (actions : List Action) :
    sessionMachine.Always (fun _ _ _ next => next.Isolated) start actions ↔
      sessionMachine.Admits Conforms start actions :=
  kept_start.always_iff actions

/-- A data packet with an event of which only the type byte is read before the
port is closed and opened again. -/
def partialRead : List Action :=
  [.openConnection (some .lenient), .read 1,
    .receive 0 (some {
      bytes := [0, 0, 0, 0, 3, 0, 0, 0, 0x04, 0x0e, 0]
      length_le := by decide }),
    .closeConnection (some .lenient), .openConnection (some .lenient)]

/-- The rest of the event is read in the second session. -/
theorem not_isolated_partialRead :
    ¬ sessionMachine.Always (fun _ _ _ next => next.Isolated) start
      partialRead := by
  rw [kept_start.always_iff]
  decide +kernel

end Session
end SerialPort
end BthEmul
