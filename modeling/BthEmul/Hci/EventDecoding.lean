import BthEmul.Hci.EventStructures
import Mathlib.Data.List.GetD

/-!
# Decoding inside the event

How many bytes of an event its handlers need follows from its structure, from
the counts and lengths it announces, and from the strings it contains. An event
that was received shorter is read beyond its end. A Command Complete event is
read beyond its end by `CHci::OnEvent` whenever it is exactly as long as it
says, since the length of its parameters is computed from the size of a
pointer.
-/

namespace BthEmul

open Foundation

namespace Hci

/-! ## Fields -/

/-- Where the fields of a Connection Complete event start. -/
theorem offset_connectionComplete :
    connectionCompleteEvent.offset 2 = 2 ∧
      connectionCompleteEvent.offset 3 = 3 ∧
      connectionCompleteEvent.offset 4 = 5 ∧
      connectionCompleteEvent.offset 5 = 11 ∧
      connectionCompleteEvent.offset 6 = 12 := by
  decide

/-- Where the fields of a Remote Name Request Complete event start. -/
theorem offset_remoteNameRequestComplete :
    remoteNameRequestCompleteEvent.offset 2 = 2 ∧
      remoteNameRequestCompleteEvent.offset 3 = 3 ∧
      remoteNameRequestCompleteEvent.offset 4 = 9 := by
  decide

/-- Where the fields of a Command Complete event start. -/
theorem offset_commandComplete :
    commandCompleteEvent.offset 2 = 2 ∧
      commandCompleteEvent.offset 3 = 3 ∧
      commandCompleteEvent.offset 4 = 5 := by
  decide

/-- Where the fields of a Link Key Notification event start. -/
theorem offset_linkKeyNotification :
    linkKeyNotificationEvent.offset 2 = 2 ∧
      linkKeyNotificationEvent.offset 3 = 8 := by
  decide

/-- Where the fields of the header of an event start. -/
theorem offset_eventHeader :
    eventHeader.offset 0 = 0 ∧ eventHeader.offset 1 = 1 := by
  decide

@[simp] theorem staysBelow_addressBytes
    {limit bdAddr : Nat}
    {memory : Nat → UInt8} :
    Reading.StaysBelow limit memory (CHci.addressBytes bdAddr) ↔
      bdAddr + 6 ≤ limit := by
  simp only [CHci.addressBytes, Reading.staysBelow_each,
    Reading.staysBelow_bind, Reading.staysBelow_byte, Reading.staysBelow_pure,
    and_true, List.forall_mem_cons, List.not_mem_nil, false_imp_iff,
    implies_true]
  omega

/-- A string ends inside the event: there is a 16-bit zero between its start
and the limit. -/
def EndsBelow (limit : Nat) (memory : Nat → UInt8) (string : Nat) : Prop :=
  ∃ index, string + 2 * index + 2 ≤ limit ∧
    Reading.wordAt memory (string + 2 * index) = 0

/-- A string that is formatted is read up to its end, which is inside the
event or not. -/
theorem staysBelow_logString
    {limit : Nat}
    {memory : Nat → UInt8}
    (logging : Logging)
    (string : Nat)
    (received : limit ≤ 257) :
    Reading.StaysBelow limit memory (logString logging string) ↔
      (logging.Formats fbtLogNotice → EndsBelow limit memory string) := by
  unfold logString
  split
  · rename_i formats
    have long : limit < string + 2 * (longestString + 1) := by
      unfold longestString
      omega
    rw [Reading.staysBelow_terminated_iff long, EndsBelow]
    exact ⟨fun ends _ => ends, fun ends => ends formats⟩
  · rename_i silent
    exact ⟨fun _ formats => absurd formats silent,
      fun _ => Reading.staysBelow_pure limit memory ()⟩

/-! ## What the handlers of `CHci` need -/

namespace CHci

/-- How far an event of a kind has to be received for `OnEvent` and its
handlers to read nothing beyond it. -/
def Covers
    (logging : Logging)
    (memory : Nat → UInt8)
    (limit : Nat) : EventKind → Prop
  | .inquiryComplete => 4 ≤ limit
  | .inquiryResult =>
      3 ≤ limit ∧ (memory 2 ≠ 0 →
        3 + 6 * (memory 2).toNat ≤ limit ∧
          12 + 3 * (memory 2).toNat ≤ limit ∧
          15 + 2 * (memory 2).toNat ≤ limit)
  | .connectionComplete => 13 ≤ limit
  | .connectionRequest => 21 ≤ limit
  | .disconnectionComplete => 6 ≤ limit
  | .authenticationComplete => 5 ≤ limit
  | .remoteNameRequestComplete =>
      3 ≤ limit ∧ (memory 2 = 0 →
        9 ≤ limit ∧
          (logging.Formats fbtLogNotice → EndsBelow limit memory 9))
  | .commandComplete =>
      5 ≤ limit ∧
        (0 < completeLength (memory 1) →
          5 + completeLength (memory 1) ≤ limit) ∧
        (Reading.wordAt memory 3 = cmdReadLocalName →
          6 ≤ limit ∧
            (logging.Formats fbtLogNotice → EndsBelow limit memory 6))
  | .commandStatus => 6 ≤ limit
  | .roleChange => 10 ≤ limit
  | .pinCodeRequest => 8 ≤ limit
  | .linkKeyRequest => 8 ≤ limit
  | .linkKeyNotification =>
      8 ≤ limit ∧ (fbtLogVerbose ≤ logging.level → 24 ≤ limit)
  | .unknown =>
      fbtLogVerbose < logging.level → (memory 1).toNat + 2 ≤ limit

/-- An inquiry result needs the last element of each of its arrays. -/
theorem staysBelow_onInquiryResult
    {limit : Nat}
    {memory : Nat → UInt8}
    (numResponses : UInt8) :
    Reading.StaysBelow limit memory
        (onInquiryResult numResponses inquiryArrays) ↔
      (numResponses ≠ 0 →
        3 + 6 * numResponses.toNat ≤ limit ∧
          12 + 3 * numResponses.toNat ≤ limit ∧
          15 + 2 * numResponses.toNat ≤ limit) := by
  unfold onInquiryResult
  split
  · rename_i empty
    simp [empty]
  · rename_i nonempty
    have positive : 0 < numResponses.toNat := by
      apply Nat.pos_of_ne_zero
      intro zero
      exact nonempty (UInt8.toNat_inj.mp zero)
    simp only [Reading.staysBelow_bind, Reading.staysBelow_each,
      Reading.staysBelow_pure, and_true, List.mem_range, InquiryField.all,
      List.forall_mem_cons, List.not_mem_nil, false_imp_iff, implies_true,
      readElement, element, staysBelow_addressBytes, Reading.staysBelow_block,
      InquiryField.width, inquiryArrays_eq, bdAddrSize, deviceClassSize]
    constructor
    · intro inside _
      have last := inside (numResponses.toNat - 1) (by omega)
      omega
    · intro fits index below
      have room := fits nonempty
      omega

/-- The handler of a name reads it up to its end. -/
theorem staysBelow_onReadLocalNameComplete
    {limit : Nat}
    {memory : Nat → UInt8}
    (logging : Logging)
    (status : UInt8)
    (name : Nat)
    (received : limit ≤ 257) :
    Reading.StaysBelow limit memory
        (onReadLocalNameComplete logging status name) ↔
      (logging.Formats fbtLogNotice → EndsBelow limit memory name) := by
  rw [onReadLocalNameComplete, Reading.staysBelow_bind,
    staysBelow_logString logging name received]
  exact and_iff_left (Reading.staysBelow_pure limit memory _)

/-- What is read of the parameters of a Command Complete event. -/
theorem staysBelow_onCommandComplete
    {limit : Nat}
    {memory : Nat → UInt8}
    (logging : Logging)
    (commandOpcode : UInt16)
    (parameters parameterLength : Nat)
    (received : limit ≤ 257) :
    Reading.StaysBelow limit memory
        (onCommandComplete logging commandOpcode parameters
          parameterLength) ↔
      (0 < parameterLength → parameters + parameterLength ≤ limit) ∧
        (commandOpcode = cmdReadLocalName →
          parameters + 1 ≤ limit ∧
            (logging.Formats fbtLogNotice →
              EndsBelow limit memory (parameters + 1))) := by
  rw [onCommandComplete, Reading.staysBelow_bind, Reading.staysBelow_block]
  refine and_congr Iff.rfl ?_
  split
  · rename_i named
    simp only [Reading.staysBelow_bind, Reading.staysBelow_byte,
      staysBelow_onReadLocalNameComplete logging _ _ received,
      Reading.staysBelow_pure, and_true, named, forall_const]
    exact Iff.rfl
  · rename_i other
    simp only [Reading.staysBelow_pure, other, false_imp_iff]

/-- What is read of a Remote Name Request Complete event. -/
theorem staysBelow_onRemoteNameRequestComplete
    {limit : Nat}
    {memory : Nat → UInt8}
    (logging : Logging)
    (status : UInt8)
    (bdAddr remoteName : Nat)
    (received : limit ≤ 257) :
    Reading.StaysBelow limit memory
        (onRemoteNameRequestComplete logging status bdAddr remoteName) ↔
      (status = 0 →
        bdAddr + 6 ≤ limit ∧
          (logging.Formats fbtLogNotice →
            EndsBelow limit memory remoteName)) := by
  unfold onRemoteNameRequestComplete
  split
  · rename_i found
    simp only [Reading.staysBelow_bind, staysBelow_addressBytes,
      staysBelow_logString logging _ received, Reading.staysBelow_pure,
      and_true, found, forall_const]
  · rename_i failed
    simp only [Reading.staysBelow_pure, failed, false_imp_iff]

/-- A handler that only looks at an address behind the header needs it as a
whole. -/
theorem staysBelow_addressHandler
    {limit : Nat}
    {memory : Nat → UInt8} :
    Reading.StaysBelow limit memory (do addressBytes 2; return errorSuccess) ↔
      8 ≤ limit := by
  rw [Reading.staysBelow_bind, staysBelow_addressBytes]
  exact and_iff_left (Reading.staysBelow_pure limit memory _)

/-- The handler of a link key shows the key only where the level is verbose. -/
theorem staysBelow_onLinkKeyNotification
    {limit : Nat}
    {memory : Nat → UInt8}
    (logging : Logging)
    (bdAddr linkKey : Nat) :
    Reading.StaysBelow limit memory
        (onLinkKeyNotification logging bdAddr linkKey) ↔
      bdAddr + 6 ≤ limit ∧
        (fbtLogVerbose ≤ logging.level → linkKey + 16 ≤ limit) := by
  rw [onLinkKeyNotification, Reading.staysBelow_bind, staysBelow_addressBytes]
  refine and_congr Iff.rfl ?_
  split
  case isTrue verbose =>
    simp only [Reading.staysBelow_bind, Reading.staysBelow_block,
      Reading.staysBelow_pure, and_true, verbose, forall_const]
    omega
  case isFalse quiet =>
    simp only [Reading.staysBelow_pure, quiet, false_imp_iff]

/-- The handler of an unknown event shows all of it where the level is more than
verbose. -/
theorem staysBelow_onUnknown
    {limit : Nat}
    {memory : Nat → UInt8}
    (logging : Logging)
    (length : Nat) :
    Reading.StaysBelow limit memory (onUnknown logging length) ↔
      2 ≤ limit ∧
        (fbtLogVerbose < logging.level → (memory 1).toNat + 2 ≤ limit) := by
  simp only [onUnknown, eventCodeField, parameterLengthField, byteField,
    Reading.staysBelow_bind, Reading.staysBelow_byte, Reading.result_byte,
    offset_eventHeader]
  split
  case isTrue verbose =>
    have size : eventHeader.size = 2 := rfl
    simp only [Reading.staysBelow_bind, Reading.staysBelow_block,
      Reading.staysBelow_pure, and_true, verbose, forall_const]
    omega
  case isFalse quiet =>
    simp only [Reading.staysBelow_pure, quiet, false_imp_iff, and_true]
    omega

/-- `OnEvent` reads nothing beyond an event of a kind exactly when it was
received far enough. -/
theorem staysBelow_onEventOf
    {limit : Nat}
    {memory : Nat → UInt8}
    (logging : Logging)
    (length : Nat)
    (kind : EventKind)
    (header : 2 ≤ limit)
    (received : limit ≤ 257) :
    Reading.StaysBelow limit memory (onEventOf logging length kind) ↔
      Covers logging memory limit kind := by
  cases kind with
  | inquiryResult =>
      rw [onEventOf, Reading.staysBelow_bind, staysBelow_onInquiryResult,
        Covers, byteField, Reading.staysBelow_byte]
      exact Iff.rfl
  | connectionComplete =>
      simp only [onEventOf, onConnectionComplete, byteField, wordField,
        Covers, Reading.staysBelow_bind, Reading.staysBelow_byte,
        Reading.staysBelow_word, offset_connectionComplete]
      split
      · simp only [Reading.staysBelow_pure, and_true]
        omega
      · simp only [Reading.staysBelow_bind, staysBelow_addressBytes,
          Reading.staysBelow_pure, and_true]
        omega
  | remoteNameRequestComplete =>
      simp only [onEventOf, byteField, Covers, Reading.staysBelow_bind,
        Reading.staysBelow_byte, Reading.result_byte,
        staysBelow_onRemoteNameRequestComplete logging _ _ _ received,
        offset_remoteNameRequestComplete]
      exact Iff.rfl
  | commandComplete =>
      simp only [onEventOf, byteField, wordField, Covers,
        parameterLengthField, Reading.staysBelow_bind,
        Reading.staysBelow_byte, Reading.staysBelow_word,
        staysBelow_onCommandComplete logging _ _ _ received,
        Reading.result_byte, Reading.result_word, offset_commandComplete,
        offset_eventHeader]
      constructor
      · rintro ⟨-, opCode, -, parameters, name⟩
        exact ⟨opCode, parameters, name⟩
      · rintro ⟨opCode, parameters, name⟩
        exact ⟨by omega, opCode, by omega, parameters, name⟩
  | linkKeyNotification =>
      rw [onEventOf, staysBelow_onLinkKeyNotification, Covers]
      simp only [offset_linkKeyNotification]
  | unknown =>
      rw [onEventOf, staysBelow_onUnknown, Covers]
      exact and_iff_right header
  | pinCodeRequest => exact staysBelow_addressHandler
  | linkKeyRequest => exact staysBelow_addressHandler
  | _ =>
      simp [onEventOf, Covers, byteField, wordField, PackedType.offset,
        onRoleChange, onConnectionRequest, inquiryCompleteEvent,
        connectionRequestEvent, disconnectionCompleteEvent,
        authenticationCompleteEvent, commandStatusEvent, roleChangeEvent,
        eventHeader, bdAddrSize, deviceClassSize]
      omega

/-- `CHci::OnEvent` reads nothing beyond the event exactly when it was received
far enough. -/
theorem staysBelow_onEvent
    {limit : Nat}
    (memory : Nat → UInt8)
    (logging : Logging)
    (length : Nat)
    (header : 2 ≤ limit)
    (received : limit ≤ 257) :
    Reading.StaysBelow limit memory (onEvent logging length) ↔
      Covers logging memory limit (EventKind.ofCode (memory 0)) := by
  rw [onEvent, Reading.staysBelow_bind, eventCodeField, byteField,
    Reading.staysBelow_byte, Reading.result_byte, offset_eventHeader.1,
    staysBelow_onEventOf logging length _ header received]
  exact and_iff_right (by omega)

end CHci

/-! ## What the handlers of `CHciLocal` need -/

namespace CHciLocal

/-- The parameters are read where a slot takes them. -/
theorem staysBelow_commandCompleteHandler
    {limit : Nat}
    {memory : Nat → UInt8}
    (queue : CommandQueue)
    (nCommand : UInt16)
    (pParameters dwParameterLength : Nat) :
    Reading.StaysBelow limit memory
        (commandCompleteHandler queue nCommand pParameters
          dwParameterLength) ↔
      ∀ nSlot, queue.findCommandSlot nCommand = some nSlot →
        dwParameterLength ≤ (queue nSlot).dwBufferSize →
          0 < dwParameterLength → pParameters + dwParameterLength ≤ limit := by
  unfold commandCompleteHandler
  cases queue.findCommandSlot nCommand with
  | none =>
      simp only [Reading.staysBelow_pure, true_iff]
      intro nSlot missing
      contradiction
  | some nSlot =>
      by_cases short : (queue nSlot).dwBufferSize < dwParameterLength
      · simp only [short, if_true, Reading.staysBelow_pure, true_iff,
          Option.some.injEq]
        rintro other rfl fits
        omega
      · simp only [short, if_false, Reading.staysBelow_bind,
          Reading.staysBelow_block, Reading.staysBelow_pure, and_true,
          Option.some.injEq, forall_eq']
        exact ⟨fun inside _ => inside, fun inside => inside (by omega)⟩

/-- How far an event of a kind has to be received for `OnEvent` and its
handlers to read nothing beyond it. -/
def Covers
    (logging : Logging)
    (queue : CommandQueue)
    (memory : Nat → UInt8)
    (limit : Nat) : EventKind → Prop
  | .commandComplete =>
      5 ≤ limit ∧ ∀ nSlot,
        queue.findCommandSlot (Reading.wordAt memory 3) = some nSlot →
          completeLength (memory 1) ≤ (queue nSlot).dwBufferSize →
            0 < completeLength (memory 1) →
              5 + completeLength (memory 1) ≤ limit
  | kind => CHci.Covers logging memory limit kind

/-- `CHciLocal::OnEvent` reads nothing beyond the event exactly when it was
received far enough. -/
theorem staysBelow_onEvent
    {limit : Nat}
    (memory : Nat → UInt8)
    (logging : Logging)
    (queue : CommandQueue)
    (length : Nat)
    (header : 2 ≤ limit)
    (received : limit ≤ 257) :
    Reading.StaysBelow limit memory (onEvent logging queue length) ↔
      Covers logging queue memory limit (EventKind.ofCode (memory 0)) := by
  have forwarded := CHci.staysBelow_onEvent memory logging length
    header received
  simp only [onEvent, Reading.staysBelow_bind, eventCodeField, byteField,
    Reading.staysBelow_byte, Reading.result_byte, offset_eventHeader.1]
  rw [and_iff_right (by omega : 0 < limit)]
  cases kind : EventKind.ofCode (memory 0) with
  | commandComplete =>
      simp only [wordField, byteField, parameterLengthField, Covers,
        Reading.staysBelow_bind, Reading.staysBelow_word,
        Reading.staysBelow_byte, staysBelow_commandCompleteHandler,
        Reading.staysBelow_pure, and_true, Reading.result_word,
        Reading.result_byte, offset_commandComplete, offset_eventHeader]
      constructor
      · rintro ⟨opCode, -, parameters⟩
        exact ⟨opCode, parameters⟩
      · rintro ⟨opCode, parameters⟩
        exact ⟨opCode, by omega, parameters⟩
  | commandStatus =>
      simp [wordField, Covers, CHci.Covers, PackedType.offset,
        commandStatusEvent, eventHeader]
      omega
  | _ =>
      rw [kind] at forwarded
      simpa [Covers] using forwarded

end CHciLocal

/-! ## Both dispatchers -/

/-- What is promised of the decoding of an event that was received up to a
length: both dispatchers read nothing beyond it, they pass the same parameters
of a Command Complete event that is as long as it says, and the length they
pass does not wrap around below zero. -/
structure DecodedInside
    (logging : Logging)
    (queue : CommandQueue)
    (memory : Nat → UInt8)
    (length : Nat) : Prop where
  /-- `CHci::OnEvent` reads nothing beyond the event. -/
  chci : Reading.StaysBelow length memory (CHci.onEvent logging length)
  /-- `CHciLocal::OnEvent` reads nothing beyond the event. -/
  chciLocal : Reading.StaysBelow length memory
    (CHciLocal.onEvent logging queue length)
  /-- Both pass the parameters behind the opcode. -/
  parameters : EventKind.ofCode (memory 0) = .commandComplete →
    3 ≤ (memory 1).toNat → length = (memory 1).toNat + 2 →
      commandCompleteEvent.offset 4 = 5 ∧
        CHci.completeLength (memory 1) = (memory 1).toNat - 3 ∧
        CHciLocal.completeLength (memory 1) = (memory 1).toNat - 3
  /-- Neither passes more than there is where there are none. -/
  noUnderflow : EventKind.ofCode (memory 0) = .commandComplete →
    (memory 1).toNat < 3 →
      CHci.completeLength (memory 1) ≤ (memory 1).toNat ∧
        CHciLocal.completeLength (memory 1) ≤ (memory 1).toNat

/-- The events that are decoded as promised: a Command Complete event with its
three fixed bytes of parameters that was received two bytes longer than it
says, and ends a local name, or another event that was received as far as
`CHci::OnEvent` reads it. -/
def DecodedEvent
    (logging : Logging)
    (memory : Nat → UInt8)
    (length : Nat) : Prop :=
  match EventKind.ofCode (memory 0) with
  | .commandComplete =>
      3 ≤ (memory 1).toNat ∧ (memory 1).toNat + 4 ≤ length ∧
        (Reading.wordAt memory 3 = cmdReadLocalName →
          logging.Formats fbtLogNotice → EndsBelow length memory 6)
  | kind => CHci.Covers logging memory length kind

/-- What `CHci::OnEvent` passes ends two bytes behind the parameters. -/
theorem CHci.completeLength_eq
    {parameterLength : UInt8}
    (present : 3 ≤ parameterLength.toNat) :
    CHci.completeLength parameterLength = parameterLength.toNat - 1 :=
  dwordSub_eq (Nat.le_trans (by decide) present)

/-- What `CHciLocal::OnEvent` passes ends with the parameters. -/
theorem CHciLocal.completeLength_eq
    {parameterLength : UInt8}
    (present : 3 ≤ parameterLength.toNat) :
    CHciLocal.completeLength parameterLength = parameterLength.toNat - 3 :=
  dwordSub_eq present

/-- Without the fixed bytes the length of `CHciLocal::OnEvent` wraps around. -/
theorem CHciLocal.completeLength_wraps
    {parameterLength : UInt8}
    (missing : parameterLength.toNat < 3) :
    parameterLength.toNat < CHciLocal.completeLength parameterLength := by
  have wraps : CHciLocal.completeLength parameterLength =
      2 ^ 32 - (3 - parameterLength.toNat) :=
    if_neg (Nat.not_le_of_lt missing)
  rw [wraps]
  omega

/-- An event is decoded as promised exactly when it was received as far as it
is read; a Command Complete event has to be longer than it says. -/
theorem decodedInside_iff
    (logging : Logging)
    (queue : CommandQueue)
    (memory : Nat → UInt8)
    (length : Nat)
    (header : 2 ≤ length)
    (received : length ≤ 257) :
    DecodedInside logging queue memory length ↔
      DecodedEvent logging memory length := by
  have chci := CHci.staysBelow_onEvent memory logging length
    header received
  have chciLocal := CHciLocal.staysBelow_onEvent memory logging
    queue length header received
  unfold DecodedEvent
  cases kind : EventKind.ofCode (memory 0) with
  | commandComplete =>
      rw [kind] at chci chciLocal
      constructor
      · intro decoded
        have present : 3 ≤ (memory 1).toNat := by
          by_contra missing
          have wraps := CHciLocal.completeLength_wraps
            (Nat.lt_of_not_le missing)
          have bounded := (decoded.noUnderflow kind
            (Nat.lt_of_not_le missing)).2
          omega
        obtain ⟨fixed, parameters, name⟩ := chci.mp decoded.chci
        have long := CHci.completeLength_eq present
        rw [long] at parameters
        exact ⟨present, by omega,
          fun named => (name named).2⟩
      · rintro ⟨present, long, name⟩
        have passed := CHci.completeLength_eq present
        have passedLocal := CHciLocal.completeLength_eq present
        refine ⟨chci.mpr ⟨by omega, ?_, ?_⟩, chciLocal.mpr ⟨by omega, ?_⟩,
          ?_, ?_⟩
        · rw [passed]
          omega
        · intro named
          exact ⟨by omega, name named⟩
        · intro nSlot slot fits nonempty
          rw [passedLocal]
          omega
        · intro _ _ exact
          omega
        · intro _ missing
          omega
  | _ =>
      rw [kind] at chci chciLocal
      refine ⟨fun decoded => chci.mp decoded.chci, fun covers => ?_⟩
      exact ⟨chci.mpr covers, chciLocal.mpr covers,
        fun other => by rw [kind] at other; contradiction,
        fun other => by rw [kind] at other; contradiction⟩

/-- The memory from the start of an event on, zero behind it. -/
def eventMemory (pEvent : List UInt8) : Nat → UInt8 :=
  fun offset => pEvent.getD offset 0

/-- Logging as it is set up without a log file. -/
def quietLogging : Logging where
  level := 0
  opens := false

/-- A Command Status event of six bytes is decoded as promised. -/
theorem decodedInside_commandStatus :
    DecodedInside quietLogging CommandQueue.create
      (eventMemory [0x0f, 4, 0, 1, 0x05, 0x04]) 6 :=
  (decodedInside_iff quietLogging CommandQueue.create
    (eventMemory [0x0f, 4, 0, 1, 0x05, 0x04]) 6 (by decide) (by decide)).mpr
      (Nat.le_refl 6 : 6 ≤ 6)

/-- The completion of a reset says that it has six bytes, and `CHci::OnEvent`
reads the two bytes behind them. -/
theorem not_decodedInside_commandComplete :
    (CHci.onEvent quietLogging 6).offsets
        (eventMemory [0x0e, 4, 1, 0x03, 0x0c, 0]) =
        [0, 2, 3, 4, 1, 5, 6, 7] ∧
      ¬ DecodedInside quietLogging CommandQueue.create
        (eventMemory [0x0e, 4, 1, 0x03, 0x0c, 0]) 6 := by
  refine ⟨by decide +kernel, ?_⟩
  intro decoded
  exact absurd decoded.chci (by decide +kernel)

/-! ## Agreement with the queue of commands -/

/-- A byte that was received stands in memory. -/
theorem eventMemory_eq
    {pEvent : List UInt8}
    {offset : Nat}
    (present : offset < pEvent.length) :
    eventMemory pEvent offset = pEvent[offset] :=
  List.getD_eq_getElem _ _ present

/-- A 16-bit field that was received is read as it stands in memory. -/
theorem field16_eq
    {pEvent : List UInt8}
    {offset : Nat}
    (fits : offset + 2 ≤ pEvent.length) :
    CommandQueue.field16 pEvent offset =
      some (Reading.wordAt (eventMemory pEvent) offset) := by
  have bytes : (pEvent.drop offset).take 2 =
      [eventMemory pEvent offset, eventMemory pEvent (offset + 1)] := by
    rw [List.drop_eq_getElem_cons (by omega), List.take_succ_cons,
      List.drop_eq_getElem_cons (by omega), List.take_succ_cons,
      List.take_zero, eventMemory_eq (by omega), eventMemory_eq (by omega)]
  rw [CommandQueue.field16, if_pos fits, bytes, Reading.wordAt]

/-- The handler of the queue has a result where a slot that takes the
parameters finds them received. -/
theorem isSome_commandCompleteHandler_iff
    (queue : CommandQueue)
    (nCommand : UInt16)
    (pParameters : List UInt8)
    (dwParameterLength : Nat) :
    (queue.commandCompleteHandler nCommand pParameters
        dwParameterLength).isSome ↔
      ∀ nSlot, queue.findCommandSlot nCommand = some nSlot →
        dwParameterLength ≤ (queue nSlot).dwBufferSize →
          0 < dwParameterLength → dwParameterLength ≤ pParameters.length := by
  unfold CommandQueue.commandCompleteHandler
  cases queue.findCommandSlot nCommand with
  | none => simp
  | some nSlot =>
      simp only [QueuedCommand.complete, Option.some.injEq, forall_eq']
      split
      · rename_i short
        simp only [Option.bind_eq_bind, Option.bind_some, Option.isSome_some,
          true_iff]
        intro fits
        omega
      · rename_i fits
        split
        · rename_i nonempty
          split
          · rename_i present
            simp [present]
          · rename_i missing
            simp only [Option.bind_eq_bind, Option.bind_none,
              Option.isSome_none, Bool.false_eq_true, false_iff]
            intro inside
            exact missing (inside (by omega) nonempty)
        · rename_i empty
          simp [empty]

/-- The queue of commands has a result for a Command Complete event exactly when
what is read of it was received. -/
theorem isSome_onEvent_commandComplete_iff
    {pEvent : List UInt8}
    (logging : Logging)
    (queue : CommandQueue)
    (header : 2 ≤ pEvent.length)
    (complete : pEvent[0] = eventCommandComplete) :
    (queue.onEvent pEvent).isSome ↔
      CHciLocal.Covers logging queue (eventMemory pEvent) pEvent.length
        .commandComplete := by
  have parameterLength := eventMemory_eq (by omega : 1 < pEvent.length)
  have first : pEvent[0]? = some pEvent[0] := List.getElem?_eq_getElem _
  have second : pEvent[1]? = some pEvent[1] := List.getElem?_eq_getElem _
  rw [CommandQueue.onEvent, first, complete]
  by_cases fixed : 3 + 2 ≤ pEvent.length
  · have opCode := field16_eq fixed
    have handled := isSome_commandCompleteHandler_iff queue
      (Reading.wordAt (eventMemory pEvent) 3) (pEvent.drop 5)
      (CHciLocal.completeLength (eventMemory pEvent 1))
    rw [List.length_drop] at handled
    have size : CHciLocal.completeLength (eventMemory pEvent 1) =
        dwordSub pEvent[1].toNat 3 := by
      rw [parameterLength]
      rfl
    simp only [Option.bind_eq_bind, Option.bind_some, if_true, opCode,
      second, ← size]
    cases called : queue.commandCompleteHandler
        (Reading.wordAt (eventMemory pEvent) 3) (pEvent.drop 5)
        (CHciLocal.completeLength (eventMemory pEvent 1)) with
    | none =>
        rw [called] at handled
        refine iff_of_false (by simp) ?_
        rintro ⟨-, covered⟩
        have present := handled.mpr fun nSlot slot fits nonempty => by
          have inside := covered nSlot slot fits nonempty
          omega
        exact absurd present Bool.false_ne_true
    | some returned =>
        rw [called] at handled
        refine iff_of_true rfl ⟨fixed, ?_⟩
        intro nSlot slot fits nonempty
        have inside := handled.mp rfl nSlot slot fits nonempty
        omega
  · have missing : CommandQueue.field16 pEvent 3 = none := if_neg fixed
    simp [missing, CHciLocal.Covers, fixed]

/-- The queue of commands has a result for a Command Status event exactly when
what is read of it was received. -/
theorem isSome_onEvent_commandStatus_iff
    {pEvent : List UInt8}
    (queue : CommandQueue)
    (header : 2 ≤ pEvent.length)
    (status : pEvent[0] = eventCommandStatus) :
    (queue.onEvent pEvent).isSome ↔ 6 ≤ pEvent.length := by
  have first : pEvent[0]? = some pEvent[0] := List.getElem?_eq_getElem _
  have other : eventCommandStatus ≠ eventCommandComplete := by decide
  rw [CommandQueue.onEvent, first, status]
  simp only [Option.bind_eq_bind, Option.bind_some, if_true, other, if_false,
    CommandQueue.field16]
  by_cases fits : 4 + 2 ≤ pEvent.length
  · have present : pEvent[statusOffset]? = some pEvent[2] :=
      List.getElem?_eq_getElem _
    simp [fits, present]
  · simp [fits]

/-- The queue of commands has a result for a Command Complete or Command Status
event exactly when `CHciLocal::OnEvent` reads nothing beyond the event. -/
theorem isSome_onEvent_iff
    {pEvent : List UInt8}
    (logging : Logging)
    (queue : CommandQueue)
    (header : 2 ≤ pEvent.length)
    (received : pEvent.length ≤ 257)
    (command : pEvent[0] = eventCommandComplete ∨
      pEvent[0] = eventCommandStatus) :
    (queue.onEvent pEvent).isSome ↔
      Reading.StaysBelow pEvent.length (eventMemory pEvent)
        (CHciLocal.onEvent logging queue pEvent.length) := by
  have code := eventMemory_eq (by omega : 0 < pEvent.length)
  rw [CHciLocal.staysBelow_onEvent _ logging queue _ header received, code]
  rcases command with complete | status
  · rw [complete]
    exact isSome_onEvent_commandComplete_iff logging queue header complete
  · rw [status]
    exact isSome_onEvent_commandStatus_iff queue header status

end Hci
end BthEmul
