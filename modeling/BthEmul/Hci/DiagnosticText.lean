import BthEmul.Hci.CommandStructures
import BthEmul.Hci.HexDump

/-!
# Diagnostic texts

Three functions show the bytes of a command or an event in a text of their own
before they log it. Each byte is printed into a small block, which is appended
to the text. `SendHciCommand` allocates a block for its text, with a byte for
each character; the other blocks have a fixed number of characters.
-/

namespace BthEmul

open Foundation Formatting

namespace Hci

/-- Bytes are appended to a text, each printed into a block of its own before.
-/
def appendBytes
    (directive : List Char)
    (bite : Nat)
    (text : TextBlock sizeOfTchar size) :
    List UInt8 → Option (TextBlock sizeOfTchar size)
  | [] => some text
  | byte :: rest => do
      let printed ← format directive [.number byte.toNat]
      let szBite : TextBlock sizeOfTchar (sizeOfTchar * bite) ←
        TextBlock.print printed
      let next ← text.concat szBite.text
      appendBytes directive bite next rest

/-- `CHci::SendHciCommand`: `szDebugString`, where it is built. The null pointer
of a failed allocation raises an exception. -/
def Sender.debugString
    (sender : Sender)
    (logging : Logging)
    (mallocs : Bool)
    (lpCommand : CArray) : Option (Option (List Char)) :=
  if sender.onListenerThread then some none
  else if 0 < dwordSub lpCommand.length cmdHeader.size ∧
      fbtLogVerbose ≤ logging.level ∧ mallocs then do
    let szDebugString :
        TextBlock sizeOfTchar ((lpCommand.length * 3 + 1) % 2 ^ 32) ←
      TextBlock.print []
    let written ← appendBytes "%02X ".toList 4 szDebugString lpCommand.bytes
    some (some written.text)
  else some none

/-- `CHci::OnUnknown`: `szLog`, where it is built. The event is as long as its
header says. -/
def CHci.unknownText
    (logging : Logging)
    (pEvent : Nat → UInt8) : Option (Option (List Char)) :=
  if fbtLogVerbose < logging.level then do
    let heading ← format "CHci::OnUnknown: Event data: ".toList []
    let szLog : TextBlock sizeOfTchar (sizeOfTchar * 1024) ←
      TextBlock.print heading
    let written ← appendBytes "%02x ".toList 50 szLog
      ((List.range ((pEvent 1).toNat + eventHeader.size)).map pEvent)
    some (some written.text)
  else some none

/-- `CHciLocal::CommandCompleteHandler`: `szLog`, where it is built. -/
def CommandQueue.completeText
    (queue : CommandQueue)
    (logging : Logging)
    (nCommand : UInt16)
    (pParameters : CArray) : Option (Option (List Char)) :=
  match queue.findCommandSlot nCommand with
  | none => some none
  | some nSlot =>
      if (queue nSlot).dwBufferSize < pParameters.length then some none
      else if 0 < pParameters.length ∧ fbtLogVerbose ≤ logging.level then do
        let szLog : TextBlock sizeOfTchar (sizeOfTchar * 1024) :=
          TextBlock.empty
        let written ← appendBytes "%02x ".toList 10 szLog pParameters.bytes
        some (some written.text)
      else some none

/-! ## The property -/

/-- A call of a function that builds a text for the log. -/
inductive DiagnosticCall
  | sendHciCommand (sender : Sender) (mallocs : Bool) (lpCommand : CArray)
  | onUnknown (pEvent : Nat → UInt8)
  | commandCompleteHandler
      (queue : CommandQueue)
      (nCommand : UInt16)
      (pParameters : CArray)
  | fbtLogDumpBuf (nLevel : Nat) (lpBuffer : CArray)
  | dumpBuff (tickCount : Nat → UInt32) (lpBuffer : CArray)

namespace DiagnosticCall

/-- What is written while the text is built stays inside its blocks. What becomes
of the lines of `fbtLogDumpBuf` does not matter here. -/
def Fits (logging : Logging) : DiagnosticCall → Prop
  | sendHciCommand sender mallocs lpCommand =>
      (sender.debugString logging mallocs lpCommand).isSome
  | onUnknown pEvent => (CHci.unknownText logging pEvent).isSome
  | commandCompleteHandler queue nCommand pParameters =>
      (queue.completeText logging nCommand pParameters).isSome
  | fbtLogDumpBuf nLevel lpBuffer =>
      (fbtLogDumpLines some logging nLevel lpBuffer).isSome
  | dumpBuff tickCount lpBuffer => (Hci.dumpBuff tickCount lpBuffer).isSome

instance (logging : Logging) :
    (call : DiagnosticCall) → Decidable (call.Fits logging)
  | sendHciCommand _ _ _ | onUnknown _ | commandCompleteHandler _ _ _
  | fbtLogDumpBuf _ _ | dumpBuff _ _ => inferInstanceAs (Decidable (_ = true))

/-- A buffer is dumped in lines that fit, or not dumped at all. -/
def DumpFits (lpBuffer : CArray) : Prop :=
  lpBuffer.length ≤ 2 ^ 16 ∨ 2 ^ 31 ≤ lpBuffer.length

/-- What a call needs. No text of `SendHciCommand` fits; one of
`CommandCompleteHandler` does for up to 341 bytes. -/
def Short (logging : Logging) : DiagnosticCall → Prop
  | sendHciCommand sender mallocs lpCommand =>
      sender.onListenerThread = true ∨ lpCommand.length = cmdHeader.size ∨
        logging.level < fbtLogVerbose ∨ mallocs = false
  | onUnknown _ => True
  | commandCompleteHandler queue nCommand pParameters =>
      logging.level < fbtLogVerbose ∨ pParameters.length ≤ 341 ∨
        ∀ nSlot, queue.findCommandSlot nCommand = some nSlot →
          (queue nSlot).dwBufferSize < pParameters.length
  | fbtLogDumpBuf nLevel lpBuffer =>
      logging.Dumps nLevel → DumpFits lpBuffer
  | dumpBuff _ lpBuffer => DumpFits lpBuffer

end DiagnosticCall

/-! ## Bytes in a text -/

/-- A byte in two digits, with a blank behind them. -/
def byteText (digit : Char → Char) (byte : UInt8) : List Char :=
  ((Nat.toDigits 16 byte.toNat).map digit).leftpad 2 '0' ++ [' ']

theorem length_byteText (digit : Char → Char) (byte : UInt8) :
    (byteText digit byte).length = 3 := by
  have digits : (Nat.toDigits 16 byte.toNat).length ≤ 2 := by
    apply (Nat.length_toDigits_le_iff (by decide) (by decide)).mpr
    exact byte.toNat_lt
  rw [byteText, List.length_append, List.length_leftpad, List.length_map,
    Nat.max_eq_left digits]
  rfl

theorem format_lower (byte : UInt8) :
    format "%02x ".toList [.number byte.toNat] = some (byteText id byte) := by
  rw [byteText, List.map_id]
  rfl

theorem format_upper (byte : UInt8) :
    format "%02X ".toList [.number byte.toNat] =
      some (byteText Char.toUpper byte) := rfl

/-- Bytes in three characters each are appended one after the other. -/
theorem appendBytes_eq_concatAll
    {directive : List Char}
    {digit : Char → Char}
    (formats : ∀ byte : UInt8,
      format directive [.number byte.toNat] = some (byteText digit byte))
    {bite : Nat}
    (four_le : 4 ≤ bite)
    (text : TextBlock sizeOfTchar size)
    (bytes : List UInt8) :
    appendBytes directive bite text bytes =
      text.concatAll (bytes.map (byteText digit)) := by
  induction bytes generalizing text with
  | nil => rfl
  | cons byte rest inductionHypothesis =>
      have room : sizeOfTchar * ((byteText digit byte).length + 1) ≤
          sizeOfTchar * bite := by
        rw [length_byteText]
        exact Nat.mul_le_mul_left _ four_le
      rw [appendBytes, formats]
      simp only [Option.bind_eq_bind, Option.bind_some, TextBlock.print,
        dif_pos room, List.map_cons, TextBlock.concatAll]
      exact congrArg _ (funext inductionHypothesis)

/-- Bytes in three characters each fit behind a text, with one terminator. -/
theorem isSome_appendBytes_iff
    {directive : List Char}
    {digit : Char → Char}
    (formats : ∀ byte : UInt8,
      format directive [.number byte.toNat] = some (byteText digit byte))
    {bite : Nat}
    (four_le : 4 ≤ bite)
    {text : TextBlock sizeOfTchar size}
    (terminated : sizeOfTchar * (text.text.length + 1) ≤ size)
    (bytes : List UInt8) :
    (appendBytes directive bite text bytes).isSome = true ↔
      sizeOfTchar * (text.text.length + 3 * bytes.length + 1) ≤ size := by
  have widths : (bytes.map (byteText digit)).flatten.length =
      3 * bytes.length := by
    induction bytes with
    | nil => rfl
    | cons byte rest inductionHypothesis =>
        rw [List.map_cons, List.flatten_cons, List.length_append,
          length_byteText, inductionHypothesis, List.length_cons]
        omega
  rw [appendBytes_eq_concatAll formats four_le,
    TextBlock.isSome_concatAll_iff terminated, widths]

/-! ## The functions -/

/-- The text handed on is built where its last part is. -/
theorem isSome_bind_some
    (option : Option α)
    (function : α → β) :
    (option.bind fun value => some (function value)).isSome = true ↔
      option.isSome = true := by
  cases option <;> rfl

/-- The difference is zero only for a header without parameters. -/
theorem dwordSub_cmdHeader_pos_iff (lpCommand : CArray) :
    0 < dwordSub lpCommand.length cmdHeader.size ↔
      lpCommand.length ≠ cmdHeader.size := by
  have size : cmdHeader.size = 3 := rfl
  have small : lpCommand.length < 2 ^ 32 := lpCommand.length_lt
  rw [dwordSub, size]
  split <;> omega

/-- A text of three characters for a byte does not fit in three bytes for a
byte. -/
theorem not_isSome_debugBlock (lpCommand : CArray) :
    ¬ ((TextBlock.print [] :
        Option (TextBlock sizeOfTchar ((lpCommand.length * 3 + 1) % 2 ^ 32))).bind
      fun szDebugString =>
        appendBytes "%02X ".toList 4 szDebugString lpCommand.bytes).isSome =
      true := by
  rw [Option.isSome_iff_exists]
  rintro ⟨all, written⟩
  obtain ⟨block, prints, appended⟩ := Option.bind_eq_some_iff.mp written
  obtain ⟨room, empty⟩ := TextBlock.print_eq_some_iff.mp prints
  rw [← empty] at room
  have fits := (isSome_appendBytes_iff format_upper (Nat.le_refl 4) room
    lpCommand.bytes).mp (Option.isSome_of_eq_some appended)
  have less := Nat.mod_le (lpCommand.length * 3 + 1) (2 ^ 32)
  have length : lpCommand.length = lpCommand.bytes.length := rfl
  rw [empty, sizeOfTchar, List.length_nil] at fits
  omega

/-- The text of a command fits only where it is not built. -/
theorem isSome_debugString_iff
    (sender : Sender)
    (logging : Logging)
    (mallocs : Bool)
    (lpCommand : CArray) :
    (sender.debugString logging mallocs lpCommand).isSome = true ↔
      sender.onListenerThread = true ∨ lpCommand.length = cmdHeader.size ∨
        logging.level < fbtLogVerbose ∨ mallocs = false := by
  have positive := dwordSub_cmdHeader_pos_iff lpCommand
  unfold Sender.debugString
  split
  case isTrue listener => exact iff_of_true rfl (.inl listener)
  case isFalse other =>
    split
    case isTrue built =>
      obtain ⟨parameters, verbose, mallocs⟩ := built
      apply iff_of_false
      case ha =>
        simp only [Option.bind_eq_bind, ← Option.bind_assoc]
        rw [isSome_bind_some]
        exact not_isSome_debugBlock lpCommand
      case hb =>
        rintro (listener | header | quiet | fails)
        · exact other listener
        · exact positive.mp parameters header
        · omega
        · rw [mallocs] at fails
          cases fails
    case isFalse unbuilt =>
      rw [positive] at unbuilt
      apply iff_of_true rfl
      by_cases header : lpCommand.length = cmdHeader.size
      · exact .inr (.inl header)
      · by_cases quiet : logging.level < fbtLogVerbose
        · exact .inr (.inr (.inl quiet))
        · refine .inr (.inr (.inr (Bool.eq_false_iff.mpr fun mallocs => ?_)))
          exact unbuilt ⟨header, Nat.not_lt.mp quiet, mallocs⟩

/-- The text of an event always fits. -/
theorem isSome_unknownText
    (logging : Logging)
    (pEvent : Nat → UInt8) : (CHci.unknownText logging pEvent).isSome = true := by
  have plain : '%' ∉ "CHci::OnUnknown: Event data: ".toList := by decide
  have heading : "CHci::OnUnknown: Event data: ".toList.length = 29 := rfl
  have size : eventHeader.size = 2 := rfl
  have parameterLength_lt := (pEvent 1).toNat_lt
  have printed : sizeOfTchar *
      ("CHci::OnUnknown: Event data: ".toList.length + 1) ≤
        sizeOfTchar * 1024 := by
    rw [heading]
    decide
  unfold CHci.unknownText
  split
  case isFalse => rfl
  case isTrue =>
    rw [format_of_plain plain]
    simp only [Option.bind_eq_bind, Option.bind_some, TextBlock.print,
      dif_pos printed]
    rw [isSome_bind_some, isSome_appendBytes_iff format_lower (by decide) printed,
      List.length_map, List.length_range, heading, size, sizeOfTchar]
    omega

/-- The text of the parameters of a command fits up to 341 bytes. -/
theorem isSome_completeText_iff
    (queue : CommandQueue)
    (logging : Logging)
    (nCommand : UInt16)
    (pParameters : CArray) :
    (queue.completeText logging nCommand pParameters).isSome = true ↔
      logging.level < fbtLogVerbose ∨ pParameters.length ≤ 341 ∨
        ∀ nSlot, queue.findCommandSlot nCommand = some nSlot →
          (queue nSlot).dwBufferSize < pParameters.length := by
  unfold CommandQueue.completeText
  cases found : queue.findCommandSlot nCommand with
  | none => exact iff_of_true rfl (.inr (.inr nofun))
  | some nSlot =>
      dsimp only
      by_cases refused : (queue nSlot).dwBufferSize < pParameters.length
      · rw [if_pos refused]
        apply iff_of_true rfl
        refine .inr (.inr ?_)
        rintro _ ⟨⟩
        exact refused
      · have taken : ¬ ∀ other, some nSlot = some other →
            (queue other).dwBufferSize < pParameters.length :=
          fun all => refused (all nSlot rfl)
        rw [if_neg refused]
        simp only [taken, or_false]
        split
        case isTrue built =>
          rw [Option.bind_eq_bind, isSome_bind_some,
            isSome_appendBytes_iff format_lower (by decide) (by decide)]
          change 2 * (0 + 3 * pParameters.length + 1) ≤ 2 * 1024 ↔ _
          omega
        case isFalse unbuilt =>
          apply iff_of_true rfl
          omega

/-- Where all that is printed up to 64 KiB fits, the lines of a dump fit up to
64 KiB; from 2 GiB on there are none. -/
theorem isSome_dumpLines_iff
    {print : Nat → List Char → Option (List Char)}
    {lpBuffer : CArray}
    (prints : lpBuffer.length ≤ 2 ^ 16 →
      (dumpLines print lpBuffer.bytes).isSome = true) :
    (dumpLines print lpBuffer.bytes).isSome = true ↔
      DiagnosticCall.DumpFits lpBuffer := by
  by_cases short : lpBuffer.length ≤ 2 ^ 16
  · exact iff_of_true (prints short) (.inl short)
  · by_cases positive : lpBuffer.length < 2 ^ 31
    · rw [dumpLines_of_long _ (Nat.not_le.mp short) positive]
      apply iff_of_false nofun
      rintro (fits | negative)
      · exact short fits
      · omega
    · rw [dumpLines_of_negative _ (Nat.not_lt.mp positive)]
      exact iff_of_true rfl (.inr (Nat.not_lt.mp positive))

/-- Every text stays inside its blocks exactly where it is short. -/
theorem fits_iff_short
    (logging : Logging)
    (call : DiagnosticCall) : call.Fits logging ↔ call.Short logging := by
  cases call with
  | sendHciCommand sender mallocs lpCommand =>
      exact isSome_debugString_iff sender logging mallocs lpCommand
  | onUnknown pEvent =>
      exact iff_of_true (isSome_unknownText logging pEvent) trivial
  | commandCompleteHandler queue nCommand pParameters =>
      exact isSome_completeText_iff queue logging nCommand pParameters
  | fbtLogDumpBuf nLevel lpBuffer =>
      rw [DiagnosticCall.Fits, fbtLogDumpLines_eq, DiagnosticCall.Short]
      split
      case isTrue dumps =>
        rw [isSome_dumpLines_iff fun short => ?_]
        · exact ⟨fun fits _ => fits, fun fits => fits dumps⟩
        · rw [dumpLines_of_short _ short, mapM_some]
          rfl
      case isFalse unwritten =>
        exact iff_of_true rfl fun dumps => absurd dumps unwritten
  | dumpBuff tickCount lpBuffer =>
      apply isSome_dumpLines_iff
      intro short
      exact Option.isSome_of_eq_some (dumpBuff_of_short tickCount short)

/-- A command Disconnect that is sent outside the listener thread. -/
def disconnectCall : DiagnosticCall :=
  .sendHciCommand { onListenerThread := false, sendCommand := fun _ => 0 } true
    ⟨[0x06, 0x04, 0x03, 0x2a, 0x00, 0x13], by decide⟩

/-- Of its text of 19 characters with the terminator half fits in 19 bytes. -/
theorem not_fits_disconnectCall :
    ¬ disconnectCall.Fits { level := fbtLogVerbose, opens := true } := by decide

end Hci
end BthEmul
