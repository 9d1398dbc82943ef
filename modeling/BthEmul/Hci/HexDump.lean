import BthEmul.Foundation.Formatting
import BthEmul.Foundation.TextBlock
import BthEmul.Hci.EventStructures

/-!
# Hex dumps

`fbtLogDumpBuf` and `__DumpBuff` build the same lines in a block of the same
size, eight bytes to a line. The first prints each line as a format string, the
second as the argument of one.

A line is an offset, the bytes in hexadecimal and the bytes as characters. The
block is as long as a line with an offset of four digits.
-/

namespace BthEmul

open Foundation Formatting

namespace Hci

/-- The size of a `TCHAR` of the UNICODE build, and of a `WCHAR`. -/
def sizeOfTchar : Nat := 2

/-- `BPR`. -/
def bpr : Nat := 8

/-- `fbtLog_Exception`. -/
def fbtLogException : Nat := 0

/-- `szLine`. -/
abbrev LineBlock := TextBlock sizeOfTchar (sizeOfTchar * (5 + 7 + 2 + 4 * bpr))

/-- Four bits of a byte as a digit. -/
def dumpDigit (c : UInt8) : Char :=
  if 9 < c.toNat then Char.ofNat (c.toNat + ('a'.toNat - 10))
  else Char.ofNat (c.toNat + '0'.toNat)

/-- A byte in the columns of digits. -/
def dumpDigits (byte : UInt8) : List Char :=
  [dumpDigit ((byte >>> 4) &&& 0xf), dumpDigit (byte &&& 0xf), ' ']

/-- A byte in the columns of characters. -/
def dumpCharacter (byte : UInt8) : Char :=
  if byte.toNat < ' '.toNat ∨ 127 ≤ byte.toNat then '.'
  else Char.ofNat byte.toNat

/-- The body of the loop of `fbtLogDumpBuf` and of `__DumpBuff`, as far as
`szLine` is concerned. The bytes from the offset on are at most `bpr`. -/
def szLine (offset : Nat) (bytes : List UInt8) : Option (List Char) := do
  let prefixed ← format "%04x ".toList [.number offset]
  let line : LineBlock ← TextBlock.print prefixed
  let line ← line.putAll (bytes.flatMap dumpDigits)
  let line ← line.putAll (List.replicate (3 * (bpr - bytes.length)) ' ')
  let line ← line.putAll "   |   ".toList
  let line ← line.putAll (bytes.map dumpCharacter)
  let line ← line.putAll (List.replicate (bpr - bytes.length) ' ')
  let line ← line.put '\n'
  line.terminate

/-- The number of lines. As an `int` the length is negative from `2 ^ 31` bytes
on. -/
def dumpRows (cBuffer : Nat) : Nat :=
  if cBuffer < 2 ^ 31 then (cBuffer + (bpr - 1)) / bpr else 0

/-- The loop of `fbtLogDumpBuf` and of `__DumpBuff`: what the lines print. -/
def dumpLines
    (print : Nat → List Char → Option (List Char))
    (bytes : List UInt8) : Option (List (List Char)) :=
  (List.range (dumpRows bytes.length)).mapM fun row => do
    let line ← szLine (bpr * row) ((bytes.drop (bpr * row)).take bpr)
    print row line

/-- `fbtLogDumpBuf`: what its lines print. -/
def fbtLogDumpLines
    (print : List Char → Option (List Char))
    (logging : Logging)
    (nLevel : Nat)
    (lpBuffer : CArray) : Option (List (List Char)) :=
  if nLevel ≠ fbtLogException ∧ logging.level < nLevel then some []
  else if logging.opens then dumpLines (fun _ => print) lpBuffer.bytes
  else some []

/-- `fbtLogDumpBuf`: what is appended to the log file. The line is the format
string. -/
def fbtLogDumpBuf
    (logging : Logging)
    (nLevel : Nat)
    (lpBuffer : CArray) : Option (List Char) :=
  (fbtLogDumpLines (format · []) logging nLevel lpBuffer).map List.flatten

/-- `__DebugOut` with its file open: the line written to it. -/
def debugOut
    (tickCount : UInt32)
    (lpszFormat : List Char)
    (args : List Argument) : Option (List Char) := do
  let formatted ← format lpszFormat args
  let szBigLine : TextBlock sizeOfTchar (sizeOfTchar * 256) ←
    TextBlock.print formatted
  let timed ← format "%lu: %s".toList
    [.number tickCount.toNat, .text szBigLine.text]
  let szTotalLine : TextBlock sizeOfTchar (sizeOfTchar * (256 + 20)) ←
    TextBlock.print timed
  some szTotalLine.text

/-- `__DumpBuff`: the lines written, the time of each being given. -/
def dumpBuff
    (tickCount : Nat → UInt32)
    (lpBuffer : CArray) : Option (List (List Char)) :=
  dumpLines (fun row line => debugOut (tickCount row) "%s".toList [.text line])
    lpBuffer.bytes

/-! ## The property -/

/-- The columns of digits of a byte, or of none. -/
def digitColumns : Option UInt8 → List Char
  | some byte =>
      [Nat.digitChar (byte.toNat / 16), Nat.digitChar (byte.toNat % 16), ' ']
  | none => [' ', ' ', ' ']

/-- The column of the character of a byte, or of none. -/
def characterColumn : Option UInt8 → List Char
  | some byte =>
      [if 32 ≤ byte.toNat ∧ byte.toNat < 127 then Char.ofNat byte.toNat else '.']
  | none => [' ']

/-- The digits of an offset, of which there are at least four. -/
def offsetDigits (offset : Nat) : List Char :=
  (Nat.toDigits 16 offset).leftpad 4 '0'

/-- A line with an offset and eight bytes, in hexadecimal and as characters. -/
def lineText (offset : Nat) (cell : Nat → Option UInt8) : List Char :=
  offsetDigits offset ++ [' '] ++
    (List.range 8).flatMap (fun column => digitColumns (cell column)) ++
    "   |   ".toList ++
    (List.range 8).flatMap (fun column => characterColumn (cell column)) ++
    ['\n']

/-- The line of a row: eight bytes of the buffer from the offset of the row
on. -/
def dumpedLine (bytes : List UInt8) (row : Nat) : List Char :=
  lineText (8 * row) fun column => bytes[8 * row + column]?

/-- The time in front of a line. -/
def timePrefix (tickCount : UInt32) : List Char :=
  Nat.toDigits 10 tickCount.toNat ++ ": ".toList

/-- A dump is faithful: the log is appended the lines that were built, which show
the buffer, and the debug output gets the same lines behind the time. -/
structure FaithfulDump
    (logging : Logging)
    (nLevel : Nat)
    (tickCount : Nat → UInt32)
    (lpBuffer : CArray)
    (lines : List (List Char)) : Prop where
  built : dumpLines (fun _ line => some line) lpBuffer.bytes = some lines
  shows : lines =
    (List.range ((lpBuffer.length + 7) / 8)).map (dumpedLine lpBuffer.bytes)
  appended : fbtLogDumpBuf logging nLevel lpBuffer = some lines.flatten
  emitted : dumpBuff tickCount lpBuffer =
    some (lines.mapIdx fun row line => timePrefix (tickCount row) ++ line)

/-- The dump is written: the level is logged and the file can be opened. -/
def Logging.Dumps (logging : Logging) (nLevel : Nat) : Prop :=
  (nLevel = fbtLogException ∨ nLevel ≤ logging.level) ∧ logging.opens = true

instance (logging : Logging) (nLevel : Nat) :
    Decidable (logging.Dumps nLevel) :=
  inferInstanceAs (Decidable (_ ∧ _))

/-- A dump that is written is the loop. -/
theorem fbtLogDumpLines_eq
    (print : List Char → Option (List Char))
    (logging : Logging)
    (nLevel : Nat)
    (lpBuffer : CArray) :
    fbtLogDumpLines print logging nLevel lpBuffer =
      if logging.Dumps nLevel then dumpLines (fun _ => print) lpBuffer.bytes
      else some [] := by
  unfold fbtLogDumpLines
  by_cases dumps : logging.Dumps nLevel
  · have logged := dumps.1
    rw [if_pos dumps, if_neg (by omega), if_pos dumps.2]
  · rw [if_neg dumps]
    split
    case isTrue => rfl
    case isFalse logged =>
      rw [if_neg fun opens => dumps ⟨by omega, opens⟩]

/-! ## Bytes -/

/-- Four bits are shown as their digit. -/
theorem dumpDigit_eq
    {c : UInt8}
    (small : c.toNat < 16) : dumpDigit c = Nat.digitChar c.toNat := by
  have all : ∀ digit < 16,
      (if 9 < digit then Char.ofNat (digit + ('a'.toNat - 10))
        else Char.ofNat (digit + '0'.toNat)) = Nat.digitChar digit := by decide
  exact all c.toNat small

/-- A byte is shown as its two digits. -/
theorem dumpDigits_eq (byte : UInt8) :
    dumpDigits byte = digitColumns (some byte) := by
  have upper : ((byte >>> 4) &&& 0xf).toNat = byte.toNat / 16 := by
    have byte_lt := byte.toNat_lt
    have shifted : byte.toNat >>> 4 = byte.toNat / 16 :=
      Nat.shiftRight_eq_div_pow _ 4
    rw [UInt8.toNat_and, UInt8.toNat_shiftRight]
    change byte.toNat >>> 4 &&& 2 ^ 4 - 1 = byte.toNat / 16
    rw [Nat.and_two_pow_sub_one_eq_mod, shifted]
    omega
  have lower : (byte &&& 0xf).toNat = byte.toNat % 16 := by
    rw [UInt8.toNat_and]
    exact Nat.and_two_pow_sub_one_eq_mod byte.toNat 4
  have byte_lt := byte.toNat_lt
  rw [dumpDigits, dumpDigit_eq (by omega), dumpDigit_eq (by omega), upper, lower]
  rfl

/-- A byte is shown as its character. -/
theorem dumpCharacter_eq (byte : UInt8) :
    [dumpCharacter byte] = characterColumn (some byte) := by
  rw [characterColumn, dumpCharacter]
  change [if byte.toNat < 32 ∨ 127 ≤ byte.toNat then _ else _] = _
  split
  case isTrue hidden => rw [if_neg (by omega)]
  case isFalse shown => rw [if_pos (by omega)]

/-- A byte has a percent sign in its columns exactly if it is one. -/
theorem percent_mem_digitColumns (cell : Option UInt8) :
    '%' ∉ digitColumns cell := by
  cases cell with
  | none => decide
  | some byte =>
      have apart (digit : Nat) : '%' ≠ Nat.digitChar digit :=
        (Nat.digitChar_ne '%' rfl).symm
      simp [digitColumns, apart]

theorem percent_mem_characterColumn_iff (cell : Option UInt8) :
    '%' ∈ characterColumn cell ↔ cell = some 0x25 := by
  cases cell with
  | none => decide
  | some byte =>
      have all : ∀ code < 256,
          ('%' ∈ [if 32 ≤ code ∧ code < 127 then Char.ofNat code else '.'] ↔
            code = 37) := by decide +kernel
      rw [characterColumn, all byte.toNat byte.toNat_lt, Option.some.injEq,
        ← UInt8.toNat_inj]
      rfl

/-! ## Lines -/

/-- The digits of a number are digits. -/
theorem exists_digitChar_of_mem_toDigits
    {base number : Nat}
    (atLeast : 1 < base)
    (member : character ∈ Nat.toDigits base number) :
    ∃ digit, character = Nat.digitChar digit := by
  induction number using Nat.strongRecOn with
  | ind number inductionHypothesis =>
      rw [Nat.toDigits_eq_if atLeast] at member
      split at member
      case isTrue single => exact ⟨number, List.mem_singleton.mp member⟩
      case isFalse more =>
        rcases List.mem_append.mp member with front | last
        · apply inductionHypothesis (number / base) _ front
          exact Nat.div_lt_self (by omega) atLeast
        · exact ⟨_, List.mem_singleton.mp last⟩

theorem percent_mem_offsetDigits (offset : Nat) :
    '%' ∉ offsetDigits offset := by
  intro member
  rcases List.mem_append.mp member with zero | digit
  · have same := List.eq_of_mem_replicate zero
    cases same
  · obtain ⟨digit, same⟩ :=
      exists_digitChar_of_mem_toDigits (by decide) digit
    exact Nat.digitChar_ne '%' rfl same.symm

/-- Four digits are enough for the offsets below `2 ^ 16`. -/
theorem length_offsetDigits_le_iff (offset : Nat) :
    (offsetDigits offset).length ≤ 4 ↔ offset < 2 ^ 16 := by
  rw [offsetDigits, List.length_leftpad, Nat.max_le]
  exact (and_iff_right (Nat.le_refl 4)).trans
    (Nat.length_toDigits_le_iff (by decide) (by decide))

theorem four_le_length_offsetDigits (offset : Nat) :
    4 ≤ (offsetDigits offset).length := by
  rw [offsetDigits, List.length_leftpad]
  exact Nat.le_max_left _ _

/-- Cells for the elements of a list, and empty ones behind them. -/
theorem flatMap_range_getElem?
    (cell : Option α → List β)
    {list : List α}
    (le : list.length ≤ count) :
    (List.range count).flatMap (fun index => cell list[index]?) =
      list.flatMap (fun element => cell (some element)) ++
        (List.replicate (count - list.length) (cell none)).flatten := by
  induction list generalizing count with
  | nil =>
      simp [List.flatMap_def]
  | cons element list inductionHypothesis =>
      rw [List.length_cons] at le
      obtain ⟨count, rfl⟩ : ∃ less, count = less + 1 :=
        ⟨count - 1, by omega⟩
      have later := inductionHypothesis (Nat.le_of_succ_le_succ le)
      rw [List.range_succ_eq_map, List.flatMap_cons, List.flatMap_map,
        List.flatMap_cons, List.append_assoc, List.length_cons,
        Nat.add_sub_add_right, ← later]
      rfl

@[simp] theorem length_digitColumns (cell : Option UInt8) :
    (digitColumns cell).length = 3 := by
  cases cell <;> rfl

@[simp] theorem length_characterColumn (cell : Option UInt8) :
    (characterColumn cell).length = 1 := by
  cases cell <;> rfl

/-- Everything behind the digits of the offset has a fixed width. -/
theorem length_lineText
    (offset : Nat)
    (cell : Nat → Option UInt8) :
    (lineText offset cell).length = (offsetDigits offset).length + 41 := by
  have digitWidths : (List.replicate 8 3).sum = 24 := rfl
  have characterWidths : (List.replicate 8 1).sum = 8 := rfl
  have separatorWidth : "   |   ".toList.length = 7 := rfl
  simp only [lineText, List.length_append, List.length_cons, List.length_nil,
    List.length_flatMap, length_digitColumns, length_characterColumn,
    List.map_const', List.length_range]
  omega

/-- The line built for an offset, if it fits. -/
theorem szLine_eq
    (offset : Nat)
    {bytes : List UInt8}
    (few : bytes.length ≤ bpr) :
    szLine offset bytes =
      if offset < 2 ^ 16 then some (lineText offset (bytes[·]?)) else none := by
  have digits : bytes.flatMap dumpDigits ++
      List.replicate (3 * (bpr - bytes.length)) ' ' =
        (List.range 8).flatMap fun column => digitColumns bytes[column]? := by
    rw [← bpr, flatMap_range_getElem? digitColumns few, funext dumpDigits_eq,
      Nat.mul_comm, ← List.flatten_replicate_replicate]
    rfl
  have characters : bytes.map dumpCharacter ++
      List.replicate (bpr - bytes.length) ' ' =
        (List.range 8).flatMap fun column =>
          characterColumn bytes[column]? := by
    rw [← bpr, flatMap_range_getElem? characterColumn few, List.map_eq_flatMap,
      funext dumpCharacter_eq, ← List.flatten_replicate_singleton]
    rfl
  -- what is put is put at once
  have shape : szLine offset bytes =
      (TextBlock.print (offsetDigits offset ++ [' ']) : Option LineBlock).bind
        fun line => (line.putAll
          ((bytes.flatMap dumpDigits ++
              List.replicate (3 * (bpr - bytes.length)) ' ') ++
            "   |   ".toList ++
            (bytes.map dumpCharacter ++
              List.replicate (bpr - bytes.length) ' ') ++
            ['\n'])).bind TextBlock.terminate := by
    simp only [TextBlock.putAll_append, ← TextBlock.put_eq_putAll,
      Option.bind_assoc]
    rfl
  have width := length_lineText offset (bytes[·]?)
  have atLeast := four_le_length_offsetDigits offset
  have shortOffset := length_offsetDigits_le_iff offset
  rw [shape, digits, characters, TextBlock.bind_print_putAll, ← List.length_append]
  simp only [← List.append_assoc]
  change (if sizeOfTchar * ((lineText offset (bytes[·]?)).length + 1) ≤ _
    then some (lineText offset (bytes[·]?)) else none) = _
  rw [width, sizeOfTchar, bpr]
  split
  case isTrue room => rw [if_pos (by omega)]
  case isFalse short => rw [if_neg (by omega)]

/-- A line shows eight cells. -/
theorem lineText_congr
    (offset : Nat)
    {cell other : Nat → Option UInt8}
    (same : ∀ column < 8, cell column = other column) :
    lineText offset cell = lineText offset other := by
  have inside : ∀ column ∈ List.range 8, cell column = other column :=
    fun column member => same column (List.mem_range.mp member)
  have digits := List.flatMap_congr fun column member =>
    congrArg digitColumns (inside column member)
  have characters := List.flatMap_congr fun column member =>
    congrArg characterColumn (inside column member)
  rw [lineText, digits, characters, lineText]

/-- The line of a row of a buffer, if its offset fits. -/
theorem szLine_row
    (bytes : List UInt8)
    (row : Nat) :
    szLine (bpr * row) ((bytes.drop (bpr * row)).take bpr) =
      if bpr * row < 2 ^ 16 then some (dumpedLine bytes row) else none := by
  have shown : lineText (bpr * row)
      (((bytes.drop (bpr * row)).take bpr)[·]?) = dumpedLine bytes row := by
    apply lineText_congr
    intro column less
    rw [List.getElem?_take, if_pos (show column < bpr from less),
      List.getElem?_drop]
    rfl
  rw [szLine_eq _ (List.length_take_le _ _), shown]

/-! ## Whole dumps -/

theorem mapM_congr
    {first second : α → Option β}
    {list : List α}
    (same : ∀ element ∈ list, first element = second element) :
    list.mapM first = list.mapM second := by
  induction list with
  | nil => rfl
  | cons element list inductionHypothesis =>
      rw [List.forall_mem_cons] at same
      rw [List.mapM_cons, List.mapM_cons, same.1, inductionHypothesis same.2]

theorem mapM_some
    (function : α → β)
    (list : List α) :
    (list.mapM fun element => some (function element)) =
      some (list.map function) := List.mapM_pure

theorem mapM_eq_none_of_mem
    {function : α → Option β}
    {list : List α}
    (member : element ∈ list)
    (fails : function element = none) : list.mapM function = none := by
  induction list with
  | nil => cases member
  | cons other list inductionHypothesis =>
      rw [List.mapM_cons]
      rcases List.mem_cons.mp member with rfl | member
      · rw [fails]
        rfl
      · rw [inductionHypothesis member]
        cases function other <;> rfl

/-- A buffer of up to 64 KiB is dumped line by line. -/
theorem dumpLines_of_short
    (print : Nat → List Char → Option (List Char))
    {bytes : List UInt8}
    (short : bytes.length ≤ 2 ^ 16) :
    dumpLines print bytes =
      (List.range ((bytes.length + 7) / 8)).mapM fun row =>
        print row (dumpedLine bytes row) := by
  have positive : bytes.length < 2 ^ 31 := by omega
  rw [dumpLines, dumpRows, if_pos positive]
  apply mapM_congr
  intro row member
  have inside : row < (bytes.length + 7) / 8 := List.mem_range.mp member
  have fits : bpr * row < 2 ^ 16 := by
    rw [bpr]
    omega
  rw [szLine_row, if_pos fits]
  rfl

/-- The line at 64 KiB does not fit. -/
theorem dumpLines_of_long
    (print : Nat → List Char → Option (List Char))
    {bytes : List UInt8}
    (long : 2 ^ 16 < bytes.length)
    (positive : bytes.length < 2 ^ 31) : dumpLines print bytes = none := by
  have member : 2 ^ 13 ∈ List.range (dumpRows bytes.length) := by
    rw [List.mem_range, dumpRows, if_pos positive, bpr]
    omega
  apply mapM_eq_none_of_mem member
  rw [szLine_row, if_neg (by decide)]
  rfl

/-- A length that is negative as an `int` has no lines. -/
theorem dumpLines_of_negative
    (print : Nat → List Char → Option (List Char))
    {bytes : List UInt8}
    (negative : 2 ^ 31 ≤ bytes.length) : dumpLines print bytes = some [] := by
  rw [dumpLines, dumpRows, if_neg (Nat.not_lt.mpr negative)]
  rfl

/-- A line has a percent sign exactly if one of its bytes is one. -/
theorem percent_mem_dumpedLine_iff
    (bytes : List UInt8)
    (row : Nat) :
    '%' ∈ dumpedLine bytes row ↔
      ∃ column < 8, bytes[8 * row + column]? = some 0x25 := by
  simp [dumpedLine, lineText, percent_mem_offsetDigits, percent_mem_digitColumns,
    percent_mem_characterColumn_iff]

/-- The lines of a buffer have a percent sign exactly if one of its bytes is
one. -/
theorem percent_mem_dumpedLines_iff (bytes : List UInt8) :
    (∃ row < (bytes.length + 7) / 8, '%' ∈ dumpedLine bytes row) ↔
      0x25 ∈ bytes := by
  simp only [percent_mem_dumpedLine_iff]
  constructor
  · rintro ⟨row, -, column, -, present⟩
    exact List.mem_of_getElem? present
  · intro member
    obtain ⟨index, inside, same⟩ := List.mem_iff_getElem.mp member
    refine ⟨index / 8, by omega, index % 8, Nat.mod_lt _ (by decide), ?_⟩
    rw [Nat.div_add_mod, List.getElem?_eq_getElem inside, same]

/-- A line whose offset has four digits has 45 characters. -/
theorem length_dumpedLine
    (bytes : List UInt8)
    (short : 8 * row < 2 ^ 16) : (dumpedLine bytes row).length = 45 := by
  have atLeast := four_le_length_offsetDigits (8 * row)
  have atMost := (length_offsetDigits_le_iff (8 * row)).mpr short
  rw [dumpedLine, length_lineText]
  omega

/-- A line that is an argument is written behind the time as it is. -/
theorem debugOut_of_short
    (tickCount : UInt32)
    {line : List Char}
    (short : line.length ≤ 45) :
    debugOut tickCount "%s".toList [.text line] =
      some (timePrefix tickCount ++ line) := by
  have digits : (Nat.toDigits 10 tickCount.toNat).length ≤ 10 := by
    apply (Nat.length_toDigits_le_iff (by decide) (by decide)).mpr
    exact tickCount.toNat_lt.trans (by decide)
  have unfilled (text : List Char) : text.leftpad 0 ' ' = text := by
    rw [List.leftpad, Nat.zero_sub]
    rfl
  have formatted : format "%s".toList [.text line] = some line := by
    change some (line.leftpad 0 ' ' ++ []) = _
    rw [unfilled, List.append_nil]
  have timed : format "%lu: %s".toList
      [.number tickCount.toNat, .text line] =
        some (timePrefix tickCount ++ line) := by
    change some ((Nat.toDigits 10 tickCount.toNat).leftpad 0 ' ' ++
      ':' :: ' ' :: (line.leftpad 0 ' ' ++ [])) = _
    rw [unfilled, unfilled, List.append_nil, timePrefix, List.append_assoc]
    rfl
  have bigLine : sizeOfTchar * (line.length + 1) ≤ sizeOfTchar * 256 := by
    rw [sizeOfTchar]
    omega
  have totalLine : sizeOfTchar * ((timePrefix tickCount ++ line).length + 1) ≤
      sizeOfTchar * (256 + 20) := by
    have separatorWidth : ": ".toList.length = 2 := rfl
    rw [sizeOfTchar, timePrefix, List.length_append, List.length_append]
    omega
  simp only [debugOut, formatted, Option.bind_eq_bind, Option.bind_some,
    TextBlock.print, dif_pos bigLine, timed, dif_pos totalLine]

/-- What `__DumpBuff` writes for a buffer of up to 64 KiB. -/
theorem dumpBuff_of_short
    (tickCount : Nat → UInt32)
    {lpBuffer : CArray}
    (short : lpBuffer.length ≤ 2 ^ 16) :
    dumpBuff tickCount lpBuffer =
      some ((List.range ((lpBuffer.length + 7) / 8)).map fun row =>
        timePrefix (tickCount row) ++ dumpedLine lpBuffer.bytes row) := by
  rw [dumpBuff, dumpLines_of_short _ short, ← mapM_some]
  apply mapM_congr
  intro row member
  have inside : row < (lpBuffer.length + 7) / 8 := List.mem_range.mp member
  exact debugOut_of_short _ (length_dumpedLine _ (by omega)).le

/-- A buffer of up to 64 KiB is dumped faithfully exactly if printing its lines
as format strings prints them. -/
theorem exists_faithfulDump_iff_of_short
    {logging : Logging}
    (dumps : logging.Dumps nLevel)
    (tickCount : Nat → UInt32)
    {lpBuffer : CArray}
    (short : lpBuffer.length ≤ 2 ^ 16) :
    (∃ lines, FaithfulDump logging nLevel tickCount lpBuffer lines) ↔
      ∀ line ∈
        (List.range ((lpBuffer.length + 7) / 8)).map (dumpedLine lpBuffer.bytes),
        '%' ∉ line := by
  have appends : fbtLogDumpBuf logging nLevel lpBuffer =
      (((List.range ((lpBuffer.length + 7) / 8)).map
        (dumpedLine lpBuffer.bytes)).mapM (format · [])).map List.flatten := by
    rw [fbtLogDumpBuf, fbtLogDumpLines_eq, if_pos dumps,
      dumpLines_of_short _ short, List.mapM_map]
    rfl
  rw [← mapM_format_eq_some_iff, ← appends]
  constructor
  · rintro ⟨lines, built, rfl, appended, emitted⟩
    exact appended
  · intro appended
    refine ⟨_, ?_, rfl, appended, ?_⟩
    · rw [dumpLines_of_short _ short]
      exact mapM_some _ _
    · rw [dumpBuff_of_short _ short, Option.some.injEq]
      apply List.ext_getElem
      · simp
      · intro row inside _
        simp

/-- A dump that is written is faithful exactly for buffers of up to 64 KiB
without a byte that is a percent sign. -/
theorem faithfulDump_iff
    (logging : Logging)
    (nLevel : Nat)
    (dumps : logging.Dumps nLevel)
    (tickCount : Nat → UInt32)
    (lpBuffer : CArray) :
    (∃ lines, FaithfulDump logging nLevel tickCount lpBuffer lines) ↔
      lpBuffer.length ≤ 2 ^ 16 ∧ 0x25 ∉ lpBuffer.bytes := by
  by_cases short : lpBuffer.length ≤ 2 ^ 16
  case pos =>
    rw [exists_faithfulDump_iff_of_short dumps tickCount short,
      List.forall_mem_map, ← percent_mem_dumpedLines_iff, and_iff_right short]
    simp [CArray.length]
  case neg =>
    apply iff_of_false
    case hb => exact fun condition => short condition.1
    rintro ⟨lines, built, shows, -, -⟩
    by_cases positive : lpBuffer.length < 2 ^ 31
    · rw [dumpLines_of_long _ (Nat.not_le.mp short) positive] at built
      cases built
    · rw [dumpLines_of_negative _ (Nat.not_lt.mp positive)] at built
      cases built
      have lengths := congrArg List.length shows
      rw [List.length_map, List.length_range, List.length_nil] at lengths
      omega

/-- Two bytes, the text of a dump of which is a line with a percent sign. -/
def doublePercent : CArray where
  bytes := [0x25, 0x25]
  length_lt := by decide

/-- The two percent signs are printed as one. -/
theorem not_faithfulDump_doublePercent :
    ¬ ∃ lines, FaithfulDump { level := fbtLogNotice, opens := true } fbtLogNotice
      (fun _ => 0) doublePercent lines := by
  rintro ⟨lines, -, rfl, appended, -⟩
  revert appended
  decide

/-- A command Reset. -/
theorem faithfulDump_iff_reset :
    (∃ lines, FaithfulDump { level := fbtLogNotice, opens := true } fbtLogNotice
        (fun _ => 0) ⟨[0x03, 0x0c, 0x00], by decide⟩ lines) ↔
      3 ≤ 2 ^ 16 ∧ 0x25 ∉ [0x03, 0x0c, (0x00 : UInt8)] :=
  faithfulDump_iff { level := fbtLogNotice, opens := true } fbtLogNotice
    ⟨.inr (Nat.le_refl _), rfl⟩ (fun _ => 0) ⟨[0x03, 0x0c, 0x00], by decide⟩

end Hci
end BthEmul
