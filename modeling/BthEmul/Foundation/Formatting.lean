import Mathlib.Data.List.Basic

/-!
# Format strings

A format string consists of plain characters and of directives, which take the
arguments one after the other. It is taken apart first and then filled in. A
directive that is not complete, that is not known, or that has no argument of
its kind has no result.

A text that is printed as its own format string comes out as it is exactly where
it has no percent sign.
-/

namespace Foundation
namespace Formatting

/-- An argument. -/
inductive Argument
  | number (value : Nat)
  | text (value : List Char)
  deriving DecidableEq

/-- What a directive makes of its argument. -/
inductive Conversion
  | decimal
  | hexadecimal
  | upperHexadecimal
  | string
  deriving DecidableEq

/-- The conversion with a letter. -/
def Conversion.ofChar : Char → Option Conversion
  | 'u' => some decimal
  | 'x' => some hexadecimal
  | 'X' => some upperHexadecimal
  | 's' => some string
  | _ => none

/-- What stands between the percent sign and the conversion. -/
structure Flags where
  /-- Numbers are filled up with zeros. -/
  zero : Bool
  /-- The least number of characters. -/
  width : Nat
  /-- The argument is a long one. -/
  long : Bool
  deriving DecidableEq

namespace Flags

/-- Behind the percent sign. -/
def empty : Flags where
  zero := false
  width := 0
  long := false

/-- The flags with one more character, if it belongs to them. -/
def extend (flags : Flags) (character : Char) : Option Flags :=
  if flags.long then none
  else if character = 'l' then some { flags with long := true }
  else if character = '0' ∧ flags.width = 0 then
    some { flags with zero := true }
  else if character.isDigit then
    some { flags with
      width := 10 * flags.width + (character.toNat - '0'.toNat) }
  else none

end Flags

/-- A part of a format string. -/
inductive Piece
  | plain (character : Char)
  | directive (flags : Flags) (conversion : Conversion)
  deriving DecidableEq

/-- The parts of a format string; inside a directive with what has been read of
it. -/
def parse : Option Flags → List Char → Option (List Piece)
  | none, [] => some []
  | some _, [] => none
  | none, character :: rest =>
      if character = '%' then parse (some .empty) rest
      else (parse none rest).map (.plain character :: ·)
  | some flags, character :: rest =>
      if character = '%' then
        -- two percent signs are one plain one
        if flags = .empty then (parse none rest).map (.plain character :: ·)
        else none
      else
        match flags.extend character with
        | some flags => parse (some flags) rest
        | none => do
            let conversion ← Conversion.ofChar character
            let pieces ← parse none rest
            some (.directive flags conversion :: pieces)

/-- Digits with what they are filled up with. -/
def Flags.filled (flags : Flags) (digits : List Char) : List Char :=
  digits.leftpad flags.width (if flags.zero then '0' else ' ')

/-- What a directive prints. -/
def convert (flags : Flags) : Conversion → Argument → Option (List Char)
  | .decimal, .number value => some (flags.filled (Nat.toDigits 10 value))
  | .hexadecimal, .number value => some (flags.filled (Nat.toDigits 16 value))
  | .upperHexadecimal, .number value =>
      some (flags.filled ((Nat.toDigits 16 value).map Char.toUpper))
  | .string, .text value => some (value.leftpad flags.width ' ')
  | .string, .number _ | .decimal, .text _ | .hexadecimal, .text _
  | .upperHexadecimal, .text _ => none

/-- The parts of a format string with the arguments filled in. Arguments that
are left over are not looked at. -/
def fill : List Piece → List Argument → Option (List Char)
  | [], _ => some []
  | .plain character :: pieces, arguments =>
      (fill pieces arguments).map (character :: ·)
  | .directive _ _ :: _, [] => none
  | .directive flags conversion :: pieces, argument :: arguments => do
      let printed ← convert flags conversion argument
      let later ← fill pieces arguments
      some (printed ++ later)

/-- `printf`: the text printed. -/
def format (string : List Char) (arguments : List Argument) :
    Option (List Char) :=
  (parse none string).bind (fill · arguments)

/-! ## Texts as format strings -/

/-- A text without a percent sign is plain. -/
theorem parse_of_plain
    {text : List Char}
    (plain : '%' ∉ text) : parse none text = some (text.map .plain) := by
  induction text with
  | nil => rfl
  | cons character rest inductionHypothesis =>
      rw [List.mem_cons, not_or] at plain
      rw [parse, if_neg (Ne.symm plain.1), inductionHypothesis plain.2]
      rfl

/-- Plain characters stand for themselves. -/
theorem fill_plain
    (text : List Char)
    (arguments : List Argument) :
    fill (text.map .plain) arguments = some text := by
  induction text with
  | nil => rfl
  | cons character rest inductionHypothesis =>
      rw [List.map_cons, fill, inductionHypothesis]
      rfl

/-- A text without a percent sign is printed as it is. -/
theorem format_of_plain
    {text : List Char}
    (plain : '%' ∉ text)
    (arguments : List Argument) : format text arguments = some text := by
  rw [format, parse_of_plain plain, Option.bind_some, fill_plain]

/-- A plain character is one more character that is printed. -/
theorem exists_fill_of_plain
    (parsed : (parse none rest).map (.plain character :: ·) = some pieces)
    (printed : fill pieces [] = some out) :
    ∃ others later,
      parse none rest = some others ∧ fill others [] = some later ∧
        out.length = later.length + 1 := by
  obtain ⟨others, parsedRest, rfl⟩ := Option.map_eq_some_iff.mp parsed
  obtain ⟨later, printedRest, rfl⟩ := Option.map_eq_some_iff.mp printed
  exact ⟨others, later, parsedRest, printedRest, List.length_cons⟩

/-- Without arguments no more characters are printed than there are in the
format string, and fewer if one of them is a percent sign. -/
theorem length_of_fill_parse
    {opened : Option Flags}
    (parsed : parse opened text = some pieces)
    (printed : fill pieces [] = some out) :
    out.length ≤ text.length ∧
      (opened = none → '%' ∈ text → out.length < text.length) := by
  induction opened, text using parse.induct generalizing pieces out with
  | case1 =>
      cases parsed
      cases printed
      exact ⟨Nat.le_refl _, nofun⟩
  | case2 => cases parsed
  | case3 rest inductionHypothesis =>
      rw [parse, if_pos rfl] at parsed
      obtain ⟨le, -⟩ := inductionHypothesis parsed printed
      have less : out.length < ('%' :: rest).length := Nat.lt_succ_of_le le
      exact ⟨Nat.le_of_lt less, fun _ _ => less⟩
  | case4 character rest other inductionHypothesis =>
      rw [parse, if_neg other] at parsed
      obtain ⟨_, later, parsedRest, printedRest, length⟩ :=
        exists_fill_of_plain parsed printed
      obtain ⟨le, lt⟩ := inductionHypothesis parsedRest printedRest
      rw [length, List.length_cons]
      refine ⟨Nat.succ_le_succ le, ?_⟩
      rintro - (percent | ⟨_, member⟩)
      · exact absurd rfl other
      · exact Nat.succ_lt_succ (lt rfl member)
  | case5 rest inductionHypothesis =>
      rw [parse, if_pos rfl, if_pos rfl] at parsed
      obtain ⟨_, later, parsedRest, printedRest, length⟩ :=
        exists_fill_of_plain parsed printed
      obtain ⟨le, -⟩ := inductionHypothesis parsedRest printedRest
      rw [length, List.length_cons]
      exact ⟨Nat.succ_le_succ le, nofun⟩
  | case6 flags rest used =>
      rw [parse, if_pos rfl, if_neg used] at parsed
      cases parsed
  | case7 flags character rest other extended goesOn inductionHypothesis =>
      simp only [parse, if_neg other, goesOn] at parsed
      obtain ⟨le, -⟩ := inductionHypothesis parsed printed
      exact ⟨Nat.le_succ_of_le le, nofun⟩
  | case8 flags character rest other ends inductionHypothesis =>
      -- the directive has no argument
      simp only [parse, if_neg other, ends] at parsed
      obtain ⟨conversion, -, parsed⟩ := Option.bind_eq_some_iff.mp parsed
      obtain ⟨others, -, same⟩ := Option.bind_eq_some_iff.mp parsed
      cases same
      cases printed

/-- A text as its own format string prints no more characters than it has, and
fewer if one of them is a percent sign. -/
theorem length_of_format
    (printed : format text [] = some out) :
    out.length ≤ text.length ∧ ('%' ∈ text → out.length < text.length) := by
  obtain ⟨pieces, parsed, filled⟩ := Option.bind_eq_some_iff.mp printed
  obtain ⟨le, lt⟩ := length_of_fill_parse parsed filled
  exact ⟨le, lt rfl⟩

/-- The same for texts printed one after the other. -/
theorem length_of_mapM_format
    {texts printed : List (List Char)}
    (all : texts.mapM (format · []) = some printed) :
    printed.flatten.length ≤ texts.flatten.length ∧
      (∀ text ∈ texts, '%' ∈ text →
        printed.flatten.length < texts.flatten.length) := by
  induction texts generalizing printed with
  | nil =>
      cases all
      exact ⟨Nat.le_refl _, nofun⟩
  | cons text texts inductionHypothesis =>
      rw [List.mapM_cons] at all
      obtain ⟨out, printedText, all⟩ := Option.bind_eq_some_iff.mp all
      obtain ⟨later, printedTexts, same⟩ := Option.bind_eq_some_iff.mp all
      cases same
      obtain ⟨le, lt⟩ := length_of_format printedText
      obtain ⟨leLater, ltLater⟩ := inductionHypothesis printedTexts
      simp only [List.flatten_cons, List.length_append, List.forall_mem_cons]
      refine ⟨by omega, fun percent => ?_, fun other member percent => ?_⟩
      · have := lt percent
        omega
      · have := ltLater other member percent
        omega

/-- Texts printed as their own format strings come out as they are exactly where
none of them has a percent sign. -/
theorem mapM_format_eq_some_iff (texts : List (List Char)) :
    (texts.mapM (format · [])).map List.flatten = some texts.flatten ↔
      ∀ text ∈ texts, '%' ∉ text := by
  constructor
  · intro same text member percent
    obtain ⟨printed, all, same⟩ := Option.map_eq_some_iff.mp same
    have less := (length_of_mapM_format all).2 text member percent
    rw [same] at less
    exact Nat.lt_irrefl _ less
  · intro plain
    have all : texts.mapM (format · []) = some texts := by
      induction texts with
      | nil => rfl
      | cons text texts inductionHypothesis =>
          rw [List.forall_mem_cons] at plain
          rw [List.mapM_cons, format_of_plain plain.1,
            inductionHypothesis plain.2]
          rfl
    rw [all]
    rfl

end Formatting
end Foundation
