import Mathlib.Data.List.Basic

/-!
# Text in blocks of fixed size

A block of some size in bytes holds characters of some width. Characters are put
behind its text one by one, or a text is written with the terminator behind it;
what would be written past the end of the block has no result.
-/

namespace Foundation

/-- A block with the text written into it. -/
structure TextBlock (width size : Nat) where
  /-- The characters from the beginning of the block on. -/
  text : List Char
  /-- They are inside the block. -/
  fits : width * text.length ≤ size

namespace TextBlock

variable {width size : Nat}

/-- A block without text. -/
def empty : TextBlock width size where
  text := []
  fits := Nat.zero_le _

/-- One more character. -/
def put (block : TextBlock width size) (character : Char) :
    Option (TextBlock width size) :=
  if room : width * (block.text.length + 1) ≤ size then
    some {
      text := block.text ++ [character]
      fits := by rwa [List.length_append] }
  else none

/-- More characters, one after the other. -/
def putAll (block : TextBlock width size) :
    List Char → Option (TextBlock width size)
  | [] => some block
  | character :: rest => do
      let next ← block.put character
      next.putAll rest

/-- The text, with the terminator written behind it. -/
def terminate (block : TextBlock width size) : Option (List Char) :=
  if width * (block.text.length + 1) ≤ size then some block.text else none

/-- A text and its terminator, from the beginning of the block on. -/
def print (text : List Char) : Option (TextBlock width size) :=
  if room : width * (text.length + 1) ≤ size then
    some {
      text := text
      fits := Nat.le_trans (Nat.mul_le_mul_left width (Nat.le_succ _)) room }
  else none

/-- `strcat`: a text and its terminator behind the text of the block. -/
def concat (block : TextBlock width size) (text : List Char) :
    Option (TextBlock width size) :=
  print (block.text ++ text)

/-- One text after the other. -/
def concatAll (block : TextBlock width size) :
    List (List Char) → Option (TextBlock width size)
  | [] => some block
  | text :: rest => do
      let next ← block.concat text
      next.concatAll rest

@[ext] theorem ext
    {first second : TextBlock width size}
    (same : first.text = second.text) : first = second := by
  cases first
  cases second
  cases same
  rfl

/-! ## What is written fits -/

/-- A block that is written where there is room for it has its text there. -/
theorem dite_eq_some_iff
    {room : Prop}
    [Decidable room]
    {block : room → TextBlock width size}
    {text : List Char}
    (holds : ∀ present, (block present).text = text)
    {next : TextBlock width size} :
    (if present : room then some (block present) else none) = some next ↔
      room ∧ next.text = text := by
  split
  case isTrue present =>
    rw [Option.some.injEq, TextBlock.ext_iff, holds present]
    exact ⟨fun same => ⟨present, same.symm⟩, fun same => same.2.symm⟩
  case isFalse short => exact iff_of_false nofun fun same => short same.1

/-- A character is put where it fits. -/
theorem put_eq_some_iff
    {block next : TextBlock width size}
    {character : Char} :
    block.put character = some next ↔
      width * (block.text.length + 1) ≤ size ∧
        next.text = block.text ++ [character] := by
  unfold put
  apply dite_eq_some_iff
  exact fun _ => rfl

/-- Characters are put where all of them fit. -/
theorem putAll_eq_some_iff
    {block next : TextBlock width size}
    {characters : List Char} :
    block.putAll characters = some next ↔
      width * (block.text.length + characters.length) ≤ size ∧
        next.text = block.text ++ characters := by
  induction characters generalizing block with
  | nil =>
      rw [putAll, Option.some.injEq, TextBlock.ext_iff, List.append_nil]
      exact ⟨fun same => ⟨block.fits, same.symm⟩, fun same => same.2.symm⟩
  | cons character rest inductionHypothesis =>
      have length (middle : TextBlock width size)
          (text : middle.text = block.text ++ [character]) :
          middle.text.length + rest.length =
            block.text.length + (character :: rest).length := by
        rw [text, List.length_append, List.length_cons, List.length_nil,
          List.length_cons]
        omega
      rw [putAll, Option.bind_eq_bind, Option.bind_eq_some_iff]
      constructor
      · rintro ⟨middle, first, later⟩
        obtain ⟨-, text⟩ := put_eq_some_iff.mp first
        obtain ⟨room, all⟩ := inductionHypothesis.mp later
        rw [length middle text] at room
        exact ⟨room, by rw [all, text, ← List.append_cons]⟩
      · rintro ⟨room, all⟩
        have first : width * (block.text.length + 1) ≤ size := by
          apply Nat.le_trans _ room
          apply Nat.mul_le_mul_left
          rw [List.length_cons]
          omega
        let middle : TextBlock width size :=
          ⟨block.text ++ [character], by rwa [List.length_append]⟩
        refine ⟨middle, put_eq_some_iff.mpr ⟨first, rfl⟩, ?_⟩
        apply inductionHypothesis.mpr
        rw [length middle rfl, all, List.append_cons]
        exact ⟨room, rfl⟩

/-- A text is terminated where the terminator fits. -/
theorem terminate_eq_some_iff
    {block : TextBlock width size}
    {text : List Char} :
    block.terminate = some text ↔
      width * (block.text.length + 1) ≤ size ∧ block.text = text := by
  rw [terminate, Option.ite_none_right_eq_some, Option.some.injEq]

/-- A text is printed where it fits with its terminator. -/
theorem print_eq_some_iff
    {text : List Char}
    {block : TextBlock width size} :
    print text = some block ↔
      width * (text.length + 1) ≤ size ∧ block.text = text := by
  unfold print
  apply dite_eq_some_iff
  exact fun _ => rfl

/-- Behind a terminated text, texts are written where all of them fit with one
terminator. -/
theorem concatAll_eq_some_iff
    {block next : TextBlock width size}
    (terminated : width * (block.text.length + 1) ≤ size)
    {texts : List (List Char)} :
    block.concatAll texts = some next ↔
      width * (block.text.length + texts.flatten.length + 1) ≤ size ∧
        next.text = block.text ++ texts.flatten := by
  induction texts generalizing block with
  | nil =>
      rw [concatAll, Option.some.injEq, TextBlock.ext_iff, List.flatten_nil,
        List.append_nil]
      exact ⟨fun same => ⟨terminated, same.symm⟩, fun same => same.2.symm⟩
  | cons text rest inductionHypothesis =>
      rw [concatAll, Option.bind_eq_bind, Option.bind_eq_some_iff,
        List.flatten_cons, List.length_append, ← List.append_assoc]
      constructor
      · rintro ⟨middle, first, later⟩
        obtain ⟨room, same⟩ := print_eq_some_iff.mp first
        rw [← same] at room
        obtain ⟨all, text⟩ := (inductionHypothesis room).mp later
        rw [same, List.length_append] at all
        rw [same] at text
        exact ⟨by rwa [← Nat.add_assoc], text⟩
      · rintro ⟨room, all⟩
        have first : width * ((block.text ++ text).length + 1) ≤ size := by
          apply Nat.le_trans _ room
          apply Nat.mul_le_mul_left
          rw [List.length_append]
          omega
        let middle : TextBlock width size :=
          ⟨block.text ++ text,
            Nat.le_trans (Nat.mul_le_mul_left width (Nat.le_succ _)) first⟩
        refine ⟨middle, print_eq_some_iff.mpr ⟨first, rfl⟩, ?_⟩
        apply (inductionHypothesis first).mpr
        refine ⟨?_, all⟩
        rwa [List.length_append, Nat.add_assoc (List.length _)]

/-- Texts are written behind a terminated one exactly where they fit. -/
theorem isSome_concatAll_iff
    {block : TextBlock width size}
    (terminated : width * (block.text.length + 1) ≤ size)
    (texts : List (List Char)) :
    (block.concatAll texts).isSome = true ↔
      width * (block.text.length + texts.flatten.length + 1) ≤ size := by
  rw [Option.isSome_iff_exists]
  simp only [concatAll_eq_some_iff terminated]
  constructor
  · rintro ⟨next, room, -⟩
    exact room
  · intro room
    refine ⟨⟨block.text ++ texts.flatten, ?_⟩, room, rfl⟩
    rw [List.length_append]
    exact Nat.le_trans (Nat.mul_le_mul_left width (Nat.le_succ _)) room

/-! ## A text written in parts -/

/-- Characters are put in parts as they are at once. -/
theorem putAll_append
    (block : TextBlock width size)
    (first second : List Char) :
    block.putAll (first ++ second) =
      (block.putAll first).bind fun next => next.putAll second := by
  induction first generalizing block with
  | nil => rfl
  | cons character first inductionHypothesis =>
      rw [List.cons_append, putAll, putAll, Option.bind_eq_bind,
        Option.bind_assoc]
      exact congrArg _ (funext inductionHypothesis)

theorem put_eq_putAll
    (block : TextBlock width size)
    (character : Char) : block.put character = block.putAll [character] := by
  rw [putAll]
  cases block.put character <;> rfl

/-- A text that is printed, continued and terminated is written where all of it
fits with its terminator. -/
theorem bind_print_putAll
    (printed rest : List Char) :
    ((print printed : Option (TextBlock width size)).bind fun block =>
        (block.putAll rest).bind terminate) =
      if width * (printed.length + rest.length + 1) ≤ size then
        some (printed ++ rest)
      else none := by
  split
  case isTrue room =>
    have first : width * (printed.length + 1) ≤ size :=
      Nat.le_trans (Nat.mul_le_mul_left width (by omega)) room
    have second : width * (printed.length + rest.length) ≤ size :=
      Nat.le_trans (Nat.mul_le_mul_left width (by omega)) room
    let block : TextBlock width size :=
      ⟨printed, Nat.le_trans (Nat.mul_le_mul_left width (by omega)) room⟩
    let all : TextBlock width size :=
      ⟨printed ++ rest, by rwa [List.length_append]⟩
    have prints : print printed = some block :=
      print_eq_some_iff.mpr ⟨first, rfl⟩
    have puts : block.putAll rest = some all :=
      putAll_eq_some_iff.mpr ⟨second, rfl⟩
    rw [prints, Option.bind_some, puts, Option.bind_some]
    exact terminate_eq_some_iff.mpr ⟨by rwa [List.length_append], rfl⟩
  case isFalse short =>
    rw [Option.eq_none_iff_forall_not_mem]
    intro text written
    obtain ⟨block, prints, written⟩ := Option.bind_eq_some_iff.mp written
    obtain ⟨all, puts, written⟩ := Option.bind_eq_some_iff.mp written
    obtain ⟨-, blockText⟩ := print_eq_some_iff.mp prints
    obtain ⟨-, allText⟩ := putAll_eq_some_iff.mp puts
    obtain ⟨room, -⟩ := terminate_eq_some_iff.mp written
    rw [allText, blockText, List.length_append] at room
    exact short room

end TextBlock
end Foundation
