import QueryMetrics.Text.Quoted

/-!
# Loose texts

A document can hold texts with code units that stand alone: halves of pairs, to which no character
belongs. Such a text is kept with the replacement character in the place of each of them, and
beside it the code units themselves.

Most uses of a text do not notice the difference. A path does: the system takes octets, and only
the code units that were made from single octets can be given to it. The others are **stray**.
-/

namespace QueryMetrics.Text

/-- A character, or a code unit that stands alone. -/
inductive Letter where
  | char (c : Char)
  | unit (code : Nat)
  deriving DecidableEq, Repr

/-- What stands for code units that stand alone. -/
def replacementChar : Char := '\ufffd'

/-- The character that is shown for a letter. -/
def Letter.shown : Letter → Char
  | char c => c
  | unit _ => replacementChar

/-- A text that may hold code units that stand alone. -/
structure LooseText where
  text : String
  /-- For the replacement characters of the text in order: the code unit that it stands for, if it
  does. A replacement character without an entry stands for itself. -/
  units : List (Option Nat) := []
  deriving DecidableEq, Repr

/-- Code units that no path may hold: the first of a row of code units, the position at which it
stands, and the position of the last one of the row. -/
structure StrayUnits where
  code : Nat
  first : Nat
  last : Nat
  deriving DecidableEq, Repr

/-- Stray code units as a sentence. -/
def StrayUnits.message (stray : StrayUnits) : String :=
  "'utf-8' codec can't encode character" ++
    (if stray.first = stray.last then
      " '\\u" ++ String.ofList (hexadecimal 4 stray.code) ++ "' in position " ++
        toString stray.first
    else "s in position " ++ toString stray.first ++ "-" ++ toString stray.last) ++
    ": surrogates not allowed"

namespace LooseText

/-- The text of letters. -/
def ofLetters (letters : List Letter) : LooseText where
  text := String.ofList (letters.map Letter.shown)
  units := letters.filterMap fun letter =>
    match letter with
    | .unit code => some (some code)
    | .char c => if c = replacementChar then some none else none

/-- The letters of a text with the code units in it. -/
def lettersOf : List (Option Nat) → List Char → List Letter
  | _, [] => []
  | units, c :: rest =>
    if c = replacementChar then
      (match units with
        | some code :: _ => .unit code
        | _ => .char c) :: lettersOf (units.drop 1) rest
    else .char c :: lettersOf units rest

/-- The letters. -/
def letters (loose : LooseText) : List Letter := lettersOf loose.units loose.text.toList

/-- No code unit stands alone. -/
def isPlain (loose : LooseText) : Bool := loose.units.all Option.isNone

/-- Gives every part of a text its share of the code units; the parts hold all replacement
characters of the text in order. -/
def share : List (Option Nat) → List String → List LooseText
  | _, [] => []
  | units, part :: parts =>
    let count := part.toList.count replacementChar
    ⟨part, units.take count⟩ :: share (units.drop count) parts

/-- The code unit was made from an octet. -/
def isOctetUnit (code : Nat) : Bool := 0xDC80 ≤ code ∧ code ≤ 0xDCFF

/-- The code units at the front, up to the first character. -/
def leadingUnits : List Letter → List Nat
  | .unit code :: rest => code :: leadingUnits rest
  | _ => []

/-- The first stray code units, from a position on. -/
def strayFrom (position : Nat) : List Letter → Option StrayUnits
  | [] => none
  | .char _ :: rest => strayFrom (position + 1) rest
  | .unit code :: rest =>
    if isOctetUnit code then strayFrom (position + 1) rest
    else some ⟨code, position, position + (leadingUnits rest).length⟩

/-- The first stray code units. -/
def stray? (loose : LooseText) : Option StrayUnits := strayFrom 0 loose.letters

/-! ### Letters back and forth -/

theorem lettersOf_units (letters : List Letter) :
    lettersOf (ofLetters letters).units (letters.map Letter.shown) = letters := by
  induction letters with
  | nil => rfl
  | cons letter rest ih =>
    simp only [ofLetters] at ih
    cases letter with
    | unit code => simp [ofLetters, lettersOf, Letter.shown, ih]
    | char c =>
      by_cases h : c = replacementChar
      · simp [ofLetters, lettersOf, Letter.shown, h, ih]
      · simp [ofLetters, lettersOf, Letter.shown, h, ih]

/-- The letters of a text are those that it was made of. -/
theorem letters_ofLetters (letters : List Letter) : (ofLetters letters).letters = letters := by
  have hchars : (ofLetters letters).text.toList = letters.map Letter.shown := by simp [ofLetters]
  rw [LooseText.letters, hchars, lettersOf_units]

end LooseText

end QueryMetrics.Text
