import QueryMetrics.Text.CaseTable
import QueryMetrics.Text.Span

/-!
# Lower-casing

Names of columns, labels and keys are compared after full lower-casing. Every character maps on
its own, with two exceptions of the standard:

* **Capital I with a dot above** becomes two characters, `i` and the combining dot `U+0307`.
* **Capital sigma** becomes a final sigma when a letter stands before it and none after it;
  characters such as apostrophes and combining marks are skipped on both sides.

A keyword is recognised the other way round, by capital letters (`spells`).
-/

namespace QueryMetrics.Text

/-! ### Lower case -/

/-- The small letters of a character, wherever it stands. -/
def lowerChar (c : Char) : List Char :=
  if c.toNat < 0x80 then [c.toLower]
  else if c.toNat = 0x130 then ['i', '\u0307']
  else match lowerRuns.find? (·.covers c.toNat) with
    | some run => [Char.ofNat (c.toNat + run.shift).toNat]
    | none => [c]

/-- The character is skipped in the context of a sigma. -/
def isCaseIgnorable (c : Char) : Bool := inSpans caseIgnorableSpans c.toNat

/-- The character is a letter with case that counts in the context of a sigma. -/
def isCased (c : Char) : Bool := inSpans casedSpans c.toNat

/-- The first character that counts is a letter with case. -/
def startsCased : List Char → Bool
  | [] => false
  | c :: rest => if isCaseIgnorable c then startsCased rest else isCased c

/-- Lower-casing of the rest of a text; `afterCased` says that the last character before it that
counts is a letter with case. -/
def lowerFrom (afterCased : Bool) : List Char → List Char
  | [] => []
  | c :: rest =>
    if c = 'Σ' then
      (if afterCased && !startsCased rest then 'ς' else 'σ') :: lowerFrom true rest
    else
      lowerChar c ++ lowerFrom (if isCaseIgnorable c then afterCased else isCased c) rest

/-- The text in lower case. -/
def lowerChars (text : List Char) : List Char := lowerFrom false text

/-- The string in lower case. -/
def lower (text : String) : String := String.ofList (lowerChars text.toList)

/-! ### Keywords -/

/-- The capitals of a character as far as they are ASCII letters; any other character stands for
itself. Beyond ASCII these are the long s, the dotless i, the sharp s and the ligatures. -/
def capitals (c : Char) : List Char :=
  if c.toNat < 0x80 then [c.toUpper]
  else match c.toNat with
    | 0xDF => ['S', 'S']
    | 0x131 => ['I']
    | 0x17F => ['S']
    | 0xFB00 => ['F', 'F']
    | 0xFB01 => ['F', 'I']
    | 0xFB02 => ['F', 'L']
    | 0xFB03 => ['F', 'F', 'I']
    | 0xFB04 => ['F', 'F', 'L']
    | 0xFB05 => ['S', 'T']
    | 0xFB06 => ['S', 'T']
    | _ => [c]

/-- The text is the keyword once all its letters are capitals. Keywords are written in ASCII
capitals. -/
def spells (keyword text : String) : Bool := text.toList.flatMap capitals == keyword.toList

end QueryMetrics.Text
