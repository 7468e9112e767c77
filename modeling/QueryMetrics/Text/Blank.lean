import QueryMetrics.Text.Span

/-!
# Blank characters

The characters that are dropped around numbers and names: the white space of Unicode together
with the four separators `U+001C` to `U+001F`. The no-break spaces belong to them.
-/

namespace QueryMetrics.Text

/-- Spans of the blank characters. -/
def blankSpans : List (Nat × Nat) :=
  [(0x9, 0xD), (0x1C, 0x20), (0x85, 0x85), (0xA0, 0xA0), (0x1680, 0x1680), (0x2000, 0x200A),
   (0x2028, 0x2029), (0x202F, 0x202F), (0x205F, 0x205F), (0x3000, 0x3000)]

/-- The character is blank. -/
def isBlank (c : Char) : Bool := inSpans blankSpans c.toNat

/-- The text without blanks at its two ends. -/
def trim (text : List Char) : List Char :=
  ((text.dropWhile isBlank).reverse.dropWhile isBlank).reverse

/-- The string without blanks at its two ends. -/
def strip (text : String) : String := String.ofList (trim text.toList)

/-- Nothing is left of the string but blanks. -/
def isBlankText (text : String) : Bool := text.toList.all isBlank

/-- Every character that core counts as white space is blank. -/
theorem isBlank_of_isWhitespace {c : Char} (h : c.isWhitespace = true) : isBlank c = true := by
  simp only [Char.isWhitespace, Bool.or_eq_true, decide_eq_true_eq] at h
  rcases h with ((h | h) | h) | h <;> subst h <;> decide

end QueryMetrics.Text
