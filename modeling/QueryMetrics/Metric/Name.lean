import QueryMetrics.Text.Case

/-!
# Metric names

A metric name is built from a namespace, the context of the definition and a last part, joined by
underscores; empty parts are left out. The last part is the name of a column or, for definitions
that name metrics by the rows, a cleaned value of the row.
-/

namespace QueryMetrics

open Text

/-- Characters that are left out of names. -/
def isNameNoise (c : Char) : Bool := c = '(' ∨ c = ')' ∨ c = '/' ∨ c = '*'

/-- A row value as a part of a name: blanks become underscores, parentheses, slashes and asterisks
are left out, and the rest is put in lower case. -/
def cleanName (value : String) : String :=
  let underscored := value.toList.map fun c => if c = ' ' then '_' else c
  String.ofList (lowerChars (underscored.filter fun c => !isNameNoise c))

/-- The parts that are not empty, joined by underscores. -/
def qualifiedName (parts : List String) : String :=
  "_".intercalate (parts.filter fun part => !part.isEmpty)

/-- A single part is its own name. -/
theorem qualifiedName_singleton (part : String) : qualifiedName [part] = part := by
  unfold qualifiedName
  by_cases h : part.isEmpty
  · have : part = "" := String.isEmpty_iff.1 h
    subst this
    rfl
  · simp [h]

end QueryMetrics
