/-!
# Spans of code points

Properties of characters are given as tables of **spans**: inclusive ranges of code points, in
ascending order and without overlap. A character has the property when its code point lies in one
of the spans.
-/

namespace QueryMetrics.Text

/-- Some span of the table holds the code point. -/
def inSpans (table : List (Nat × Nat)) (code : Nat) : Bool :=
  table.any fun span => span.1 ≤ code && code ≤ span.2

/-- Membership is membership in one of the spans. -/
theorem inSpans_iff {table : List (Nat × Nat)} {code : Nat} :
    inSpans table code = true ↔ ∃ span ∈ table, span.1 ≤ code ∧ code ≤ span.2 := by
  simp [inSpans]

end QueryMetrics.Text
