/-!
# Splitting texts

A text split at every occurrence of a character. There is always one part more than there are
separators, so parts may be empty, and joining the parts with the separator gives the text back.
-/

namespace QueryMetrics.Text

/-- The parts of a text between separators. -/
def splitAtEvery (separator : Char) : List Char → List (List Char)
  | [] => [[]]
  | c :: rest =>
    if c = separator then [] :: splitAtEvery separator rest
    else
      match splitAtEvery separator rest with
      | [] => [[c]]
      | part :: parts => (c :: part) :: parts

/-- There is at least one part. -/
theorem splitAtEvery_ne_nil (separator : Char) (text : List Char) :
    splitAtEvery separator text ≠ [] := by
  cases text with
  | nil => simp [splitAtEvery]
  | cons c rest =>
    unfold splitAtEvery
    split
    · simp
    · split <;> simp

/-- No part holds a separator. -/
theorem not_mem_of_mem_splitAtEvery {separator : Char} {text part : List Char}
    (h : part ∈ splitAtEvery separator text) : separator ∉ part := by
  induction text generalizing part with
  | nil =>
    have hpart : part = [] := by simpa [splitAtEvery] using h
    simp [hpart]
  | cons c rest ih =>
    unfold splitAtEvery at h
    split at h
    · rcases List.mem_cons.1 h with rfl | hrest
      · simp
      · exact ih hrest
    · rename_i hc
      split at h
      · have hpart : part = [c] := by simpa using h
        simp [hpart, Ne.symm hc]
      · rename_i first parts heq
        rcases List.mem_cons.1 h with rfl | hrest
        · have hfirst : separator ∉ first := ih (by rw [heq]; exact List.mem_cons_self)
          simp [hfirst, Ne.symm hc]
        · exact ih (by rw [heq]; exact List.mem_cons_of_mem _ hrest)

/-- A text occurs in another one, as consecutive characters. -/
def occursIn (part : List Char) : List Char → Bool
  | [] => part.isEmpty
  | c :: rest => part.isPrefixOf (c :: rest) || occursIn part rest

end QueryMetrics.Text
