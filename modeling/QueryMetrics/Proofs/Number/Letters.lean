import QueryMetrics.Metric.Family

/-!
# The characters of numerals

Finite numbers are written with digits, points, exponent marks and signs (`InNumeral`), positionally
or with an exponent, in messages as in the exposition format. No letter of the words for the
infinities is among these, so a finite number is never shown as one of them
(`exposedNumber_ne_infinite`).
-/

namespace QueryMetrics

/-- The characters occur in the numerals of finite numbers. -/
def InNumeral (text : List Char) : Prop :=
  ∀ c ∈ text, c.isDigit = true ∨ c ∈ ['.', 'e', '+', '-']

namespace InNumeral

variable {text first second : List Char} {c : Char}

protected theorem nil : InNumeral [] := nofun

theorem append (h : InNumeral first) (h' : InNumeral second) : InNumeral (first ++ second) :=
  List.forall_mem_append.mpr ⟨h, h'⟩

theorem cons (h : c ∈ ['0', '.', 'e', '+', '-']) (h' : InNumeral text) : InNumeral (c :: text) := by
  refine List.forall_mem_cons.mpr ⟨?_, h'⟩
  obtain rfl | hmark := List.mem_cons.mp h
  · exact .inl (by decide)
  · exact .inr hmark

theorem sublist (h : InNumeral second) (hsub : first.Sublist second) : InNumeral first :=
  fun c hc => h c (hsub.mem hc)

/-- A numeral may be cut at its end. -/
theorem cut (h : InNumeral text) (test : Char → Bool) :
    InNumeral (text.reverse.dropWhile test).reverse := by
  refine h.sublist ?_
  have hsub := (List.dropWhile_sublist test (l := text.reverse)).reverse
  rwa [List.reverse_reverse] at hsub

theorem decimalDigits (n : Nat) : InNumeral (decimalDigits n) :=
  fun _ h => .inl (Nat.isDigit_of_mem_toDigits (by decide) (by decide) h)

theorem zeros (n : Nat) : InNumeral (List.replicate n '0') :=
  fun _ h => .inl (List.eq_of_mem_replicate h ▸ by decide)

theorem dropFinalZeros (h : InNumeral text) : InNumeral (dropFinalZeros text) := by
  unfold QueryMetrics.dropFinalZeros
  split
  · exact .cons (by decide) .nil
  · exact h.cut _

theorem exponentText (exponent : Int) : InNumeral (exponentText exponent) := by
  unfold QueryMetrics.exponentText
  dsimp only
  refine .cons (by split <;> decide) ?_
  split
  · exact .cons (by decide) (.decimalDigits _)
  · exact .decimalDigits _

end InNumeral

theorem Scientific.inNumeral_text (numeral : Scientific) : InNumeral numeral.text := by
  have hdigits : InNumeral (dropFinalZeros (decimalDigits numeral.significand)) :=
    (InNumeral.decimalDigits _).dropFinalZeros
  unfold Scientific.text
  dsimp only
  split
  · refine .append ?_ (.cons (by decide) (.exponentText _))
    split
    next heq => exact heq ▸ hdigits
    next d ds _ heq =>
      rw [heq] at hdigits
      have hd : InNumeral [d] := hdigits.sublist (by simp)
      exact hd.append (.cons (by decide) (hdigits.sublist (List.sublist_cons_self d ds)))
    next => exact .nil
  · split
    · exact (InNumeral.cons (by decide) (.cons (by decide) (.zeros _))).append hdigits
    · refine ((hdigits.sublist (List.take_sublist _ _)).append (.zeros _)).append
        (.cons (by decide) ?_)
      split
      · exact .cons (by decide) .nil
      · exact hdigits.sublist (List.drop_sublist _ _)

theorem Magnitude.inNumeral_text (size : Magnitude) : InNumeral size.text := by
  unfold Magnitude.text
  split
  · exact .cons (by decide) (.cons (by decide) (.cons (by decide) .nil))
  · exact Scientific.inNumeral_text _

theorem Binary64.inNumeral_text {x : Binary64} (h : x.isFinite = true) :
    InNumeral x.text.toList := by
  cases x with
  | nan => cases h
  | infinite negative => cases h
  | finite negative size =>
    unfold Binary64.text
    rw [String.toList_ofList]
    split
    · exact .cons (by decide) size.inNumeral_text
    · exact size.inNumeral_text

theorem inNumeral_exposedNumber {x : Binary64} (h : x.isFinite = true) :
    InNumeral (exposedNumber x).toList := by
  have htext := Binary64.inNumeral_text h
  unfold exposedNumber
  split
  · cases h
  · cases h
  · dsimp only
    split
    · have hwhole := htext.sublist (List.takeWhile_sublist (· ≠ '.'))
      have hfraction := htext.sublist
        ((List.drop_sublist 1 _).trans (List.dropWhile_sublist (· ≠ '.')))
      have hdigits := (hwhole.sublist (List.drop_sublist 1 _)).append hfraction
      rw [String.toList_ofList]
      refine .append (.append (InNumeral.cut ?_ _) (.cons (by decide) (.cons (by decide) .nil))) ?_
      · exact (hwhole.sublist (List.take_sublist 1 _)).append (.cons (by decide) hdigits)
      · split
        · exact .cons (by decide) (.decimalDigits _)
        · exact .decimalDigits _
    · exact htext

/-- A finite number is not shown as infinity is. -/
theorem exposedNumber_ne_infinite {x : Binary64} (h : x.isFinite = true) :
    exposedNumber x ≠ exposedNumber (.infinite false) := by
  intro heq
  have hnumeral := inNumeral_exposedNumber h 'I' (by rw [heq]; decide)
  revert hnumeral
  decide

end QueryMetrics
