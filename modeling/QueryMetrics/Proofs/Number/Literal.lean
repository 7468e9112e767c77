import QueryMetrics.Number.Numeral

/-!
# Literals

What a decimal numeral is, put as a grammar and without any reading: an optional sign, and then one
of the words for the infinities and for what is no number, or digits with an optional point and an
optional exponent (`FloatLiteral`). Digits are those of every script, and single underscores may
stand between two of them.

Reading drops the underscores first and then takes the text apart from the front. An underscore is
dropped only between two digits, so the digits at the front of what is left were a part of the text
(`exists_digitPart`), and everything else is left as it stands. Hence the texts that are read are
the literals, and what is read is the number that the literal denotes (`ofNumeral?_eq_some_iff`).
-/

namespace QueryMetrics

open Text

/-! ### The grammar -/

/-- One digit or more, with single underscores between them where there are any, and the values. -/
inductive DigitPart : List Char → List Nat → Prop
  | single {c : Char} {d : Nat} (h : digitValue? c = some d) : DigitPart [c] [d]
  | cons {c : Char} {d : Nat} {text : List Char} {digits : List Nat} (h : digitValue? c = some d)
    (hrest : DigitPart text digits) : DigitPart (c :: text) (d :: digits)
  | underscore {c : Char} {d : Nat} {text : List Char} {digits : List Nat}
    (h : digitValue? c = some d) (hrest : DigitPart text digits) :
    DigitPart (c :: '_' :: text) (d :: digits)

/-- Digits with a point behind, before or among them, and the values on both sides of it. -/
inductive Mantissa : List Char → List Nat → List Nat → Prop
  | whole {text : List Char} {digits : List Nat} (h : DigitPart text digits) :
    Mantissa text digits []
  | point {text : List Char} {digits : List Nat} (h : DigitPart text digits) :
    Mantissa (text ++ ['.']) digits []
  | fraction {text : List Char} {digits : List Nat} (h : DigitPart text digits) :
    Mantissa ('.' :: text) [] digits
  | both {first second : List Char} {whole fraction : List Nat} (h : DigitPart first whole)
    (h' : DigitPart second fraction) : Mantissa (first ++ '.' :: second) whole fraction

/-- An optional sign, and whether it is a minus. -/
inductive Sign : List Char → Bool → Prop
  | none : Sign [] false
  | plus : Sign ['+'] false
  | minus : Sign ['-'] true

/-- An optional exponent. -/
inductive Exponent : List Char → Int → Prop
  | none : Exponent [] 0
  | marked {c : Char} {sign text : List Char} {negative : Bool} {digits : List Nat}
    (hmark : c = 'e' ∨ c = 'E') (hsign : Sign sign negative) (h : DigitPart text digits) :
    Exponent (c :: (sign ++ text))
      (if negative then -(numberOfDigits digits : Int) else numberOfDigits digits)

/-- The word, in any case. -/
def IsWord (word : String) (text : List Char) : Prop := text.map Char.toLower = word.toList

/-- A text that denotes a number: an optional sign, and then a word or a mantissa with an optional
exponent. -/
inductive FloatLiteral : List Char → Binary64 → Prop
  | nan {sign text : List Char} {negative : Bool} (hsign : Sign sign negative)
    (h : IsWord "nan" text) : FloatLiteral (sign ++ text) .nan
  | infinite {sign text : List Char} {negative : Bool} (hsign : Sign sign negative)
    (h : IsWord "inf" text ∨ IsWord "infinity" text) :
    FloatLiteral (sign ++ text) (.infinite negative)
  | number {sign text rest : List Char} {negative : Bool} {whole fraction : List Nat}
    {exponent : Int} (hsign : Sign sign negative) (h : Mantissa text whole fraction)
    (hexponent : Exponent rest exponent) :
    FloatLiteral (sign ++ (text ++ rest))
      (.ofDecimal negative (numberOfDigits (whole ++ fraction)) (exponent - fraction.length))

variable {c : Char} {d : Nat} {text rest plain part : List Char} {digits : List Nat}

/-! ### Digits -/

theorem isDecimalDigit_of_digitValue? (h : digitValue? c = some d) : isDecimalDigit c = true := by
  rw [isDecimalDigit, h]
  rfl

theorem isDecimalDigit_eq_false (h : digitValue? c = none) : isDecimalDigit c = false := by
  rw [isDecimalDigit, h]
  rfl

theorem ne_underscore_of_digitValue? (h : digitValue? c = some d) : c ≠ '_' := by
  rintro rfl
  revert h
  exact (by decide : digitValue? '_' = none) ▸ nofun

/-- The text does not begin with a digit. -/
def NoDigitHead (text : List Char) : Prop := ∀ c ∈ text.head?, digitValue? c = none

theorem noDigitHead_nil : NoDigitHead [] := nofun

theorem noDigitHead_cons (h : digitValue? c = none) : NoDigitHead (c :: rest) := by
  rintro _ ⟨⟩
  exact h

theorem spanDigits_of_noDigitHead (h : NoDigitHead text) : spanDigits text = ([], text) := by
  cases text with
  | nil => rfl
  | cons c rest =>
    have hc := h c rfl
    rw [spanDigits, hc]

theorem spanDigits_cons (h : digitValue? c = some d) (rest : List Char) :
    spanDigits (c :: rest) = (d :: (spanDigits rest).1, (spanDigits rest).2) := by
  rw [spanDigits, h]

/-! ### Underscores -/

theorem dropUnderscores_cons (h : c ≠ '_') (b : Bool) (rest : List Char) :
    dropUnderscores b (c :: rest) = (dropUnderscores (isDecimalDigit c) rest).map (c :: ·) := by
  rw [dropUnderscores]
  · rintro d rest rfl
    exact absurd rfl h
  · rintro rfl
    exact absurd rfl h

/-- An underscore has to stand between digits. -/
theorem dropUnderscores_underscore_cons (b : Bool) (c : Char) (rest : List Char) :
    dropUnderscores b ('_' :: c :: rest) =
      if b && isDecimalDigit c then (dropUnderscores true rest).map (c :: ·) else none := rfl

/-- An underscore after a digit is dropped if a digit follows. -/
theorem dropUnderscores_underscore (h : digitValue? c = some d) (rest : List Char) :
    dropUnderscores true ('_' :: c :: rest) = dropUnderscores true (c :: rest) := by
  rw [dropUnderscores_cons (ne_underscore_of_digitValue? h), dropUnderscores_underscore_cons,
    isDecimalDigit_of_digitValue? h]
  rfl

/-- Only an underscore depends on what stands before it. -/
theorem dropUnderscores_congr (h : text.head? ≠ some '_') (b : Bool) :
    dropUnderscores b text = dropUnderscores false text := by
  cases text with
  | nil => rfl
  | cons c rest =>
    have hc : c ≠ '_' := by simpa using h
    rw [dropUnderscores_cons hc, dropUnderscores_cons hc]

/-- A text that is not empty without underscores begins with what is left of it. -/
theorem exists_of_dropUnderscores_eq_cons (h : dropUnderscores false text = some (c :: plain)) :
    ∃ rest, text = c :: rest ∧ dropUnderscores (isDecimalDigit c) rest = some plain := by
  cases text with
  | nil => cases h
  | cons first rest =>
    by_cases hfirst : first = '_'
    · subst hfirst
      cases rest <;> cases h
    · rw [dropUnderscores_cons hfirst] at h
      obtain ⟨others, hothers, heq⟩ := Option.map_eq_some_iff.mp h
      obtain ⟨rfl, rfl⟩ := List.cons.inj heq
      exact ⟨rest, rfl, hothers⟩

theorem eq_nil_of_dropUnderscores (h : dropUnderscores false text = some []) : text = [] := by
  cases text with
  | nil => rfl
  | cons first rest =>
    by_cases hfirst : first = '_'
    · subst hfirst
      cases rest <;> cases h
    · rw [dropUnderscores_cons hfirst] at h
      obtain ⟨others, -, heq⟩ := Option.map_eq_some_iff.mp h
      cases heq

/-- Nothing is dropped from a text that has no digits left. -/
theorem eq_of_dropUnderscores (h : dropUnderscores false text = some plain)
    (hdigits : ∀ c ∈ plain, digitValue? c = none) : text = plain := by
  induction plain generalizing text with
  | nil => exact eq_nil_of_dropUnderscores h
  | cons c others ih =>
    obtain ⟨rest, rfl, hrest⟩ := exists_of_dropUnderscores_eq_cons h
    obtain ⟨hc, hothers⟩ := List.forall_mem_cons.mp hdigits
    rw [isDecimalDigit_eq_false hc] at hrest
    rw [ih hrest hothers]

/-- Nothing is dropped from a text without underscores. -/
theorem dropUnderscores_eq_self (h : '_' ∉ text) (b : Bool) :
    dropUnderscores b text = some text := by
  induction text generalizing b with
  | nil => rfl
  | cons c rest ih =>
    obtain ⟨hc, hrest⟩ : '_' ≠ c ∧ '_' ∉ rest := by simpa using h
    rw [dropUnderscores_cons hc.symm, ih hrest]
    rfl

/-! ### Parts of digits -/

namespace DigitPart

/-- The digits of a part, without its underscores. -/
def bare (part : List Char) : List Char := part.filter (· ≠ '_')

theorem exists_cons (h : DigitPart part digits) :
    ∃ c d rest, part = c :: rest ∧ digitValue? c = some d := by
  cases h with
  | single hc => exact ⟨_, _, _, rfl, hc⟩
  | cons hc _ => exact ⟨_, _, _, rfl, hc⟩
  | underscore hc _ => exact ⟨_, _, _, rfl, hc⟩

theorem ne_nil (h : DigitPart part digits) : digits ≠ [] := by
  cases h <;> exact List.cons_ne_nil _ _

theorem bare_cons (h : digitValue? c = some d) (part : List Char) :
    bare (c :: part) = c :: bare part :=
  List.filter_cons_of_pos (by simpa using ne_underscore_of_digitValue? h)

/-- The underscores of a part are dropped. -/
theorem dropUnderscores_append (h : DigitPart part digits) (hrest : rest.head? ≠ some '_')
    (b : Bool) :
    dropUnderscores b (part ++ rest) = (dropUnderscores false rest).map (bare part ++ ·) := by
  induction h generalizing b with
  | @single c d hc =>
    rw [List.singleton_append, dropUnderscores_cons (ne_underscore_of_digitValue? hc),
      dropUnderscores_congr hrest, bare_cons hc]
    rfl
  | @cons c d text digits hc _ ih =>
    rw [List.cons_append, dropUnderscores_cons (ne_underscore_of_digitValue? hc), ih,
      bare_cons hc, Option.map_map]
    rfl
  | @underscore c d text digits hc htext ih =>
    obtain ⟨next, value, others, rfl, hnext⟩ := htext.exists_cons
    have hdropped := ih true
    rw [List.cons_append, ← dropUnderscores_underscore hnext] at hdropped
    rw [List.cons_append, dropUnderscores_cons (ne_underscore_of_digitValue? hc),
      isDecimalDigit_of_digitValue? hc, List.cons_append, List.cons_append, hdropped,
      bare_cons hc, Option.map_map]
    rfl

/-- The digits of a part are read up to its end. -/
theorem spanDigits_append (h : DigitPart part digits) (hrest : NoDigitHead rest) :
    spanDigits (bare part ++ rest) = (digits, rest) := by
  induction h with
  | @single c d hc =>
    rw [bare_cons hc, List.cons_append, spanDigits_cons hc]
    exact (congrArg (fun span => (d :: span.1, span.2)) (spanDigits_of_noDigitHead hrest))
  | @cons c d text digits hc _ ih =>
    rw [bare_cons hc, List.cons_append, spanDigits_cons hc, ih]
  | @underscore c d text digits hc _ ih =>
    rw [bare_cons hc, List.cons_append, spanDigits_cons hc]
    exact congrArg (fun span => (d :: span.1, span.2)) ih

end DigitPart

/-- Behind a digit, the digits of a text without its underscores were a part of it. -/
theorem exists_digitPart_of_digit (hc : digitValue? c = some d)
    (h : dropUnderscores true text = some plain) :
    ∃ part rest, text = part ++ rest ∧ DigitPart (c :: part) (d :: (spanDigits plain).1) ∧
      dropUnderscores false rest = some (spanDigits plain).2 := by
  generalize hb : true = b at h
  induction b, text using dropUnderscores.induct generalizing c d plain with
  | case1 b =>
    obtain rfl := Option.some.inj h
    exact ⟨[], [], rfl, .single hc, rfl⟩
  | case2 b next rest hnext ih =>
    -- an underscore and the digit behind it
    subst hb
    have hdigit : isDecimalDigit next = true := by simpa using hnext
    obtain ⟨value, hvalue⟩ := Option.isSome_iff_exists.mp hdigit
    rw [dropUnderscores_underscore hvalue,
      dropUnderscores_cons (ne_underscore_of_digitValue? hvalue), hdigit] at h
    obtain ⟨others, hothers, rfl⟩ := Option.map_eq_some_iff.mp h
    obtain ⟨part, left, rfl, hpart, hleft⟩ := ih hvalue rfl hothers
    rw [spanDigits_cons hvalue]
    exact ⟨'_' :: next :: part, left, rfl, .underscore hc hpart, hleft⟩
  | case3 b next rest hnext =>
    subst hb
    rw [dropUnderscores_underscore_cons, if_neg hnext] at h
    cases h
  | case4 b => cases h
  | case5 b next rest hmore hlast ih =>
    subst hb
    have hnext : next ≠ '_' := by
      rintro rfl
      cases rest with
      | nil => exact hlast rfl rfl
      | cons after others => exact hmore after others rfl rfl
    rw [dropUnderscores_cons hnext] at h
    cases hvalue : digitValue? next with
    | none =>
      obtain ⟨others, -, rfl⟩ := Option.map_eq_some_iff.mp h
      rw [spanDigits_of_noDigitHead (noDigitHead_cons hvalue)]
      exact ⟨[], next :: rest, rfl, .single hc, (dropUnderscores_cons hnext false rest).trans h⟩
    | some value =>
      have hdigit := isDecimalDigit_of_digitValue? hvalue
      obtain ⟨others, hothers, rfl⟩ := Option.map_eq_some_iff.mp h
      obtain ⟨part, left, rfl, hpart, hleft⟩ := ih hvalue hdigit.symm hothers
      rw [spanDigits_cons hvalue]
      exact ⟨next :: part, left, rfl, .cons hc hpart, hleft⟩

/-- The digits at the front of a text without its underscores were a part of it. -/
theorem exists_digitPart (h : dropUnderscores false text = some plain)
    (hsome : ¬ NoDigitHead plain) :
    ∃ part rest, text = part ++ rest ∧ DigitPart part (spanDigits plain).1 ∧
      dropUnderscores false rest = some (spanDigits plain).2 := by
  cases plain with
  | nil => exact absurd noDigitHead_nil hsome
  | cons c others =>
    obtain ⟨rest, rfl, hrest⟩ := exists_of_dropUnderscores_eq_cons h
    cases hc : digitValue? c with
    | none => exact absurd (noDigitHead_cons hc) hsome
    | some d =>
      rw [isDecimalDigit_of_digitValue? hc] at hrest
      obtain ⟨part, left, rfl, hpart, hleft⟩ := exists_digitPart_of_digit hc hrest
      rw [spanDigits_cons hc]
      exact ⟨c :: part, left, rfl, hpart, hleft⟩

/-! ### Signs -/

/-- What stands at the front of a text is kept when its underscores are dropped. -/
theorem head?_of_dropUnderscores (h : dropUnderscores false text = some plain) :
    plain.head? = text.head? := by
  cases plain with
  | nil => rw [eq_nil_of_dropUnderscores h]
  | cons c others =>
    obtain ⟨rest, rfl, -⟩ := exists_of_dropUnderscores_eq_cons h
    rfl

/-- The text does not begin with a sign. -/
def NoSignHead (text : List Char) : Prop := ∀ c ∈ text.head?, c ≠ '+' ∧ c ≠ '-'

theorem Sign.of_dropUnderscores (h : dropUnderscores false text = some plain) :
    ∃ sign rest, text = sign ++ rest ∧ Sign sign (spanSign plain).1 ∧
      dropUnderscores false rest = some (spanSign plain).2 := by
  unfold spanSign
  split
  · obtain ⟨rest, rfl, hrest⟩ := exists_of_dropUnderscores_eq_cons h
    exact ⟨['-'], rest, rfl, .minus, hrest⟩
  · obtain ⟨rest, rfl, hrest⟩ := exists_of_dropUnderscores_eq_cons h
    exact ⟨['+'], rest, rfl, .plus, hrest⟩
  · exact ⟨[], text, rfl, .none, h⟩

theorem Sign.dropUnderscores_append {sign : List Char} {negative : Bool}
    (hsign : Sign sign negative) (h : dropUnderscores false rest = some plain)
    (hplain : NoSignHead plain) :
    dropUnderscores false (sign ++ rest) = some (sign ++ plain) ∧
      spanSign (sign ++ plain) = (negative, plain) := by
  cases hsign with
  | none =>
    refine ⟨h, ?_⟩
    rw [List.nil_append, spanSign]
    · rintro others rfl
      exact (hplain '-' rfl).2 rfl
    · rintro others rfl
      exact (hplain '+' rfl).1 rfl
  | plus =>
    refine ⟨?_, rfl⟩
    rw [List.singleton_append, dropUnderscores_cons (by decide),
      show isDecimalDigit '+' = false by decide, h]
    rfl
  | minus =>
    refine ⟨?_, rfl⟩
    rw [List.singleton_append, dropUnderscores_cons (by decide),
      show isDecimalDigit '-' = false by decide, h]
    rfl

/-! ### Exponents -/

theorem DigitPart.noSignHead (h : DigitPart part digits) : NoSignHead (DigitPart.bare part) := by
  obtain ⟨c, d, rest, rfl, hc⟩ := h.exists_cons
  rw [bare_cons hc]
  rintro _ ⟨⟩
  constructor
  · rintro rfl
    revert hc
    exact (by decide : digitValue? '+' = none) ▸ nofun
  · rintro rfl
    revert hc
    exact (by decide : digitValue? '-' = none) ▸ nofun

theorem DigitPart.dropUnderscores_self (h : DigitPart part digits) :
    dropUnderscores false part = some (DigitPart.bare part) := by
  have hnil : ([] : List Char).head? ≠ some '_' := by simp
  have happend : dropUnderscores false (part ++ []) = some (DigitPart.bare part ++ []) :=
    h.dropUnderscores_append hnil false
  rwa [List.append_nil, List.append_nil] at happend

theorem DigitPart.spanDigits_self (h : DigitPart part digits) :
    spanDigits (DigitPart.bare part) = (digits, []) := by
  have happend := h.spanDigits_append noDigitHead_nil
  rwa [List.append_nil] at happend

theorem digitValue?_of_isExponentMark (h : c = 'e' ∨ c = 'E') : digitValue? c = none := by
  obtain rfl | rfl := h <;> decide

theorem Exponent.of_dropUnderscores (h : dropUnderscores false text = some plain) {exponent : Int}
    (hread : exponentPart? plain = some exponent) : Exponent text exponent := by
  cases plain with
  | nil =>
    obtain rfl := eq_nil_of_dropUnderscores h
    obtain rfl := Option.some.inj hread
    exact .none
  | cons c others =>
    obtain ⟨rest, rfl, hrest⟩ := exists_of_dropUnderscores_eq_cons h
    rw [exponentPart?] at hread
    split at hread
    next hmark =>
      rw [isDecimalDigit_eq_false (digitValue?_of_isExponentMark hmark)] at hrest
      obtain ⟨sign, left, rfl, hsign, hleft⟩ := Sign.of_dropUnderscores hrest
      dsimp only at hread
      split at hread
      next d digits hspan =>
        have hsome : ¬ NoDigitHead (spanSign others).2 := by
          intro hnone
          cases (spanDigits_of_noDigitHead hnone).symm.trans hspan
        obtain ⟨part, left', rfl, hpart, hleft'⟩ := exists_digitPart hleft hsome
        rw [hspan] at hpart hleft'
        obtain rfl := eq_nil_of_dropUnderscores hleft'
        obtain rfl := Option.some.inj hread
        rw [List.append_nil]
        exact .marked hmark hsign hpart
      next => cases hread
    next => cases hread

theorem Exponent.exists_plain {exponent : Int} (h : Exponent text exponent) :
    ∃ plain, dropUnderscores false text = some plain ∧ exponentPart? plain = some exponent := by
  cases h with
  | none => exact ⟨[], rfl, rfl⟩
  | @marked c sign part negative digits hmark hsign hpart =>
    obtain ⟨hdrop, hspan⟩ :=
      hsign.dropUnderscores_append hpart.dropUnderscores_self hpart.noSignHead
    have hc : c ≠ '_' := by obtain rfl | rfl := hmark <;> decide
    refine ⟨c :: (sign ++ DigitPart.bare part), ?_, ?_⟩
    · rw [dropUnderscores_cons hc, isDecimalDigit_eq_false (digitValue?_of_isExponentMark hmark),
        hdrop]
      rfl
    · rw [exponentPart?, if_pos hmark, hspan]
      dsimp only
      rw [hpart.spanDigits_self]
      obtain ⟨d, ds, rfl⟩ := List.exists_cons_of_ne_nil hpart.ne_nil
      rfl

/-- A text that goes on with an exponent, if it goes on. -/
def AtExponent (text : List Char) : Prop := ∀ c ∈ text.head?, c = 'e' ∨ c = 'E'

theorem Exponent.atExponent {exponent : Int} (h : Exponent text exponent) : AtExponent text := by
  cases h with
  | none => nofun
  | marked hmark _ _ =>
    rintro _ ⟨⟩
    exact hmark

theorem AtExponent.noDigitHead (h : AtExponent text) : NoDigitHead text :=
  fun c hc => digitValue?_of_isExponentMark (h c hc)

theorem AtExponent.head?_ne (h : AtExponent text) (hc : c ≠ 'e' ∧ c ≠ 'E') :
    text.head? ≠ some c := by
  intro heq
  obtain rfl | rfl := h c heq
  · exact hc.1 rfl
  · exact hc.2 rfl

/-! ### Mantissas -/

theorem Mantissa.of_dropUnderscores (h : dropUnderscores false text = some plain)
    (hsome : ((spanDigits plain).1.isEmpty &&
      (spanFraction (spanDigits plain).2).1.isEmpty) = false) :
    ∃ part rest, text = part ++ rest ∧
      Mantissa part (spanDigits plain).1 (spanFraction (spanDigits plain).2).1 ∧
      dropUnderscores false rest = some (spanFraction (spanDigits plain).2).2 := by
  by_cases hwhole : NoDigitHead plain
  · rw [spanDigits_of_noDigitHead hwhole] at hsome ⊢
    dsimp only at hsome ⊢
    unfold spanFraction at hsome ⊢
    split at hsome
    next others =>
      obtain ⟨rest, rfl, hrest⟩ := exists_of_dropUnderscores_eq_cons h
      have hfraction : ¬ NoDigitHead others := by
        intro hnone
        rw [spanDigits_of_noDigitHead hnone] at hsome
        cases hsome
      obtain ⟨part, left, rfl, hpart, hleft⟩ := exists_digitPart hrest hfraction
      exact ⟨'.' :: part, left, rfl, .fraction hpart, hleft⟩
    next => cases hsome
  · obtain ⟨part, rest, rfl, hpart, hrest⟩ := exists_digitPart h hwhole
    unfold spanFraction
    split
    next others heq =>
      rw [heq] at hrest
      obtain ⟨left, rfl, hleft⟩ := exists_of_dropUnderscores_eq_cons hrest
      by_cases hfraction : NoDigitHead others
      · rw [spanDigits_of_noDigitHead hfraction]
        exact ⟨part ++ ['.'], left, by simp, .point hpart, hleft⟩
      · obtain ⟨part', left', rfl, hpart', hleft'⟩ := exists_digitPart hleft hfraction
        exact ⟨part ++ '.' :: part', left', by simp, .both hpart hpart', hleft'⟩
    next => exact ⟨part, rest, rfl, .whole hpart, hrest⟩

theorem Mantissa.exists_plain {whole fraction : List Nat} (h : Mantissa part whole fraction)
    (hrest : AtExponent rest) (hdrop : dropUnderscores false rest = some plain) :
    ∃ bare, dropUnderscores false (part ++ rest) = some bare ∧
      (spanDigits bare).1 = whole ∧ spanFraction (spanDigits bare).2 = (fraction, plain) := by
  have hplain : AtExponent plain := by
    rw [AtExponent, head?_of_dropUnderscores hdrop]
    exact hrest
  have hnofraction : spanFraction plain = ([], plain) := by
    rw [spanFraction]
    rintro others rfl
    exact hplain.head?_ne (by decide : '.' ≠ 'e' ∧ '.' ≠ 'E') rfl
  have hunder : rest.head? ≠ some '_' := hrest.head?_ne (by decide)
  have hpoint : ∀ {text plain}, dropUnderscores false text = some plain →
      dropUnderscores false ('.' :: text) = some ('.' :: plain) := by
    intro text plain h
    rw [dropUnderscores_cons (by decide), show isDecimalDigit '.' = false by decide, h]
    rfl
  have hstop : ∀ text, NoDigitHead ('.' :: text) := fun _ => noDigitHead_cons (by decide)
  cases h with
  | whole hpart =>
    refine ⟨DigitPart.bare part ++ plain, ?_, ?_⟩
    · rw [hpart.dropUnderscores_append hunder, hdrop]
      rfl
    · rw [hpart.spanDigits_append hplain.noDigitHead]
      exact ⟨rfl, hnofraction⟩
  | @point part digits hpart =>
    refine ⟨DigitPart.bare part ++ '.' :: plain, ?_, ?_⟩
    · rw [List.append_assoc, List.singleton_append, hpart.dropUnderscores_append (by simp),
        hpoint hdrop]
      rfl
    · rw [hpart.spanDigits_append (hstop _)]
      exact ⟨rfl, spanDigits_of_noDigitHead hplain.noDigitHead⟩
  | @fraction part digits hpart =>
    refine ⟨'.' :: (DigitPart.bare part ++ plain), ?_, ?_⟩
    · rw [List.cons_append]
      apply hpoint
      rw [hpart.dropUnderscores_append hunder, hdrop]
      rfl
    · rw [spanDigits_of_noDigitHead (hstop _)]
      exact ⟨rfl, hpart.spanDigits_append hplain.noDigitHead⟩
  | @both first second digits digits' hfirst hsecond =>
    have hsecond' : dropUnderscores false (second ++ rest) =
        some (DigitPart.bare second ++ plain) := by
      rw [hsecond.dropUnderscores_append hunder, hdrop]
      rfl
    refine ⟨DigitPart.bare first ++ '.' :: (DigitPart.bare second ++ plain), ?_, ?_⟩
    · rw [List.append_assoc, List.cons_append, hfirst.dropUnderscores_append (by simp),
        hpoint hsecond']
      rfl
    · rw [hfirst.spanDigits_append (hstop _)]
      exact ⟨rfl, hsecond.spanDigits_append hplain.noDigitHead⟩

theorem Mantissa.exists_cons {whole fraction : List Nat} (h : Mantissa part whole fraction) :
    ∃ c rest, part = c :: rest ∧ (c = '.' ∨ ∃ d, digitValue? c = some d) := by
  cases h with
  | whole hpart =>
    obtain ⟨c, d, rest, rfl, hc⟩ := hpart.exists_cons
    exact ⟨c, rest, rfl, .inr ⟨d, hc⟩⟩
  | point hpart =>
    obtain ⟨c, d, rest, rfl, hc⟩ := hpart.exists_cons
    exact ⟨c, rest ++ ['.'], rfl, .inr ⟨d, hc⟩⟩
  | fraction hpart => exact ⟨'.', _, rfl, .inl rfl⟩
  | @both first second _ _ hpart _ =>
    obtain ⟨c, d, rest, rfl, hc⟩ := hpart.exists_cons
    exact ⟨c, rest ++ '.' :: second, rfl, .inr ⟨d, hc⟩⟩

theorem Mantissa.hasDigits {whole fraction : List Nat} (h : Mantissa part whole fraction) :
    (whole.isEmpty && fraction.isEmpty) = false := by
  cases h with
  | whole hpart | point hpart | fraction hpart | both hpart _ => simp [hpart.ne_nil]

/-! ### Words -/

/-- What becomes a small letter in lower case is an ASCII letter. -/
theorem isLetter_of_isLower_toLower (h : c.toLower.isLower = true) :
    (65 ≤ c.toNat ∧ c.toNat ≤ 90) ∨ (97 ≤ c.toNat ∧ c.toNat ≤ 122) := by
  unfold Char.toLower at h
  split at h
  next hupper =>
    simp only [ge_iff_le, UInt32.le_iff_toNat_le] at hupper
    exact .inl hupper
  next =>
    obtain ⟨hfirst, hlast⟩ := Bool.and_eq_true_iff.mp h
    exact .inr ⟨UInt32.le_iff_toNat_le.mp (of_decide_eq_true hfirst),
      UInt32.le_iff_toNat_le.mp (of_decide_eq_true hlast)⟩

/-- The letters of a word are no other characters of a numeral. -/
theorem sound_of_isLower_toLower (h : c.toLower.isLower = true) :
    digitValue? c = none ∧ c ≠ '_' ∧ c ≠ '.' ∧ c ≠ '+' ∧ c ≠ '-' := by
  have hletter := isLetter_of_isLower_toLower h
  have hdigit : ¬ c.isDigit = true := by
    rw [Char.isDigit_iff_toNat]
    change ¬ (48 ≤ c.toNat ∧ c.toNat ≤ 57)
    omega
  refine ⟨?_, ?_, ?_, ?_, ?_⟩
  · rw [digitValue?, if_neg hdigit, if_pos (by omega)]
  all_goals
    rintro rfl
    revert hletter
    decide

theorem IsWord.isLower_toLower {word : String} (h : IsWord word text)
    (hword : word.toList.all Char.isLower = true) : ∀ c ∈ text, c.toLower.isLower = true := by
  intro c hc
  refine List.all_eq_true.mp hword c.toLower ?_
  rw [← h]
  exact List.mem_map_of_mem hc

/-- A word is read as it stands. -/
theorem IsWord.dropUnderscores_eq_self {word : String} (h : IsWord word text)
    (hword : word.toList.all Char.isLower = true) :
    dropUnderscores false text = some text ∧ NoSignHead text := by
  have hlower := h.isLower_toLower hword
  constructor
  · apply QueryMetrics.dropUnderscores_eq_self
    intro hmem
    exact (sound_of_isLower_toLower (hlower '_' hmem)).2.1 rfl
  · intro c hc
    have hsmall := hlower c (List.mem_of_mem_head? hc)
    obtain ⟨-, -, -, hplus, hminus⟩ := sound_of_isLower_toLower hsmall
    exact ⟨hplus, hminus⟩

/-! ### Numerals -/

/-- A magnitude that is read is a word, or a mantissa with an optional exponent. -/
theorem FloatLiteral.of_magnitude? {sign : List Char} {negative : Bool} {x : Binary64}
    (hsign : Sign sign negative) (h : dropUnderscores false text = some plain)
    (hread : magnitude? negative plain = some x) : FloatLiteral (sign ++ text) x := by
  have hwhole : ∀ word, IsWord word plain → word.toList.all Char.isLower = true →
      text = plain := by
    intro word hword hlower
    apply eq_of_dropUnderscores h
    intro c hc
    exact (sound_of_isLower_toLower (hword.isLower_toLower hlower c hc)).1
  unfold magnitude? at hread
  extract_lets word at hread
  split at hread
  next hnan =>
    obtain rfl := Option.some.inj hread
    obtain rfl := hwhole "nan" hnan rfl
    exact .nan hsign hnan
  next =>
    split at hread
    next hinfinite =>
      obtain rfl := Option.some.inj hread
      obtain rfl : text = plain := by
        obtain hshort | hlong := hinfinite
        · exact hwhole "inf" hshort rfl
        · exact hwhole "infinity" hlong rfl
      exact .infinite hsign hinfinite
    next =>
      dsimp only at hread
      split at hread
      next => cases hread
      next hsome =>
        obtain ⟨exponent, hexponent, rfl⟩ := Option.map_eq_some_iff.mp hread
        obtain ⟨part, rest, rfl, hmantissa, hrest⟩ :=
          Mantissa.of_dropUnderscores h (Bool.not_eq_true _ ▸ hsome)
        exact .number hsign hmantissa (.of_dropUnderscores hrest hexponent)

/-- A mantissa with an optional exponent is read as a magnitude. -/
theorem Mantissa.magnitude?_eq {whole fraction : List Nat} {exponent : Int} (negative : Bool)
    (h : Mantissa part whole fraction) (hexponent : Exponent rest exponent) :
    ∃ plain, dropUnderscores false (part ++ rest) = some plain ∧ NoSignHead plain ∧
      magnitude? negative plain = some (.ofDecimal negative (numberOfDigits (whole ++ fraction))
        (exponent - fraction.length)) := by
  obtain ⟨marked, hmarked, hread⟩ := hexponent.exists_plain
  obtain ⟨plain, hplain, hwhole, hfraction⟩ := h.exists_plain hexponent.atExponent hmarked
  obtain ⟨c, others, rfl, hc⟩ := h.exists_cons
  have hhead : plain.head? = some c := head?_of_dropUnderscores hplain
  have hnosign : NoSignHead plain := by
    intro first hfirst
    obtain rfl := Option.some.inj (hhead.symm.trans hfirst)
    obtain rfl | ⟨d, hd⟩ := hc
    · decide
    · constructor
      all_goals
        rintro rfl
        cases hd
  -- no word begins with a digit or a point
  have hnoword : ∀ word, word.toList.all Char.isLower = true → ¬ IsWord word plain := by
    intro word hlower hword
    have hsmall := hword.isLower_toLower hlower c (List.mem_of_mem_head? hhead)
    obtain ⟨hnone, -, hpoint, -⟩ := sound_of_isLower_toLower hsmall
    obtain rfl | ⟨d, hd⟩ := hc
    · exact hpoint rfl
    · cases hnone.symm.trans hd
  have hnan : ¬ plain.map Char.toLower = ['n', 'a', 'n'] := hnoword "nan" rfl
  have hshort : ¬ plain.map Char.toLower = ['i', 'n', 'f'] := hnoword "inf" rfl
  have hlong : ¬ plain.map Char.toLower = ['i', 'n', 'f', 'i', 'n', 'i', 't', 'y'] :=
    hnoword "infinity" rfl
  refine ⟨plain, hplain, hnosign, ?_⟩
  unfold magnitude?
  simp only [if_neg hnan, hshort, hlong, or_self, if_false, hwhole, hfraction, h.hasDigits, hread]
  rfl

/-- A sign in front of a magnitude belongs to the numeral. -/
theorem Sign.ofNumeral?_append {sign : List Char} {negative : Bool} {x : Binary64}
    (hsign : Sign sign negative) (h : dropUnderscores false text = some plain)
    (hplain : NoSignHead plain) (hread : magnitude? negative plain = some x) :
    Binary64.ofNumeral? (sign ++ text) = some x := by
  obtain ⟨hdrop, hspan⟩ := hsign.dropUnderscores_append h hplain
  rw [Binary64.ofNumeral?, hdrop, Option.bind_some, hspan]
  exact hread

/-- **Numerals.** The texts that are read as decimal numerals are the literals, and the number is
the one that the literal denotes. -/
theorem ofNumeral?_eq_some_iff {x : Binary64} :
    Binary64.ofNumeral? text = some x ↔ FloatLiteral text x := by
  constructor
  · intro h
    obtain ⟨plain, hplain, hread⟩ := Option.bind_eq_some_iff.mp h
    obtain ⟨sign, rest, rfl, hsign, hrest⟩ := Sign.of_dropUnderscores hplain
    exact .of_magnitude? hsign hrest hread
  · intro h
    cases h with
    | nan hsign hword =>
      obtain ⟨hself, hnosign⟩ := hword.dropUnderscores_eq_self rfl
      exact hsign.ofNumeral?_append hself hnosign (if_pos hword)
    | @infinite sign text negative hsign hword =>
      have hletters : dropUnderscores false text = some text ∧ NoSignHead text := by
        obtain hshort | hlong := hword
        · exact hshort.dropUnderscores_eq_self rfl
        · exact hlong.dropUnderscores_eq_self rfl
      have hnan : ¬ IsWord "nan" text := by
        intro hnan
        obtain hshort | hlong := hword
        · cases hnan.symm.trans hshort
        · cases hnan.symm.trans hlong
      exact hsign.ofNumeral?_append hletters.1 hletters.2 ((if_neg hnan).trans (if_pos hword))
    | @number sign text rest negative whole fraction exponent hsign hmantissa hexponent =>
      obtain ⟨plain, hplain, hnosign, hread⟩ := hmantissa.magnitude?_eq negative hexponent
      exact hsign.ofNumeral?_append hplain hnosign hread

/-- A literal denotes one number. -/
theorem FloatLiteral.unique {x y : Binary64} (hx : FloatLiteral text x) (hy : FloatLiteral text y) :
    x = y :=
  Option.some.inj ((ofNumeral?_eq_some_iff.mpr hx).symm.trans (ofNumeral?_eq_some_iff.mpr hy))

/-- A mantissa alone is a literal. -/
theorem Mantissa.literal {whole fraction : List Nat} (h : Mantissa text whole fraction) :
    FloatLiteral text
      (.ofDecimal false (numberOfDigits (whole ++ fraction)) (-(fraction.length : Int))) := by
  have hliteral := FloatLiteral.number .none h .none
  rwa [List.nil_append, List.append_nil, Int.zero_sub] at hliteral

end QueryMetrics
