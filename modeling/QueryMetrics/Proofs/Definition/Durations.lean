import QueryMetrics.Duration
import QueryMetrics.Proofs.Number.Literal
import QueryMetrics.Proofs.Number.Order

/-!
# The grammar of durations

A duration is a literal, or is split into parts: amounts, each with a unit behind it and nothing in
between. An amount is digits with an optional point (`Duration.IsAmount`), and there are seven names
of units (`Duration.unitTable`). A part carries the number that its amount denotes as a literal, so
the grammar does not mention how a text is read.

Reading goes from the front, and every part is read up to its end: an amount stops before a unit,
and a unit stops before an amount or at the end of the text (`Duration.Part.part?_append`). This
last point is what tells `m` from `ms`. So the text determines its parts
(`Duration.split_unique`), and reading finds them whenever there are any.

The main statement is `Duration.parseDuration_followsGrammar`: of every text, what it denotes, and
otherwise which error it is.
-/

namespace QueryMetrics

open Text

namespace Duration

/-! ### The grammar -/

/-- The names of the units. -/
def unitTable : List (List Char × Unit) :=
  [(['n', 's'], .nanosecond), (['u', 's'], .microsecond), (['µ', 's'], .microsecond),
    (['m', 's'], .millisecond), (['s'], .second), (['m'], .minute), (['h'], .hour)]

/-- The text has nothing but decimal digits. -/
def AllDigits (text : List Char) : Prop := ∀ c ∈ text, isDecimalDigit c = true

/-- Digits, possibly with a point behind or among them; or a point and digits. -/
inductive IsAmount : List Char → Prop
  | whole {whole : List Char} (h : AllDigits whole) (hsome : whole ≠ []) : IsAmount whole
  | point {whole fraction : List Char} (h : AllDigits whole) (hsome : whole ≠ [])
    (hfraction : AllDigits fraction) : IsAmount (whole ++ '.' :: fraction)
  | fraction {fraction : List Char} (h : AllDigits fraction) (hsome : fraction ≠ []) :
    IsAmount ('.' :: fraction)

/-- An amount of a unit. -/
structure Part where
  amount : List Char
  number : Binary64
  name : List Char
  unit : Unit
  isAmount : IsAmount amount
  /-- The number is the one that the amount denotes. -/
  denotes : FloatLiteral amount number
  isName : (name, unit) ∈ unitTable

namespace Part

/-- The part as it is written. -/
def text (part : Part) : List Char := part.amount ++ part.name

/-- The seconds in the part. -/
def seconds (part : Part) : Binary64 := part.number * part.unit.seconds

end Part

/-- The sum of parts, from left to right. -/
def total (parts : List Part) : Binary64 :=
  parts.foldl (fun seconds part => seconds + part.seconds) .zero

variable {text rest whole fraction name : List Char} {unit : Unit} {c : Char} {x : Binary64}

/-! ### Units -/

/-- A unit is read up to its end unless an `s` follows. -/
theorem unit?_append (h : (name, unit) ∈ unitTable) (hrest : rest.head? ≠ some 's') :
    unit? (name ++ rest) = some (unit, rest) := by
  simp only [unitTable, List.mem_cons, Prod.mk.injEq, List.not_mem_nil, or_false] at h
  obtain ⟨rfl, rfl⟩ | ⟨rfl, rfl⟩ | ⟨rfl, rfl⟩ | ⟨rfl, rfl⟩ | ⟨rfl, rfl⟩ | ⟨rfl, rfl⟩ |
    ⟨rfl, rfl⟩ := h
  case inr.inr.inr.inr.inr.inl =>
    -- minutes: `ms` would be a unit of its own
    cases rest with
    | nil => rfl
    | cons c others =>
      have hc : c ≠ 's' := by simpa using hrest
      simp [unit?, hc]
  all_goals rfl

/-- What is read as a unit is the name of one. -/
theorem exists_of_unit? (h : unit? text = some (unit, rest)) :
    ∃ name, text = name ++ rest ∧ (name, unit) ∈ unitTable := by
  unfold unit? at h
  split at h
  case h_8 => cases h
  all_goals obtain ⟨rfl, rfl⟩ := Prod.mk.inj (Option.some.inj h)
  case h_1 => exact ⟨['n', 's'], rfl, by decide⟩
  case h_2 => exact ⟨['u', 's'], rfl, by decide⟩
  case h_3 => exact ⟨['µ', 's'], rfl, by decide⟩
  case h_4 => exact ⟨['m', 's'], rfl, by decide⟩
  case h_5 => exact ⟨['s'], rfl, by decide⟩
  case h_6 => exact ⟨['m'], rfl, by decide⟩
  case h_7 => exact ⟨['h'], rfl, by decide⟩

/-- The first letter of a unit belongs to no amount. -/
theorem exists_cons_of_mem_unitTable (h : (name, unit) ∈ unitTable) :
    ∃ c others, name = c :: others ∧ digitValue? c = none ∧ c ≠ '.' := by
  have hsome : ∀ entry ∈ unitTable, entry.1 ≠ [] := by decide
  have hfirst : ∀ entry ∈ unitTable,
      entry.1.head?.all (fun c => (digitValue? c).isNone && c != '.') = true := by
    decide
  obtain ⟨c, others, rfl⟩ : ∃ c others, name = c :: others :=
    List.exists_cons_of_ne_nil (hsome _ h)
  have hletter : ((digitValue? c).isNone && c != '.') = true := hfirst _ h
  exact ⟨c, others, rfl, by simpa using hletter⟩

/-- A name belongs to one unit. -/
theorem eq_of_mem_unitTable {unit' : Unit} (h : (name, unit) ∈ unitTable)
    (h' : (name, unit') ∈ unitTable) : unit = unit' := by
  have hnil : ([] : List Char).head? ≠ some 's' := by simp
  have hunit := unit?_append h hnil
  have hunit' := unit?_append h' hnil
  exact (Prod.mk.inj (Option.some.inj (hunit.symm.trans hunit'))).1

/-! ### Amounts -/

/-- The values of the digits in a text. -/
def values (text : List Char) : List Nat := text.filterMap digitValue?

theorem AllDigits.digitPart (h : AllDigits text) (hsome : text ≠ []) :
    DigitPart text (values text) := by
  induction text with
  | nil => exact absurd rfl hsome
  | cons c others ih =>
    obtain ⟨hc, hothers⟩ := List.forall_mem_cons.mp h
    obtain ⟨d, hd⟩ := Option.isSome_iff_exists.mp hc
    rw [values, List.filterMap_cons_some hd]
    cases others with
    | nil => exact .single hd
    | cons next rest => exact .cons hd (ih hothers (List.cons_ne_nil next rest))

/-- Digits are read up to their end. -/
theorem AllDigits.spanDigits_append (h : AllDigits text) (hrest : NoDigitHead rest) :
    spanDigits (text ++ rest) = (values text, rest) := by
  induction text with
  | nil => exact spanDigits_of_noDigitHead hrest
  | cons c others ih =>
    obtain ⟨hc, hothers⟩ := List.forall_mem_cons.mp h
    obtain ⟨d, hd⟩ := Option.isSome_iff_exists.mp hc
    rw [List.cons_append, spanDigits_cons hd, ih hothers, values, values,
      List.filterMap_cons_some hd]

/-- What is read as digits is nothing but digits. -/
theorem exists_of_spanDigits (text : List Char) :
    ∃ front rest, text = front ++ rest ∧ AllDigits front ∧
      spanDigits text = (values front, rest) := by
  induction text with
  | nil => exact ⟨[], [], rfl, nofun, rfl⟩
  | cons c others ih =>
    cases hc : digitValue? c with
    | none =>
      exact ⟨[], c :: others, rfl, nofun, spanDigits_of_noDigitHead (noDigitHead_cons hc)⟩
    | some d =>
      obtain ⟨front, rest, rfl, hfront, hspan⟩ := ih
      refine ⟨c :: front, rest, rfl, ?_, ?_⟩
      · exact List.forall_mem_cons.mpr ⟨isDecimalDigit_of_digitValue? hc, hfront⟩
      · rw [spanDigits_cons hc, hspan, values, values, List.filterMap_cons_some hc]

theorem noDigitHead_point (text : List Char) : NoDigitHead ('.' :: text) :=
  noDigitHead_cons (by decide)

/-- An amount is a mantissa, and is taken apart up to its end unless a digit or a point follows. -/
theorem IsAmount.exists_mantissa {amount : List Char} (h : IsAmount amount)
    (hdigit : NoDigitHead rest) (hpoint : rest.head? ≠ some '.') :
    ∃ digits digits', Mantissa amount digits digits' ∧
      (spanDigits (amount ++ rest)).1 = digits ∧
      spanFraction (spanDigits (amount ++ rest)).2 = (digits', rest) := by
  have hnofraction : spanFraction rest = ([], rest) := by
    rw [spanFraction]
    rintro others rfl
    exact hpoint rfl
  cases h with
  | whole hwhole hsome =>
    rw [hwhole.spanDigits_append hdigit]
    exact ⟨_, _, .whole (hwhole.digitPart hsome), rfl, hnofraction⟩
  | @point whole fraction hwhole hsome hfraction =>
    rw [List.append_assoc, List.cons_append, hwhole.spanDigits_append (noDigitHead_point _)]
    refine ⟨values whole, values fraction, ?_, rfl, hfraction.spanDigits_append hdigit⟩
    by_cases hnone : fraction = []
    · subst hnone
      exact .point (hwhole.digitPart hsome)
    · exact .both (hwhole.digitPart hsome) (hfraction.digitPart hnone)
  | fraction hfraction hsome =>
    rw [List.cons_append, spanDigits_of_noDigitHead (noDigitHead_point _)]
    exact ⟨_, _, .fraction (hfraction.digitPart hsome), rfl, hfraction.spanDigits_append hdigit⟩

/-- An amount is read up to its end unless a digit or a point follows. -/
theorem IsAmount.amount?_append {amount : List Char} (h : IsAmount amount)
    (hdenotes : FloatLiteral amount x) (hdigit : NoDigitHead rest)
    (hpoint : rest.head? ≠ some '.') : amount? (amount ++ rest) = some (x, rest) := by
  obtain ⟨digits, digits', hmantissa, hwhole, hfraction⟩ := h.exists_mantissa hdigit hpoint
  obtain rfl := hdenotes.unique hmantissa.literal
  unfold amount?
  simp only [hwhole, hfraction, hmantissa.hasDigits]
  rfl

theorem spanFraction_cases (text : List Char) :
    (∃ rest, text = '.' :: rest) ∨ spanFraction text = ([], text) := by
  unfold spanFraction
  split
  · exact .inl ⟨_, rfl⟩
  · exact .inr rfl

/-- What is read as an amount is one, and denotes the number that is read. -/
theorem exists_of_amount? (h : amount? text = some (x, rest)) :
    ∃ amount, text = amount ++ rest ∧ IsAmount amount ∧ FloatLiteral amount x := by
  obtain ⟨whole, after, rfl, hwhole, hspan⟩ := exists_of_spanDigits text
  unfold amount? at h
  simp only [hspan] at h
  obtain ⟨others, rfl⟩ | hnone := spanFraction_cases after
  · obtain ⟨fraction, left, rfl, hfraction, hspan'⟩ := exists_of_spanDigits others
    rw [spanFraction, hspan'] at h
    split at h
    next => cases h
    next hsome =>
      obtain ⟨rfl, rfl⟩ := Prod.mk.inj (Option.some.inj h)
      by_cases hempty : whole = []
      · subst hempty
        have hdigits : fraction ≠ [] := by
          rintro rfl
          exact hsome rfl
        exact ⟨'.' :: fraction, rfl, .fraction hfraction hdigits,
          (Mantissa.fraction (hfraction.digitPart hdigits)).literal⟩
      · refine ⟨whole ++ '.' :: fraction, by simp, .point hwhole hempty hfraction, ?_⟩
        by_cases hpoint : fraction = []
        · subst hpoint
          exact (Mantissa.point (hwhole.digitPart hempty)).literal
        · exact (Mantissa.both (hwhole.digitPart hempty) (hfraction.digitPart hpoint)).literal
  · rw [hnone] at h
    split at h
    next => cases h
    next hsome =>
      obtain ⟨rfl, rfl⟩ := Prod.mk.inj (Option.some.inj h)
      have hdigits : whole ≠ [] := by
        rintro rfl
        exact hsome rfl
      exact ⟨whole, rfl, .whole hwhole hdigits,
        (Mantissa.whole (hwhole.digitPart hdigits)).literal⟩

/-! ### Parts -/

/-- A text that goes on with an amount, if it goes on. -/
def AtAmount (text : List Char) : Prop := ∀ c ∈ text.head?, c = '.' ∨ isDecimalDigit c = true

theorem AtAmount.head?_ne (h : AtAmount text) : text.head? ≠ some 's' := by
  intro hs
  obtain hpoint | hdigit := h 's' hs
  · exact absurd hpoint (by decide)
  · exact absurd hdigit (by decide)

/-- The characters of amounts. -/
def isAmountChar (c : Char) : Bool := c = '.' || isDecimalDigit c

theorem IsAmount.all {amount : List Char} (h : IsAmount amount) :
    ∀ c ∈ amount, isAmountChar c = true := by
  have hdigits : ∀ {text}, AllDigits text → ∀ c ∈ text, isAmountChar c = true := by
    intro text htext c hc
    rw [isAmountChar, htext c hc, Bool.or_true]
  cases h with
  | whole hwhole _ => exact hdigits hwhole
  | point hwhole _ hfraction =>
    exact List.forall_mem_append.mpr
      ⟨hdigits hwhole, List.forall_mem_cons.mpr ⟨rfl, hdigits hfraction⟩⟩
  | fraction hfraction _ => exact List.forall_mem_cons.mpr ⟨rfl, hdigits hfraction⟩

theorem IsAmount.ne_nil {amount : List Char} (h : IsAmount amount) : amount ≠ [] := by
  cases h with
  | whole _ hsome => exact hsome
  | point _ _ _ => simp
  | fraction _ _ => simp

namespace Part

theorem text_ne_nil (part : Part) : part.text ≠ [] := by
  simp [text, part.isAmount.ne_nil]

theorem atAmount_append (part : Part) (rest : List Char) : AtAmount (part.text ++ rest) := by
  obtain ⟨c, others, hamount⟩ := List.exists_cons_of_ne_nil part.isAmount.ne_nil
  rw [text, hamount]
  rintro _ ⟨⟩
  have hc := part.isAmount.all c (by simp [hamount])
  simpa [isAmountChar] using hc

/-- A part is read up to its end if another amount follows, or nothing. -/
theorem part?_append (part : Part) (hrest : AtAmount rest) :
    part? (part.text ++ rest) = some (part.seconds, rest) := by
  obtain ⟨c, others, hname, hdigit, hpoint⟩ := exists_cons_of_mem_unitTable part.isName
  have hamount : amount? (part.amount ++ (part.name ++ rest)) =
      some (part.number, part.name ++ rest) := by
    apply part.isAmount.amount?_append part.denotes
    · rw [hname]
      exact noDigitHead_cons hdigit
    · rw [hname]
      simpa using hpoint
  rw [text, List.append_assoc, part?, hamount, Option.bind_some]
  dsimp only
  rw [unit?_append part.isName hrest.head?_ne]
  rfl

/-- What is read as a part is one. -/
theorem exists_of_part? (h : part? text = some (x, rest)) :
    ∃ part : Part, text = part.text ++ rest ∧ part.seconds = x := by
  obtain ⟨⟨number, after⟩, hamount, h⟩ := Option.bind_eq_some_iff.mp h
  obtain ⟨⟨unit, left⟩, hunit, heq⟩ := Option.map_eq_some_iff.mp h
  obtain ⟨rfl, rfl⟩ := Prod.mk.inj heq
  obtain ⟨amount, rfl, hisAmount, hdenotes⟩ := exists_of_amount? hamount
  obtain ⟨name, rfl, hname⟩ := exists_of_unit? hunit
  refine ⟨⟨amount, number, name, unit, hisAmount, hdenotes, hname⟩, ?_, rfl⟩
  rw [text, List.append_assoc]

/-- The amount of a part is what stands in front of the unit. -/
theorem amount_eq (part : Part) : part.text.takeWhile isAmountChar = part.amount := by
  obtain ⟨c, others, hname, hdigit, hpoint⟩ := exists_cons_of_mem_unitTable part.isName
  have hstop : isAmountChar c = false := by
    simp [isAmountChar, hpoint, isDecimalDigit_eq_false hdigit]
  rw [text, List.takeWhile_append_of_pos part.isAmount.all, hname,
    List.takeWhile_cons_of_neg (by simp [hstop]), List.append_nil]

/-- A part is known from how it is written. -/
theorem ext_text {part part' : Part} (h : part.text = part'.text) : part = part' := by
  have hamount : part.amount = part'.amount := by rw [← part.amount_eq, h, part'.amount_eq]
  have hname : part.name = part'.name := by
    rw [text, text, hamount] at h
    exact List.append_cancel_left h
  obtain ⟨amount, number, name, unit, hisAmount, hdenotes, hisName⟩ := part
  obtain ⟨amount', number', name', unit', hisAmount', hdenotes', hisName'⟩ := part'
  obtain rfl : amount = amount' := hamount
  obtain rfl : name = name' := hname
  obtain rfl := hdenotes.unique hdenotes'
  obtain rfl := eq_of_mem_unitTable hisName hisName'
  rfl

end Part

/-! ### Splits -/

/-- The parts as they are written one after another. -/
def written (parts : List Part) : List Char := parts.flatMap Part.text

theorem written_cons (part : Part) (parts : List Part) :
    written (part :: parts) = part.text ++ written parts := rfl

theorem atAmount_written (parts : List Part) : AtAmount (written parts) := by
  cases parts with
  | nil => nofun
  | cons part parts => exact part.atAmount_append _

/-- **A text is split into parts in one way.** -/
theorem split_unique {parts parts' : List Part} (h : written parts = written parts') :
    parts = parts' := by
  induction parts generalizing parts' with
  | nil =>
    cases parts' with
    | nil => rfl
    | cons part' rest' =>
      rw [written_cons] at h
      exact absurd (List.append_eq_nil_iff.mp h.symm).1 part'.text_ne_nil
  | cons part rest ih =>
    cases parts' with
    | nil =>
      rw [written_cons] at h
      exact absurd (List.append_eq_nil_iff.mp h).1 part.text_ne_nil
    | cons part' rest' =>
      rw [written_cons, written_cons] at h
      -- reading is a function of the text, and it stops behind the first part of both
      have hread := part.part?_append (atAmount_written rest)
      rw [h, part'.part?_append (atAmount_written rest')] at hread
      have hrest : written rest' = written rest := (Prod.mk.inj (Option.some.inj hread)).2
      rw [hrest] at h
      obtain rfl := Part.ext_text (List.append_cancel_right h)
      rw [ih hrest.symm]

/-- The parts of a text are added up. -/
theorem sumParts?_written (parts : List Part) (seconds : Binary64) {budget : Nat}
    (hbudget : (written parts).length ≤ budget) :
    sumParts? budget seconds (written parts) =
      some (parts.foldl (fun seconds part => seconds + part.seconds) seconds) := by
  induction parts generalizing budget seconds with
  | nil => rw [written, List.flatMap_nil, sumParts?, List.foldl_nil]
  | cons part rest ih =>
    have hpos : 0 < part.text.length := List.length_pos_iff.mpr part.text_ne_nil
    rw [written_cons, List.length_append] at hbudget
    obtain ⟨left, rfl⟩ : ∃ left, budget = left + 1 := ⟨budget - 1, by omega⟩
    have hrest : (written rest).length ≤ left := by omega
    rw [written_cons, sumParts?, part.part?_append (atAmount_written rest), Option.bind_some]
    · exact ih (seconds + part.seconds) hrest
    · simp [part.text_ne_nil]

/-- A text whose parts are added up is split into them. -/
theorem exists_of_sumParts? {budget : Nat} {seconds : Binary64}
    (h : sumParts? budget seconds text = some x) :
    ∃ parts, written parts = text ∧
      parts.foldl (fun seconds part => seconds + part.seconds) seconds = x := by
  fun_induction sumParts? budget seconds text with
  | case1 _ seconds => exact ⟨[], rfl, Option.some.inj h⟩
  | case2 => cases h
  | case3 budget seconds text hsome ih =>
    obtain ⟨⟨part, rest⟩, hpart, h⟩ := Option.bind_eq_some_iff.mp h
    obtain ⟨part, rfl, rfl⟩ := Part.exists_of_part? hpart
    obtain ⟨parts, rfl, hsum⟩ := ih _ _ h
    exact ⟨part :: parts, rfl, hsum⟩

/-! ### Texts -/

/-- The text without the blanks around it, in lower case. -/
def plain (text : String) : List Char := lowerChars (trim text.toList)

/-- A text is read as the grammar says. -/
structure FollowsGrammar (text : String) : Prop where
  /-- It is empty exactly if nothing but blanks is in it. -/
  empty_iff : parseDuration text = .error .empty ↔ plain text = []
  /-- A literal denotes its number. -/
  literal : ∀ x, FloatLiteral (plain text) x → parseDuration text = .ok x
  /-- Any other text denotes a number exactly if it is split into parts: their sum. -/
  parts_iff : plain text ≠ [] → (∀ x, ¬ FloatLiteral (plain text) x) → ∀ x,
    parseDuration text = .ok x ↔ ∃ parts ≠ [], written parts = plain text ∧ total parts = x
  /-- There is no other split. -/
  unique : ∀ parts parts', written parts = plain text → written parts' = plain text →
    parts = parts'
  /-- Whatever is neither is refused. -/
  invalid : plain text ≠ [] → (∀ x, ¬ FloatLiteral (plain text) x) →
    (∀ parts, written parts ≠ plain text) → parseDuration text = .error (.invalid text)
  /-- The message says which of the two it is, and quotes the text as it was given. -/
  message : ∀ error, parseDuration text = .error error →
    error.message = if plain text = [] then "empty duration"
      else "invalid duration: " ++ quoted text

theorem parseDuration_eq (text : String) :
    parseDuration text =
      if (plain text).isEmpty then .error .empty
      else match Binary64.ofNumeral? (plain text) with
        | some seconds => .ok seconds
        | none =>
          match sumParts? (plain text).length .zero (plain text) with
          | some seconds => .ok seconds
          | none => .error (.invalid text) := rfl

theorem parseDuration_of_empty {text : String} (h : plain text = []) :
    parseDuration text = .error .empty := by
  rw [parseDuration_eq, h]
  rfl

theorem parseDuration_of_literal {text : String} (h : FloatLiteral (plain text) x) :
    parseDuration text = .ok x := by
  have hread := ofNumeral?_eq_some_iff.mpr h
  have hsome : plain text ≠ [] := by
    intro hempty
    rw [hempty] at hread
    cases hread
  rw [parseDuration_eq, if_neg (by simpa using hsome), hread]

/-- What is neither empty nor a literal is split into parts or refused. -/
theorem parseDuration_of_not_literal {text : String} (hsome : plain text ≠ [])
    (hnone : ∀ x, ¬ FloatLiteral (plain text) x) :
    (∃ parts, written parts = plain text ∧ parseDuration text = .ok (total parts)) ∨
      ((∀ parts, written parts ≠ plain text) ∧
        parseDuration text = .error (.invalid text)) := by
  have hnumeral : Binary64.ofNumeral? (plain text) = none := by
    rw [Option.eq_none_iff_forall_ne_some]
    intro x hx
    exact hnone x (ofNumeral?_eq_some_iff.mp hx)
  rw [parseDuration_eq, if_neg (by simpa using hsome), hnumeral]
  dsimp only
  cases hsum : sumParts? (plain text).length .zero (plain text) with
  | some seconds =>
    obtain ⟨parts, hwritten, htotal⟩ := exists_of_sumParts? hsum
    exact .inl ⟨parts, hwritten, congrArg Except.ok htotal.symm⟩
  | none =>
    refine .inr ⟨?_, rfl⟩
    intro parts hwritten
    have hread := sumParts?_written parts .zero (Nat.le_refl _)
    rw [hwritten, hsum] at hread
    cases hread

/-- A text that is not empty is not taken for an empty one. -/
theorem parseDuration_ne_empty {text : String} (hsome : plain text ≠ []) :
    (∃ x, parseDuration text = .ok x) ∨ parseDuration text = .error (.invalid text) := by
  by_cases hliteral : ∃ x, FloatLiteral (plain text) x
  · obtain ⟨x, hx⟩ := hliteral
    exact .inl ⟨x, parseDuration_of_literal hx⟩
  · rw [not_exists] at hliteral
    obtain ⟨parts, -, hparts⟩ | ⟨-, hinvalid⟩ := parseDuration_of_not_literal hsome hliteral
    · exact .inl ⟨total parts, hparts⟩
    · exact .inr hinvalid

/-- **Durations.** Every text is read as the grammar says. -/
theorem parseDuration_followsGrammar (text : String) : FollowsGrammar text where
  empty_iff := by
    refine ⟨?_, parseDuration_of_empty⟩
    intro h
    by_cases hempty : plain text = []
    · exact hempty
    · obtain ⟨x, hx⟩ | hinvalid := parseDuration_ne_empty hempty
      · cases h.symm.trans hx
      · cases h.symm.trans hinvalid
  literal _ := parseDuration_of_literal
  parts_iff := by
    intro hsome hnone x
    obtain ⟨parts, hwritten, hparse⟩ | ⟨hunsplit, hparse⟩ :=
      parseDuration_of_not_literal hsome hnone
    · rw [hparse]
      constructor
      · intro hx
        refine ⟨parts, ?_, hwritten, Except.ok.inj hx⟩
        rintro rfl
        exact hsome hwritten.symm
      · rintro ⟨parts', -, hwritten', rfl⟩
        rw [split_unique (hwritten.trans hwritten'.symm)]
    · rw [hparse]
      refine iff_of_false nofun ?_
      rintro ⟨parts, -, hwritten, -⟩
      exact hunsplit parts hwritten
  unique _ _ h h' := split_unique (h.trans h'.symm)
  invalid := by
    intro hsome hnone hunsplit
    obtain ⟨parts, hwritten, -⟩ | ⟨-, hparse⟩ := parseDuration_of_not_literal hsome hnone
    · exact absurd hwritten (hunsplit parts)
    · exact hparse
  message := by
    intro error herror
    split
    next hempty =>
      obtain rfl := Except.error.inj ((parseDuration_of_empty hempty).symm.trans herror)
      rfl
    next hsome =>
      obtain ⟨x, hx⟩ | hinvalid := parseDuration_ne_empty hsome
      · cases hx.symm.trans herror
      · obtain rfl := Except.error.inj (hinvalid.symm.trans herror)
        rfl

-- `ms` is one unit, and nothing may stand between two parts
example : (parseDuration " 1M.5s ").toOption = (parseDuration "60.5").toOption ∧
    (parseDuration "1ms").toOption = (parseDuration "0.001").toOption ∧
    (parseDuration "1m 1s").toOption = none := by decide +kernel

/-! ### Durations in parts -/

theorem Unit.seconds_pos (unit : Unit) : 0 < unit.seconds ∧ unit.seconds.isFinite = true := by
  cases unit <;> decide +kernel

theorem Unit.unsigned_seconds (unit : Unit) : unit.seconds.Unsigned := by
  constructor
  · exact Binary64.ne_nan_of_isFinite unit.seconds_pos.2
  · cases unit <;> decide +kernel

theorem Part.unsigned_seconds (part : Part) : part.seconds.Unsigned := by
  obtain ⟨digits, digits', hmantissa, -⟩ :=
    part.isAmount.exists_mantissa noDigitHead_nil (by simp)
  have hnumber : part.number.Unsigned := by
    rw [part.denotes.unique hmantissa.literal]
    exact Binary64.unsigned_ofDecimal _ _
  obtain ⟨hpos, hfinite⟩ := part.unit.seconds_pos
  exact hnumber.mul part.unit.unsigned_seconds hpos hfinite

/-- No sum of parts is below zero. -/
theorem unsigned_total (parts : List Part) : (total parts).Unsigned := by
  have hsum : ∀ (seconds : Binary64), seconds.Unsigned →
      (parts.foldl (fun seconds part => seconds + part.seconds) seconds).Unsigned := by
    induction parts with
    | nil => exact fun _ h => h
    | cons part rest ih => exact fun seconds h => ih _ (h.add part.unsigned_seconds)
  exact hsum .zero ⟨nofun, rfl⟩

/-- Only a bare number denotes a duration below zero, or one that is no number. -/
theorem literal_of_not_nonneg {text : String} (h : parseDuration text = .ok x) (hx : ¬ 0 ≤ x) :
    FloatLiteral (plain text) x := by
  by_cases hempty : plain text = []
  · cases (parseDuration_of_empty hempty).symm.trans h
  · by_cases hliteral : ∃ x, FloatLiteral (plain text) x
    · obtain ⟨y, hy⟩ := hliteral
      obtain rfl := Except.ok.inj ((parseDuration_of_literal hy).symm.trans h)
      exact hy
    · rw [not_exists] at hliteral
      obtain ⟨parts, -, hparts⟩ | ⟨-, hinvalid⟩ := parseDuration_of_not_literal hempty hliteral
      · obtain rfl := Except.ok.inj (hparts.symm.trans h)
        exact absurd (unsigned_total parts).zero_le hx
      · cases hinvalid.symm.trans h

end Duration

end QueryMetrics
