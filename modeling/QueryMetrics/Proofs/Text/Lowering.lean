import QueryMetrics.Text.Case

/-!
# Texts in lower case

Lower-casing takes a text character by character, except that the form of a sigma depends on the
letters around it. Here is what can be said about its results, for any text:

* **No capitals.** Whatever a character becomes is no capital (`noCapital_of_mem_lowerChar`). This
  is a fact about the tables, which move no capital onto a capital (`covers_eq_false_of_image`).
  It is computed with the sets of code points as the bits of two numbers.
* **Once is enough.** What is no capital stays as it is, whatever stands around it
  (`lowerFrom_eq_self`), so a second lower-casing changes nothing (`lowerChars_lowerChars`).
* **Nothing but letters is brought in.** Among the ASCII characters, only small letters can be new
  in the result (`mem_of_mem_lowerChars`). The sign for kelvin and the capital I with a dot above
  do become ASCII letters.
-/

namespace QueryMetrics.Text

/-! ### Runs and where they are moved -/

/-- Runs of all capitals: those with a small letter of their own, and the capital I with a dot
above. -/
def capitalRuns : List CaseRun := ⟨0x130, 0x130, 1, 0⟩ :: lowerRuns

/-- The character is no capital. -/
def NoCapital (c : Char) : Prop := ∀ run ∈ capitalRuns, run.covers c.toNat = false

instance : DecidablePred NoCapital := fun c =>
  inferInstanceAs (Decidable (∀ run ∈ capitalRuns, run.covers c.toNat = false))

namespace CaseRun

variable {run : CaseRun} {code : Nat}

/-- Where the characters of a run are moved. -/
def image (run : CaseRun) : CaseRun :=
  ⟨(run.first + run.shift).toNat, (run.last + run.shift).toNat, run.distance, 0⟩

/-- The code points that are reached are those of characters, and of small letters as far as they
are ASCII. -/
def isSound (run : CaseRun) : Bool :=
  0 ≤ run.first + run.shift &&
    (run.image.last < 0xD800 || 0xDFFF < run.image.first && run.image.last < 0x110000) &&
    (0x80 ≤ run.image.first || 0x61 ≤ run.image.first && run.image.last ≤ 0x7A)

/-- The multiples of a distance below so many times the distance, as the bits of a number. -/
def multiples (distance : Nat) : Nat → Nat
  | 0 => 0
  | count + 1 => 1 ||| multiples distance count <<< distance

/-- The code points of a run, as the bits of a number. -/
def bits (run : CaseRun) : Nat :=
  multiples run.distance ((run.last - run.first) / run.distance + 1) <<< run.first

/-- The code points of several runs, as the bits of a number. -/
def bitsOf (runs : List CaseRun) : Nat := runs.foldr (·.bits ||| ·) 0

theorem covers_iff : run.covers code = true ↔
    run.first ≤ code ∧ code ≤ run.last ∧ (code - run.first) % run.distance = 0 := by
  simp [covers, and_assoc]

theorem testBit_multiples (distance : Nat) {i count : Nat} (h : i < count) :
    (multiples distance count).testBit (i * distance) = true := by
  induction count generalizing i with
  | zero => cases h
  | succ count ih =>
    rw [multiples, Nat.testBit_or, Nat.testBit_shiftLeft, Bool.or_eq_true, Bool.and_eq_true]
    cases i with
    | zero =>
      rw [Nat.zero_mul]
      exact .inl rfl
    | succ i =>
      rw [Nat.succ_mul, Nat.add_sub_cancel]
      exact .inr ⟨decide_eq_true (Nat.le_add_left _ _), ih (Nat.lt_of_succ_lt_succ h)⟩

theorem testBit_bits (h : run.covers code = true) : run.bits.testBit code = true := by
  obtain ⟨hfirst, hlast, hmod⟩ := covers_iff.mp h
  have hcount : (code - run.first) / run.distance <
      (run.last - run.first) / run.distance + 1 :=
    Nat.lt_succ_of_le (Nat.div_le_div_right (Nat.sub_le_sub_right hlast _))
  have hbit := testBit_multiples run.distance hcount
  rw [Nat.div_mul_cancel (Nat.dvd_of_mod_eq_zero hmod)] at hbit
  rw [bits, Nat.testBit_shiftLeft, Bool.and_eq_true]
  exact ⟨decide_eq_true hfirst, hbit⟩

theorem testBit_bitsOf {runs : List CaseRun} (hrun : run ∈ runs) (h : run.covers code = true) :
    (bitsOf runs).testBit code = true := by
  induction runs with
  | nil => cases hrun
  | cons head rest ih =>
    rw [bitsOf, List.foldr_cons, Nat.testBit_or, Bool.or_eq_true]
    rcases List.mem_cons.mp hrun with rfl | hrest
    · exact .inl (testBit_bits h)
    · exact .inr (ih hrest)

/-- The image of a run covers what its characters become. -/
theorem covers_image (hsound : run.isSound = true) (hcode : run.covers code = true) :
    run.image.covers (code + run.shift).toNat = true := by
  simp only [isSound, Bool.and_eq_true, decide_eq_true_eq] at hsound
  obtain ⟨⟨hpositive, -⟩, -⟩ := hsound
  obtain ⟨hfirst, hlast, hmod⟩ := covers_iff.mp hcode
  have hstep : (code + run.shift).toNat - (run.first + run.shift).toNat = code - run.first := by
    omega
  refine covers_iff.mpr ⟨?_, ?_, ?_⟩
  · dsimp only [image]
    omega
  · dsimp only [image]
    omega
  · dsimp only [image]
    rwa [hstep]

end CaseRun

/-- What is computed of the tables: all runs are sound, all but that of the ASCII capitals lie
beyond ASCII, and no code point is both one that is reached and one of a capital. -/
private theorem tables_checked :
    (∀ run ∈ lowerRuns,
      run.isSound = true ∧ (run = ⟨0x41, 0x5A, 1, 32⟩ ∨ 0x80 ≤ run.first)) ∧
    CaseRun.bitsOf (lowerRuns.map CaseRun.image) &&& CaseRun.bitsOf capitalRuns = 0 := by
  -- the numbers are intersected once, where runs would have to be compared pair by pair
  decide +kernel

theorem isSound_of_mem_lowerRuns {run : CaseRun} (h : run ∈ lowerRuns) : run.isSound = true :=
  (tables_checked.1 run h).1

/-- No capital is moved onto a capital. -/
theorem covers_eq_false_of_image {run other : CaseRun} {code : Nat} (hrun : run ∈ lowerRuns)
    (hother : other ∈ capitalRuns) (himage : run.image.covers code = true) :
    other.covers code = false := by
  refine Bool.eq_false_iff.mpr fun hcapital => ?_
  have hboth : (0 : Nat).testBit code = true := by
    rw [← tables_checked.2, Nat.testBit_and, Bool.and_eq_true]
    exact ⟨CaseRun.testBit_bitsOf (List.mem_map_of_mem hrun) himage,
      CaseRun.testBit_bitsOf hother hcapital⟩
  rw [Nat.zero_testBit] at hboth
  cases hboth

/-! ### Single characters -/

variable {c d : Char}

/-- What a capital of a run becomes is the character of the shifted code point. -/
theorem toNat_shifted {run : CaseRun} (hrun : run ∈ lowerRuns)
    (hcode : run.covers c.toNat = true) :
    (Char.ofNat (c.toNat + run.shift).toNat).toNat = (c.toNat + run.shift).toNat := by
  have hsound := isSound_of_mem_lowerRuns hrun
  obtain ⟨hfirst, hlast, -⟩ := CaseRun.covers_iff.mp (CaseRun.covers_image hsound hcode)
  have hvalid : (c.toNat + run.shift).toNat.isValidChar := by
    simp only [CaseRun.isSound, Bool.and_eq_true, Bool.or_eq_true, decide_eq_true_eq] at hsound
    obtain ⟨⟨-, hspan⟩, -⟩ := hsound
    unfold Nat.isValidChar
    omega
  rw [Char.ofNat, dif_pos hvalid]
  rfl

/-- The small letters of ASCII. -/
private theorem toLower_ascii : ∀ code < 0x80, (Char.ofNat code).toLower =
    Char.ofNat (if 0x41 ≤ code ∧ code ≤ 0x5A then code + 32 else code) := by
  decide

/-- The characters that lower-casing names: those of the dotted I and the final sigma are no
capitals, and the capital sigma becomes the small one. -/
private theorem named_characters :
    NoCapital 'i' ∧ NoCapital '\u0307' ∧ NoCapital 'ς' ∧ lowerChar 'Σ' = ['σ'] := by
  decide +kernel

/-- **What a character becomes.** It is no capital and stays as it is, or it is the capital I with
a dot above, or it is a capital of a run and moved by the shift of the run. -/
theorem lowerChar_cases (c : Char) :
    (NoCapital c ∧ lowerChar c = [c]) ∨
    (c.toNat = 0x130 ∧ lowerChar c = ['i', '\u0307']) ∨
    ∃ run ∈ lowerRuns, run.covers c.toNat = true ∧
      lowerChar c = [Char.ofNat (c.toNat + run.shift).toNat] := by
  unfold lowerChar
  by_cases hascii : c.toNat < 0x80
  · have hlower := toLower_ascii c.toNat hascii
    rw [Char.ofNat_toNat] at hlower
    rw [if_pos hascii, hlower]
    by_cases hupper : 0x41 ≤ c.toNat ∧ c.toNat ≤ 0x5A
    · rw [if_pos hupper]
      refine .inr (.inr ⟨⟨0x41, 0x5A, 1, 32⟩, List.mem_cons_self, ?_, rfl⟩)
      exact CaseRun.covers_iff.mpr ⟨hupper.1, hupper.2, Nat.mod_one _⟩
    · rw [if_neg hupper, Char.ofNat_toNat]
      refine .inl ⟨fun run hrun => Bool.eq_false_iff.mpr fun hcovers => ?_, rfl⟩
      obtain ⟨hfirst, hlast, -⟩ := CaseRun.covers_iff.mp hcovers
      rcases List.mem_cons.mp hrun with rfl | hrun
      · exact absurd (Nat.lt_of_le_of_lt hfirst hascii) (by decide)
      · rcases (tables_checked.1 run hrun).2 with rfl | hbeyond
        · exact hupper ⟨hfirst, hlast⟩
        · omega
  · rw [if_neg hascii]
    by_cases hdotted : c.toNat = 0x130
    · exact .inr (.inl ⟨hdotted, if_pos hdotted⟩)
    · rw [if_neg hdotted]
      cases hfind : lowerRuns.find? (·.covers c.toNat) with
      | none =>
        refine .inl ⟨List.forall_mem_cons.mpr ⟨?_, fun run hrun => ?_⟩, rfl⟩
        · refine Bool.eq_false_iff.mpr fun hcovers => hdotted ?_
          obtain ⟨hfirst, hlast, -⟩ := CaseRun.covers_iff.mp hcovers
          exact Nat.le_antisymm hlast hfirst
        · simpa using List.find?_eq_none.mp hfind run hrun
      | some run =>
        have hcovers := List.find?_some hfind
        exact .inr (.inr ⟨run, List.mem_of_find?_eq_some hfind, hcovers, rfl⟩)

/-- What is no capital stays as it is. -/
theorem lowerChar_eq_self (h : NoCapital c) : lowerChar c = [c] := by
  rcases lowerChar_cases c with ⟨-, hself⟩ | ⟨hdotted, -⟩ | ⟨run, hrun, hcovers, -⟩
  · exact hself
  · have hnot := h _ List.mem_cons_self
    rw [hdotted] at hnot
    cases hnot
  · have hnot := h run (List.mem_cons_of_mem _ hrun)
    rw [hcovers] at hnot
    cases hnot

/-- **No capitals are left.** What a character becomes is no capital. -/
theorem noCapital_of_mem_lowerChar (h : d ∈ lowerChar c) : NoCapital d := by
  rcases lowerChar_cases c with ⟨hsmall, hself⟩ | ⟨-, hdotted⟩ | ⟨run, hrun, hcovers, hshifted⟩
  · rw [hself, List.mem_singleton] at h
    rwa [h]
  · obtain ⟨hi, hdot, -⟩ := named_characters
    simp only [hdotted, List.mem_cons, List.not_mem_nil, or_false] at h
    obtain rfl | rfl := h
    · exact hi
    · exact hdot
  · rw [hshifted, List.mem_singleton] at h
    intro other hother
    rw [h, toNat_shifted hrun hcovers]
    exact covers_eq_false_of_image hrun hother
      (CaseRun.covers_image (isSound_of_mem_lowerRuns hrun) hcovers)

/-- An ASCII character that comes of another one is a small letter. -/
theorem eq_or_isLower_of_mem_lowerChar (h : d ∈ lowerChar c) (hascii : d.toNat < 0x80) :
    d = c ∨ d.isLower = true := by
  rcases lowerChar_cases c with ⟨-, hself⟩ | ⟨-, hdotted⟩ | ⟨run, hrun, hcovers, hshifted⟩
  · rw [hself, List.mem_singleton] at h
    exact .inl h
  · simp only [hdotted, List.mem_cons, List.not_mem_nil, or_false] at h
    obtain rfl | rfl := h
    · exact .inr (by decide)
    · exact absurd hascii (by decide)
  · rw [hshifted, List.mem_singleton] at h
    have hsound := isSound_of_mem_lowerRuns hrun
    obtain ⟨hfirst, hlast, -⟩ := CaseRun.covers_iff.mp (CaseRun.covers_image hsound hcovers)
    simp only [CaseRun.isSound, Bool.and_eq_true, Bool.or_eq_true, decide_eq_true_eq] at hsound
    obtain ⟨-, hletters⟩ := hsound
    have hcode : d.toNat = (c.toNat + run.shift).toNat := h ▸ toNat_shifted hrun hcovers
    have hlower : 0x61 ≤ d.toNat ∧ d.toNat ≤ 0x7A := by omega
    exact .inr (Bool.and_eq_true_iff.mpr ⟨decide_eq_true (UInt32.le_iff_toNat_le.mpr hlower.1),
      decide_eq_true (UInt32.le_iff_toNat_le.mpr hlower.2)⟩)

/-! ### Texts -/

variable {text : List Char} {afterCased : Bool}

theorem lowerFrom_cons (afterCased : Bool) (c : Char) (rest : List Char) :
    lowerFrom afterCased (c :: rest) =
      if c = 'Σ' then (if afterCased && !startsCased rest then 'ς' else 'σ') :: lowerFrom true rest
      else lowerChar c ++ lowerFrom (if isCaseIgnorable c then afterCased else isCased c) rest :=
  rfl

/-- Every character of a lowered text comes of one of the text; for a sigma, its form depends on
where it stands. -/
theorem exists_of_mem_lowerFrom (h : d ∈ lowerFrom afterCased text) :
    ∃ c ∈ text, d ∈ lowerChar c ∨ c = 'Σ' ∧ d = 'ς' := by
  induction text generalizing afterCased with
  | nil => cases h
  | cons c rest ih =>
    rw [lowerFrom_cons] at h
    split at h
    next hsigma =>
      rcases List.mem_cons.mp h with hform | hrest
      · refine ⟨c, List.mem_cons_self, ?_⟩
        split at hform
        · exact .inr ⟨hsigma, hform⟩
        · obtain ⟨-, -, -, hsmall⟩ := named_characters
          rw [hsigma, hform, hsmall]
          exact .inl List.mem_cons_self
      · obtain ⟨c', hc', hd⟩ := ih hrest
        exact ⟨c', List.mem_cons_of_mem c hc', hd⟩
    next =>
      rcases List.mem_append.mp h with hfirst | hrest
      · exact ⟨c, List.mem_cons_self, .inl hfirst⟩
      · obtain ⟨c', hc', hd⟩ := ih hrest
        exact ⟨c', List.mem_cons_of_mem c hc', hd⟩

/-- A lowered text has no capitals. -/
theorem noCapital_of_mem_lowerFrom (h : d ∈ lowerFrom afterCased text) : NoCapital d := by
  obtain ⟨c, -, hd | ⟨-, rfl⟩⟩ := exists_of_mem_lowerFrom h
  · exact noCapital_of_mem_lowerChar hd
  · obtain ⟨-, -, hfinal, -⟩ := named_characters
    exact hfinal

/-- A text without capitals stays as it is. -/
theorem lowerFrom_eq_self (h : ∀ c ∈ text, NoCapital c) : lowerFrom afterCased text = text := by
  induction text generalizing afterCased with
  | nil => rfl
  | cons c rest ih =>
    obtain ⟨hfirst, hrest⟩ := List.forall_mem_cons.mp h
    have hsigma : c ≠ 'Σ' := by
      rintro rfl
      obtain ⟨-, -, -, hsmall⟩ := named_characters
      have hself := lowerChar_eq_self hfirst
      rw [hsmall] at hself
      cases hself
    rw [lowerFrom_cons, if_neg hsigma, lowerChar_eq_self hfirst, ih hrest, List.singleton_append]

/-- **Once is enough.** A text in lower case stays as it is. -/
theorem lowerChars_lowerChars (text : List Char) :
    lowerChars (lowerChars text) = lowerChars text :=
  lowerFrom_eq_self fun _ h => noCapital_of_mem_lowerFrom h

/-- ASCII characters of a lowered text are those of the text, but for small letters. -/
theorem mem_of_mem_lowerChars (h : d ∈ lowerChars text) (hascii : d.toNat < 0x80)
    (hletter : d.isLower = false) : d ∈ text := by
  obtain ⟨c, hc, hd | ⟨-, rfl⟩⟩ := exists_of_mem_lowerFrom h
  · obtain rfl | hlower := eq_or_isLower_of_mem_lowerChar hd hascii
    · exact hc
    · rw [hletter] at hlower
      cases hlower
  · exact absurd hascii (by decide)

end QueryMetrics.Text
