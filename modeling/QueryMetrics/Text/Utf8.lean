/-!
# Reading bytes as text

Files and raw column values are bytes. Both are read as UTF-8, but they treat ill-formed input
differently: a file is refused as a whole (`decode?`), while in a column value each maximal
ill-formed part is replaced by the character `U+FFFD` (`decodeLossy`).

A sequence is led by a byte that fixes its length and the admissible range of its second byte;
the ranges leave out overlong forms, surrogates and code points beyond `U+10FFFF`. An ill-formed
part is a lead byte with those continuation bytes that were still admissible, or a single byte
that leads nothing.
-/

namespace QueryMetrics.Text

/-- What a lead byte announces: its share of the code point, the number of continuation bytes,
and the range of the first of them. -/
structure Lead where
  bits : Nat
  following : Nat
  low : UInt8
  high : UInt8

/-- Reads a byte as the lead of a sequence of two bytes or more. -/
def Lead.of? (b : UInt8) : Option Lead :=
  if b < 0xC2 then none
  else if b < 0xE0 then some ⟨(b - 0xC0).toNat, 1, 0x80, 0xBF⟩
  else if b < 0xF0 then
    some ⟨(b - 0xE0).toNat, 2, if b = 0xE0 then 0xA0 else 0x80, if b = 0xED then 0x9F else 0xBF⟩
  else if b < 0xF5 then
    some ⟨(b - 0xF0).toNat, 3, if b = 0xF0 then 0x90 else 0x80, if b = 0xF4 then 0x8F else 0xBF⟩
  else none

/-- Reads `following` continuation bytes, the first of them between `low` and `high`, onto the
bits read so far. The answer is the code point, or nothing if the sequence breaks off, together
with the bytes that are left. -/
def continuation (bits following : Nat) (low high : UInt8) (bytes : List UInt8) :
    Option Nat × List UInt8 :=
  match following, bytes with
  | 0, rest => (some bits, rest)
  | _ + 1, [] => (none, [])
  | following + 1, b :: rest =>
    if low ≤ b ∧ b ≤ high then
      continuation (bits * 64 + (b.toNat - 0x80)) following 0x80 0xBF rest
    else (none, b :: rest)

/-- Reading continuation bytes leaves no more bytes than there were. -/
theorem length_continuation_le (bits following : Nat) (low high : UInt8) (bytes : List UInt8) :
    (continuation bits following low high bytes).2.length ≤ bytes.length := by
  fun_induction continuation bits following low high bytes with
  | case1 => simp
  | case2 => simp
  | case3 _ _ _ _ _ _ _ ih => simp only [List.length_cons]; omega
  | case4 => simp

/-- The first character of the bytes, or nothing for an ill-formed part, and the bytes left. -/
def decodeChar (b : UInt8) (rest : List UInt8) : Option Char × List UInt8 :=
  if b < 0x80 then (some (Char.ofNat b.toNat), rest)
  else match Lead.of? b with
    | none => (none, rest)
    | some lead =>
      let (code?, left) := continuation lead.bits lead.following lead.low lead.high rest
      (code?.map Char.ofNat, left)

/-- A character or an ill-formed part consumes its first byte at least. -/
theorem length_decodeChar_le (b : UInt8) (rest : List UInt8) :
    (decodeChar b rest).2.length ≤ rest.length := by
  unfold decodeChar
  split
  · simp
  · split
    · simp
    · exact length_continuation_le ..

/-- The characters and ill-formed parts of the bytes, in order. -/
def decodeParts : List UInt8 → List (Option Char)
  | [] => []
  | b :: rest => (decodeChar b rest).1 :: decodeParts (decodeChar b rest).2
termination_by bytes => bytes.length
decreasing_by
  have := length_decodeChar_le b rest
  simp only [List.length_cons]
  omega

/-- The text of well-formed bytes. -/
def decode? (bytes : List UInt8) : Option (List Char) := (decodeParts bytes).mapM id

/-- The text of any bytes, each ill-formed part replaced by `U+FFFD`. -/
def decodeLossy (bytes : List UInt8) : List Char := (decodeParts bytes).map (·.getD '\uFFFD')

/-- The bytes of a text. -/
def encode (text : String) : List UInt8 := text.toUTF8.toList

/-- Line ends in one form: a carriage return, alone or before a line feed, becomes a line
feed. -/
def unifyLines : List Char → List Char
  | [] => []
  | '\r' :: '\n' :: rest => '\n' :: unifyLines rest
  | '\r' :: rest => '\n' :: unifyLines rest
  | c :: rest => c :: unifyLines rest

/-- A file's text: its bytes read as UTF-8, with line ends in one form. -/
def ofFile? (bytes : List UInt8) : Option String :=
  (decode? bytes).map fun text => String.ofList (unifyLines text)

end QueryMetrics.Text
