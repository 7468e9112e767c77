import QueryMetrics.Config.Basic
import QueryMetrics.Document.Json
import QueryMetrics.Text.Split

/-!
# Reading the configuration

The configuration is a JSON table. Keys are compared exactly, and keys that are not known are
ignored. All complaints are reported together.

Numbers may be given in several ways: a truth value counts as one or zero, a text is read, and a
whole number may be written with a fraction of zeros. In a text a whole number may also have
needless zeros at the front and underscores between its digits. Texts are only read from texts.
The list of definition files may be a single text with commas.
-/

namespace QueryMetrics

open Text

namespace Config

/-! ### Numbers -/

/-- A text without its underscores, if they stand only between other characters and never two in
a row. -/
def withoutUnderscores? (text : List Char) : Option (List Char) :=
  if hasInnerUnderscores text then some (text.filter (· ≠ '_')) else none

/-- A whole number in its plain form: an optional minus and ASCII digits without needless zeros at
the front. There may not be more than `maxIntegerDigits` of them, and this is found before what
follows the digits is looked at. -/
def plainWhole (text : List Char) : Except Mismatch Int :=
  let (negative, body) : Bool × List Char := match text with
    | '-' :: body => (true, body)
    | body => (false, body)
  let digits := body.takeWhile Char.isDigit
  let complete := digits.length = body.length
  match digits with
  | [] => .error .unreadableInteger
  | '0' :: more => if more.isEmpty ∧ complete then .ok 0 else .error .unreadableInteger
  | digits =>
    if maxIntegerDigits < digits.length then .error .oversizedInteger
    else if complete then
      let n : Int := natOfDigits digits
      .ok (if negative then -n else n)
    else .error .unreadableInteger

/-- The text behind zeros and underscores at the front. It begins with a digit other than zero or
a minus, or else with the character in front of a point, which is kept; of nothing but zeros and
underscores the last one is kept. -/
def behindZeros? (last : Char) : List Char → Option (List Char)
  | [] => some [last]
  | c :: rest =>
    if c = '0' ∨ c = '_' then behindZeros? c rest
    else if c.isDigit ∨ c = '-' then some (c :: rest)
    else if c = '.' then some (last :: c :: rest)
    else none

/-- A text without needless zeros at its front. It has to begin with a digit or a minus. -/
def withoutLeadingZeros? : List Char → Option (List Char)
  | '0' :: rest => behindZeros? '0' rest
  | c :: rest => if c.isDigit ∨ c = '-' then some (c :: rest) else none
  | [] => none

/-- The text without a fraction of zeros. -/
def withoutZeroFraction (text : List Char) : List Char :=
  match text.dropWhile (· ≠ '.') with
  | '.' :: '0' :: rest => if rest.all (· = '0') then text.takeWhile (· ≠ '.') else text
  | _ => text

/-- A whole number behind its sign in its plain form: without needless zeros, a fraction of zeros,
and underscores. -/
def plainForm? (text : List Char) : Option (List Char) :=
  (withoutLeadingZeros? text).map fun kept =>
    let kept := withoutZeroFraction kept
    (withoutUnderscores? kept).getD kept

/-- The plain form of a whole number with an optional sign. A plus in front of a minus does not
count as a sign. -/
def signedPlainForm? : List Char → Option (List Char)
  | '+' :: '-' :: _ => none
  | '+' :: body => plainForm? body
  | '-' :: body => (plainForm? body).map ('-' :: ·)
  | text => plainForm? text

/-- The whole number that a text denotes. A text that is not in plain form is brought into it,
without blanks around it; only a text that was in plain form from the beginning is said to be too
long. -/
def wholeOfText (text : List Char) : Except Mismatch Int :=
  match plainWhole text with
  | .error .unreadableInteger =>
    match (signedPlainForm? (trimNumeral text)).map plainWhole with
    | some (.ok n) => .ok n
    | _ => .error .unreadableInteger
  | outcome => outcome

/-- The number that a text denotes, in ASCII characters: with blanks around it or with underscores
in it, but not with both. -/
def numberOfText? (text : List Char) : Option Binary64 :=
  (number? (trimNumeral text)).orElse fun _ => (withoutUnderscores? text).bind number?
where
  number? (text : List Char) : Option Binary64 :=
    if text.all fun c => c.toNat < 0x80 ∧ c ≠ '_' then Binary64.ofNumeral? text else none

/-- A whole number. -/
def readWhole : Value → Checked Int
  | .boolean b => .valid (if b then 1 else 0)
  | .integer n => .valid n
  | .number x =>
    if !x.isFinite then .fail .notFinite
    else
      match x.toInt? with
      | none => .fail .fractional
      | some n =>
        if -wordBound < n ∧ n < wordBound then .valid n else .fail .oversizedInteger
  | .text s =>
    match wholeOfText s.toList with
    | .ok n => .valid n
    | .error mismatch => .fail mismatch
  | .looseText _ => .fail .brokenText
  | _ => .fail .notInteger

/-- A number. -/
def readNumber : Value → Checked Binary64
  | .boolean b => .valid (if b then 1 else 0)
  | .integer n =>
    match Binary64.ofInt n with
    | .infinite _ => .fail .notNumber
    | x => .valid x
  | .number x => .valid x
  | .text s =>
    match numberOfText? s.toList with
    | some x => .valid x
    | none => .fail .unreadableNumber
  | .looseText _ => .fail .brokenText
  | _ => .fail .notNumber

/-! ### Fields -/

/-- The paths in a text with commas, without blanks around them; empty ones are left out. -/
def splitPaths (paths : LooseText) : List LooseText :=
  let parts := (splitAtEvery ',' paths.text.toList).map fun part => String.ofList (trim part)
  (LooseText.share paths.units parts).filter fun path => !path.text.isEmpty

/-- Paths of definition files. -/
def readPaths : Value → Checked (List LooseText)
  | .text s => .valid (splitPaths ⟨s, []⟩)
  | .looseText t => .valid (splitPaths t)
  | value => Checked.list Checked.looseText .notList value

/-- The configuration in a JSON table. -/
def ofTable (entries : List (String × Value)) : Checked Config :=
  let least (bound : Int) (value : Value) := (readWhole value).ensure (bound ≤ ·) .belowBound
  let positive (value : Value) := (readWhole value).ensure (0 < ·) .notAbove
  Config.mk
    <$> Checked.required entries "connect_string" Checked.text
    <*> Checked.field entries ["user"] "" Checked.text
    <*> Checked.field entries ["password"] ⟨""⟩ (fun value => Secret.mk <$> Checked.text value)
    <*> Checked.field entries ["password_file"] none (Checked.optional Checked.text)
    <*> Checked.field entries ["db_role"] "" Checked.text
    <*> Checked.field entries ["config_dir"] none (Checked.optional Checked.text)
    <*> Checked.field entries ["max_idle_conns"] 0 (least 0)
    <*> Checked.field entries ["max_open_conns"] 10 positive
    <*> Checked.field entries ["query_timeout"] 5
      (fun value => (readNumber value).ensure (0 < ·) .notAbove)
    <*> Checked.field entries ["custom_metrics"] [] readPaths
    <*> Checked.field entries ["default_metrics_file"] none
      (Checked.optional Checked.looseText)
    <*> Checked.field entries ["scrape_interval"] 0
      (fun value => (readNumber value).ensure (0 ≤ ·) .belowBound)
    <*> Checked.field entries ["port"] 9161
      (fun value => (positive value).ensure (· < 65536) .notBelow)
    <*> Checked.field entries ["metrics_path"] ⟨"/metrics", []⟩ Checked.looseText
    <*> Checked.field entries ["log_level"] "INFO" Checked.text

/-- The configuration in a document. -/
def ofValue : Value → Except StartFault Config
  | .table entries => (ofTable entries).toExcept.mapError .config
  | _ => .error .configNotTable

/-- The configuration in a text. -/
def ofText (text : String) : Except StartFault Config :=
  match parseJson text with
  | .error .malformed => .error .configNotJson
  | .error (.tooManyDigits count) => .error (.configDigits count)
  | .error (.tooDeep innermost) => .error (.configDepth innermost)
  | .ok document => ofValue document

/-- The configuration in the file at a path. -/
def load (files : FileTree) (path : String) : Except StartFault Config :=
  match files.read path with
  | .error .missing | .error .nullCharacter => .error (.configMissing path)
  | .error fault => .error (.configUnreadable path fault)
  | .ok bytes =>
    match ofFile? bytes with
    | none => .error .configNotUtf8
    | some text => ofText text

end Config

end QueryMetrics
