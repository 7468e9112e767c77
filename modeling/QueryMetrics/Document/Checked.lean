import QueryMetrics.Document.Value

/-!
# Checking documents

Giving a document a meaning can fail in many places at once, and all of them are reported.
`Checked` collects the complaints of independent parts: combined parts are valid when every one
of them is, and their complaints are joined in order.

A complaint names the **place**, a sequence of keys and positions from the root, and what is
wrong there.
-/

namespace QueryMetrics

/-- A step from a value to one inside it. -/
inductive Step where
  | key (name : String)
  | position (index : Nat)
  deriving DecidableEq, Repr

/-- What is wrong with a value. -/
inductive Mismatch where
  /-- A required value is not there. -/
  | missing
  /-- Not a text. -/
  | notText
  /-- A text with code units that stand alone, where a number is wanted. -/
  | brokenText
  /-- Not a list. -/
  | notList
  /-- Not a list, where a fixed sequence is wanted. -/
  | notSequence
  /-- Not a table, where keys are mapped to values. -/
  | notMap
  /-- Not a table, where a record is wanted. -/
  | notRecord
  /-- Not a truth value. -/
  | notBoolean
  /-- Of a kind that may denote a truth value, but denotes none. -/
  | unclearBoolean
  /-- Not a whole number. -/
  | notInteger
  /-- A text that denotes no whole number. -/
  | unreadableInteger
  /-- A whole number too long to be read. -/
  | oversizedInteger
  /-- A number with a fractional part, where a whole one is wanted. -/
  | fractional
  /-- A number that is not finite, where a whole one is wanted. -/
  | notFinite
  /-- Not a number. -/
  | notNumber
  /-- A text that denotes no number. -/
  | unreadableNumber
  /-- Not above the bound. -/
  | notAbove
  /-- Below the bound. -/
  | belowBound
  /-- Not below the bound. -/
  | notBelow
  /-- A whole number with too many digits to be written out. -/
  | unprintable
  deriving DecidableEq, Repr

/-- Something wrong at some place. -/
structure Complaint where
  place : List Step
  mismatch : Mismatch
  deriving DecidableEq, Repr

/-- A value, or the complaints that stand against it. -/
inductive Checked (α : Type) where
  | valid (value : α)
  | invalid (complaints : List Complaint)

namespace Checked

variable {α β : Type}

/-- A single complaint at the value itself. -/
def fail (mismatch : Mismatch) : Checked α := invalid [⟨[], mismatch⟩]

/-- The complaints; none for a valid value. -/
def complaints : Checked α → List Complaint
  | valid _ => []
  | invalid found => found

/-- Changes a valid value. -/
protected def map (f : α → β) : Checked α → Checked β
  | valid a => valid (f a)
  | invalid found => invalid found

/-- Applies a checked function; complaints of both sides are joined. -/
protected def seq : Checked (α → β) → (Unit → Checked α) → Checked β
  | valid f, x => (x ()).map f
  | invalid found, x => invalid (found ++ (x ()).complaints)

instance : Applicative Checked where
  pure := valid
  map := Checked.map
  seq := Checked.seq

/-- A further check that is only made of a valid value. -/
def andThen (x : Checked α) (f : α → Checked β) : Checked β :=
  match x with
  | valid a => f a
  | invalid found => invalid found

/-- The same check seen from one step further out. -/
def within (step : Step) : Checked α → Checked α
  | valid a => valid a
  | invalid found => invalid (found.map fun c => { c with place := step :: c.place })

/-- The result as a value or a list of complaints. -/
def toExcept : Checked α → Except (List Complaint) α
  | valid a => .ok a
  | invalid found => .error found

/-- Checks the items of a list, each seen from its position. -/
def itemsFrom (check : Value → Checked α) : Nat → List Value → Checked (List α)
  | _, [] => valid []
  | index, item :: rest =>
    (· :: ·) <$> (check item).within (.position index) <*> itemsFrom check (index + 1) rest

/-- Checks the items of a list. -/
def items (check : Value → Checked α) (values : List Value) : Checked (List α) :=
  itemsFrom check 0 values

/-- Checks the values of a table, each seen from its key. -/
def entries (check : Value → Checked α) : List (String × Value) → Checked (List (String × α))
  | [] => valid []
  | (key, value) :: rest =>
    (fun a others => (key, a) :: others) <$> (check value).within (.key key) <*>
      entries check rest

/-! ### Fields -/

/-- The field under the first of the names that is there, checked; otherwise the default. -/
def field (fields : Entries String Value) (names : List String) (default : α)
    (check : Value → Checked α) : Checked α :=
  match names.findSome? fun name => (fields.find? name).map (name, ·) with
  | some (name, value) => (check value).within (.key name)
  | none => valid default

/-- The field under a name, which must be there. -/
def required (fields : Entries String Value) (name : String) (check : Value → Checked α) :
    Checked α :=
  match fields.find? name with
  | some value => (check value).within (.key name)
  | none => (fail .missing).within (.key name)

/-! ### Common checks -/

/-- A text that may hold code units that stand alone. -/
def looseText : Value → Checked Text.LooseText
  | .text s => valid ⟨s, []⟩
  | .looseText t => valid t
  | _ => fail .notText

/-- A text. What stands for code units that stand alone is taken for a character. -/
def text (value : Value) : Checked String := (looseText value).map (·.text)

/-- A value that passes a check, or nothing. -/
def optional (check : Value → Checked α) : Value → Checked (Option α)
  | .null => valid none
  | value => some <$> check value

/-- Keeps a valid value that passes the test. -/
def ensure (test : α → Bool) (otherwise : Mismatch) (x : Checked α) : Checked α :=
  x.andThen fun a => if test a then valid a else fail otherwise

/-- A list whose items pass a check; `otherwise` is the complaint about anything but a list. -/
def list (check : Value → Checked α) (otherwise : Mismatch) : Value → Checked (List α)
  | .array values => items check values
  | _ => fail otherwise

/-- A table whose values pass a check. -/
def mapping (check : Value → Checked α) : Value → Checked (List (String × α))
  | .table values => entries check values
  | _ => fail .notMap

end Checked

end QueryMetrics
