import QueryMetrics.Number.Shortest
import QueryMetrics.Document.Entries
import QueryMetrics.Text.Loose

/-!
# Document values

What a configuration file or a definitions file says, before it is given a meaning. Whole numbers
and numbers with a fraction are kept apart, because the rules of the readers keep them apart.
Dates and times occur in documents but are never used, so only their presence is recorded. Texts
with code units that stand alone are kept apart from those that consist of characters.
-/

namespace QueryMetrics

/-- A value of a document. -/
inductive Value where
  | null
  | boolean (b : Bool)
  | integer (n : Int)
  | number (x : Binary64)
  | text (s : String)
  /-- A text with code units that stand alone. -/
  | looseText (t : Text.LooseText)
  /-- A date, a time, or both. -/
  | moment
  | array (items : List Value)
  | table (entries : List (String × Value))

namespace Value

instance : Inhabited Value := ⟨null⟩

/-- The value under a key of a table. -/
def field? (key : String) : Value → Option Value
  | table entries => Entries.find? key entries
  | _ => none

/-- The texts of items between brackets, separated by commas. -/
private def bracketed (opening closing : String) (items : List String) : String :=
  opening ++ ", ".intercalate items ++ closing

mutual

/-- The value as it is shown inside a list: texts in quotes. -/
def shown : Value → String
  | null => "None"
  | boolean b => if b then "True" else "False"
  | integer n => toString n
  | number x => x.text
  | text s => Text.quoted s
  | looseText t => Text.quoted t.text
  | moment => ""
  | array items => bracketed "[" "]" (shownItems items)
  | table entries => bracketed "\x7b" "\x7d" (shownEntries entries)

/-- The shown items of an array. -/
def shownItems : List Value → List String
  | [] => []
  | item :: rest => item.shown :: shownItems rest

/-- The shown entries of a table. -/
def shownEntries : List (String × Value) → List String
  | [] => []
  | (key, value) :: rest => (Text.quoted key ++ ": " ++ value.shown) :: shownEntries rest

end

/-- The value as a text of its own: a text stands for itself, without quotes. -/
def display : Value → String
  | text s => s
  | looseText t => t.text
  | value => value.shown

end Value

end QueryMetrics
