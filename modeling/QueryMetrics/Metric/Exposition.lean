import QueryMetrics.Metric.Family

/-!
# Exposition format

The text in which families are served. A family has a line with its help text and a line with its
kind, then one line for every point: name, labels in the order of their names, value. Counters are
announced under the family name with `_total`.

Names may hold ASCII letters, digits that do not come first, underscores and, for metrics, colons;
every other character becomes an underscore. A name that is fine up to a line end behind it is
left alone.
-/

namespace QueryMetrics.Exposition

/-! ### Names -/

/-- The character may stand in a name; digits may not come first. -/
def isNameChar (colons first : Bool) (c : Char) : Bool :=
  c.isAlpha || c == '_' || (colons && c == ':') || (c.isDigit && !first)

/-- Puts underscores in place of the characters that may not stand in a name. -/
def escapeFrom (colons first : Bool) : List Char → List Char
  | [] => []
  | c :: rest => (if isNameChar colons first c then c else '_') :: escapeFrom colons false rest

/-- The name without a line end behind it. -/
def withoutFinalNewline (name : List Char) : List Char :=
  match name.reverse with
  | '\n' :: rest => rest.reverse
  | _ => name

/-- The name in the characters of the format. -/
def escapeName (colons : Bool) (name : String) : String :=
  let plain := withoutFinalNewline name.toList
  if plain ≠ [] ∧ escapeFrom colons true plain = plain then name
  else String.ofList (escapeFrom colons true name.toList)

/-- A metric name. -/
def metricName (name : String) : String := escapeName true name

/-- A label name. Names with two leading underscores are reserved, which rules out the exception
for line ends. -/
def labelName (name : String) : String :=
  if ['_', '_'].isPrefixOf name.toList then String.ofList (escapeFrom false true name.toList)
  else escapeName false name

/-! ### Texts -/

/-- A help text on one line. -/
def escapeHelp (help : String) : String :=
  String.ofList (help.toList.flatMap fun c =>
    if c = '\\' then ['\\', '\\'] else if c = '\n' then ['\\', 'n'] else [c])

/-- A label value between its quotes. -/
def escapeLabelValue (value : String) : String :=
  String.ofList (value.toList.flatMap fun c =>
    if c = '\\' then ['\\', '\\']
    else if c = '\n' then ['\\', 'n']
    else if c = '"' then ['\\', '"']
    else [c])

/-! ### Lines -/

/-- Labels in the order of their names. -/
def sortedLabels (labels : Entries String String) : List (String × String) :=
  labels.mergeSort fun a b => a.1 ≤ b.1

/-- One label with its value. -/
def labelText (label : String × String) : String :=
  labelName label.1 ++ "=\"" ++ escapeLabelValue label.2 ++ "\""

/-- The labels in brackets; nothing without labels. -/
def labelsText (labels : Entries String String) : String :=
  if labels.isEmpty then ""
  else "\x7b" ++ ",".intercalate ((sortedLabels labels).map labelText) ++ "\x7d"

/-- Why families cannot be written. -/
inductive Failure where
  /-- A quantity of the family is beyond the range of numbers. -/
  | outOfRange (family : Family)
  deriving DecidableEq

/-- The line of a point; a quantity beyond the range of numbers has none. -/
def pointLine? (point : Point) : Option String :=
  point.value.toBinary64?.map fun x =>
    metricName point.name ++ labelsText point.labels ++ " " ++ exposedNumber x ++ "\n"

/-- The name under which a family is announced. -/
def announcedName (family : Family) : String :=
  match family.kind with
  | .counter => metricName (family.name ++ totalEnding)
  | _ => metricName family.name

/-- The lines of a family. -/
def familyText (family : Family) : Except Failure String :=
  match family.points.mapM pointLine? with
  | none => .error (.outOfRange family)
  | some points =>
    let name := announcedName family
    .ok ("# HELP " ++ name ++ " " ++ escapeHelp family.help ++ "\n" ++
      "# TYPE " ++ name ++ " " ++ family.kind.word ++ "\n" ++ String.join points)

/-- The text of families. -/
def text (families : List Family) : Except Failure String :=
  (families.mapM familyText).map String.join

end QueryMetrics.Exposition
