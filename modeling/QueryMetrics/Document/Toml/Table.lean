import QueryMetrics.Document.Value

/-!
# Growing tables

A TOML document is built by writing values under **paths** of keys. On the way to its place a
path opens the tables it passes, creating those that are missing, and an array of tables is
entered at its last element.

Which later lines may still open a table is decided by two sets of paths (`Marks`):

* **Declared** paths have been opened by a header of their own, or passed by a dotted key; they
  are not opened again by headers or dotted keys.
* **Frozen** paths hold a value written in brackets; nothing below them can be changed.

A new element of an array of tables starts afresh: all marks below its path are dropped.
-/

namespace QueryMetrics.Toml

/-- A sequence of keys that leads to a table or a value. -/
abbrev Path := List String

/-- Paths that may not be opened again, and paths below which nothing may change. -/
structure Marks where
  declared : List Path := []
  frozen : List Path := []

namespace Marks

/-- The path has been declared. -/
def isDeclared (marks : Marks) (path : Path) : Bool := path ∈ marks.declared

/-- The path lies at or below a frozen path. -/
def isFrozen (marks : Marks) (path : Path) : Bool :=
  marks.frozen.any fun frozen => frozen.isPrefixOf path

/-- Declares paths. -/
def declare (marks : Marks) (paths : List Path) : Marks :=
  { marks with declared := paths ++ marks.declared }

/-- Freezes a path. -/
def freeze (marks : Marks) (path : Path) : Marks := { marks with frozen := path :: marks.frozen }

/-- Drops all marks at and below a path. -/
def clear (marks : Marks) (path : Path) : Marks where
  declared := marks.declared.filter fun marked => !path.isPrefixOf marked
  frozen := marks.frozen.filter fun marked => !path.isPrefixOf marked

end Marks

/-- Entries of a table under construction. -/
abbrev Table := List (String × Value)

/-- Changes the table at the end of a path. Missing tables are created; with `throughArrays` an
array of tables stands for its last element. Nothing is answered if something else is in the
way. -/
def changeAt (throughArrays : Bool) (path : Path) (change : Table → Option Table)
    (table : Table) : Option Table :=
  match path with
  | [] => change table
  | key :: rest =>
    match Entries.find? key table with
    | none => (changeAt throughArrays rest change []).map fun inner =>
        table ++ [(key, .table inner)]
    | some (.table inner) => (changeAt throughArrays rest change inner).map fun changed =>
        Entries.put key (.table changed) table
    | some (.array items) =>
      match throughArrays, items.getLast? with
      | true, some (.table inner) => (changeAt throughArrays rest change inner).map fun changed =>
          Entries.put key (.array (items.dropLast ++ [.table changed])) table
      | _, _ => none
    | some _ => none

/-- Adds an entry under a new key. -/
def addEntry (key : String) (value : Value) (table : Table) : Option Table :=
  if Entries.has key table then none else some (table ++ [(key, value)])

/-- Adds an empty table to the array of tables under a key. -/
def addElement (key : String) (table : Table) : Option Table :=
  match Entries.find? key table with
  | none => some (table ++ [(key, .array [.table []])])
  | some (.array items) => some (Entries.put key (.array (items ++ [.table []])) table)
  | some _ => none

/-- Splits a path into the table it passes last and the key in it. -/
def splitPath : Path → Path × String
  | [] => ([], "")
  | [key] => ([], key)
  | key :: rest => let (parents, last) := splitPath rest; (key :: parents, last)

/-- The value was written in brackets. -/
def isBracketed : Value → Bool
  | .array _ => true
  | .table _ => true
  | _ => false

end QueryMetrics.Toml
