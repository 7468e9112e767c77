import QueryMetrics.Document.Reading
import QueryMetrics.Failure

/-!
# Routes

A route is a template for paths: literal text with parameters in braces, such as
`/metrics/{name}`. A parameter stands for one part of a path unless it names another kind, as in
`{name:path}`. A line end behind a path does not count.
-/

namespace QueryMetrics.Http

open Text

/-! ### Parameters -/

/-- What a parameter stands for. -/
inductive ParameterKind where
  /-- One part of a path: anything without a slash. -/
  | part
  /-- Any number of parts. -/
  | path
  /-- ASCII digits. -/
  | whole
  /-- ASCII digits, optionally with a fraction. -/
  | decimal
  /-- A universally unique identifier, with or without its dashes. -/
  | uuid
  deriving DecidableEq, Repr

namespace ParameterKind

/-- The kind that a word stands for. -/
def ofWord? (word : String) : Option ParameterKind :=
  if word = "str" then some part
  else if word = "path" then some path
  else if word = "int" then some whole
  else if word = "float" then some decimal
  else if word = "uuid" then some uuid
  else none

/-- ASCII digits, at least one. -/
def isDigits (text : List Char) : Bool := !text.isEmpty && text.all Char.isDigit

/-- Groups of hexadecimal digits of the given lengths, with or without dashes between them. -/
def isHexGroups : List Nat → List Char → Bool
  | [], text => text.isEmpty
  | length :: lengths, text =>
    let group := text.take length
    let rest := text.drop length
    group.length == length && group.all (fun c => (hexValue? c).isSome) &&
      match lengths, rest with
      | _ :: _, '-' :: rest => isHexGroups lengths rest
      | _, rest => isHexGroups lengths rest

/-- The kind of parameter admits the text. -/
def admits : ParameterKind → List Char → Bool
  | part, text => !text.isEmpty && text.all (· ≠ '/')
  | path, text => text.all (· ≠ '\n')
  | whole, text => isDigits text
  | decimal, text =>
    let (before, after) := text.span (· ≠ '.')
    isDigits before && (after.isEmpty || isDigits (after.drop 1))
  | uuid, text => isHexGroups [8, 4, 4, 4, 12] text

end ParameterKind

/-! ### Templates -/

/-- A piece of a template. -/
inductive Piece where
  /-- A letter that stands for itself. A code unit that stands alone occurs in no path. -/
  | literal (letter : Letter)
  | parameter (name : String) (kind : ParameterKind)
  deriving DecidableEq, Repr

/-- A character that names may begin with. -/
def isNameStart (c : Char) : Bool := c.isAlpha || c == '_'

/-- A character that names may go on with. -/
def isNameRest (c : Char) : Bool := isNameStart c || c.isDigit

/-- A name at the front of a text. -/
def spanName? : List Char → Option (String × List Char)
  | c :: rest =>
    if isNameStart c then
      let (more, rest) := rest.span isNameRest
      some (String.ofList (c :: more), rest)
    else none
  | [] => none

/-- A parameter behind its opening brace: its name, the word for its kind, and how many
characters it takes with its closing brace. -/
def parameter? (text : List Char) : Option (String × String × Nat) := do
  let (name, rest) ← spanName? text
  let (word, rest) ← match rest with
    | ':' :: rest => spanName? rest
    | rest => some ("str", rest)
  match rest with
  | '\x7d' :: rest => some (name, word, text.length - rest.length)
  | _ => none

/-- The pieces of a template; `skip` characters belong to a parameter that has been read. -/
def piecesFrom : Nat → List Letter → Except StartFault (List Piece)
  | _, [] => .ok []
  | skip + 1, _ :: rest => piecesFrom skip rest
  | 0, c :: rest => do
    match if c = .char '\x7b' then parameter? (rest.map Letter.shown) else none with
    | some (name, word, taken) =>
      match ParameterKind.ofWord? word with
      | none => .error (.unknownParameterKind word)
      | some kind => .ok (.parameter name kind :: (← piecesFrom taken rest))
    | none => .ok (.literal c :: (← piecesFrom 0 rest))

/-- The names of the parameters. -/
def parameterNames (pieces : List Piece) : List String :=
  pieces.filterMap fun piece =>
    match piece with
    | .parameter name _ => some name
    | .literal _ => none

/-- The names that occur more than once, in order and each once. -/
def repeatedNames (names : List String) : List String :=
  ((names.filter fun name => 1 < names.count name).eraseDups).mergeSort (· ≤ ·)

/-- A template for paths. -/
structure Route where
  pieces : List Piece
  deriving DecidableEq

namespace Route

/-- The route of a template, which begins with a slash and names no parameter twice. -/
def ofTemplate (template : LooseText) : Except StartFault Route := do
  if template.text.toList.head? = some '/' then
    let pieces ← piecesFrom 0 template.letters
    match repeatedNames (parameterNames pieces) with
    | [] => .ok ⟨pieces⟩
    | names => .error (.duplicateParameters names template.text)
  else .error (.pathNotRooted template.text)

/-- What the parameters among the pieces stand for in a text that the pieces admit. Each of them
takes as much as it can, the first one first. -/
def arguments? : List Piece → List Char → Option (List (ParameterKind × List Char))
  | [], text => if text = [] ∨ text = ['\n'] then some [] else none
  | .literal c :: pieces, text =>
    match text with
    | d :: rest => if c = .char d then arguments? pieces rest else none
    | [] => none
  | .parameter _ kind :: pieces, text =>
    (List.range (text.length + 1)).reverse.findSome? fun taken =>
      if kind.admits (text.take taken) then
        (arguments? pieces (text.drop taken)).map ((kind, text.take taken) :: ·)
      else none

/-- The first argument that cannot be converted: a whole number with too many digits. -/
def argumentFault? (arguments : List (ParameterKind × List Char)) : Option NumeralFault :=
  arguments.findSome? fun argument =>
    match argument.1 with
    | .whole =>
      if maxIntegerDigits < argument.2.length then some (.tooManyDigits argument.2.length)
      else none
    | _ => none

/-- The route leads to the path. The arguments in the path are converted to find out. -/
def leadsTo (route : Route) (path : String) : Except NumeralFault Bool :=
  match arguments? route.pieces path.toList with
  | none => .ok false
  | some arguments =>
    match argumentFault? arguments with
    | some fault => .error fault
    | none => .ok true

end Route

end QueryMetrics.Http
