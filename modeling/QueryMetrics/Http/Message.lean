import QueryMetrics.Http.Route
import QueryMetrics.Text.Quoted
import QueryMetrics.Text.Utf8

/-!
# Requests and responses

One route is served, for the methods `GET` and `HEAD`. A path that differs from the route only by
slashes at its end is redirected; everything else is not found.
-/

namespace QueryMetrics.Http

open Text

/-- A request. -/
structure Request where
  method : String := "GET"
  /-- The name under which the client reached the server. -/
  host : String
  path : String
  query : String := ""
  /-- The address of the client, if it is known. -/
  client : Option String := none
  deriving DecidableEq

/-- A response. -/
structure Response where
  status : Nat
  contentType : Option String := none
  /-- The methods that would have been allowed. -/
  allow : List String := []
  location : Option String := none
  body : String := ""
  deriving DecidableEq

/-! ### Addresses -/

/-- A character of a path in an address: the two that would end the path, and the one that could
be taken for a slash, are written by their numbers. -/
def addressChar : Char → List Char
  | '?' => ['%', '3', 'F']
  | '#' => ['%', '2', '3']
  | '\\' => ['%', '5', 'C']
  | c => [c]

/-- The address of a request. -/
def Request.address (request : Request) : String :=
  "http://" ++ request.host ++ String.ofList (request.path.toList.flatMap addressChar) ++
    if request.query.isEmpty then "" else "?" ++ request.query

/-- The path in the address, without the characters that addresses do not have. -/
def Request.shownPath (request : Request) : String :=
  let kept := request.path.toList.filter fun c => c ≠ '\t' ∧ c ≠ '\n' ∧ c ≠ '\r'
  String.ofList (kept.flatMap addressChar)

/-- Characters that stand for themselves in a location. -/
def isPlainInLocation (c : Char) : Bool :=
  c.isAlphanum || "_.-~:/%#?=@[]!$&'()*+,;".toList.contains c

/-- A character in a location: as it is, or by the octets of its encoding. -/
def locationChar (c : Char) : List Char :=
  if isPlainInLocation c then [c]
  else (encode (String.singleton c)).flatMap fun octet =>
    '%' :: (hexadecimal 2 octet.toNat).map Char.toUpper

/-- An address as a location. -/
def writtenLocation (address : String) : String :=
  String.ofList (address.toList.flatMap locationChar)

/-! ### Responses -/

/-- The type of plain texts. -/
def plainText : String := "text/plain; charset=utf-8"

/-- A response with a plain text. -/
def Response.plain (status : Nat) (body : String) : Response :=
  { status, contentType := some plainText, body }

/-- Metrics in the exposition format. -/
def Response.metrics (body : String) : Response :=
  { status := 200, contentType := some "text/plain; version=0.0.4; charset=utf-8", body }

/-- The definitions could not be loaded. -/
def Response.reloadFailed : Response := .plain 500 "metric definitions failed to load\n"

/-- Something unexpected happened. -/
def Response.serverError : Response := .plain 500 "Internal Server Error"

/-! ### Routing -/

/-- The methods that are served. -/
def servedMethods : List String := ["GET", "HEAD"]

/-- The path with the other ending: without slashes at its end if it has one, otherwise with
one. -/
def otherEnding (path : String) : String :=
  if path.toList.getLast? = some '/' then
    String.ofList (path.toList.reverse.dropWhile (· = '/')).reverse
  else path ++ "/"

/-- The path with the other ending is served. -/
def isRedirected (route : Route) (path : String) : Except NumeralFault Bool :=
  if path = "/" then .ok false else route.leadsTo (otherEnding path)

/-- The response to a request that does not reach the route; none for a request that does. -/
def Route.refusal? (route : Route) (request : Request) :
    Except NumeralFault (Option Response) := do
  if ← route.leadsTo request.path then
    if request.method ∈ servedMethods then .ok none
    else .ok (some { Response.plain 405 "Method Not Allowed" with allow := servedMethods })
  else if ← isRedirected route request.path then
    let target := { request with path := otherEnding request.path }
    .ok (some { status := 307, location := some (writtenLocation target.address) })
  else .ok (some (.plain 404 "Not Found"))

end QueryMetrics.Http
