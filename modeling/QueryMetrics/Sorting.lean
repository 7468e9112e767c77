/-!
# Sorting by runs

A list is cut into runs that are in order already, and neighbouring runs are merged until one is
left. Which items are compared, and in which sequence, is part of the definition, so the result is
determined for every comparison. That matters where the comparison is no order, as with items that
are neither before nor behind any other.

* **Runs** are as long as the list allows: either no item is before the one in front of it, or
  every item is, and then the run is turned round. A short run is filled up by inserting the items
  that follow, each in a place found by halving.
* **Merging** compares the heads of two runs. When one of them wins often in a row, the merge
  gallops: it searches for the place where the winning ends, and takes everything up to there at
  once. The shorter run decides from which end runs are merged.
* **The plan** which runs are merged first follows the tree of halves, quarters and so on of the
  list: runs that meet in a deeper node are merged earlier.
-/

namespace QueryMetrics.Sorting

variable {α : Type}

/-! ### Searching -/

/-- The first position from `low` on at which a test fails, or `high`, found by halving. The test
is taken to hold in front of some position and to fail from there on. -/
def bisect (test : Nat → Bool) (low high : Nat) : Nat :=
  if low < high then
    let middle := (low + high) / 2
    if test middle then bisect test (middle + 1) high else bisect test low middle
  else high
termination_by high - low

/-- Steps out as long as a test holds, each time a little more than twice as far. The result is the
last step at which the test held and the one behind it, which is at most `limit`. -/
def stride (test : Nat → Bool) (limit last step : Nat) : Nat × Nat :=
  if step < limit ∧ test step then stride test limit step (2 * step + 1)
  else (last, min step limit)
termination_by limit - step

/-- The first of `size` positions at which a test fails, or `size`: striding out from a hint, and
halving within the last stride. -/
def gallop (test : Nat → Bool) (size hint : Nat) : Nat :=
  if test hint then
    let (near, far) := stride (fun step => test (hint + step)) (size - hint) 0 1
    bisect test (hint + near + 1) (hint + far)
  else
    let (near, far) := stride (fun step => !test (hint - step)) (hint + 1) 0 1
    bisect test (hint + 1 - far) (hint - near)

/-- The item at a position passes a test. -/
def passesAt (items : List α) (test : α → Bool) (position : Nat) : Bool :=
  (items[position]?).any test

/-! ### Runs -/

/-- Cuts off the items that each stand in a relation to the one in front of them; the first of
them is in front of all. The items that are cut off come with the last one first. -/
def spanRelated (related : α → α → Bool) (taken : List α) (previous : α) :
    List α → List α × List α
  | [] => (previous :: taken, [])
  | item :: rest =>
    if related item previous then spanRelated related (previous :: taken) item rest
    else (previous :: taken, item :: rest)

/-- Cuts off the first run of a list. -/
def firstRun (before : α → α → Bool) : List α → List α × List α
  | x :: y :: rest =>
    if before y x then spanRelated before [x] y rest
    else
      let (run, left) := spanRelated (fun item previous => !before item previous) [x] y rest
      (run.reverse, left)
  | items => (items, [])

/-- Inserts an item into a run, behind those that it is not before. -/
def insertItem (before : α → α → Bool) (run : List α) (item : α) : List α :=
  let place := bisect (passesAt run fun other => !before item other) 0 run.length
  run.take place ++ item :: run.drop place

/-- Fills a run up to a length with the items that follow. -/
def fillUp (before : α → α → Bool) (least : Nat) (run rest : List α) : List α × List α :=
  let missing := least - run.length
  ((rest.take missing).foldl (insertItem before) run, rest.drop missing)

/-- The least length of runs, so that a list of this size has a number of runs that is a power of
two or a little less. -/
def leastRun (size : Nat) : Nat :=
  go size 0
where
  /-- Halves the size until it is small; `odd` is one if anything was lost. -/
  go (size odd : Nat) : Nat :=
    if 64 ≤ size then go (size / 2) (max odd (size % 2)) else size + odd
  termination_by size

/-! ### Merging -/

/-- The heads of two runs that are merged. The second run has to win against the first; what has
been merged comes with the last item first. -/
structure Heads (α : Type) where
  merged : List α
  first : List α
  second : List α

namespace Heads

/-- Ends the merge if only one order of the remaining items is left: one run is used up, or the
first has come down to the item that ends the merge. -/
def settle (heads : Heads α) : Except (List α) (Heads α) :=
  match heads.first, heads.second with
  | [], second => .error (heads.merged.reverse ++ second)
  | first, [] => .error (heads.merged.reverse ++ first)
  | [item], second => .error (heads.merged.reverse ++ second ++ [item])
  | _, _ => .ok heads

/-- Takes items from the first run. -/
def takeFirst (heads : Heads α) (count : Nat) : Except (List α) (Heads α) :=
  settle ⟨(heads.first.take count).reverse ++ heads.merged, heads.first.drop count, heads.second⟩

/-- Takes items from the second run. -/
def takeSecond (heads : Heads α) (count : Nat) : Except (List α) (Heads α) :=
  settle ⟨(heads.second.take count).reverse ++ heads.merged, heads.first, heads.second.drop count⟩

/-- The head of the second run wins. -/
def secondWins (ahead : α → α → Bool) (heads : Heads α) : Bool :=
  match heads.first, heads.second with
  | x :: _, y :: _ => ahead y x
  | _, _ => false

end Heads

/-- How many items at the front of a list pass a test. Items that were turned round are searched
in their former order. -/
def winning (turned : Bool) (test : α → Bool) (items : List α) : Nat :=
  if turned then
    items.length -
      gallop (passesAt items.reverse fun item => !test item) items.length (items.length - 1)
  else gallop (passesAt items test) items.length 0

/-- Takes what wins of the first run against the head of the second, and then that head. -/
def gallopFirst (turned : Bool) (ahead : α → α → Bool) (heads : Heads α) :
    Except (List α) (Heads α × Nat) := do
  let count := match heads.second with
    | y :: _ => winning turned (fun item => !ahead y item) heads.first
    | [] => 0
  let heads ← heads.takeFirst count
  let heads ← heads.takeSecond 1
  .ok (heads, count)

/-- Takes what wins of the second run against the head of the first, and then that head. -/
def gallopSecond (turned : Bool) (ahead : α → α → Bool) (heads : Heads α) :
    Except (List α) (Heads α × Nat) := do
  let count := match heads.first with
    | x :: _ => winning turned (fun item => ahead item x) heads.second
    | [] => 0
  let heads ← heads.takeSecond count
  let heads ← heads.takeFirst 1
  .ok (heads, count)

/-- Gallops through both runs, and says whether that was worth while. -/
def gallopBoth (turned : Bool) (ahead : α → α → Bool) (heads : Heads α) :
    Except (List α) (Heads α × Bool) := do
  let (heads, one) ← if turned then gallopSecond turned ahead heads
    else gallopFirst turned ahead heads
  let (heads, other) ← if turned then gallopFirst turned ahead heads
    else gallopSecond turned ahead heads
  .ok (heads, decide (7 ≤ one ∨ 7 ≤ other))

/-- How a merge goes on: item by item, with the number of wins in a row of both runs, or by
galloping. -/
inductive Pace where
  | items (firstWins secondWins : Nat)
  | galloping

/-- Merges two runs. The patience is the number of wins in a row after which the merge gallops; it
shrinks while galloping is worth while and grows when it is not, and what is left of it goes to
the next merge. Every round takes an item, so there are never more rounds than items. -/
def mergeHeads (turned : Bool) (ahead : α → α → Bool) :
    Nat → Pace → Nat → Heads α → List α × Nat
  | 0, _, patience, heads =>
    (heads.merged.reverse ++ heads.first ++ heads.second, patience)
  | rounds + 1, .items firstWins secondWins, patience, heads =>
    let second := heads.secondWins ahead
    match if second then heads.takeSecond 1 else heads.takeFirst 1 with
    | .error merged => (merged, patience)
    | .ok heads =>
      let firstWins := if second then 0 else firstWins + 1
      let secondWins := if second then secondWins + 1 else 0
      let pace := if patience ≤ firstWins ∨ patience ≤ secondWins then .galloping
        else .items firstWins secondWins
      mergeHeads turned ahead rounds pace patience heads
  | rounds + 1, .galloping, patience, heads =>
    match gallopBoth turned ahead heads with
    | .error merged => (merged, patience)
    | .ok (heads, true) =>
      mergeHeads turned ahead rounds .galloping (max 1 (patience - 1)) heads
    | .ok (heads, false) => mergeHeads turned ahead rounds (.items 0 0) (patience + 1) heads

/-- Merges two runs of which the second is known to win at first. -/
def mergeTaken (turned : Bool) (ahead : α → α → Bool) (patience : Nat) (first second : List α) :
    List α × Nat :=
  match Heads.takeSecond ⟨[], first, second⟩ 1 with
  | .error merged => (merged, patience)
  | .ok heads =>
    mergeHeads turned ahead (first.length + second.length) (.items 0 0) patience heads

/-- Merges two neighbouring runs. The items at their outer ends that are in place are left alone,
and the longer one of what remains is kept where it is: if that is the first, both are turned
round and merged from their ends. -/
def mergeRuns (before : α → α → Bool) (patience : Nat) (left right : List α) :
    List α × Nat :=
  let kept := match right with
    | y :: _ => gallop (passesAt left fun x => !before y x) left.length 0
    | [] => left.length
  let first := left.drop kept
  match first.getLast? with
  | none => (left ++ right, patience)
  | some x =>
    let count := gallop (passesAt right (before · x)) right.length (right.length - 1)
    let second := right.take count
    let (merged, patience) :=
      if second.isEmpty then (first, patience)
      else if first.length ≤ second.length then mergeTaken false before patience first second
      else
        let (merged, patience) :=
          mergeTaken true (fun a b => before b a) patience second.reverse first.reverse
        (merged.reverse, patience)
    (left.take kept ++ merged ++ right.drop count, patience)

/-! ### The plan -/

/-- A run with the position at which it begins in the list, and the depth of the node in which it
meets the run behind it. -/
structure Placed (α : Type) where
  start : Nat
  depth : Nat
  items : List α

/-- The depth of the node that separates two points of a list, given as parts of `size`: the
number of digits after which their binary fractions differ. The first number bounds it. -/
def depthBetween : Nat → Nat → Nat → Nat → Nat
  | 0, _, _, _ => 0
  | bound + 1, size, a, b =>
    if size ≤ a then depthBetween bound size (2 * (a - size)) (2 * (b - size)) + 1
    else if size ≤ b then 1
    else depthBetween bound size (2 * a) (2 * b) + 1

/-- The depth of the node in which a run meets the one behind it: it separates their middles. -/
def meetingDepth (size start left right : Nat) : Nat :=
  let middle := 2 * start + left
  depthBetween (size + 64) size middle (middle + left + right)

/-- Merges a run with the one behind it. -/
def join (before : α → α → Bool) (patience : Nat) (left right : Placed α) : Placed α × Nat :=
  let (items, patience) := mergeRuns before patience left.items right.items
  (⟨left.start, right.depth, items⟩, patience)

/-- Merges the last runs as long as they meet deeper than `depth`, at which the last one then meets
the next. The last run comes first. -/
def joinDeeper (before : α → α → Bool) (depth patience : Nat) (last : Placed α) :
    List (Placed α) → List (Placed α) × Nat
  | [] => ([{ last with depth }], patience)
  | previous :: rest =>
    if depth < previous.depth then
      let (joined, patience) := join before patience previous last
      joinDeeper before depth patience joined rest
    else ({ last with depth } :: previous :: rest, patience)

/-- Merges all runs, the last ones first, but a run that is shorter than the second one behind it
is merged with the one between them. -/
def joinAll (before : α → α → Bool) : Nat → Nat → List (Placed α) → List α
  | _, _, [] => []
  | _, _, [last] => last.items
  | 0, _, runs => (runs.reverse.map (·.items)).flatten
  | rounds + 1, patience, last :: previous :: rest =>
    match rest with
    | third :: others =>
      if third.items.length < last.items.length then
        let (joined, patience) := join before patience third previous
        joinAll before rounds patience (last :: joined :: others)
      else
        let (joined, patience) := join before patience previous last
        joinAll before rounds patience (joined :: rest)
    | [] => (join before patience previous last).1.items

/-- Cuts runs off a list and merges those that the plan has merged before the next. Every round
takes an item. -/
def collectRuns (before : α → α → Bool) (size : Nat) :
    Nat → Nat → List (Placed α) → List α → List (Placed α) × Nat
  | 0, patience, runs, _ => (runs, patience)
  | _, patience, runs, [] => (runs, patience)
  | rounds + 1, patience, runs, items =>
    let (run, rest) := firstRun before items
    let (run, rest) := fillUp before (leastRun size) run rest
    let (runs, patience) := match runs with
      | [] => ([], patience)
      | last :: others =>
        joinDeeper before (meetingDepth size last.start last.items.length run.length) patience
          last others
    collectRuns before size rounds patience (⟨size - items.length, 0, run⟩ :: runs) rest

/-- The items of a list, sorted by runs. -/
def byRuns (before : α → α → Bool) (items : List α) : List α :=
  let (runs, patience) := collectRuns before items.length items.length 7 [] items
  joinAll before runs.length patience runs

end QueryMetrics.Sorting
