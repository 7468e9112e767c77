import QueryMetrics.Metric.Sample
import QueryMetrics.Number.Shortest
import QueryMetrics.Sorting
import QueryMetrics.Text.Quoted

/-!
# Metric families

Samples that share a name are exposed together as one family. Families stand in the order in which
their names first appear, and the first sample of a name decides the family's kind, its help text
and the names of its labels.

* A counter named `x_total` gives the family `x`, with points named `x_total`. Any other counter
  keeps its name for both, and its points carry the labels of their own samples.
* A histogram sample gives one point for every bucket, in ascending order of the bounds, then one
  for the bound `+Inf`. The count and the sum follow unless the first bound is negative.
* A name that cannot be a family name is rejected with all its samples. A sample of another kind
  than its family is left out.
-/

namespace QueryMetrics

/-! ### Points -/

/-- The value of a point: a measured number, or a count that is kept exactly. -/
inductive Quantity where
  | measured (x : Binary64)
  | counted (n : Int)
  deriving DecidableEq

/-- The quantity as a number; counts beyond the format have none. -/
def Quantity.toBinary64? : Quantity → Option Binary64
  | measured x => some x
  | counted n =>
    match Binary64.ofInt n with
    | .infinite _ => none
    | x => some x

/-- One exposed value with its name and labels. -/
structure Point where
  name : String
  labels : Entries String String
  value : Quantity
  deriving DecidableEq

/-- Points that are exposed under one heading. -/
structure Family where
  name : String
  kind : Kind
  help : String
  points : List Point
  deriving DecidableEq

/-! ### Families in messages -/

/-- The quantity in a message: counts without a fraction. -/
def Quantity.shown : Quantity → String
  | measured x => x.text
  | counted n => toString n

/-- The point in a message: what there could be beside its value is not there. -/
def Point.shown (point : Point) : String :=
  let labels := point.labels.map fun label =>
    Text.quoted label.1 ++ ": " ++ Text.quoted label.2
  "Sample(name=" ++ Text.quoted point.name ++ ", labels=\x7b" ++ ", ".intercalate labels ++
    "\x7d, value=" ++ point.value.shown ++
    ", timestamp=None, exemplar=None, native_histogram=None)"

/-- The family in a message: name, help text, kind, a unit that is never given, and points. -/
def Family.shown (family : Family) : String :=
  "Metric(" ++ ", ".intercalate [family.name, family.help, family.kind.word, "",
    "[" ++ ", ".intercalate (family.points.map Point.shown) ++ "]"] ++ ")"

/-! ### Labels and numbers -/

/-- Label names with label values; the longer list is cut, and of two values of one name the
later stays, in the earlier place. -/
def pairLabels (names values : List String) : Entries String String :=
  Entries.ofList (names.zip values)

/-- The text of a number in the exposition format, where large numbers are written with an
exponent: from a million on, all digits of the numeral follow the first behind the point. -/
def exposedNumber (x : Binary64) : String :=
  match x with
  | .nan => "NaN"
  | .infinite negative => if negative then "-Inf" else "+Inf"
  | .finite .. =>
    let text := x.text.toList
    let whole := text.takeWhile (· ≠ '.')
    if (0 : Binary64) < x ∧ whole.length > 6 ∧ '.' ∈ text then
      let digits := whole.drop 1 ++ (text.dropWhile (· ≠ '.')).drop 1
      let mantissa := whole.take 1 ++ '.' :: digits
      let kept := (mantissa.reverse.dropWhile fun c => c = '0' ∨ c = '.').reverse
      let exponent := decimalDigits (whole.length - 1)
      String.ofList (kept ++ ['e', '+'] ++
        (if exponent.length < 2 then '0' :: exponent else exponent))
    else x.text

/-! ### Points of samples -/

/-- Buckets in ascending order of their bounds. A bound that is not a number is in no order to the
others; then the buckets are sorted by runs. -/
def sortedBuckets (buckets : Entries Binary64 Int) : List (Binary64 × Int) :=
  if buckets.all fun bucket => bucket.1 ≠ .nan then buckets.mergeSort fun a b => a.1.le b.1
  else Sorting.byRuns (fun a b => decide (a.1 < b.1)) buckets

/-- The point of one bucket. -/
def bucketPoint (family : String) (labels : Entries String String) (bound : Binary64)
    (count : Int) : Point where
  name := family ++ "_bucket"
  labels := labels.put "le" (exposedNumber bound)
  value := .counted count

/-- The first bound is not negative; negative zero is not, and neither is a missing bound. -/
def startsNonnegative (buckets : List (Binary64 × Int)) : Bool :=
  match buckets with
  | [] => true
  | (bound, _) :: _ => (0 : Binary64).le bound

/-- The points of a histogram sample. -/
def histogramPoints (family : String) (labels : Entries String String) (sample : Sample) :
    List Point :=
  let buckets := sortedBuckets sample.buckets
  let count := sample.count.getD 0
  buckets.map (fun bucket => bucketPoint family labels bucket.1 bucket.2) ++
    [bucketPoint family labels (.infinite false) count] ++
    if startsNonnegative buckets then
      [⟨family ++ "_count", labels, .counted count⟩,
       ⟨family ++ "_sum", labels, .measured sample.value⟩]
    else []

/-! ### Grouping -/

/-- The ending that marks a counter. -/
def totalEnding : String := "_total"

/-- The name without the ending of counters, if it has that ending. -/
def withoutTotal? (name : String) : Option String :=
  let letters := name.toList
  if totalEnding.toList.isSuffixOf letters then
    some (String.ofList (letters.take (letters.length - totalEnding.toList.length)))
  else none

/-- A family with what is needed to add to it. -/
structure Group where
  /-- The name that its samples share. -/
  sampleName : String
  /-- The label names of its first sample. -/
  labelNames : List String
  family : Family
  deriving DecidableEq

/-- Why a sample is not exposed. -/
inductive FamilyFault where
  /-- The family would have no name. -/
  | emptyName (sample : String)
  /-- The family has another kind. -/
  | otherKind (sample : String) (kind collected : Kind)
  deriving DecidableEq, Repr

/-- A counter has more or fewer label values than label names. -/
structure LabelMismatch where
  names : Nat
  values : Nat
  deriving DecidableEq, Repr

/-- The name of the family that a sample opens. -/
def familyName (sample : Sample) : String :=
  match sample.kind with
  | .counter => (withoutTotal? sample.name).getD sample.name
  | _ => sample.name

/-- The group that a sample opens, still without points. -/
def openGroup (sample : Sample) : Group where
  sampleName := sample.name
  labelNames := sample.labelNames
  family := ⟨familyName sample, sample.kind, sample.help, []⟩

/-- The points that a sample adds to a group. -/
def pointsFor (group : Group) (sample : Sample) : Except LabelMismatch (List Point) :=
  let labels := pairLabels group.labelNames sample.labelValues
  match group.family.kind with
  | .gauge => .ok [⟨group.family.name, labels, .measured sample.value⟩]
  | .histogram => .ok (histogramPoints group.family.name labels sample)
  | .counter =>
    if (withoutTotal? group.sampleName).isSome then
      .ok [⟨group.family.name ++ totalEnding, labels, .measured sample.value⟩]
    else if sample.labelNames.length = sample.labelValues.length then
      .ok [⟨sample.name, pairLabels sample.labelNames sample.labelValues,
        .measured sample.value⟩]
    else .error ⟨sample.labelNames.length, sample.labelValues.length⟩

/-- Samples grouped so far. -/
structure Grouping where
  groups : List Group := []
  rejected : List String := []
  notices : List FamilyFault := []
  deriving DecidableEq

namespace Grouping

/-- The group of a sample name. -/
def find? (grouping : Grouping) (name : String) : Option Group :=
  grouping.groups.find? fun group => group.sampleName == name

/-- Adds points to the group of a name. -/
def extend (grouping : Grouping) (name : String) (points : List Point) : Grouping :=
  { grouping with
    groups := grouping.groups.map fun group =>
      if group.sampleName == name then
        { group with family := { group.family with points := group.family.points ++ points } }
      else group }

/-- Records why a sample is left out. -/
def note (grouping : Grouping) (fault : FamilyFault) : Grouping :=
  { grouping with notices := grouping.notices ++ [fault] }

/-- Adds a sample: to the group of its name, or to a new one at the end. -/
def add (grouping : Grouping) (sample : Sample) : Except LabelMismatch Grouping :=
  if sample.name ∈ grouping.rejected then .ok grouping
  else
    match grouping.find? sample.name with
    | some group =>
      if group.family.kind = sample.kind then
        (pointsFor group sample).map (grouping.extend sample.name)
      else .ok (grouping.note (.otherKind sample.name sample.kind group.family.kind))
    | none =>
      if (familyName sample).isEmpty then
        .ok ({ grouping with rejected := grouping.rejected ++ [sample.name] }.note
          (.emptyName sample.name))
      else
        (pointsFor (openGroup sample) sample).map fun points =>
          { grouping with groups := grouping.groups ++ [openGroup sample] }.extend sample.name
            points

/-- Groups samples. -/
def ofSamples (samples : List Sample) : Except LabelMismatch Grouping :=
  samples.foldlM add {}

/-- The families of the groups. -/
def families (grouping : Grouping) : List Family := grouping.groups.map (·.family)

end Grouping

end QueryMetrics
