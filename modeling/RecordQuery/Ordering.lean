import RecordQuery.Path
import RecordQuery.Sorting.Course

/-!
Ordering of records: sort keys, the comparison of key values in turn, and the sort by them. A sort
fails at the first record whose key does not resolve, and else at the first two keys that it meets and
cannot compare.
-/

namespace RecordQuery

/-- A path whose value is the key, and the direction of the order. -/
structure SortKey where
  path : Path
  direction : Direction
  deriving DecidableEq

namespace SortKey

/-- Reads a sort key; its whole text is the key of the error. -/
def parse (spelling : Spelling) (text : String) : Except Failure SortKey :=
  let (direction, key) := spelling.direction text
  match Path.ofSegments? (spelling.split key) with
  | some path => .ok ⟨path, direction⟩
  | none => .error (.emptyPath text)

/-- Sort keys are shown in the standard spelling. -/
def text (key : SortKey) : String :=
  match key.direction with
  | .ascending => key.path.text
  | .descending => "-" ++ key.path.text

/-- Compares two values of a key. -/
def compare (key : SortKey) (a b : Value) : Except Failure Ordering :=
  match a.compare? b with
  | some o => .ok (key.direction.apply o)
  | none => .error (.incomparable key.text a.kind b.kind)

end SortKey

/-- Reads sort keys in their order. -/
def parseSortKeys (spelling : Spelling) (texts : List String) :
    Except Failure (List SortKey) :=
  texts.mapM (SortKey.parse spelling)

/-- Compares two rows of key values: the first keys that differ decide. -/
def compareRows : List SortKey → List Value → List Value → Except Failure Ordering
  | key :: keys, a :: as, b :: bs =>
    match key.compare a b with
    | .ok .eq => compareRows keys as bs
    | decided => decided
  | _, _, _ => .ok .eq

/-! ### Sorting -/

/-- The values of the sort keys of a record, in turn. -/
def keyValues (registry : Registry) (keys : List SortKey) (r : Record) :
    Except Failure (List Value) :=
  keys.mapM fun key => key.path.resolve registry r

/-- Sorts records by their keys. -/
def sortByKeys (sort : StableSort) (registry : Registry) (keys : List SortKey)
    (records : List Record) : Except Failure (List Record) := do
  let rows ← records.mapM fun r => (keyValues registry keys r).map fun values => (values, r)
  let sorted ← sort.apply (fun a b => compareRows keys a.1 b.1) rows
  return sorted.map (·.2)

end RecordQuery
