import RecordQuery.Access
import RecordQuery.Json
import RecordQuery.Lookup
import RecordQuery.Ordering
import RecordQuery.Sorting.Insertion
import RecordQuery.Value.Text

/-!
Lists of records and the queries on them. Each query gives a new list, which keeps the spelling of the
one it was asked of.
-/

namespace RecordQuery

/-- An ordered list of records, and the spelling of lookups on it. -/
structure RecordList where
  records : List Record
  spelling : Spelling := .standard

namespace RecordList

/-- Two lists hold equal records in the same order. The spelling does not count. -/
def same (a b : RecordList) : Bool :=
  a.records.length == b.records.length && (a.records.zip b.records).all fun p => p.1.same p.2

/-- The record at a place. -/
def nth (list : RecordList) (i : Nat) : Except AccessError Record := elementAt list.records i

/-! ### Selection -/

section
variable [PatternEngine]

/-- Keeps the records that meet all lookups, or those that do not. -/
def keeping (registry : Registry) (list : RecordList) (lookups : List Lookup) (keep : Bool) :
    Except Failure RecordList := do
  let conditions ← conditionsOf list.spelling registry lookups
  let chosen ← list.records.filterM fun r => (meetsAll registry r conditions).map (· == keep)
  return { list with records := chosen }

/-- The records that meet all lookups. -/
def filter (registry : Registry) (list : RecordList) (lookups : List Lookup) :
    Except Failure RecordList := list.keeping registry lookups true

/-- The records that do not meet all lookups, those whose paths do not resolve among them. -/
def exclude (registry : Registry) (list : RecordList) (lookups : List Lookup) :
    Except Failure RecordList := list.keeping registry lookups false

/-- The first match so far and the number of matches, after going through some records. -/
def countMatches (registry : Registry) (conditions : List Condition) :
    List Record → Option Record × Nat → Except Failure (Option Record × Nat)
  | [], found => .ok found
  | r :: rs, (found, count) =>
    match meetsAll registry r conditions with
    | .ok true => countMatches registry conditions rs (found.or (some r), count + 1)
    | .ok false => countMatches registry conditions rs (found, count)
    | .error e => .error e

/-- The one record that meets all lookups. -/
def single (registry : Registry) (list : RecordList) (lookups : List Lookup) :
    Except Failure Record := do
  let conditions ← conditionsOf list.spelling registry lookups
  match ← countMatches registry conditions list.records (none, 0) with
  | (some r, 1) => .ok r
  | (none, _) => .error .noMatch
  | (some _, n) => .error (.manyMatches n)

/-- Some record meets all conditions; none is asked after the first that does. -/
def someMeets (registry : Registry) (conditions : List Condition) :
    List Record → Except Failure Bool
  | [] => .ok false
  | r :: rs =>
    match meetsAll registry r conditions with
    | .ok true => .ok true
    | .ok false => someMeets registry conditions rs
    | .error e => .error e

/-- Some record meets all lookups. -/
def any (registry : Registry) (list : RecordList) (lookups : List Lookup) :
    Except Failure Bool := do
  let conditions ← conditionsOf list.spelling registry lookups
  someMeets registry conditions list.records

end

/-! ### Order -/

/-- The records in the order of the given keys, of which the first is the primary one. -/
def sortedWith (sort : StableSort) (registry : Registry) (list : RecordList)
    (texts : List String) : Except Failure RecordList := do
  let keys ← parseSortKeys list.spelling texts
  let sorted ← sortByKeys sort registry keys list.records
  return { list with records := sorted }

/-- The records in the order of the given keys, sorted by insertion. -/
def sortedBy (registry : Registry) (list : RecordList) (texts : List String) :
    Except Failure RecordList := list.sortedWith .insertion registry texts

/-! ### Import and text -/

/-- The records of some values, if all are records. -/
def recordsOf : List Value → Except Failure (List Record)
  | [] => .ok []
  | .record r :: rest => (recordsOf rest).map (r :: ·)
  | other :: _ => .error (.notRecord other.kind)

/-- The list of the objects of an array, or of one object. -/
def ofJson (document : Json) : Fresh (Except Failure RecordList) := do
  let items := match document with
    | .array items => items
    | other => [other]
  let values ← jsonItems items
  return (recordsOf values).map fun records => { records }

/-- A list shows its records and its spelling. -/
def text (list : RecordList) : String :=
  "QueryList \x7b records: " ++ Text.bracketed (list.records.map Record.taggedText) ++
    ", syntax: " ++ list.spelling.text ++ " \x7d"

end RecordList

end RecordQuery
