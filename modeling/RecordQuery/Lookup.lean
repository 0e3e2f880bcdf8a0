import RecordQuery.Path

/-!
Lookups and conditions. A lookup is what a caller asks for: a key, in which the operator may be spelled
behind the path, and the value expected. A condition is a lookup that has been read: path, operator,
expected value, and the pattern where there is one.
-/

namespace RecordQuery

/-! ### Lookups -/

/-- What a lookup looks for. -/
inductive LookupKey where
  /-- A path with its operator spelled behind it, or with none. -/
  | spelled (key : String)
  /-- A path and an operator by themselves. -/
  | explicit (path operator : String)
  deriving DecidableEq, Repr

/-- A key and the value that is expected there. -/
structure Lookup where
  key : LookupKey
  expected : Value

/-- The operator of a key that spells none. -/
def defaultOperator : String := "exact"

/-- Two lists of lookups ask for the same, key by key and value by value. -/
def sameLookups : List Lookup → List Lookup → Bool
  | [], [] => true
  | a :: as, b :: bs => a.key == b.key && a.expected.same b.expected && sameLookups as bs
  | _, _ => false

/-! ### Conditions -/

section
variable [PatternEngine]

/-- A lookup that has been read. -/
structure Condition where
  path : Path
  operator : String
  expected : Value
  pattern : Option PatternEngine.Pattern

/-- Two conditions ask for the same. -/
def Condition.same (a b : Condition) : Bool :=
  a.path == b.path && a.operator == b.operator && a.expected.same b.expected

/-- Two lists of conditions ask for the same. -/
def sameConditions : List Condition → List Condition → Bool
  | [], [] => true
  | a :: as, b :: bs => a.same b && sameConditions as bs
  | _, _ => false

end

/-! ### Reading -/

/-- Takes the operator off the segments of a key: the last of several segments, if it is the name of a
comparator. -/
def splitOperator (registry : Registry) (segments : List String) : List String × String :=
  match segments.getLast? with
  | some last =>
    if 1 < segments.length ∧ registry.hasComparator last then (segments.dropLast, last)
    else (segments, defaultOperator)
  | none => (segments, defaultOperator)

namespace LookupKey

/-- The path and the operator of a key. -/
def target (spelling : Spelling) (registry : Registry) :
    LookupKey → Except Failure (Path × String)
  | spelled key =>
    let (segments, operator) := splitOperator registry (spelling.split key)
    match Path.ofSegments? segments with
    | some path => .ok (path, operator)
    | none => .error (.emptyPath key)
  | explicit path operator =>
    if registry.hasComparator operator then
      (Path.parse spelling path).map fun path => (path, operator)
    else .error (.unknownOperator operator)

end LookupKey

section
variable [PatternEngine]

/-- The pattern of an expected value, where the operator searches for one and the value is text. -/
def expectedPattern (registry : Registry) (operator : String) (expected : Value) :
    Except Failure (Option PatternEngine.Pattern) :=
  match expected with
  | .string source =>
    if registry.hasPattern operator then
      match PatternEngine.read source with
      | .ok pattern => .ok (some pattern)
      | .error reason => .error (.invalidPattern reason)
    else .ok none
  | _ => .ok none

/-- Reads a lookup. -/
def Lookup.condition (spelling : Spelling) (registry : Registry) (lookup : Lookup) :
    Except Failure Condition := do
  let (path, operator) ← lookup.key.target spelling registry
  let pattern ← expectedPattern registry operator lookup.expected
  return ⟨path, operator, lookup.expected, pattern⟩

/-- Reads lookups in their order; the first that cannot be read decides the error. -/
def conditionsOf (spelling : Spelling) (registry : Registry) :
    List Lookup → Except Failure (List Condition)
  | [] => .ok []
  | lookup :: rest => do
    let condition ← lookup.condition spelling registry
    let conditions ← conditionsOf spelling registry rest
    return condition :: conditions

/-! ### Evaluation -/

namespace Condition

/-- Whether the value found is as expected. A pattern read before decides by itself. -/
def accepts (condition : Condition) (comparator : Comparator) (actual : Value) : Bool :=
  match condition.pattern with
  | some pattern => actual.string?.any (PatternEngine.occursIn pattern)
  | none => comparator actual condition.expected

/-- Evaluates a condition on a record. -/
def evaluate (registry : Registry) (condition : Condition) (r : Record) :
    Except Failure Bool :=
  match registry.comparator? condition.operator with
  | none => .error (.unknownOperator condition.operator)
  | some comparator => (condition.path.resolve registry r).map (condition.accepts comparator)

end Condition

/-- The record meets all conditions. A path that does not resolve is a condition not met, and nothing
is asked after the first of these. -/
def meetsAll (registry : Registry) (r : Record) : List Condition → Except Failure Bool
  | [] => .ok true
  | condition :: rest =>
    match condition.evaluate registry r with
    | .ok true => meetsAll registry r rest
    | .ok false => .ok false
    | .error (.unresolved _ _) => .ok false
    | .error e => .error e

end

end RecordQuery
