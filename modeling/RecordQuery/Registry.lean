import RecordQuery.Operator.Comparator
import RecordQuery.Operator.Transform
import RecordQuery.Text.Quoted

/-!
The registry of operators. A name may stand for a comparator, for a transform, or for both; each role
is registered by itself, and the last registration counts. A mark tells the comparator that searches
for a pattern from all others, and a comparator that takes its place takes the mark off.
-/

namespace RecordQuery

/-- What one name stands for. -/
structure Operator where
  comparator : Option Comparator := none
  transform : Option Transform := none
  /-- The comparator is the search for a pattern, which can be read ahead of it. -/
  pattern : Bool := false

/-- Operators under their names. -/
structure Registry where
  operators : Dictionary Operator

namespace Registry

/-- The registry without operators. -/
def empty : Registry := ⟨[]⟩

/-! ### Registration -/

/-- What a name stands for; an unknown name has neither role. -/
def operator (r : Registry) (name : String) : Operator :=
  (Dictionary.find? name r.operators).getD {}

/-- Makes a comparator known under a name. It is no search for a pattern, whatever it replaces. -/
def withComparator (r : Registry) (name : String) (c : Comparator) : Registry :=
  ⟨Dictionary.insert name { r.operator name with comparator := some c, pattern := false } r.operators⟩

/-- Makes a transform known under a name. -/
def withTransform (r : Registry) (name : String) (t : Transform) : Registry :=
  ⟨Dictionary.insert name { r.operator name with transform := some t } r.operators⟩

/-- Marks the comparator of a name as the search for a pattern, if the name is known. -/
def withPattern (r : Registry) (name : String) : Registry :=
  match Dictionary.find? name r.operators with
  | some operator => ⟨Dictionary.insert name { operator with pattern := true } r.operators⟩
  | none => r

/-- The roles that are built in: first the comparators, then the transforms. -/
def builtinRoles [PatternEngine] : Registry :=
  let comparators := Comparator.builtin.foldl (fun r c => r.withComparator c.1 c.2) empty
  Transform.builtin.foldl (fun r t => r.withTransform t.1 t.2) comparators

/-- The registry of the operators that are built in, with the mark of the search for a pattern. -/
def standard [PatternEngine] : Registry := builtinRoles.withPattern patternOperator

/-! ### Look-up -/

/-- The comparator of a name. -/
def comparator? (r : Registry) (name : String) : Option Comparator := (r.operator name).comparator

/-- The transform of a name. -/
def transform? (r : Registry) (name : String) : Option Transform := (r.operator name).transform

/-- The name can end a lookup. -/
def hasComparator (r : Registry) (name : String) : Bool := (r.comparator? name).isSome

/-- The name can stand inside a path. -/
def hasTransform (r : Registry) (name : String) : Bool := (r.transform? name).isSome

/-- The name still stands for the search for a pattern that is built in. -/
def hasPattern (r : Registry) (name : String) : Bool := (r.operator name).pattern

/-! ### Laws of registration -/

section
variable (r : Registry) (name : String) (c : Comparator) (t : Transform) (other : String)

/-- A registration gives its name another entry, and leaves every other name the entry it has. -/
theorem operator_withComparator : (r.withComparator name c).operator other =
    if other = name then { r.operator name with comparator := some c, pattern := false } else r.operator other := by
  by_cases h : other = name
  · simp [withComparator, operator, h]
  · simp [withComparator, operator, h, Dictionary.find?_insert_of_ne h]

theorem operator_withTransform : (r.withTransform name t).operator other =
    if other = name then { r.operator name with transform := some t } else r.operator other := by
  by_cases h : other = name
  · simp [withTransform, operator, h]
  · simp [withTransform, operator, h, Dictionary.find?_insert_of_ne h]

theorem comparator?_withComparator : (r.withComparator name c).comparator? other =
    if other = name then some c else r.comparator? other := by
  rw [comparator?, operator_withComparator]
  split <;> rfl

theorem transform?_withComparator : (r.withComparator name c).transform? other = r.transform? other := by
  rw [transform?, operator_withComparator]
  split
  · next same => rw [transform?, same]
  · rfl

theorem hasPattern_withComparator : (r.withComparator name c).hasPattern other =
    if other = name then false else r.hasPattern other := by
  rw [hasPattern, operator_withComparator]
  split <;> rfl

theorem transform?_withTransform : (r.withTransform name t).transform? other =
    if other = name then some t else r.transform? other := by
  rw [transform?, operator_withTransform]
  split <;> rfl

theorem comparator?_withTransform : (r.withTransform name t).comparator? other = r.comparator? other := by
  rw [comparator?, operator_withTransform]
  split
  · next same => rw [comparator?, same]
  · rfl

theorem hasPattern_withTransform : (r.withTransform name t).hasPattern other = r.hasPattern other := by
  rw [hasPattern, operator_withTransform]
  split
  · next same => rw [hasPattern, same]
  · rfl

/-- The mark goes to a name that is known, and changes neither role of it. -/
theorem operator_withPattern : (r.withPattern name).operator other =
    if other = name ∧ (Dictionary.find? name r.operators).isSome then { r.operator name with pattern := true }
    else r.operator other := by
  unfold withPattern
  cases found : Dictionary.find? name r.operators with
  | none => simp
  | some operator =>
    by_cases h : other = name
    · simp [Registry.operator, h, found]
    · simp [Registry.operator, h, Dictionary.find?_insert_of_ne h]

theorem comparator?_withPattern : (r.withPattern name).comparator? other = r.comparator? other := by
  rw [comparator?, operator_withPattern]
  split
  · next same => rw [comparator?, same.1]
  · rfl

theorem transform?_withPattern : (r.withPattern name).transform? other = r.transform? other := by
  rw [transform?, operator_withPattern]
  split
  · next same => rw [transform?, same.1]
  · rfl

end

/-! ### Names -/

/-- All names, in ascending order. -/
def names (r : Registry) : List String := Dictionary.keys r.operators

/-- A registry shows its names. -/
def text (r : Registry) : String :=
  "OperatorRegistry \x7b operators: " ++ Text.bracketed (r.names.map Text.quoted) ++ " \x7d"

end Registry

end RecordQuery
