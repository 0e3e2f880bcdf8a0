import RecordQuery.PatternEngine
import RecordQuery.Text.Cut
import RecordQuery.Unicode.Casing
import RecordQuery.Value.Compare

/-!
Comparators: what the last part of a lookup may ask of the value found and the value expected. Values
of kinds that a comparator does not know give the answer no.
-/

namespace RecordQuery

/-! ### Equality and order -/

/-- Equal, with case left out of account between strings. -/
def sameCaseless : Value → Value → Bool
  | .string a, .string e => Unicode.toLower a == Unicode.toLower e
  | a, e => a.same e

/-- The two values compare, and as the test wants. -/
def ordered (test : Ordering → Bool) (actual expected : Value) : Bool :=
  (actual.compare? expected).any test

/-! ### Containment -/

/-- A string in a string, an item in a list, a field name in a record. -/
def Value.contains : Value → Value → Bool
  | .string text, .string needle => Text.contains text needle
  | .list items, expected => items.any (·.same expected)
  | .record r, .string name => (r.get? name).isSome
  | _, _ => false

/-- Containment, with case left out of account between strings. -/
def Value.containsCaseless : Value → Value → Bool
  | .string text, .string needle => Text.contains (Unicode.toLower text) (Unicode.toLower needle)
  | actual, expected => actual.contains expected

/-- A string that begins with a string. -/
def Value.startsWith : Value → Value → Bool
  | .string text, .string start => Text.startsWith text start
  | _, _ => false

/-- A string that ends with a string. -/
def Value.endsWith : Value → Value → Bool
  | .string text, .string ending => Text.endsWith text ending
  | _, _ => false

/-! ### Pattern and length -/

/-- A string in which a pattern matches somewhere. A pattern that cannot be read matches nothing. -/
def Value.matchesPattern [PatternEngine] : Value → Value → Bool
  | .string text, .string source =>
    match PatternEngine.read source with
    | .ok pattern => PatternEngine.occursIn pattern text
    | .error _ => false
  | _, _ => false

/-- The length of the value is the number expected. -/
def Value.hasLength (actual expected : Value) : Bool :=
  actual.length?.any fun n => (Value.ofNat n).same expected

/-! ### Comparators -/

/-- A comparator: a test of actual and expected value. -/
abbrev Comparator := Value → Value → Bool

/-- The name of the search for a pattern. -/
def patternOperator : String := "regex"

/-- The comparators that every standard registry holds. -/
def Comparator.builtin [PatternEngine] : List (String × Comparator) := [
  ("exact", Value.same),
  ("iexact", sameCaseless),
  ("ne", fun a e => !a.same e),
  ("gt", ordered Ordering.isGT),
  ("gte", ordered Ordering.isGE),
  ("lt", ordered Ordering.isLT),
  ("lte", ordered Ordering.isLE),
  ("contains", Value.contains),
  ("icontains", Value.containsCaseless),
  ("in", fun a e => e.contains a),
  ("startswith", Value.startsWith),
  ("endswith", Value.endsWith),
  (patternOperator, Value.matchesPattern),
  ("len", Value.hasLength)]

end RecordQuery
