import RecordQuery.Unicode.CategoryRuns

/-!
The general category of a character, and membership in a list of ranges.
-/

namespace RecordQuery.Unicode

/-- The general category, which is `cn` for a character in no run. -/
def category (c : Char) : Category :=
  match categoryBlocks.find? (c.toNat ≤ ·.last) with
  | some block => (block.runs.findSome? (·.category? c.toNat)).getD .cn
  | none => .cn

/-- One of the closed ranges holds the character. -/
def within (ranges : List (Nat × Nat)) (c : Char) : Bool :=
  ranges.any fun r => r.1 ≤ c.toNat && c.toNat ≤ r.2

end RecordQuery.Unicode
