/-!
General categories of characters, and the runs of code points that a table of them is made of.
-/

namespace RecordQuery.Unicode

/-- The general categories of the Unicode standard, under its own abbreviations. -/
inductive Category where
  | lu | ll | lt | lm | lo
  | mn | mc | me
  | nd | nl | no
  | pc | pd | ps | pe | pi | pf | po
  | sm | sc | sk | so
  | zs | zl | zp
  | cc | cf | cs | co | cn
  deriving DecidableEq, Repr

/-- Code points that follow each other: all of one category, or upper and lower case by turns,
beginning with upper case. -/
inductive Run where
  | solid (first last : Nat) (category : Category)
  | cased (first last : Nat)
  deriving Repr

/-- The category that a run gives to a code point inside it. -/
def Run.category? : Run → Nat → Option Category
  | .solid first last category, c => if first ≤ c ∧ c ≤ last then some category else none
  | .cased first last, c =>
    if first ≤ c ∧ c ≤ last then some (if (c - first) % 2 = 0 then .lu else .ll) else none

/-- Some runs in ascending order, and the last code point among them. -/
structure Block where
  last : Nat
  runs : List Run

end RecordQuery.Unicode
