/-!
Sorting by comparisons. A course tells from the answers so far which two elements to compare next, and
in the end the new order; it knows the elements by their places only. A stable sort is a course for
every number of elements that is right under every ranking of them.
-/

namespace RecordQuery

/-! ### Courses -/

/-- The course of a sort of `n` elements, known by their places: a comparison with what follows each of
its outcomes, or at last the places in their new order. -/
inductive Course (n : Nat) where
  | settled (places : List (Fin n))
  | ask (i j : Fin n) (next : Ordering → Course n)

namespace Course
variable {n : Nat} {ε : Type} {cmp : Fin n → Fin n → Except ε Ordering}

/-- Follows a course with a comparison that may fail. The first failure is kept, and from there on all
elements count as equal. -/
def walk (cmp : Fin n → Fin n → Except ε Ordering) :
    Option ε → Course n → Option ε × List (Fin n)
  | failure, settled places => (failure, places)
  | some e, ask _ _ next => walk cmp (some e) (next .eq)
  | none, ask i j next =>
    match cmp i j with
    | .ok o => walk cmp none (next o)
    | .error e => walk cmp (some e) (next .eq)

/-- The new order of the places, if no comparison fails. -/
def run (cmp : Fin n → Fin n → Except ε Ordering) (course : Course n) :
    Except ε (List (Fin n)) :=
  match walk cmp none course with
  | (none, places) => .ok places
  | (some e, _) => .error e

/-- The course comes to compare place `i` with place `j`. -/
def Meets (cmp : Fin n → Fin n → Except ε Ordering) (i j : Fin n) : Course n → Prop
  | settled _ => False
  | ask a b next => (a = i ∧ b = j) ∨ ∃ o, cmp a b = .ok o ∧ Meets cmp i j (next o)

theorem walk_failed (e : ε) (course : Course n) : (walk cmp (some e) course).1 = some e := by
  induction course with
  | settled => rfl
  | ask i j next ih => exact ih .eq

/-- What is compared after a failure does not matter. -/
theorem run_ask (i j : Fin n) (next : Ordering → Course n) :
    run cmp (.ask i j next) = (cmp i j).bind fun o => run cmp (next o) := by
  cases h : cmp i j with
  | ok o => simp only [run, walk, h, Except.bind]
  | error e =>
    have failed : (walk cmp (some e) (next .eq)).1 = some e := walk_failed e (next .eq)
    simp only [run, walk, h, Except.bind]
    split
    · next none_first => simp [none_first] at failed
    · next some_first =>
      simp only [some_first, Option.some.injEq] at failed
      rw [failed]

end Course

/-! ### Stable sorts -/

/-- The comparison of places by rank. -/
def ranked {n : Nat} (rank : Fin n → Nat) (i j : Fin n) : Except Empty Ordering :=
  .ok (compare (rank i) (rank j))

/-- Place `i` has a lower rank than place `j`, or stands in front of it in one rank. -/
def Before {n : Nat} (rank : Fin n → Nat) (i j : Fin n) : Prop :=
  rank i < rank j ∨ (rank i = rank j ∧ i < j)

/-- A stable sort by comparisons. Under every ranking it arranges all places by rank, those of one rank
in the order in which they stand, and compares a place with itself only if another one has its rank. -/
structure StableSort where
  course : (n : Nat) → Course n
  arranges : ∀ {n : Nat} (rank : Fin n → Nat), ∃ places, (course n).run (ranked rank) = .ok places ∧
    places.Perm (List.finRange n) ∧ places.Pairwise (Before rank)
  shared : ∀ {n : Nat} (rank : Fin n → Nat) (i : Fin n), (course n).Meets (ranked rank) i i →
    ∃ j, j ≠ i ∧ rank j = rank i

/-- Sorts a list, unless a comparison fails. -/
def StableSort.apply {α ε : Type} (sort : StableSort) (cmp : α → α → Except ε Ordering)
    (xs : List α) : Except ε (List α) :=
  let items := xs.toArray
  ((sort.course items.size).run fun i j => cmp items[i] items[j]).map
    (List.map fun i => items[i])

end RecordQuery
