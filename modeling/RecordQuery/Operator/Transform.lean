import RecordQuery.Value.Compare

/-!
Transforms: what a part of a path may derive from the value found so far. A transform that does not
apply to a value gives none.
-/

namespace RecordQuery

/-- Derives a value, where it applies. -/
abbrev Transform := Value → Option Value

namespace Transform

/-- The length, as a count. -/
def length : Transform := fun v => v.length?.map Value.ofNat

/-- The truth value of any value. -/
def truth : Transform := fun v => some (.bool v.isTruthy)

/-! ### Extremes -/

/-- The item that wins against every other, begun with the one given; none if two that meet are
incomparable. A later item wins only if it compares as wanted. -/
def extremeItem? (wanted : Ordering) (best : Value) : List Value → Option Value
  | [] => some best
  | item :: items => (item.compare? best).bind fun o =>
      extremeItem? wanted (if o = wanted then item else best) items

/-- The character that wins against every other, begun with the one given. -/
def extremeChar (wanted : Ordering) (best : Char) (cs : List Char) : Char :=
  cs.foldl (fun best c => if compare c best = wanted then c else best) best

/-- The largest or smallest item of a list, or character of a string, by the order wanted. -/
def extreme (wanted : Ordering) : Transform
  | .string s => match s.toList with
    | [] => none
    | c :: cs => some (.ofChar (extremeChar wanted c cs))
  | .list [] => none
  | .list (item :: items) => extremeItem? wanted item items
  | _ => none

/-! ### Lists and numbers -/

/-- All items of a list count as true. -/
def all : Transform := fun v => v.list?.map fun items => .bool (items.all Value.isTruthy)

/-- Some item of a list counts as true. -/
def any : Transform := fun v => v.list?.map fun items => .bool (items.any Value.isTruthy)

/-- The absolute value of a number. -/
def absolute : Transform := fun v => v.number?.map fun n => .number n.abs

/-- Adds the items to a total, if all are numbers. -/
def total? (total : Number) : List Value → Option Number
  | [] => some total
  | item :: items => item.number?.bind fun n => total? (total.add n) items

/-- The sum of a list of numbers, taken from the left. -/
def sum : Transform := fun v => v.list?.bind fun items => (total? (.signed 0) items).map .number

/-- The transforms that every standard registry holds. -/
def builtin : List (String × Transform) := [
  ("len", length),
  ("bool", truth),
  ("max", extreme .gt),
  ("min", extreme .lt),
  ("all", all),
  ("any", any),
  ("abs", absolute),
  ("sum", sum)]

end Transform

end RecordQuery
