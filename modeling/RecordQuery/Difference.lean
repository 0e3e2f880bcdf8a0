import RecordQuery.Text.Quoted
import RecordQuery.Value.Compare
import RecordQuery.Value.Text

/-!
Differences: the items that one of two collections has alone, and the first difference between two
maps of values, which is searched for inside of nested map records.
-/

namespace RecordQuery

/-! ### Symmetric difference -/

section Sets

variable {α : Type} [Ord α]

/-- Puts an item into an ascending list, once. -/
def insertOnce (x : α) : List α → List α
  | [] => [x]
  | y :: ys =>
    match compare x y with
    | .lt => x :: y :: ys
    | .eq => y :: ys
    | .gt => y :: insertOnce x ys

/-- The items of a list, ascending and each once. -/
def sortedSet (items : List α) : List α := items.foldr insertOnce []

/-- Takes an item out of an ascending list that has it. -/
def takeOut? (x : α) : List α → Option (List α)
  | [] => none
  | y :: ys =>
    match compare x y with
    | .lt => none
    | .eq => some ys
    | .gt => (takeOut? x ys).map (y :: ·)

/-- The items without a counterpart while the first of two sets is gone through: those of the part that is
done, and those that are left of the second set. -/
structure Unmatched (α : Type) where
  first : List α
  second : List α

/-- Goes on by an item of the first set, which takes its counterpart out of the second. -/
def Unmatched.add (u : Unmatched α) (x : α) : Unmatched α :=
  match takeOut? x u.second with
  | some others => { u with second := others }
  | none => { u with first := insertOnce x u.first }

/-- The items that occur in exactly one of two lists, ascending and each once. -/
def symmetricDifference (as bs : List α) : List α :=
  let unmatched := (sortedSet as).foldl Unmatched.add ⟨[], sortedSet bs⟩
  unmatched.second.foldr insertOnce unmatched.first

end Sets

/-! ### Maps -/

/-- A difference between two maps. -/
inductive Difference where
  /-- Names that only one of the maps has. -/
  | keys (names : List String)
  /-- A name under which the maps hold different values. -/
  | value (name : String) (left right : Value)

/-- The message of a difference. -/
def Difference.text : Difference → String
  | keys names =>
    "these keys are not present in both maps: " ++ Text.bracketed (names.map Text.quoted)
  | value name left right =>
    "values don't match for key '" ++ name ++ "': " ++ right.text ++ " != " ++ left.text

/-- The difference between two maps: none where their entries are equal, or else the names that one of
them lacks, or else what the search in their entries finds. -/
def mapDifference? (as bs : Dictionary Value) (inside : Option Difference) : Option Difference :=
  if sameFields as bs then none
  else match symmetricDifference (Dictionary.keys as) (Dictionary.keys bs) with
    | [] => inside
    | names => some (.keys names)

mutual

/-- The difference between two values under a name, which is searched for inside of two maps. -/
def valueDifference? (name : String) : Value → Value → Option Difference
  | .record (.map _ as), .record (.map _ bs) => mapDifference? as bs (fieldDifference? as bs)
  | a, b => if a.same b then none else some (.value name a b)

/-- The first difference between the entries of one map and those of another under the same names. -/
def fieldDifference? : List (String × Value) → Dictionary Value → Option Difference
  | [], _ => none
  | (name, a) :: as, bs =>
    match Dictionary.find? name bs with
    | none => none
    | some b => match valueDifference? name a b with
      | some d => some d
      | none => fieldDifference? as bs

end

/-- The first difference between two maps. -/
def firstDifference? (as bs : Dictionary Value) : Option Difference :=
  mapDifference? as bs (fieldDifference? as bs)

end RecordQuery
