/-!
Access to one element by its place or name, where the caller promises that there is one.
-/

namespace RecordQuery

/-- Why an access finds nothing. -/
inductive AccessError where
  | outOfBounds (length index : Nat)
  | unknownName (name : String)
  deriving DecidableEq, Repr

/-- The message of an error. -/
def AccessError.message : AccessError → String
  | outOfBounds length index =>
    "index out of bounds: the len is " ++ toString length ++ " but the index is " ++ toString index
  | unknownName name => "no parameter named '" ++ name ++ "'"

/-- The element at a place. -/
def elementAt {α : Type} (items : List α) (i : Nat) : Except AccessError α :=
  match items[i]? with
  | some a => .ok a
  | none => .error (.outOfBounds items.length i)

end RecordQuery
