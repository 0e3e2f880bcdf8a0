import RecordQuery.Value.Basic

/-!
JSON documents and the values that they are imported as. Every object becomes a map record under a
handle of its own, which is taken from a supply of numbers.
-/

namespace RecordQuery

/-- A JSON document, with the members of an object in their written order. -/
inductive Json where
  | null
  | bool (b : Bool)
  | number (n : Number)
  | string (s : String)
  | array (items : List Json)
  | object (members : List (String × Json))

/-- A supply of handles: the next one that is free. -/
abbrev Fresh := StateM Nat

/-- Takes a handle that was never given out. -/
def Fresh.handle : Fresh Nat := modifyGet fun next => (next, next + 1)

/-- The number of a document: an integer as one that fits it, and any other number as a double. -/
def Json.toNumber (n : Number) : Number :=
  match n.toInt? with
  | some k => .ofInt k
  | none => .float n.toFloat

mutual

/-- The value of a document. -/
def Json.toValue : Json → Fresh Value
  | .null => pure .null
  | .bool b => pure (.bool b)
  | .number n => pure (.number (Json.toNumber n))
  | .string s => pure (.string s)
  | .array items => return .list (← jsonItems items)
  | .object members => do
    let fields ← jsonMembers members
    return .record (.ofPairs (← Fresh.handle) fields)

/-- The values of the items of an array. -/
def jsonItems : List Json → Fresh (List Value)
  | [] => pure []
  | item :: items => do
    let v ← item.toValue
    return v :: (← jsonItems items)

/-- The values of the members of an object, under their names. -/
def jsonMembers : List (String × Json) → Fresh (List (String × Value))
  | [] => pure []
  | (name, member) :: members => do
    let v ← member.toValue
    return (name, v) :: (← jsonMembers members)

end

end RecordQuery
