import RecordQuery.Dictionary
import RecordQuery.Number

/-!
Values and records. A value is what a field of a record holds and what a query compares with; a
record is a dictionary of values or an object that answers for its fields. Records carry a handle:
one handle stands for one record, however often it is shared.
-/

namespace RecordQuery

mutual

/-- A dynamically typed value. -/
inductive Value where
  | null
  | bool (b : Bool)
  | number (n : Number)
  | string (s : String)
  | list (items : List Value)
  | record (r : Record)

/-- One element of a collection. -/
inductive Record where
  /-- Fields under names, in ascending order of names. -/
  | map (handle : Nat) (fields : List (String × Value))
  /-- An object of a named type, which answers for each field by itself. -/
  | object (handle : Nat) (typeName : String) (field : String → Option Value)

end

instance : Inhabited Value := ⟨.null⟩

/-! ### Records -/

namespace Record

/-- A map record of some pairs; of two pairs with one name the later counts. -/
def ofPairs (handle : Nat) (pairs : List (String × Value)) : Record :=
  map handle (Dictionary.ofList pairs)

/-- What the record holds under a name. -/
def get? (name : String) : Record → Option Value
  | map _ fields => Dictionary.find? name fields
  | object _ _ field => field name

/-- The record is a map. -/
def isMap : Record → Bool
  | map .. => true
  | object .. => false

/-- The record is an object. -/
def isObject : Record → Bool
  | map .. => false
  | object .. => true

/-- The fields of a map record. -/
def fields? : Record → Option (Dictionary Value)
  | map _ fields => some fields
  | object .. => none

/-- Two records are one and the same. -/
def identical : Record → Record → Bool
  | map h _, map h' _ => h == h'
  | object h _ _, object h' _ _ => h == h'
  | _, _ => false

end Record

/-! ### Kinds and parts of values -/

namespace Value

/-- The name of a value's kind. -/
def kind : Value → String
  | null => "null"
  | bool _ => "bool"
  | number _ => "number"
  | string _ => "string"
  | list _ => "list"
  | record _ => "record"

/-- The text of a string. -/
def string? : Value → Option String
  | string s => some s
  | _ => none

/-- The number of a number value. -/
def number? : Value → Option Number
  | number n => some n
  | _ => none

/-- The truth value of a boolean. -/
def bool? : Value → Option Bool
  | bool b => some b
  | _ => none

/-- The items of a list. -/
def list? : Value → Option (List Value)
  | list items => some items
  | _ => none

/-- The record of a record value. -/
def record? : Value → Option Record
  | record r => some r
  | _ => none

/-- The value of a count. -/
def ofNat (n : Nat) : Value := number (.ofNat n)

/-- The value of one character. -/
def ofChar (c : Char) : Value := string (String.singleton c)

/-- The length: characters of a string, items of a list, fields of a map record. -/
def length? : Value → Option Nat
  | string s => some s.length
  | list items => some items.length
  | record r => r.fields?.map List.length
  | _ => none

/-- Null, false, zero and all that is empty count as false. An object counts as true. -/
def isTruthy : Value → Bool
  | null => false
  | bool b => b
  | number n => !n.isZero
  | string s => !s.isEmpty
  | list items => !items.isEmpty
  | record r => match r.fields? with
    | some fields => !fields.isEmpty
    | none => true

end Value

end RecordQuery
