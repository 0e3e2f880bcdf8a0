import RecordQuery.Value.Basic

/-!
Equality and order of values. Equality is defined on all values, by number across representations
and by handle or contents for map records; the order is partial, within one kind only.
-/

namespace RecordQuery

/-! ### Equality -/

mutual

/-- Two values are equal. -/
def Value.same : Value → Value → Bool
  | .null, .null => true
  | .bool a, .bool b => a == b
  | .number a, .number b => a.same b
  | .string a, .string b => a == b
  | .list as, .list bs => sameItems as bs
  | .record a, .record b => a.same b
  | _, _ => false
termination_by structural v => v

/-- Map records are equal when they are one and the same or have equal fields; objects only when
they are one and the same. -/
def Record.same : Record → Record → Bool
  | .map h as, .map h' bs => h == h' || sameFields as bs
  | .object h _ _, .object h' _ _ => h == h'
  | _, _ => false
termination_by structural r => r

/-- Two lists are equal item by item. -/
def sameItems : List Value → List Value → Bool
  | [], [] => true
  | a :: as, b :: bs => a.same b && sameItems as bs
  | _, _ => false
termination_by structural items => items

/-- Two dictionaries of values are equal entry by entry. -/
def sameFields : List (String × Value) → List (String × Value) → Bool
  | [], [] => true
  | (k, a) :: as, (l, b) :: bs => k == l && a.same b && sameFields as bs
  | _, _ => false
termination_by structural fields => fields

end

instance : BEq Value := ⟨Value.same⟩
instance : BEq Record := ⟨Record.same⟩

/-! ### Order -/

mutual

/-- Compares two values of one kind. Values of different kinds, NaN and records are incomparable. -/
def Value.compare? : Value → Value → Option Ordering
  | .null, .null => some .eq
  | .bool a, .bool b => some (compare a b)
  | .number a, .number b => a.compare? b
  | .string a, .string b => some (compare a b)
  | .list as, .list bs => compareItems? as bs
  | _, _ => none

/-- Lists compare at the first place where they differ, and by length where there is none. -/
def compareItems? : List Value → List Value → Option Ordering
  | [], [] => some .eq
  | [], _ :: _ => some .lt
  | _ :: _, [] => some .gt
  | a :: as, b :: bs => match a.compare? b with
    | some .eq => compareItems? as bs
    | decided => decided

end

end RecordQuery
