import Mathlib.Data.List.Forall2
import RecordQuery.Proofs.Value.Equality

/-!
Records in place of others. A record can stand for another one if it answers alike for every field, down to
the records that it leads to, whatever shape or handle the two have. Values then differ by such records only,
and where no record is in them they do not differ. So maps of any choice can be made objects, at any depth.
-/

namespace RecordQuery

/-! ### Values with other records -/

/-- The values are one, but for records in place of others. -/
inductive Value.Replaced (stands : Record → Record → Prop) : Value → Value → Prop
  | kept (v : Value) : Replaced stands v v
  | list {as bs : List Value} (each : List.Forall₂ (Replaced stands) as bs) : Replaced stands (.list as) (.list bs)
  | record {r s : Record} (replaced : stands r s) : Replaced stands (.record r) (.record s)

/-- The records of the one side have the fields of those on the other, with values that are one but for
such records. -/
def Replacement (stands : Record → Record → Prop) : Prop :=
  ∀ r s, stands r s → ∀ name, Option.Rel (Value.Replaced stands) (r.get? name) (s.get? name)

section
variable {stands : Record → Record → Prop} {v w : Value}

theorem Value.Replaced.rel_self (x : Option Value) : Option.Rel (Value.Replaced stands) x x := by
  cases x with
  | none => exact .none
  | some v => exact .some (.kept v)

mutual

/-- Where no record is in a value, none can be replaced. -/
theorem Value.Replaced.eq {v w : Value} (h : v.Replaced stands w) (free : v.records = []) : v = w := by
  match v, w, h with
  | _, _, .kept v => rfl
  | .list as, .list bs, .list each => exact congrArg Value.list (eq_of_items_replaced each free)
  | .record r, _, .record _ => cases free

theorem eq_of_items_replaced {as bs : List Value} (each : List.Forall₂ (Value.Replaced stands) as bs)
    (free : itemRecords as = []) : as = bs := by
  match as, bs, each with
  | _, _, .nil => rfl
  | a :: as, b :: bs, .cons head each =>
    obtain ⟨freeHead, free⟩ := itemRecords_cons_eq_nil.mp free
    rw [head.eq freeHead, eq_of_items_replaced each free]

end

theorem Replacement.field (replacement : Replacement stands) (h : v.Replaced stands w) (name : String) :
    Option.Rel (Value.Replaced stands) (v.record?.bind (·.get? name)) (w.record?.bind (·.get? name)) := by
  cases h with
  | kept => exact Value.Replaced.rel_self _
  | list => exact .none
  | record replaced => exact replacement _ _ replaced name

end

/-! ### Maps made objects -/

mutual

/-- The value with every map of the chosen handles made an object, which answers as the map. -/
def Value.recast (chosen : Nat → Bool) : Value → Value
  | .null => .null
  | .bool b => .bool b
  | .number n => .number n
  | .string s => .string s
  | .list items => .list (recastItems chosen items)
  | .record r => .record (r.recast chosen)
termination_by structural v => v

/-- The record with every map of the chosen handles made an object, itself and those that it leads to. -/
def Record.recast (chosen : Nat → Bool) : Record → Record
  | .map h fields =>
    if chosen h then .object h "Object" fun name => Dictionary.find? name (recastFields chosen fields)
    else .map h (recastFields chosen fields)
  | .object h typeName field => .object h typeName fun name => recastAnswer chosen (field name)
termination_by structural r => r

/-- The items with maps made objects. -/
def recastItems (chosen : Nat → Bool) : List Value → List Value
  | [] => []
  | v :: vs => v.recast chosen :: recastItems chosen vs
termination_by structural items => items

/-- The fields with maps in their values made objects. -/
def recastFields (chosen : Nat → Bool) : List (String × Value) → List (String × Value)
  | [] => []
  | (k, v) :: rest => (k, v.recast chosen) :: recastFields chosen rest
termination_by structural fields => fields

/-- The answer of an object with maps made objects. -/
def recastAnswer (chosen : Nat → Bool) : Option Value → Option Value
  | none => none
  | some v => some (v.recast chosen)
termination_by structural answer => answer

end

/-- The record is the other with the chosen maps made objects. -/
def Record.Recasts (chosen : Nat → Bool) (r s : Record) : Prop := s = r.recast chosen

mutual

theorem Value.replaced_recast (chosen : Nat → Bool) (v : Value) :
    v.Replaced (Record.Recasts chosen) (v.recast chosen) := by
  match v with
  | .null | .bool _ | .number _ | .string _ => exact .kept _
  | .list items => exact .list (items_replaced_recast chosen items)
  | .record r => exact .record rfl

theorem items_replaced_recast (chosen : Nat → Bool) (items : List Value) :
    List.Forall₂ (Value.Replaced (Record.Recasts chosen)) items (recastItems chosen items) := by
  match items with
  | [] => exact .nil
  | v :: vs => exact .cons (v.replaced_recast chosen) (items_replaced_recast chosen vs)

end

theorem find?_recastFields (chosen : Nat → Bool) (fields : List (String × Value)) (name : String) :
    Option.Rel (Value.Replaced (Record.Recasts chosen)) (Dictionary.find? name fields)
      (Dictionary.find? name (recastFields chosen fields)) := by
  induction fields with
  | nil => exact .none
  | cons field fields ih =>
    rw [recastFields, Dictionary.find?, Dictionary.find?]
    split
    · exact .some (field.2.replaced_recast chosen)
    · exact ih

/-- Whatever maps are made objects, what comes of a record can stand for it. -/
theorem replacement_recast (chosen : Nat → Bool) : Replacement (Record.Recasts chosen) := by
  rintro r _ rfl name
  cases r with
  | map h fields =>
    rw [Record.recast]
    split <;> exact find?_recastFields chosen fields name
  | object h typeName field =>
    change Option.Rel _ (field name) (recastAnswer chosen (field name))
    cases field name with
    | none => exact .none
    | some v => exact .some (v.replaced_recast chosen)

end RecordQuery
