import RecordQuery.Proofs.Binary.Sum
import RecordQuery.Proofs.Value.Population

/-!
Values that no query tells apart. Where records hold integers only, these are the equal values, whatever
represents the integers and whichever handles the maps have. A sum may outgrow the integers, and then it
is a double; but sums of equal integers do so alike and give one and the same double, which is not NaN.
So all that is asked of a value is the same of values that are alike.
-/

namespace RecordQuery

/-! ### Numbers -/

/-- Two numbers hold one integer or are one double, and are not NaN. All that is asked of a number is then
the same of both. -/
structure Number.Alike (m n : Number) : Prop where
  integer : m.toInt? = n.toInt?
  double : m.toFloat = n.toFloat
  ordered : ∃ p, m.place? = some p

namespace Number
variable {m n m' n' : Number} {k : Int}

theorem toFloat_of_toInt? (hm : m.toInt? = some k) : m.toFloat = Binary.ofInt k := by
  cases m <;> cases hm <;> rfl

theorem natAbs_of_toInt? (hm : m.toInt? = some k) : k.natAbs < 2 ^ 64 := by
  have bounds := bounds_of_toInt? hm
  omega

theorem alike_of_toInt? (hm : m.toInt? = some k) (hn : n.toInt? = some k) : m.Alike n where
  integer := hm.trans hn.symm
  double := (toFloat_of_toInt? hm).trans (toFloat_of_toInt? hn).symm
  ordered := ⟨_, place?_of_toInt? hm⟩

theorem alike_self (ordered : ∃ p, m.place? = some p) : m.Alike m := ⟨rfl, rfl, ordered⟩

theorem Alike.cases_of_toInt? (h : m.Alike n) :
    (∃ k, m.toInt? = some k ∧ n.toInt? = some k) ∨ ∃ x, m = .float x ∧ n = .float x := by
  cases hm : m.toInt? with
  | some k => exact Or.inl ⟨k, rfl, h.integer.symm.trans hm⟩
  | none =>
    have hn := h.integer.symm.trans hm
    cases m with
    | signed i => cases hm
    | unsigned i => cases hm
    | float x =>
      cases n with
      | signed i => cases hn
      | unsigned i => cases hn
      | float y => exact Or.inr ⟨x, rfl, congrArg float h.double.symm⟩

/-- An operation that goes by the integers where both numbers hold one, and else by the doubles, has one result on
numbers that are alike. -/
theorem Alike.operation_eq {α : Type} {op : Number → Number → α} {onIntegers : Int → Int → α}
    (onDoubles : Float → Float → α)
    (integers : ∀ {a b k l}, a.toInt? = some k → b.toInt? = some l → op a b = onIntegers k l)
    (doubles : ∀ {a b}, ¬ (a.toInt?.isSome ∧ b.toInt?.isSome) → op a b = onDoubles a.toFloat b.toFloat)
    (hm : m.Alike m') (hn : n.Alike n') : op m n = op m' n' := by
  by_cases both : m.toInt?.isSome ∧ n.toInt?.isSome
  · obtain ⟨k, hk⟩ := Option.isSome_iff_exists.mp both.1
    obtain ⟨l, hl⟩ := Option.isSome_iff_exists.mp both.2
    rw [integers hk hl, integers (hm.integer.symm.trans hk) (hn.integer.symm.trans hl)]
  · rw [doubles both, hm.double, hn.double]
    rw [hm.integer, hn.integer] at both
    exact (doubles both).symm

theorem Alike.compare?_eq (hm : m.Alike m') (hn : n.Alike n') : m.compare? n = m'.compare? n' :=
  operation_eq Binary.compare? compare?_of_toInt? compare?_of_not_both hm hn

theorem Alike.same_eq (hm : m.Alike m') (hn : n.Alike n') : m.same n = m'.same n' := by
  rw [Number.same, Number.same, hm.compare?_eq hn]

theorem Alike.same (h : m.Alike n) : m.same n = true := by
  rcases h.cases_of_toInt? with ⟨k, hm, hn⟩ | ⟨x, rfl, rfl⟩
  · exact (same_iff_of_toInt? hm hn).mpr rfl
  · obtain ⟨p, place⟩ := h.ordered
    exact (same_iff_of_not_both (by simp [toInt?])).mpr ⟨p, place, place⟩

theorem isZero_iff_of_toInt? (hm : m.toInt? = some k) : m.isZero = true ↔ k = 0 := by
  cases m with
  | signed i =>
    cases hm
    rw [isZero, beq_iff_eq, ← Int64.toInt_inj]
    rfl
  | unsigned i =>
    cases hm
    rw [isZero, beq_iff_eq, ← UInt64.toNat_inj, Int.natCast_eq_zero]
    rfl
  | float x => cases hm

theorem Alike.isZero_eq (h : m.Alike n) : m.isZero = n.isZero := by
  rcases h.cases_of_toInt? with ⟨k, hm, hn⟩ | ⟨x, rfl, rfl⟩
  · rw [Bool.eq_iff_iff, isZero_iff_of_toInt? hm, isZero_iff_of_toInt? hn]
  · rfl

theorem toInt?_ofInt (low : -2 ^ 63 ≤ k) (high : k < 2 ^ 64) : (ofInt k).toInt? = some k := by
  have least : Int64.minValue.toInt = -2 ^ 63 := by decide
  have greatest : Int64.maxValue.toInt = 2 ^ 63 - 1 := by decide
  unfold ofInt
  split
  · next signed => rw [toInt?, Int64.toInt_ofInt_of_le low (by omega)]
  · next beyond =>
    have nonneg : 0 ≤ k := by omega
    have size : k.toNat < UInt64.size := by
      change k.toNat < 2 ^ 64
      omega
    rw [if_pos ⟨nonneg, high⟩, toInt?, UInt64.toNat_ofNat_of_lt' size, Int.toNat_of_nonneg nonneg]

theorem Alike.abs (h : m.Alike n) : m.abs.Alike n.abs := by
  rcases h.cases_of_toInt? with ⟨k, hm, hn⟩ | ⟨x, rfl, rfl⟩
  · exact alike_of_toInt? (toInt?_abs hm) (toInt?_abs hn)
  · obtain ⟨p, place⟩ := h.ordered
    exact alike_self (Binary.exists_place?_abs place)

theorem Alike.add_eq (hm : m.Alike m') (hn : n.Alike n') : m.add n = m'.add n' :=
  operation_eq (fun x y => float (x + y)) add_of_integers add_of_not_both hm hn

theorem exists_place?_ofInt (k : Int) : ∃ p, (ofInt k).place? = some p := by
  unfold ofInt
  split
  · exact ⟨_, place?_of_toInt? rfl⟩
  · split
    · exact ⟨_, place?_of_toInt? rfl⟩
    · exact ⟨_, Binary.place?_ofInt k⟩

/-- A sum to which integers are added never becomes NaN, not even where it has become a double. -/
theorem exists_place?_add (hm : ∃ p, m.place? = some p) (hn : n.toInt? = some k) :
    ∃ r, (m.add n).place? = some r := by
  obtain ⟨p, place⟩ := hm
  cases integer : m.toInt? with
  | some i => exact add_of_integers integer hn ▸ exists_place?_ofInt (i + k)
  | none =>
    rw [add_of_not_both (by simp [integer])]
    refine Binary.exists_place?_add place (place?_of_toInt? hn) ?_
    exact Binary.nearestPlace_finite (natAbs_of_toInt? hn)

end Number

/-! ### Values -/

/-- Equal records of those around. -/
structure Record.Alike (around : Record → Prop) (r s : Record) : Prop where
  left : around r
  right : around s
  same : r.same s = true

/-- Values that are built alike from integers and from records that are alike, or are one double by
themselves. -/
inductive Value.Alike (around : Record → Prop) : Value → Value → Prop
  | null : Alike around .null .null
  | bool (b : Bool) : Alike around (.bool b) (.bool b)
  | number {m n : Number} (alike : m.Alike n) : Alike around (.number m) (.number n)
  | string (s : String) : Alike around (.string s) (.string s)
  | list {as bs : List Value} (free : floatFreeItems as = true) (each : List.Forall₂ (Alike around) as bs) :
      Alike around (.list as) (.list bs)
  | record {r s : Record} (alike : r.Alike around s) : Alike around (.record r) (.record s)

section
variable {around : Record → Prop} {v w v' w' : Value} {as bs as' bs' : List Value} {r s : Record}

mutual

/-- Equal values are alike, where no double stands in them. -/
theorem Value.alike_of_same {v w : Value} (hv : v.Plain around) (hw : w.Plain around) (same : v.same w = true) :
    v.Alike around w := by
  match v, w with
  | .null, .null => exact .null
  | .bool a, .bool b =>
    obtain rfl : a = b := beq_iff_eq.mp same
    exact .bool a
  | .number m, .number n =>
    obtain ⟨k, hm⟩ := Value.plain_number_iff.mp hv
    obtain ⟨l, hn⟩ := Value.plain_number_iff.mp hw
    obtain rfl := (Number.same_iff_of_toInt? hm hn).mp same
    exact .number (Number.alike_of_toInt? hm hn)
  | .string a, .string b =>
    obtain rfl : a = b := beq_iff_eq.mp same
    exact .string a
  | .list as, .list bs =>
    exact .list hv.1 (alike_of_sameItems (Value.plain_list_iff.mp hv) (Value.plain_list_iff.mp hw) same)
  | .record r, .record s => exact .record ⟨Value.plain_record_iff.mp hv, Value.plain_record_iff.mp hw, same⟩

theorem alike_of_sameItems {as bs : List Value} (ha : ∀ v ∈ as, v.Plain around)
    (hb : ∀ v ∈ bs, v.Plain around) (same : sameItems as bs = true) :
    List.Forall₂ (Value.Alike around) as bs := by
  match as, bs with
  | [], [] => exact .nil
  | a :: as, b :: bs =>
    rw [sameItems, Bool.and_eq_true] at same
    obtain ⟨headA, ha⟩ := List.forall_mem_cons.mp ha
    obtain ⟨headB, hb⟩ := List.forall_mem_cons.mp hb
    exact .cons (Value.alike_of_same headA headB same.1) (alike_of_sameItems ha hb same.2)

end

theorem Value.Plain.alike_self (plain : v.Plain around) : v.Alike around v :=
  Value.alike_of_same plain plain (Value.same_self plain.1)

namespace Value.Alike

mutual

theorem same {v w : Value} (h : v.Alike around w) : v.same w = true := by
  match v, w, h with
  | _, _, .null => rfl
  | _, _, .bool b => exact beq_self_eq_true b
  | _, _, .number alike => exact alike.same
  | _, _, .string s => exact beq_self_eq_true s
  | .list as, .list bs, .list _ each => exact sameItems_of_alike each
  | _, _, .record alike => exact alike.same

theorem sameItems_of_alike {as bs : List Value} (each : List.Forall₂ (Value.Alike around) as bs) :
    sameItems as bs = true := by
  match as, bs, each with
  | _, _, .nil => rfl
  | a :: as, b :: bs, .cons head each =>
    rw [sameItems, head.same, sameItems_of_alike each]
    rfl

end

theorem kind_eq (h : v.Alike around w) : v.kind = w.kind := by
  cases h <;> rfl

theorem string?_eq (h : v.Alike around w) : v.string? = w.string? := by
  cases h <;> rfl

mutual

theorem compare?_eq {v w v' w' : Value} (hv : v.Alike around v') (hw : w.Alike around w') :
    v.compare? w = v'.compare? w' := by
  match v, v', hv with
  | _, _, .null | _, _, .bool _ | _, _, .string _ | _, _, .record _ => cases hw <;> rfl
  | _, _, .number alike =>
    cases hw with
    | number alike' => exact alike.compare?_eq alike'
    | _ => rfl
  | .list as, .list as', .list _ each =>
    cases hw with
    | list _ each' => exact compareItems?_eq each each'
    | _ => rfl

theorem compareItems?_eq {as bs as' bs' : List Value} (ha : List.Forall₂ (Value.Alike around) as as')
    (hb : List.Forall₂ (Value.Alike around) bs bs') : compareItems? as bs = compareItems? as' bs' := by
  match as, as', ha with
  | _, _, .nil => cases hb <;> rfl
  | a :: as, a' :: as', .cons head each =>
    cases hb with
    | nil => rfl
    | cons head' each' =>
      rw [compareItems?_cons, compareItems?_cons, head.compare?_eq head', compareItems?_eq each each']

end

end Value.Alike

/-! ### Records of one population -/

theorem length_of_sameFields {as bs : List (String × Value)} (same : sameFields as bs = true) :
    as.length = bs.length := by
  match as, bs with
  | [], [] => rfl
  | (k, a) :: as, (l, b) :: bs =>
    rw [sameFields, Bool.and_eq_true] at same
    rw [List.length_cons, List.length_cons, length_of_sameFields same.2]

theorem find?_alike {as bs : List (String × Value)} (ha : ∀ field ∈ as, field.2.Plain around)
    (hb : ∀ field ∈ bs, field.2.Plain around) (same : sameFields as bs = true) (name : String) :
    Option.Rel (Value.Alike around) (Dictionary.find? name as) (Dictionary.find? name bs) := by
  match as, bs with
  | [], [] => exact .none
  | (k, a) :: as, (l, b) :: bs =>
    rw [sameFields, Bool.and_eq_true, Bool.and_eq_true, beq_iff_eq] at same
    rw [List.forall_mem_cons] at ha hb
    obtain ⟨⟨rfl, head⟩, rest⟩ := same
    unfold Dictionary.find?
    split
    · exact .some (Value.alike_of_same ha.1 hb.1 head)
    · exact find?_alike ha.2 hb.2 rest name

theorem Record.holds_of_get? {name : String} (found : r.get? name = some v) : r.Holds v := by
  cases r with
  | map h fields => exact ⟨name, Dictionary.mem_of_find? found⟩
  | object h typeName field => exact ⟨name, found⟩

namespace Population

mutual

/-- Whether values are equal does not change with what represents them. -/
theorem same_eq (population : Population around) {v w v' w' : Value} (hv : v.Alike around v')
    (hw : w.Alike around w') : v.same w = v'.same w' := by
  match v, v', hv with
  | _, _, .null | _, _, .bool _ | _, _, .string _ => cases hw <;> rfl
  | _, _, .number alike =>
    cases hw with
    | number alike' => exact alike.same_eq alike'
    | _ => rfl
  | .list as, .list as', .list _ each =>
    cases hw with
    | list _ each' => exact population.sameItems_eq each each'
    | _ => rfl
  | .record r, .record r', .record ⟨hr, hr', rr'⟩ =>
    cases hw with
    | @record s s' alike' =>
      obtain ⟨hs, hs', ss'⟩ := alike'
      -- Equality goes from either pair to the other, as it is transitive within the population.
      rw [Bool.eq_iff_iff]
      constructor
      · intro rs
        have r's := population.same_record_trans hr' hr hs (r'.same_comm r ▸ rr') rs
        exact population.same_record_trans hr' hs hs' r's ss'
      · intro r's'
        have rs' := population.same_record_trans hr hr' hs' rr' r's'
        exact population.same_record_trans hr hs' hs rs' (s'.same_comm s ▸ ss')
    | _ => rfl

theorem sameItems_eq (population : Population around) {as bs as' bs' : List Value}
    (ha : List.Forall₂ (Value.Alike around) as as') (hb : List.Forall₂ (Value.Alike around) bs bs') :
    sameItems as bs = sameItems as' bs' := by
  match as, as', ha with
  | _, _, .nil => cases hb <;> rfl
  | a :: as, a' :: as', .cons head each =>
    cases hb with
    | nil => rfl
    | cons head' each' =>
      rw [sameItems, sameItems, population.same_eq head head', population.sameItems_eq each each']

end

variable (population : Population around)
include population

theorem fieldCount_eq (h : r.Alike around s) : r.fields?.map List.length = s.fields?.map List.length := by
  rcases population.cases_of_same h.left h.right h.same with rfl | ⟨h, as, h', bs, rfl, rfl, fields⟩
  · rfl
  · exact congrArg some (length_of_sameFields fields)

/-- Equal records hold equal values under a name, or neither holds any. -/
theorem get?_alike (h : r.Alike around s) (name : String) :
    Option.Rel (Value.Alike around) (r.get? name) (s.get? name) := by
  obtain ⟨hr, hs, same⟩ := h
  rcases population.cases_of_same hr hs same with rfl | ⟨h, as, h', bs, rfl, rfl, fields⟩
  · cases found : r.get? name with
    | none => exact .none
    | some v => exact .some (population.plain r hr v (Record.holds_of_get? found)).alike_self
  · exact find?_alike (population.plain_fields hr) (population.plain_fields hs) fields name

theorem length?_eq (h : v.Alike around w) : v.length? = w.length? := by
  cases h with
  | null | bool | number | string => rfl
  | list free each => exact congrArg some each.length_eq
  | record alike => exact population.fieldCount_eq alike

theorem isTruthy_eq (h : v.Alike around w) : v.isTruthy = w.isTruthy := by
  cases h with
  | null | bool | string => rfl
  | number alike => exact congrArg (!·) alike.isZero_eq
  | list free each => cases each <;> rfl
  | record alike =>
    rcases population.cases_of_same alike.left alike.right alike.same with rfl | ⟨h, as, h', bs, rfl, rfl, fields⟩
    · rfl
    · cases as with
      | nil => cases bs with
        | nil => rfl
        | cons => cases fields
      | cons => cases bs with
        | nil => cases fields
        | cons => rfl

end Population

end

end RecordQuery
