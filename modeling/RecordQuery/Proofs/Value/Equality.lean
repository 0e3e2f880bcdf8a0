import RecordQuery.Proofs.Value.Order
import RecordQuery.Proofs.Registry.Standard

/-!
Equality of values against their order. Both run through lists, one to the end and one to the first
difference, and records have an equality but no order. So equal values compare as equal unless a record
stands in them, and then they do not compare at all.
-/

namespace RecordQuery

/-! ### Symmetry -/

theorem Number.same_comm (a b : Number) : a.same b = b.same a := by
  unfold same
  rw [a.compare?_swap b]
  cases a.compare? b with
  | none => rfl
  | some o => cases o <;> rfl

mutual

theorem Value.same_comm (v w : Value) : v.same w = w.same v := by
  match v with
  | .null => cases w <;> rfl
  | .bool a =>
    cases w with
    | bool b => exact Bool.beq_comm
    | _ => rfl
  | .number a =>
    cases w with
    | number b => exact a.same_comm b
    | _ => rfl
  | .string a =>
    cases w with
    | string b => exact Bool.beq_comm
    | _ => rfl
  | .list as =>
    cases w with
    | list bs => exact sameItems_comm as bs
    | _ => rfl
  | .record r =>
    cases w with
    | record s => exact r.same_comm s
    | _ => rfl

theorem Record.same_comm (r s : Record) : r.same s = s.same r := by
  match r with
  | .map h as =>
    cases s with
    | map h' bs => rw [Record.same, Record.same, sameFields_comm as bs, Bool.beq_comm]
    | object => rfl
  | .object h typeName field =>
    cases s with
    | map => rfl
    | object h' _ _ => exact Bool.beq_comm

theorem sameItems_comm (as bs : List Value) : sameItems as bs = sameItems bs as := by
  match as, bs with
  | [], [] => rfl
  | [], _ :: _ => rfl
  | _ :: _, [] => rfl
  | a :: as, b :: bs => rw [sameItems, sameItems, a.same_comm b, sameItems_comm as bs]

theorem sameFields_comm (as bs : List (String × Value)) : sameFields as bs = sameFields bs as := by
  match as, bs with
  | [], [] => rfl
  | [], _ :: _ => rfl
  | _ :: _, [] => rfl
  | (k, a) :: as, (l, b) :: bs =>
    rw [sameFields, sameFields, a.same_comm b, sameFields_comm as bs, Bool.beq_comm]

end

/-! ### Records in values -/

mutual

/-- The records that a value is or has in its lists. What records hold in turn does not count. -/
def Value.records : Value → List Record
  | .list items => itemRecords items
  | .record r => [r]
  | _ => []

/-- The records that some values are or have in their lists. -/
def itemRecords : List Value → List Record
  | [] => []
  | v :: vs => v.records ++ itemRecords vs

end

theorem itemRecords_cons_eq_nil {v : Value} {vs : List Value} :
    itemRecords (v :: vs) = [] ↔ v.records = [] ∧ itemRecords vs = [] := by
  rw [itemRecords, List.append_eq_nil_iff]

/-! ### Values that are equal -/

mutual

/-- Equal values compare as equal, or a record among them does not compare. -/
theorem Value.compare?_of_same {v w : Value} (same : v.same w = true) :
    v.compare? w = if v.records = [] then some .eq else none := by
  match v, w with
  | .null, .null => rfl
  | .bool a, .bool b =>
    obtain rfl : a = b := beq_iff_eq.mp same
    exact congrArg some Std.ReflCmp.compare_self
  | .number a, .number b => exact beq_iff_eq.mp same
  | .string a, .string b =>
    obtain rfl : a = b := beq_iff_eq.mp same
    exact congrArg some Std.ReflCmp.compare_self
  | .list as, .list bs => exact compareItems?_of_same same
  | .record r, .record s => rfl

theorem compareItems?_of_same {as bs : List Value} (same : sameItems as bs = true) :
    compareItems? as bs = if itemRecords as = [] then some .eq else none := by
  match as, bs with
  | [], [] => rfl
  | a :: as, b :: bs =>
    rw [sameItems, Bool.and_eq_true] at same
    rw [compareItems?_cons, Value.compare?_of_same same.1, compareItems?_of_same same.2]
    simp only [itemRecords_cons_eq_nil]
    by_cases head : a.records = []
    · simp only [head, true_and, ↓reduceIte, andThen]
    · simp only [head, false_and, ↓reduceIte, andThen]

end

mutual

theorem Value.same_of_compare? {v w : Value} (tie : v.compare? w = some .eq) :
    v.same w = true ∧ v.records = [] := by
  match v, w with
  | .null, .null => exact ⟨rfl, rfl⟩
  | .bool a, .bool b => exact ⟨beq_iff_eq.mpr (Std.LawfulEqCmp.eq_of_compare (Option.some.inj tie)), rfl⟩
  | .number a, .number b => exact ⟨beq_iff_eq.mpr tie, rfl⟩
  | .string a, .string b => exact ⟨beq_iff_eq.mpr (Std.LawfulEqCmp.eq_of_compare (Option.some.inj tie)), rfl⟩
  | .list as, .list bs => exact sameItems_of_compareItems? tie

theorem sameItems_of_compareItems? {as bs : List Value} (tie : compareItems? as bs = some .eq) :
    sameItems as bs = true ∧ itemRecords as = [] := by
  match as, bs with
  | [], [] => exact ⟨rfl, rfl⟩
  | [], _ :: _ => cases tie
  | _ :: _, [] => cases tie
  | a :: as, b :: bs =>
    rw [compareItems?_cons] at tie
    cases head : a.compare? b with
    | none =>
      rw [head] at tie
      cases tie
    | some o =>
      rw [head] at tie
      cases o with
      | lt => cases tie
      | gt => cases tie
      | eq =>
        obtain ⟨same, none⟩ := Value.same_of_compare? head
        obtain ⟨sames, nones⟩ := sameItems_of_compareItems? tie
        exact ⟨Bool.and_eq_true_iff.mpr ⟨same, sames⟩, itemRecords_cons_eq_nil.mpr ⟨none, nones⟩⟩

end

theorem Value.compare?_eq_some_eq_iff (v w : Value) :
    v.compare? w = some .eq ↔ v.same w = true ∧ v.records = [] := by
  refine ⟨Value.same_of_compare?, ?_⟩
  rintro ⟨same, none⟩
  rw [Value.compare?_of_same same, if_pos none]

/-! ### The comparators of equality and order -/

/-- The answer of the comparator that every standard registry holds under a name. -/
def standardHolds [PatternEngine] (name : String) (actual expected : Value) : Bool :=
  (Registry.standard.comparator? name).any fun comparator => comparator actual expected

theorem standardHolds_eq [PatternEngine] {name : String} {comparator : Comparator}
    (built : Comparator.builtin.reverse.lookup name = some comparator) : standardHolds name = comparator := by
  funext v w
  rw [standardHolds, Registry.comparator?_standard, built, Option.any_some]

section
variable (v w : Value)

theorem ordered_iff (test : Ordering → Bool) :
    ordered test v w = true ↔ ∃ o, v.compare? w = some o ∧ test o = true := by
  rw [ordered, Option.any_eq_true]

theorem Value.not_compare?_of_same {o : Ordering} (same : v.same w = true) (outcome : v.compare? w = some o) :
    o = .eq := by
  rw [Value.compare?_of_same same] at outcome
  split at outcome
  · exact (Option.some.inj outcome).symm
  · cases outcome

end

/-- The order of values is the same seen from both sides, and so is their equality. Values compare as
equal just when they are equal and no record stands in them, so that the comparators of order and of
equality exclude each other, and those that admit equality admit it of such values only. -/
theorem Value.order_coheres_with_equality [PatternEngine] (v w : Value) :
    w.compare? v = (v.compare? w).map Ordering.swap ∧ (w.compare? v = none ↔ v.compare? w = none) ∧
    (v.same w = true ↔ w.same v = true) ∧
    (v.compare? w = some .eq ↔ v.same w = true ∧ v.records = []) ∧
    ¬ (standardHolds "gt" v w = true ∧ standardHolds "exact" v w = true) ∧
    ¬ (standardHolds "exact" v w = true ∧ standardHolds "lt" v w = true) ∧
    ¬ (standardHolds "gt" v w = true ∧ standardHolds "lt" v w = true) ∧
    (standardHolds "gte" v w = true ↔
      standardHolds "gt" v w = true ∨ (standardHolds "exact" v w = true ∧ v.records = [])) ∧
    (standardHolds "lte" v w = true ↔ standardHolds "gte" w v = true) := by
  have gt : standardHolds "gt" = ordered Ordering.isGT := standardHolds_eq rfl
  have gte : standardHolds "gte" = ordered Ordering.isGE := standardHolds_eq rfl
  have lt : standardHolds "lt" = ordered Ordering.isLT := standardHolds_eq rfl
  have lte : standardHolds "lte" = ordered Ordering.isLE := standardHolds_eq rfl
  have exact : standardHolds "exact" = Value.same := standardHolds_eq rfl
  simp only [gt, gte, lt, lte, exact, ordered_iff, v.compare?_swap w]
  refine ⟨trivial, ?_, ?_, v.compare?_eq_some_eq_iff w, ?_, ?_, ?_, ?_, ?_⟩
  · rw [Option.map_eq_none_iff]
  · rw [v.same_comm w]
  · rintro ⟨⟨o, outcome, greater⟩, same⟩
    cases Value.not_compare?_of_same v w same outcome
    cases greater
  · rintro ⟨same, o, outcome, less⟩
    cases Value.not_compare?_of_same v w same outcome
    cases less
  · rintro ⟨⟨o, outcome, greater⟩, p, again, less⟩
    cases outcome.symm.trans again
    cases o <;> cases greater
    cases less
  · rw [← v.compare?_eq_some_eq_iff w]
    rcases v.compare? w with _ | _ | _ | _ <;> simp
  · rcases v.compare? w with _ | _ | _ | _ <;> simp

end RecordQuery
