import RecordQuery.Proofs.Parallel
import RecordQuery.Proofs.Value.Alike
import RecordQuery.Registry

/-!
Operators on values that are alike. A comparator that is faithful answers alike values alike, and a
transform that is faithful derives alike values from them, or none from either. The operators that are
built in are all faithful, and so are those of the standard registry.
-/

namespace RecordQuery

/-- The comparator answers by what values are, not by what represents them. -/
def Comparator.Faithful (around : Record → Prop) (comparator : Comparator) : Prop :=
  ∀ v w v' w', v.Alike around v' → w.Alike around w' → comparator v w = comparator v' w'

/-- The transform derives by what values are, not by what represents them. -/
def Transform.Faithful (around : Record → Prop) (transform : Transform) : Prop :=
  ∀ v w, v.Alike around w → Option.Rel (Value.Alike around) (transform v) (transform w)

section
variable {around : Record → Prop} {v w v' w' : Value} {as bs : List Value}

/-! ### Comparators -/

theorem sameCaseless_eq (population : Population around) (hv : v.Alike around v') (hw : w.Alike around w') :
    sameCaseless v w = sameCaseless v' w' := by
  have same := population.same_eq hv hw
  cases hv with
  | string s =>
    cases hw with
    | string t => rfl
    | _ => exact same
  | _ => exact same

theorem ordered_eq (test : Ordering → Bool) (hv : v.Alike around v') (hw : w.Alike around w') :
    ordered test v w = ordered test v' w' := by
  rw [ordered, ordered, hv.compare?_eq hw]

theorem isSome_eq {x y : Option Value} (h : Option.Rel (Value.Alike around) x y) : x.isSome = y.isSome := by
  cases h <;> rfl

theorem contains_eq (population : Population around) (hv : v.Alike around v') (hw : w.Alike around w') :
    v.contains w = v'.contains w' := by
  cases hv with
  | null | bool | number | string => cases hw <;> rfl
  | list free each => exact any_eq_of_forall₂ each fun a b h => population.same_eq h hw
  | record alike =>
    cases hw with
    | string name => exact isSome_eq (population.get?_alike alike name)
    | _ => rfl

theorem containsCaseless_eq (population : Population around) (hv : v.Alike around v') (hw : w.Alike around w') :
    v.containsCaseless w = v'.containsCaseless w' := by
  have contained := contains_eq population hv hw
  cases hv with
  | string s =>
    cases hw with
    | string t => rfl
    | _ => exact contained
  | _ => exact contained

theorem startsWith_eq (hv : v.Alike around v') (hw : w.Alike around w') : v.startsWith w = v'.startsWith w' := by
  cases hv <;> cases hw <;> rfl

theorem endsWith_eq (hv : v.Alike around v') (hw : w.Alike around w') : v.endsWith w = v'.endsWith w' := by
  cases hv <;> cases hw <;> rfl

theorem matchesPattern_eq [PatternEngine] (hv : v.Alike around v') (hw : w.Alike around w') :
    v.matchesPattern w = v'.matchesPattern w' := by
  cases hv <;> cases hw <;> rfl

theorem ofNat_alike (n : Nat) : (Value.ofNat n).Alike around (Value.ofNat n) :=
  .number (Number.alike_of_toInt? rfl rfl)

theorem hasLength_eq (population : Population around) (hv : v.Alike around v') (hw : w.Alike around w') :
    v.hasLength w = v'.hasLength w' := by
  rw [Value.hasLength, Value.hasLength, population.length?_eq hv]
  cases v'.length? with
  | none => rfl
  | some n => exact population.same_eq (ofNat_alike n) hw

theorem faithful_of_mem_comparators [PatternEngine] (population : Population around) :
    ∀ entry ∈ Comparator.builtin, entry.2.Faithful around := by
  simp only [Comparator.builtin, List.forall_mem_cons]
  refine ⟨?exact, ?iexact, ?ne, ?gt, ?gte, ?lt, ?lte, ?contains, ?icontains, ?inside, ?startswith, ?endswith,
    ?regex, ?len, List.forall_mem_nil _⟩ <;> intro v w v' w' hv hw
  case exact => exact population.same_eq hv hw
  case iexact => exact sameCaseless_eq population hv hw
  case ne => exact congrArg (!·) (population.same_eq hv hw)
  case gt | gte | lt | lte => exact ordered_eq _ hv hw
  case contains => exact contains_eq population hv hw
  case icontains => exact containsCaseless_eq population hv hw
  case inside => exact contains_eq population hw hv
  case startswith => exact startsWith_eq hv hw
  case endswith => exact endsWith_eq hv hw
  case regex => exact matchesPattern_eq hv hw
  case len => exact hasLength_eq population hv hw

/-! ### Transforms -/

theorem length_alike (population : Population around) (h : v.Alike around w) :
    Option.Rel (Value.Alike around) (Transform.length v) (Transform.length w) := by
  rw [Transform.length, Transform.length, population.length?_eq h]
  cases w.length? with
  | none => exact .none
  | some n => exact .some (ofNat_alike n)

theorem extremeItem?_alike (wanted : Ordering) {best best' : Value} (h : best.Alike around best')
    (each : List.Forall₂ (Value.Alike around) as bs) :
    Option.Rel (Value.Alike around) (Transform.extremeItem? wanted best as)
      (Transform.extremeItem? wanted best' bs) := by
  induction each generalizing best best' with
  | nil => exact .some h
  | @cons item item' as bs head _ ih =>
    rw [Transform.extremeItem?, Transform.extremeItem?, head.compare?_eq h]
    cases item'.compare? best' with
    | none => exact .none
    | some o =>
      rw [Option.bind_some, Option.bind_some]
      split
      · exact ih head
      · exact ih h

theorem extreme_alike (wanted : Ordering) (h : v.Alike around w) :
    Option.Rel (Value.Alike around) (Transform.extreme wanted v) (Transform.extreme wanted w) := by
  cases h with
  | null | bool | number | record => exact .none
  | string s =>
    unfold Transform.extreme
    dsimp only
    cases s.toList with
    | nil => exact .none
    | cons c cs => exact .some (.string _)
  | list free each =>
    cases each with
    | nil => exact .none
    | cons head each => exact extremeItem?_alike wanted head each

/-- The verdict on the items of a list is the same of lists that are alike. -/
theorem verdict_alike {test : List Value → Bool}
    (agree : ∀ as bs, List.Forall₂ (Value.Alike around) as bs → test as = test bs) (h : v.Alike around w) :
    Option.Rel (Value.Alike around) (v.list?.map fun items => .bool (test items))
      (w.list?.map fun items => .bool (test items)) := by
  cases h with
  | @list as bs free each =>
    change Option.Rel _ (some (Value.bool (test as))) (some (Value.bool (test bs)))
    rw [agree as bs each]
    exact .some (.bool _)
  | null | bool | number | string | record => exact .none

theorem absolute_alike (h : v.Alike around w) :
    Option.Rel (Value.Alike around) (Transform.absolute v) (Transform.absolute w) := by
  cases h with
  | number alike => exact .some (.number alike.abs)
  | null | bool | string | list | record => exact .none

/-- The totals of alike integers are one number, and not NaN where the total so far is not. -/
theorem total?_eq {total : Number} (ordered : ∃ p, total.place? = some p) (free : floatFreeItems as = true)
    (each : List.Forall₂ (Value.Alike around) as bs) : Transform.total? total as = Transform.total? total bs ∧
      ∀ sum, Transform.total? total as = some sum → ∃ p, sum.place? = some p := by
  induction each generalizing total with
  | nil =>
    refine ⟨rfl, fun sum found => ?_⟩
    cases found
    exact ordered
  | cons head each ih =>
    rw [floatFreeItems, Bool.and_eq_true] at free
    cases head with
    | @number m n alike =>
      -- From here on both totals are one number, be it an integer or a double.
      obtain ⟨k, integer⟩ := Option.isSome_iff_exists.mp free.1
      have sums : total.add m = total.add n := (Number.alike_self ordered).add_eq alike
      change Transform.total? (total.add m) _ = Transform.total? (total.add n) _ ∧
        ∀ sum, Transform.total? (total.add m) _ = some sum → _
      rw [← sums]
      exact ih (Number.exists_place?_add ordered integer) free.2
    | null | bool | string | list | record =>
      refine ⟨rfl, fun sum found => ?_⟩
      cases found

theorem sum_alike (h : v.Alike around w) :
    Option.Rel (Value.Alike around) (Transform.sum v) (Transform.sum w) := by
  cases h with
  | @list as bs free each =>
    have start : ∃ p, (Number.signed 0).place? = some p := ⟨_, Number.place?_of_toInt? (m := 0) rfl⟩
    obtain ⟨same, ordered⟩ := total?_eq start free each
    change Option.Rel _ ((Transform.total? (.signed 0) as).map _) ((Transform.total? (.signed 0) bs).map _)
    rw [← same]
    cases found : Transform.total? (.signed 0) as with
    | none => exact .none
    | some sum => exact .some (.number (Number.alike_self (ordered sum found)))
  | null | bool | string | number | record => exact .none

theorem faithful_of_mem_transforms (population : Population around) :
    ∀ entry ∈ Transform.builtin, entry.2.Faithful around := by
  simp only [Transform.builtin, List.forall_mem_cons]
  refine ⟨?len, ?bool, ?max, ?min, ?all, ?any, ?abs, ?sum, List.forall_mem_nil _⟩ <;> intro v w h
  case len => exact length_alike population h
  case bool =>
    rw [Transform.truth, Transform.truth, population.isTruthy_eq h]
    exact .some (.bool _)
  case max | min => exact extreme_alike _ h
  case all => exact verdict_alike (fun as bs each => all_eq_of_forall₂ each fun a b h => population.isTruthy_eq h) h
  case any => exact verdict_alike (fun as bs each => any_eq_of_forall₂ each fun a b h => population.isTruthy_eq h) h
  case abs => exact absolute_alike h
  case sum => exact sum_alike h

end

end RecordQuery
