import RecordQuery.Proofs.Path.Composition
import RecordQuery.Proofs.Selection.Conditions

/-!
The two roles of the length. A condition may ask for the length of the value that its path leads to, or go on from
there to the length and compare that. Both ask the same of every record, as long as the value has no field that goes
by the name of the length: such a field would go before the transform at the end of the path.
-/

namespace RecordQuery

/-- Both roles of the length, and equality, are the ones that are built in. -/
structure Registry.MeasuresLength [PatternEngine] (registry : Registry) : Prop where
  comparator : registry.comparator? "len" = Registry.standard.comparator? "len"
  transform : registry.transform? "len" = Registry.standard.transform? "len"
  exact : registry.comparator? "exact" = Registry.standard.comparator? "exact"

/-- The path to the length alone. -/
def Path.toLength : Path := ⟨["len"], by decide, by decide⟩

namespace Registry.MeasuresLength
variable [PatternEngine] {registry : Registry} (measures : registry.MeasuresLength)
include measures

theorem comparator?_len : registry.comparator? "len" = some Value.hasLength :=
  measures.comparator.trans (comparator?_standard "len")

theorem transform?_len : registry.transform? "len" = some Transform.length :=
  measures.transform.trans (transform?_standard "len")

theorem comparator?_exact : registry.comparator? "exact" = some Value.same :=
  measures.exact.trans (comparator?_standard "exact")

end Registry.MeasuresLength

section
variable [PatternEngine] {registry : Registry}

/-! ### Reading -/

/-- Neither operator searches for a pattern, so none is read ahead. -/
theorem Lookup.condition_of_measure (reachable : registry.Reachable) (lookup : Lookup) {spelling : Spelling}
    {path : Path} {operator : String} (measure : operator = "len" ∨ operator = "exact")
    (target : lookup.key.target spelling registry = .ok (path, operator)) :
    lookup.condition spelling registry = .ok ⟨path, operator, lookup.expected, none⟩ := by
  have unmarked : registry.hasPattern operator = false := by
    refine Bool.eq_false_iff.mpr fun marked => ?_
    have called : operator = "regex" := reachable.hasPattern marked
    rcases measure with rfl | rfl <;> exact absurd called (by decide)
  rw [condition_of_target target]
  cases lookup.expected with
  | string source => rw [expectedPattern, unmarked]; rfl
  | null | bool | number | list | record => rfl

/-! ### Paths to a length -/

variable (measures : registry.MeasuresLength) {v : Value} (noField : ∀ s, v = .record s → s.get? "len" = none)
include measures noField

/-- At the end of a path the transform applies where no field goes before it. -/
theorem Path.advance_toLength : Path.advance registry v "len" true = Transform.length v := by
  have field : v.record?.bind (·.get? "len") = none := by
    cases v with
    | record s => exact noField s rfl
    | null | bool | number | string | list => rfl
  rw [advance, measures.transform?_len, field]
  rfl

theorem Path.followPlaced_toLength_eq_ok_iff {w : Value} :
    Path.followPlaced registry v Path.toLength.segments = .ok w ↔ Transform.length v = some w := by
  have step : Path.advance registry v "len" true = Transform.length v := advance_toLength measures noField
  cases measured : Transform.length v with
  | none =>
    have stuck : followPlaced registry v toLength.segments = .error 0 := followPlaced_stuck (step.trans measured)
    rw [stuck]
    exact ⟨fun same => (nomatch same), fun same => nomatch same⟩
  | some length =>
    have done : followPlaced registry v toLength.segments = .ok length := followPlaced_step (step.trans measured)
    rw [done, Except.ok.injEq, Option.some.injEq]

end

section
variable {path : Path} {r : Record}

/-- A path that goes on to the length leads to the length of the value that it led to before. -/
theorem Path.resolve_append_toLength [PatternEngine] {registry : Registry} (measures : registry.MeasuresLength)
    (plain : registry.hasTransform (path.segments.getLast path.nonempty) = false)
    (noField : ∀ s, path.resolve registry r = .ok (.record s) → s.get? "len" = none) :
    ((path ++ toLength).resolve registry r).toOption =
      (path.resolve registry r).toOption.bind Transform.length := by
  have whole : followPlaced registry (.record r) (path ++ toLength).segments = _ :=
    followPlaced_append path.nonempty plain toLength.segments (.record r)
  refine Option.ext fun w => ?_
  rw [toOption_eq_some_iff, resolve_eq_ok_iff, whole, bind_eq_ok_iff, Option.bind_eq_some_iff]
  refine exists_congr fun v => ?_
  rw [toOption_eq_some_iff, resolve_eq_ok_iff, mapError_eq_ok_iff]
  refine and_congr_right fun leads => followPlaced_toLength_eq_ok_iff measures ?_
  rintro s rfl
  exact noField s (resolve_eq_ok_iff.mpr leads)

/-- A condition without a pattern is met where its path leads to a value of which its comparator holds. -/
theorem Condition.met_eq_any [PatternEngine] {registry : Registry} {condition : Condition} {comparator : Comparator}
    (found : registry.comparator? condition.operator = some comparator) (none : condition.pattern = none) :
    condition.met registry r =
      (condition.path.resolve registry r).toOption.any fun actual => comparator actual condition.expected := by
  rw [met, evaluate, found]
  cases condition.path.resolve registry r with
  | error e => rfl
  | ok actual =>
    change condition.accepts comparator actual = comparator actual condition.expected
    rw [accepts, none]

theorem any_hasLength_eq (found : Option Value) (expected : Value) :
    (found.any fun v => v.hasLength expected) =
      (found.bind Transform.length).any fun length => length.same expected := by
  cases found with
  | none => rfl
  | some v =>
    change v.length?.any _ = (v.length?.map Value.ofNat).any _
    cases v.length? <;> rfl

end

/-- Where both roles of the length, and equality, are as they are built in, the last segment of a path is no transform,
and the path leads to no record with a field of that name, the length of the value is as expected just where the length,
to which the path goes on, equals what is expected. A path that does not resolve meets neither condition, and a value
without a length does not either. Lookups of the two are read as these conditions, whatever has been registered. -/
theorem length_conditions_agree [PatternEngine] {registry : Registry} (measures : registry.MeasuresLength) {path : Path}
    (plain : registry.hasTransform (path.segments.getLast path.nonempty) = false) {r : Record}
    (noField : ∀ s, path.resolve registry r = .ok (.record s) → s.get? "len" = none) (expected : Value) :
    let byLength : Condition := ⟨path, "len", expected, none⟩
    let byValue : Condition := ⟨path ++ Path.toLength, "exact", expected, none⟩
    (registry.Reachable → ∀ spelling key,
      (key.target spelling registry = .ok (path, "len") →
        (⟨key, expected⟩ : Lookup).condition spelling registry = .ok byLength) ∧
      (key.target spelling registry = .ok (path ++ Path.toLength, "exact") →
        (⟨key, expected⟩ : Lookup).condition spelling registry = .ok byValue)) ∧
    (meetsAll registry r [byLength] = .ok true ↔ meetsAll registry r [byValue] = .ok true) ∧
    meetsAll registry r [byLength] = .ok (byLength.met registry r) ∧
    meetsAll registry r [byValue] = .ok (byValue.met registry r) ∧
    ((∀ v, path.resolve registry r = .ok v → v.length? = none) →
      byLength.met registry r = false ∧ byValue.met registry r = false) := by
  intro byLength byValue
  have lengthKnown : registry.comparator? byLength.operator = some Value.hasLength := measures.comparator?_len
  have exactKnown : registry.comparator? byValue.operator = some Value.same := measures.comparator?_exact
  have askLength : meetsAll registry r [byLength] = .ok (byLength.met registry r) := by
    rw [meetsAll_eq_ok (List.forall_mem_singleton.mpr (Option.isSome_iff_exists.mpr ⟨_, lengthKnown⟩))]
    simp
  have askValue : meetsAll registry r [byValue] = .ok (byValue.met registry r) := by
    rw [meetsAll_eq_ok (List.forall_mem_singleton.mpr (Option.isSome_iff_exists.mpr ⟨_, exactKnown⟩))]
    simp
  have agree : byLength.met registry r = byValue.met registry r := by
    rw [Condition.met_eq_any lengthKnown rfl, Condition.met_eq_any exactKnown rfl]
    change ((path.resolve registry r).toOption.any fun v => v.hasLength expected) =
      ((path ++ Path.toLength).resolve registry r).toOption.any fun length => length.same expected
    rw [Path.resolve_append_toLength measures plain noField, any_hasLength_eq]
  refine ⟨fun reachable spelling key => ⟨?_, ?_⟩, ?_, askLength, askValue, fun noLength => ?_⟩
  · exact Lookup.condition_of_measure reachable ⟨key, expected⟩ (Or.inl rfl)
  · exact Lookup.condition_of_measure reachable ⟨key, expected⟩ (Or.inr rfl)
  · rw [askLength, askValue, agree]
  · have neither : byLength.met registry r = false := by
      rw [Condition.met_eq_any lengthKnown rfl]
      change ((path.resolve registry r).toOption.any fun v => v.hasLength expected) = false
      cases leads : path.resolve registry r with
      | error e => rfl
      | ok v =>
        change v.length?.any _ = false
        rw [noLength v leads]
        rfl
    exact ⟨neither, agree ▸ neither⟩

/-- A record with one value, under a name that is no transform. -/
def named (v : Value) : Record := .map 1 [("name", v)]

theorem length_conditions_agree_named :
    let name : Path := ⟨["name"], by decide, by decide⟩
    (∃ byLength byValue, (⟨.spelled "name__len", .ofNat 4⟩ : Lookup).condition .standard .standard = .ok byLength ∧
      (⟨.spelled "name__len__exact", .ofNat 4⟩ : Lookup).condition .standard .standard = .ok byValue ∧
      meetsAll .standard (named (.string "Fido")) [byLength] = .ok true ∧
      meetsAll .standard (named (.string "Fido")) [byValue] = .ok true) ∧
    ∀ expected, (⟨name, "len", expected, none⟩ : Condition).met .standard (named .null) = false ∧
      (⟨name ++ Path.toLength, "exact", expected, none⟩ : Condition).met .standard (named .null) = false := by
  intro name
  have measures : Registry.standard.MeasuresLength := ⟨rfl, rfl, rfl⟩
  have plain : Registry.standard.hasTransform (name.segments.getLast name.nonempty) = false := rfl
  have noRecord (v : Value) (other : v.record? = none) (s : Record)
      (leads : name.resolve .standard (named v) = .ok (.record s)) : s.get? "len" = none := by
    cases leads
    cases other
  constructor
  · obtain ⟨read, agree, -, -, -⟩ :=
      length_conditions_agree measures plain (noRecord (.string "Fido") rfl) (.ofNat 4)
    have met : meetsAll .standard (named (.string "Fido")) [⟨name, "len", .ofNat 4, none⟩] = .ok true := rfl
    have readIn := read .standard .standard
    exact ⟨_, _, (readIn (.spelled "name__len")).1 rfl, (readIn (.spelled "name__len__exact")).2 rfl,
      met, agree.mp met⟩
  · intro expected
    obtain ⟨-, -, -, -, neither⟩ := length_conditions_agree measures plain (noRecord .null rfl) expected
    refine neither fun v leads => ?_
    cases leads
    rfl

end RecordQuery
