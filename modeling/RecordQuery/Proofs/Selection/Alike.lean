import RecordQuery.Proofs.Registry.Faithful
import RecordQuery.Proofs.Selection.Places

/-!
Selections from lists of equal records by equal lookups. Lookups that are alike are read as conditions
that are alike, which equal records meet alike, so that the selections are of the same places.
-/

namespace RecordQuery

/-- One key, and expected values that are alike. -/
structure Lookup.Alike (around : Record → Prop) (a b : Lookup) : Prop where
  key : a.key = b.key
  expected : a.expected.Alike around b.expected

/-- One path, operator and pattern, and expected values that are alike. -/
structure Condition.Alike [PatternEngine] (around : Record → Prop) (c d : Condition) : Prop where
  path : c.path = d.path
  operator : c.operator = d.operator
  expected : c.expected.Alike around d.expected
  pattern : c.pattern = d.pattern

/-- Lists that spell lookups in one way and whose records are alike, place by place. -/
structure RecordList.Alike (around : Record → Prop) (list other : RecordList) : Prop where
  spelling : list.spelling = other.spelling
  each : List.Forall₂ (Record.Alike around) list.records other.records

section
variable {around : Record → Prop} {registry : Registry}

/-! ### Reading -/

theorem alike_of_sameLookups {as bs : List Lookup} (ha : ∀ lookup ∈ as, lookup.expected.Plain around)
    (hb : ∀ lookup ∈ bs, lookup.expected.Plain around) (same : sameLookups as bs = true) :
    List.Forall₂ (Lookup.Alike around) as bs := by
  match as, bs with
  | [], [] => exact .nil
  | a :: as, b :: bs =>
    rw [sameLookups, Bool.and_eq_true, Bool.and_eq_true, beq_iff_eq] at same
    obtain ⟨⟨key, expected⟩, rest⟩ := same
    obtain ⟨headA, ha⟩ := List.forall_mem_cons.mp ha
    obtain ⟨headB, hb⟩ := List.forall_mem_cons.mp hb
    exact .cons ⟨key, Value.alike_of_same headA headB expected⟩ (alike_of_sameLookups ha hb rest)

variable [PatternEngine]

theorem expectedPattern_eq {v w : Value} (h : v.Alike around w) (operator : String) :
    expectedPattern registry operator v = expectedPattern registry operator w := by
  cases h <;> rfl

theorem Lookup.condition_parallel {a b : Lookup} (h : a.Alike around b) (spelling : Spelling) :
    Parallel (Condition.Alike around) (a.condition spelling registry) (b.condition spelling registry) := by
  unfold Lookup.condition
  rw [h.key]
  cases b.key.target spelling registry with
  | error e => exact .error e
  | ok target =>
    change Parallel _ (expectedPattern registry target.2 a.expected >>= _)
      (expectedPattern registry target.2 b.expected >>= _)
    rw [expectedPattern_eq h.expected]
    cases expectedPattern registry target.2 b.expected with
    | error e => exact .error e
    | ok pattern => exact .ok ⟨rfl, rfl, h.expected, rfl⟩

theorem conditionsOf_parallel {as bs : List Lookup} (each : List.Forall₂ (Lookup.Alike around) as bs)
    (spelling : Spelling) (registry : Registry) : Parallel (List.Forall₂ (Condition.Alike around))
      (conditionsOf spelling registry as) (conditionsOf spelling registry bs) := by
  rw [conditionsOf_eq_mapM, conditionsOf_eq_mapM]
  exact .mapM each fun a b h => Lookup.condition_parallel h spelling

/-! ### Evaluation -/

theorem Condition.Alike.accepts_eq {c d : Condition} (h : c.Alike around d) {comparator : Comparator}
    (faithful : comparator.Faithful around) {v w : Value} (vw : v.Alike around w) :
    c.accepts comparator v = d.accepts comparator w := by
  unfold Condition.accepts
  rw [h.pattern, vw.string?_eq]
  cases d.pattern with
  | some e => rfl
  | none => exact faithful v c.expected w d.expected vw h.expected

variable (population : Population around) (faithful : registry.Faithful around) {r s : Record}
include population faithful

theorem Condition.Alike.evaluate_eq {c d : Condition} (h : c.Alike around d) (rs : r.Alike around s) :
    c.evaluate registry r = d.evaluate registry s := by
  unfold Condition.evaluate
  rw [h.operator, h.path]
  cases found : registry.comparator? d.operator with
  | none => rfl
  | some comparator =>
    refine (Path.resolve_parallel population faithful rs d.path).map_eq fun v w vw => ?_
    exact h.accepts_eq (faithful.comparator _ _ found) vw

theorem meetsAll_alike {conditions others : List Condition}
    (each : List.Forall₂ (Condition.Alike around) conditions others) (rs : r.Alike around s) :
    meetsAll registry r conditions = meetsAll registry s others :=
  meetsAll_congr (each.imp fun _ _ h => h.evaluate_eq population faithful rs)

end

/-! ### Selection -/

/-- Selections from lists that are alike fail alike, or are of the same places. -/
theorem RecordList.selections_alike [PatternEngine] {around : Record → Prop} {registry : Registry}
    {list other : RecordList} {lookups otherLookups : List Lookup} (population : Population around)
    (faithful : registry.Faithful around) (h : list.Alike around other)
    (each : List.Forall₂ (Lookup.Alike around) lookups otherLookups) :
    (∃ e, list.filter registry lookups = .error e ∧ list.exclude registry lookups = .error e ∧
      other.filter registry otherLookups = .error e ∧ other.exclude registry otherLookups = .error e) ∨
    ∃ met : Nat → Bool,
      list.filter registry lookups = .ok (list.atPlaces fun i => met i) ∧
      list.exclude registry lookups = .ok (list.atPlaces fun i => !met i) ∧
      other.filter registry otherLookups = .ok (other.atPlaces fun i => met i) ∧
      other.exclude registry otherLookups = .ok (other.atPlaces fun i => !met i) := by
  have reading := conditionsOf_parallel each list.spelling registry
  rcases reading.cases_ok_error with ⟨e, left, right⟩ | ⟨conditions, others, left, right, alike⟩
  · rw [h.spelling] at right
    exact Or.inl ⟨e, keeping_eq_error left true, keeping_eq_error left false, keeping_eq_error right true,
      keeping_eq_error right false⟩
  · rw [h.spelling] at right
    exact selections_of_answers left right
      (h.each.imp fun _ _ rs => meetsAll_alike population faithful alike rs)

end RecordQuery
