import RecordQuery.Proofs.Registry.Frame
import RecordQuery.Proofs.Selection.ReadAhead

/-!
Comparators that take the place of others after lookups have been read. A condition holds the name of its
operator, and asks whatever comparator stands under that name when it is evaluated. Only a pattern that was read
ahead stays with the condition, and goes on deciding in place of any comparator.
-/

namespace RecordQuery

section
variable [PatternEngine] {registry later : Registry} {spelling : Spelling} {operator : String} {expected : Value}
  {lookup : Lookup} {condition : Condition} {holds : Comparator}

/-! ### Where a pattern is read ahead -/

theorem expectedPattern_isSome_iff {pattern : Option PatternEngine.Pattern}
    (read : expectedPattern registry operator expected = .ok pattern) :
    pattern.isSome = true ↔ registry.hasPattern operator = true ∧ expected.string?.isSome = true := by
  cases pattern with
  | some pattern =>
    obtain ⟨marked, source, rfl, -⟩ := expectedPattern_eq_some read
    exact iff_of_true rfl ⟨marked, rfl⟩
  | none =>
    refine iff_of_false Bool.false_ne_true ?_
    rintro ⟨marked, text⟩
    cases expected with
    | string source =>
      rw [expectedPattern, if_pos marked] at read
      cases parsed : PatternEngine.read source <;> rw [parsed] at read <;> cases read
    | null | bool | number | list | record => cases text

theorem Lookup.condition_pattern_iff (read : lookup.condition spelling registry = .ok condition) :
    condition.pattern.isSome = true ↔
      registry.hasPattern condition.operator = true ∧ condition.expected.string?.isSome = true := by
  obtain ⟨-, ahead, expected⟩ := condition_eq_ok_iff.mp read
  exact expectedPattern_isSome_iff (expected ▸ ahead)

/-! ### Evaluation under another registry -/

/-- A comparator that stands under the name of the operator is asked, unless the condition has a pattern. -/
theorem Condition.evaluate_of_comparator (read : lookup.condition spelling registry = .ok condition)
    (found : later.comparator? condition.operator = some holds) (r : Record) :
    condition.evaluate later r = (condition.path.resolve later r).map fun actual =>
      if registry.hasPattern condition.operator = true ∧ condition.expected.string?.isSome = true then
        actual.matchesPattern condition.expected
      else holds actual condition.expected := by
  rw [evaluate, found]
  refine congrArg (fun answer => (condition.path.resolve later r).map answer) (funext fun actual => ?_)
  have readAhead := Lookup.condition_pattern_iff read
  cases known : condition.pattern with
  | none =>
    rw [known] at readAhead
    rw [if_neg fun search => Bool.false_ne_true (readAhead.mpr search), accepts, known]
  | some pattern =>
    rw [known] at readAhead
    rw [if_pos (readAhead.mp rfl)]
    exact accepts_of_pattern (Lookup.condition_readAhead read) known holds actual

end

/-- A comparator that is made known under the operator of a condition, at any time after that was read, is asked
of the value found and the value expected. Only a condition that was read for a search in text goes on searching
for its old pattern. -/
theorem evaluate_after_replacement [PatternEngine] {registry : Registry} {spelling : Spelling} {lookups : List Lookup}
    {conditions : List Condition} (read : conditionsOf spelling registry lookups = .ok conditions) :
    ∀ condition ∈ conditions, ∀ history holds r,
      let later := (registry.after history).withComparator condition.operator holds
      condition.evaluate later r = (condition.path.resolve later r).map fun actual =>
        if registry.hasPattern condition.operator = true ∧ condition.expected.string?.isSome = true then
          actual.matchesPattern condition.expected
        else holds actual condition.expected := by
  intro condition mem history holds r later
  obtain ⟨lookup, -, read⟩ := exists_lookup_of_mem read mem
  exact Condition.evaluate_of_comparator read Registry.comparator?_withComparator_self r

/-- The lookup of a number where text is searched. -/
def searchNumber : List Lookup := [⟨.spelled "s__regex", .ofNat 5⟩]

theorem evaluate_after_replacement_searchNumber :
    ∃ condition, conditionsOf .standard .standard searchNumber = .ok [condition] ∧
      condition.evaluate (Registry.standard.withComparator "regex" fun _ _ => true) (.map 1 [("s", .string "a")]) =
        .ok true := by
  have read : conditionsOf .standard .standard searchNumber =
      .ok [⟨⟨["s"], by decide, by decide⟩, "regex", .ofNat 5, none⟩] := rfl
  have replaced := evaluate_after_replacement read _ List.mem_cons_self [] (fun _ _ => true)
    (.map 1 [("s", .string "a")])
  exact ⟨_, read, replaced.trans rfl⟩

/-- The condition of a search in text whose operator is replaced by a test that always holds: the path resolves
under the new registry, yet the answer is that of the old search. -/
theorem evaluate_replaced_search :
    ∃ condition, conditionsOf .standard .standard [searchIn "b+"] = .ok [condition] ∧
      condition.operator = "regex" ∧
      condition.path.resolve (Registry.standard.withComparator "regex" fun _ _ => true) (.map 1 [("s", .string "a")]) =
        .ok (.string "a") ∧
      condition.evaluate (Registry.standard.withComparator "regex" fun _ _ => true) (.map 1 [("s", .string "a")]) =
        .ok false := by
  refine ⟨_, rfl, rfl, rfl, ?_⟩
  decide

end RecordQuery
