import RecordQuery.Proofs.Selection.Conditions

/-!
Patterns that are read ahead. A lookup that searches text for a pattern has it read once, for all records,
and the condition then goes by that pattern instead of its comparator. The comparator would read it anew
from the expected value for every record, and take one that cannot be read for one that matches nothing.
So both give one answer, and a pattern that cannot be read is no answer but a failure of the lookup. That
the comparator is still the one whose pattern was read is for the registry to answer: by what its mark means
after any history.
-/

namespace RecordQuery

section
variable [PatternEngine] {registry : Registry} {spelling : Spelling} {operator : String} {expected : Value}

/-! ### Reading -/

theorem expectedPattern_eq_some {pattern : PatternEngine.Pattern}
    (read : expectedPattern registry operator expected = .ok (some pattern)) :
    registry.hasPattern operator = true ∧
      ∃ source, expected = .string source ∧ PatternEngine.read source = .ok pattern := by
  unfold expectedPattern at read
  split at read
  · next source =>
    split at read
    · next marked =>
      split at read
      · next parsed =>
        cases read
        exact ⟨marked, source, rfl, parsed⟩
      · cases read
    · cases read
  · cases read

/-- Reading ahead fails for text that is no pattern, where the operator searches for one. -/
theorem expectedPattern_eq_error_iff {e : Failure} : expectedPattern registry operator expected = .error e ↔
    registry.hasPattern operator = true ∧
      ∃ source reason, expected = .string source ∧ PatternEngine.read source = .error reason ∧
        e = .invalidPattern reason := by
  constructor
  · intro failed
    unfold expectedPattern at failed
    split at failed
    · next source =>
      split at failed
      · next marked =>
        split at failed
        · cases failed
        · next reason refused =>
          cases failed
          exact ⟨marked, source, reason, rfl, refused, rfl⟩
      · cases failed
    · cases failed
  · rintro ⟨marked, source, reason, rfl, refused, rfl⟩
    rw [expectedPattern, if_pos marked, refused]

/-- A lookup whose key can be read fails by its pattern alone. -/
theorem Lookup.condition_eq_error_iff {lookup : Lookup} {path : Path} {e : Failure}
    (target : lookup.key.target spelling registry = .ok (path, operator)) :
    lookup.condition spelling registry = .error e ↔
      expectedPattern registry operator lookup.expected = .error e := by
  rw [condition_of_target target, map_eq_error_iff]

/-! ### Conditions with a pattern -/

/-- A pattern of the condition is that of the text expected, and the operator searches for it. -/
def Condition.ReadAhead (registry : Registry) (condition : Condition) : Prop :=
  ∀ pattern, condition.pattern = some pattern → registry.hasPattern condition.operator = true ∧
    ∃ source, condition.expected = .string source ∧ PatternEngine.read source = .ok pattern

theorem Lookup.condition_readAhead {lookup : Lookup} {condition : Condition}
    (read : lookup.condition spelling registry = .ok condition) : condition.ReadAhead registry := by
  obtain ⟨-, ahead, expected⟩ := condition_eq_ok_iff.mp read
  intro pattern known
  rw [expected]
  exact expectedPattern_eq_some (known ▸ ahead)

namespace Condition
variable {condition : Condition} {comparator : Comparator} (ahead : condition.ReadAhead registry)
include ahead

/-- A pattern read ahead decides whatever comparator is asked, and as the search for the text expected does, also on
values that are no text. -/
theorem accepts_of_pattern {pattern : PatternEngine.Pattern} (known : condition.pattern = some pattern)
    (comparator : Comparator) (actual : Value) :
    condition.accepts comparator actual = actual.matchesPattern condition.expected := by
  obtain ⟨-, source, expected, parsed⟩ := ahead pattern known
  rw [accepts, known, expected]
  cases actual with
  | string text =>
    rw [Value.matchesPattern, parsed]
    rfl
  | null | bool | number | list | record => rfl

/-- Where the mark stands for the search alone, its comparator decides as the pattern read ahead of it. -/
theorem accepts_eq (reachable : registry.Reachable)
    (found : registry.comparator? condition.operator = some comparator) (actual : Value) :
    condition.accepts comparator actual = comparator actual condition.expected := by
  cases known : condition.pattern with
  | none => rw [accepts, known]
  | some pattern =>
    have search := reachable.comparator?_of_hasPattern (ahead pattern known).1
    cases found.symm.trans search
    exact accepts_of_pattern ahead known _ actual

theorem evaluate_eq (reachable : registry.Reachable)
    (found : registry.comparator? condition.operator = some comparator) (r : Record) :
    condition.evaluate registry r =
      (condition.path.resolve registry r).map fun actual => comparator actual condition.expected := by
  rw [evaluate, found]
  exact congrArg (fun answer => (condition.path.resolve registry r).map answer)
    (funext fun actual => accepts_eq ahead reachable found actual)

end Condition

/-- After any history of registrations, a condition that was read asks a record what the comparator of its operator
asks, of the value that its path leads to, or fails as its path does; a pattern that was read ahead makes no
difference. A lookup whose key can be read fails just where its operator is the search for a pattern that is built
in, no test having taken its place, and the engine refuses the text expected; and it fails for that reason. -/
theorem patterns_read_ahead_agree {start : Registry} (begun : start = .empty ∨ start = .standard)
    (history : List Registration) (spelling : Spelling) (lookup : Lookup) :
    let registry := start.after history
    (∀ condition comparator, lookup.condition spelling registry = .ok condition →
      registry.comparator? condition.operator = some comparator → ∀ r, condition.evaluate registry r =
        (condition.path.resolve registry r).map fun actual => comparator actual condition.expected) ∧
    ∀ path operator, lookup.key.target spelling registry = .ok (path, operator) → ∀ e,
      lookup.condition spelling registry = .error e ↔
        (start = .standard ∧ operator = "regex" ∧ ∀ holds, .test "regex" holds ∉ history) ∧
        ∃ source reason, lookup.expected = .string source ∧ PatternEngine.read source = .error reason ∧
          e = .invalidPattern reason := by
  intro registry
  have reachable : registry.Reachable := .after_start begun history
  refine ⟨fun condition comparator read found r => ?_, fun path operator target e => ?_⟩
  · exact Condition.evaluate_eq (Lookup.condition_readAhead read) reachable found r
  · rw [Lookup.condition_eq_error_iff target, expectedPattern_eq_error_iff,
      Registry.hasPattern_after_start begun history]

end

/-- The lookup of a pattern in a field. -/
def searchIn (source : String) : Lookup := ⟨.spelled "s__regex", .string source⟩

/-- The search gives way to a comparator that holds of all values. -/
def searchReplaced : List Registration := [.test "regex" fun _ _ => true]

theorem patterns_read_ahead_agree_searchIn :
    (∃ condition, (searchIn "b+").condition .standard .standard = .ok condition ∧
      condition.pattern.isSome = true ∧
      condition.evaluate .standard (.map 1 [("s", .string "abb")]) = .ok true ∧
      condition.evaluate .standard (.map 2 [("s", .ofNat 0)]) = .ok false) ∧
    (searchIn "(").condition .standard .standard = .error (.invalidPattern "(") ∧
    ∃ condition, (searchIn "(").condition .standard (Registry.standard.after searchReplaced) = .ok condition ∧
      condition.evaluate (Registry.standard.after searchReplaced) (.map 1 [("s", .ofNat 0)]) = .ok true := by
  refine ⟨?_, ?_, ?_⟩
  · obtain ⟨agree, -⟩ := patterns_read_ahead_agree (Or.inr rfl) [] .standard (searchIn "b+")
    refine ⟨_, rfl, by decide, (agree _ Value.matchesPattern rfl rfl _).trans ?_,
      (agree _ Value.matchesPattern rfl rfl _).trans rfl⟩
    decide
  · obtain ⟨-, fails⟩ := patterns_read_ahead_agree (Or.inr rfl) [] .standard (searchIn "(")
    refine (fails ⟨["s"], by decide, by decide⟩ "regex" rfl _).mpr ⟨⟨rfl, rfl, ?_⟩, "(", "(", rfl, rfl, rfl⟩
    exact fun holds => List.not_mem_nil
  · obtain ⟨agree, -⟩ := patterns_read_ahead_agree (Or.inr rfl) searchReplaced .standard (searchIn "(")
    exact ⟨⟨⟨["s"], by decide, by decide⟩, "regex", .string "(", none⟩, rfl,
      (agree _ (fun _ _ => true) rfl rfl _).trans rfl⟩

end RecordQuery
