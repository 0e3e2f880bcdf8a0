import RecordQuery.Proofs.Selection.ReadAhead
import RecordQuery.Proofs.Spelling.RoundTrip

/-!
Spelled keys and explicit ones. A key with its operator behind the path is read as the path and the operator by
themselves, as long as the key is split where it was joined; and a key that spells no operator is read as one with
the operator meant then. So a path is reached by a spelled key unless its last segment would be taken for the
operator, and cannot stand in front of another one.
-/

namespace RecordQuery

/-- Lookups under the key go to the path: whatever they expect, they are read as conditions on it, or fail by the
pattern expected. -/
def LookupKey.Reaches [PatternEngine] (spelling : Spelling) (registry : Registry) (key : LookupKey)
    (path : Path) : Prop :=
  ∃ operator, ∀ expected, (⟨key, expected⟩ : Lookup).condition spelling registry =
    (expectedPattern registry operator expected).map fun pattern => ⟨path, operator, expected, pattern⟩

section
variable {registry : Registry} {spelling : Spelling} {segments : List String} {key operator : String} {path : Path}

theorem LookupKey.reaches_of_target [PatternEngine] {key : LookupKey}
    (target : key.target spelling registry = .ok (path, operator)) :
    key.Reaches spelling registry path :=
  ⟨operator, fun _ => Lookup.condition_of_target target⟩

/-- A lookup whose key can be read is read, or its pattern cannot be. -/
theorem Lookup.condition_cases [PatternEngine] {lookup : Lookup}
    (target : lookup.key.target spelling registry = .ok (path, operator)) :
    (∃ pattern, lookup.condition spelling registry = .ok ⟨path, operator, lookup.expected, pattern⟩) ∨
      ∃ source reason, lookup.expected = .string source ∧ PatternEngine.read source = .error reason ∧
        lookup.condition spelling registry = .error (.invalidPattern reason) := by
  rw [condition_of_target target]
  cases read : expectedPattern registry operator lookup.expected with
  | ok pattern => exact Or.inl ⟨pattern, rfl⟩
  | error e =>
    obtain ⟨-, source, reason, text, refused, rfl⟩ := expectedPattern_eq_error_iff.mp read
    exact Or.inr ⟨source, reason, text, refused, rfl⟩

/-- A key from which nothing is taken off is read as a path with the default operator beside it. -/
theorem LookupKey.target_spelled_whole (whole : registry.TakesWhole (spelling.split key))
    (known : registry.hasComparator defaultOperator = true) :
    (spelled key).target spelling registry = (explicit key defaultOperator).target spelling registry := by
  rw [target, target, splitOperator_whole whole, if_pos known, Path.parse]
  dsimp only
  cases Path.ofSegments? (spelling.split key) <;> rfl

theorem LookupKey.target_joined (clean : path.segments = segments) (known : registry.hasComparator operator = true)
    (cut : spelling.split (spelling.join (segments ++ [operator])) = segments ++ [operator]) :
    (spelled (spelling.join (segments ++ [operator]))).target spelling registry = .ok (path, operator) := by
  rw [target_spelled_eq_ok_iff, cut, clean]
  exact splitOperator_concat (clean ▸ path.nonempty) known

/-! ### Paths that are reached -/

variable [PatternEngine]

theorem exists_spelled_reaches (spelled : spelling.split (spelling.join path.segments) = path.segments)
    (either : registry.TakesWhole path.segments ∨ spelling.CanPrecede (path.segments.getLast path.nonempty)) :
    ∃ key, (LookupKey.spelled key).Reaches spelling registry path := by
  by_cases whole : registry.TakesWhole path.segments
  · have target : (LookupKey.spelled (spelling.join path.segments)).target spelling registry =
        .ok (path, defaultOperator) :=
      LookupKey.target_spelled_eq_ok_iff.mpr (by rw [spelled, splitOperator_whole whole])
    exact ⟨_, LookupKey.reaches_of_target target⟩
  · -- The last segment, which is the name of a comparator, is put behind the path once more as the operator.
    obtain ⟨front, last, some, known, same⟩ := (splitOperator_cases registry path.segments).resolve_left whole
    have cut := spelled.trans same
    have nonempty := Spelling.delimiter_nonempty some cut
    have can : spelling.CanPrecede last := by
      simpa only [same, List.getLast_concat] using either.resolve_left whole
    have joined : spelling.split (spelling.join (path.segments ++ [last])) = path.segments ++ [last] := by
      refine (Spelling.split_join_concat_iff nonempty).mpr ⟨can.not_contains nonempty, fun segment mem => ?_⟩
      rcases List.mem_append.mp (same ▸ mem) with mem | mem
      · exact Spelling.canPrecede_of_split cut mem
      · exact List.mem_singleton.mp mem ▸ can
    exact ⟨_, LookupKey.reaches_of_target (LookupKey.target_joined rfl known joined)⟩

/-- A path that a spelled key is read as either makes a key as a whole, or its last segment stands in front of the
operator. -/
theorem takesWhole_or_canPrecede {expected : Value} {condition : Condition}
    (read : (⟨.spelled key, expected⟩ : Lookup).condition spelling registry = .ok condition) :
    registry.TakesWhole condition.path.segments ∨
      spelling.CanPrecede (condition.path.segments.getLast condition.path.nonempty) := by
  have taken := LookupKey.target_spelled_eq_ok_iff.mp (Lookup.condition_eq_ok_iff.mp read).1
  rcases splitOperator_cases registry (spelling.split key) with whole | ⟨front, last, some, known, cut⟩
  · rw [splitOperator_whole whole] at taken
    exact Or.inl ((Prod.mk.inj taken).1 ▸ whole)
  · rw [cut, splitOperator_concat some known] at taken
    obtain ⟨segments, -⟩ := Prod.mk.inj taken
    refine Or.inr (Spelling.canPrecede_of_split cut ?_)
    rw [segments]
    exact List.getLast_mem _

end

/-- A key with its operator behind the path is read as the path and the operator by themselves, if it is split where
it was joined: as a condition with just these, or not at all for the pattern expected. A key that spells no operator
is read as one with the default operator beside it. And of the paths that can be spelled, those are reached by a
spelled key that make one as a whole, or whose last segment can stand in front of an operator; no others are. -/
theorem spelled_explicit_agree [PatternEngine] (spelling : Spelling) (registry : Registry) :
    (∀ segments operator expected, segments ≠ [] → "" ∉ segments → registry.hasComparator operator = true →
      spelling.split (spelling.join (segments ++ [operator])) = segments ++ [operator] →
      ∃ path : Path, path.segments = segments ∧
        let outcome :=
          (⟨.spelled (spelling.join (segments ++ [operator])), expected⟩ : Lookup).condition spelling registry
        outcome = (⟨.explicit (spelling.join segments) operator, expected⟩ : Lookup).condition spelling registry ∧
        ((∃ pattern, outcome = .ok ⟨path, operator, expected, pattern⟩) ∨
          ∃ source reason, expected = .string source ∧ PatternEngine.read source = .error reason ∧
            outcome = .error (.invalidPattern reason))) ∧
    (∀ key expected, registry.TakesWhole (spelling.split key) → registry.hasComparator defaultOperator = true →
      (⟨.spelled key, expected⟩ : Lookup).condition spelling registry =
        (⟨.explicit key defaultOperator, expected⟩ : Lookup).condition spelling registry) ∧
    ∀ path : Path, spelling.split (spelling.join path.segments) = path.segments →
      let reachable := registry.TakesWhole path.segments ∨ spelling.CanPrecede (path.segments.getLast path.nonempty)
      (reachable → ∃ key, (LookupKey.spelled key).Reaches spelling registry path) ∧
      ∀ key expected condition, (⟨.spelled key, expected⟩ : Lookup).condition spelling registry = .ok condition →
        condition.path = path → reachable := by
  refine ⟨fun segments operator expected some clean known cut => ?_, fun key expected whole known => ?_,
    fun path spelled => ⟨exists_spelled_reaches spelled, ?_⟩⟩
  · let path : Path := ⟨segments, some, fun s mem same => clean (same ▸ mem)⟩
    have joined : (LookupKey.spelled (spelling.join (segments ++ [operator]))).target spelling registry =
        .ok (path, operator) := LookupKey.target_joined rfl known cut
    have beside : (LookupKey.explicit (spelling.join segments) operator).target spelling registry =
        .ok (path, operator) :=
      LookupKey.target_explicit_eq_ok_iff.mpr ⟨known, rfl, (Spelling.split_join_of_concat some cut).symm⟩
    refine ⟨path, rfl, ?_, Lookup.condition_cases joined⟩
    rw [Lookup.condition, Lookup.condition, joined, beside]
  · rw [Lookup.condition, Lookup.condition, LookupKey.target_spelled_whole whole known]
  · rintro key expected condition read rfl
    exact takesWhole_or_canPrecede read

theorem spelled_explicit_agree_length :
    (⟨.spelled "tags__len__exact", .ofNat 2⟩ : Lookup).condition .standard .standard =
      (⟨.explicit "tags__len" "exact", .ofNat 2⟩ : Lookup).condition .standard .standard ∧
    (⟨.spelled "tags__max", .ofNat 2⟩ : Lookup).condition .standard .standard =
      (⟨.explicit "tags__max" "exact", .ofNat 2⟩ : Lookup).condition .standard .standard ∧
    ∃ key, (LookupKey.spelled key).Reaches .standard .standard ⟨["tags", "len"], by decide, by decide⟩ := by
  obtain ⟨joined, whole, reached⟩ := spelled_explicit_agree .standard .standard
  refine ⟨?_, whole "tags__max" (.ofNat 2) (Or.inr fun last ends => ?_) (by decide), ?_⟩
  · obtain ⟨-, -, same, -⟩ := joined ["tags", "len"] "exact" (.ofNat 2) (by decide) (by decide) (by decide) (by decide)
    exact same
  · cases ends
    decide
  · exact (reached ⟨["tags", "len"], by decide, by decide⟩ (by decide)).1 (Or.inr (by decide))

/-- The standard registry with a comparator whose name ends as the standard delimiter begins. -/
def lowLineNamed : Registry := Registry.standard.withComparator "in_" Value.same

/-- A path that the standard spelling has, and that is reached by no key: its last segment is taken for the operator,
or loses its low line to the delimiter behind it. -/
theorem lowLineNamed_unreached :
    Spelling.standard.split (Spelling.standard.join ["tags", "in_"]) = ["tags", "in_"] ∧
    lowLineNamed.hasComparator defaultOperator = true ∧
    ∀ key expected condition, (⟨.spelled key, expected⟩ : Lookup).condition .standard lowLineNamed = .ok condition →
      condition.path.segments ≠ ["tags", "in_"] := by
  refine ⟨by decide, by decide, fun key expected condition read same => ?_⟩
  rcases takesWhole_or_canPrecede read with whole | can
  · rw [same] at whole
    rcases whole with one | unknown
    · exact absurd one (by decide)
    · exact absurd (unknown "in_" rfl) (by decide)
  · simp only [same] at can
    change Spelling.standard.CanPrecede "in_" at can
    exact absurd can (by decide)

end RecordQuery
