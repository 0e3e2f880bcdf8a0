import RecordQuery.Lookup
import RecordQuery.Proofs.Traversal

/-!
How lookups are read, step by step: which operator is taken off the segments of a spelled key, the path and the
operator of a key, and the condition that is made of these and the value expected.
-/

namespace RecordQuery

section
variable {registry : Registry} {spelling : Spelling} {segments : List String} {text name last operator : String}
  {path : Path}

/-! ### Operators of segments -/

/-- No operator is taken off the segments: there is one only, or the last is the name of no comparator. -/
def Registry.TakesWhole (registry : Registry) (segments : List String) : Prop :=
  segments.length = 1 ∨ ∀ last, segments.getLast? = some last → registry.hasComparator last = false

theorem splitOperator_whole (whole : registry.TakesWhole segments) :
    splitOperator registry segments = (segments, defaultOperator) := by
  unfold splitOperator
  split
  · next last ends =>
    refine if_neg fun ⟨several, known⟩ => ?_
    rcases whole with one | unknown
    · omega
    · cases known.symm.trans (unknown last ends)
  · rfl

theorem splitOperator_concat (nonempty : segments ≠ []) (known : registry.hasComparator last = true) :
    splitOperator registry (segments ++ [last]) = (segments, last) := by
  have several : 1 < (segments ++ [last]).length := by
    simpa using List.length_pos_of_ne_nil nonempty
  simp only [splitOperator, List.getLast?_concat, List.dropLast_concat, if_pos (And.intro several known)]

/-- The segments make a path as a whole, or the last of several is their operator. -/
theorem splitOperator_cases (registry : Registry) (segments : List String) :
    registry.TakesWhole segments ∨
      ∃ front last, front ≠ [] ∧ registry.hasComparator last = true ∧ segments = front ++ [last] := by
  rcases List.eq_nil_or_concat segments with rfl | ⟨front, last, rfl⟩
  · exact Or.inl (Or.inr fun last ends => nomatch ends)
  · by_cases none : front = []
    · exact Or.inl (Or.inl (by rw [none]; rfl))
    · cases known : registry.hasComparator last with
      | true => exact Or.inr ⟨front, last, none, known, List.concat_eq_append⟩
      | false =>
        refine Or.inl (Or.inr fun other ends => ?_)
        rw [List.concat_eq_append, List.getLast?_concat] at ends
        exact Option.some.inj ends ▸ known

/-! ### Paths and operators of keys -/

theorem Path.ofSegments?_eq_none_iff : Path.ofSegments? segments = none ↔ segments = [] ∨ "" ∈ segments := by
  have clean : (∀ s ∈ segments, s ≠ "") ↔ "" ∉ segments :=
    ⟨fun each mem => each "" mem rfl, fun absent s mem same => absent (same ▸ mem)⟩
  unfold Path.ofSegments?
  split
  · next made => simp [made.1, clean.mp made.2]
  · next unmade =>
    rw [clean, not_and_or, not_not, not_not] at unmade
    simp [unmade]

theorem Path.parse_eq_ok_iff : Path.parse spelling text = .ok path ↔ path.segments = spelling.split text := by
  rw [← Path.ofSegments?_eq_some_iff, Path.parse]
  cases Path.ofSegments? (spelling.split text) <;> simp

theorem Path.parse_error {e : Failure} (failed : Path.parse spelling text = .error e) : e = .emptyPath text := by
  unfold Path.parse at failed
  split at failed
  · cases failed
  · cases failed
    rfl

namespace LookupKey

theorem target_spelled_eq_ok_iff : (spelled text).target spelling registry = .ok (path, operator) ↔
    splitOperator registry (spelling.split text) = (path.segments, operator) := by
  rw [target]
  cases splitOperator registry (spelling.split text) with | mk front taken
  dsimp only
  rw [Prod.mk.injEq, eq_comm (b := path.segments), ← Path.ofSegments?_eq_some_iff]
  cases Path.ofSegments? front <;> simp

theorem target_spelled_eq_error_iff {e : Failure} : (spelled text).target spelling registry = .error e ↔
    Path.ofSegments? (splitOperator registry (spelling.split text)).1 = none ∧ e = .emptyPath text := by
  rw [target]
  dsimp only
  cases Path.ofSegments? (splitOperator registry (spelling.split text)).1 <;> simp [eq_comm]

theorem target_explicit_eq_ok_iff : (explicit text name).target spelling registry = .ok (path, operator) ↔
    registry.hasComparator name = true ∧ operator = name ∧ path.segments = spelling.split text := by
  rw [← Path.parse_eq_ok_iff, target]
  cases registry.hasComparator name with
  | false => simp
  | true =>
    simp only [if_true, map_eq_ok_iff, Prod.mk.injEq, true_and]
    constructor
    · rintro ⟨_, parsed, rfl, rfl⟩
      exact ⟨rfl, parsed⟩
    · rintro ⟨rfl, parsed⟩
      exact ⟨path, parsed, rfl, rfl⟩

end LookupKey

/-! ### Conditions of lookups -/

namespace Lookup
variable [PatternEngine] {lookup : Lookup} {condition : Condition}

/-- Of a lookup whose key can be read, the pattern expected is left to be read. -/
theorem condition_of_target (target : lookup.key.target spelling registry = .ok (path, operator)) :
    lookup.condition spelling registry = (expectedPattern registry operator lookup.expected).map
      fun pattern => ⟨path, operator, lookup.expected, pattern⟩ := by
  rw [Lookup.condition, target]
  change (expectedPattern registry operator lookup.expected >>= _) = _
  cases expectedPattern registry operator lookup.expected <;> rfl

theorem condition_eq_ok_iff : lookup.condition spelling registry = .ok condition ↔
    lookup.key.target spelling registry = .ok (condition.path, condition.operator) ∧
      expectedPattern registry condition.operator lookup.expected = .ok condition.pattern ∧
      condition.expected = lookup.expected := by
  constructor
  · intro read
    obtain ⟨⟨path, operator⟩, target, read⟩ := bind_eq_ok_iff.mp read
    obtain ⟨pattern, ahead, read⟩ := bind_eq_ok_iff.mp read
    cases read
    exact ⟨target, ahead, rfl⟩
  · rintro ⟨target, ahead, expected⟩
    rw [condition_of_target target, ahead, ← expected]
    rfl

end Lookup

end

end RecordQuery
