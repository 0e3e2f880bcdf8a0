import RecordQuery.Proofs.Selection.Causes
import RecordQuery.Proofs.Spelling.RoundTrip

/-!
Empty segments of spelled keys. An empty segment is refused wherever it stands, except for one at the end that is
taken off with a comparator of the empty name: the path is all that is left to be looked at.
-/

namespace RecordQuery

section
variable {registry : Registry} {spelling : Spelling} {segments : List String}

/-! ### Keys that cannot be read -/

/-- A lookup fails by an empty segment of its key just where the key cannot be read for one. -/
theorem Lookup.condition_emptyPath_iff [PatternEngine] {lookup : Lookup} {text : String} :
    lookup.condition spelling registry = .error (.emptyPath text) ↔
      lookup.key.target spelling registry = .error (.emptyPath text) := by
  refine bind_eq_error_iff.trans (or_iff_left ?_)
  rintro ⟨⟨path, operator⟩, -, failed⟩
  rcases bind_eq_error_iff.mp failed with pattern | ⟨_, -, done⟩
  · obtain ⟨reason, same⟩ := expectedPattern_error pattern
    cases same
  · cases done

/-! ### Segments that are taken off -/

/-- An empty segment is taken off the segments: it is the last of several and the only one, and a comparator of the
empty name is known. -/
def Registry.TakesEmpty (registry : Registry) (segments : List String) : Prop :=
  registry.hasComparator "" = true ∧ ∃ front, front ≠ [] ∧ "" ∉ front ∧ segments = front ++ [""]

theorem Registry.TakesWhole.not_takesEmpty (whole : registry.TakesWhole segments) : ¬ registry.TakesEmpty segments := by
  rintro ⟨known, front, nonempty, -, rfl⟩
  rcases whole with one | unknown
  · have lengths := List.length_pos_of_ne_nil nonempty
    simp only [List.length_append, List.length_singleton] at one
    omega
  · cases known.symm.trans (unknown "" List.getLast?_concat)

/-- An empty segment is left among those of the path, unless it is taken off. -/
theorem empty_mem_splitOperator_iff : "" ∈ (splitOperator registry segments).1 ↔
    "" ∈ segments ∧ ¬ registry.TakesEmpty segments := by
  rcases splitOperator_cases registry segments with whole | ⟨front, last, nonempty, known, rfl⟩
  · rw [splitOperator_whole whole, and_iff_left whole.not_takesEmpty]
  · rw [splitOperator_concat nonempty known]
    constructor
    · refine fun mem => ⟨List.mem_append_left _ mem, ?_⟩
      rintro ⟨-, other, -, clean, same⟩
      obtain ⟨rfl, -⟩ := List.append_inj' same rfl
      exact clean mem
    · rintro ⟨mem, left⟩
      by_contra clean
      obtain rfl : "" = last := List.mem_singleton.mp ((List.mem_append.mp mem).resolve_left clean)
      exact left ⟨known, front, nonempty, clean, rfl⟩

theorem splitOperator_ne_nil (nonempty : segments ≠ []) : (splitOperator registry segments).1 ≠ [] := by
  rcases splitOperator_cases registry segments with whole | ⟨front, last, some, known, rfl⟩
  · rwa [splitOperator_whole whole]
  · rwa [splitOperator_concat some known]

/-- A spelled key is refused for its empty segments. -/
theorem LookupKey.target_spelled_refused_iff {key : String} :
    (spelled key).target spelling registry = .error (.emptyPath key) ↔
      "" ∈ spelling.split key ∧ ¬ registry.TakesEmpty (spelling.split key) := by
  rw [target_spelled_eq_error_iff, and_iff_left rfl, Path.ofSegments?_eq_none_iff,
    or_iff_right (splitOperator_ne_nil (spelling.split_ne_nil key)), empty_mem_splitOperator_iff]

end

/-- A lookup fails by an empty segment of its key just where the key has one, wherever it stands, that is not taken
off as an operator. Where one is taken off, what stands before it is the path, and the operator is the one of the
empty name. -/
theorem emptyPath_unless_taken [PatternEngine] (spelling : Spelling) (registry : Registry) (key : String)
    (expected : Value) :
    let outcome := (⟨.spelled key, expected⟩ : Lookup).condition spelling registry
    let taken := registry.TakesEmpty (spelling.split key)
    (outcome = .error (.emptyPath key) ↔ "" ∈ spelling.split key ∧ ¬ taken) ∧
    (taken → ∃ path : Path, path.segments ++ [""] = spelling.split key ∧
      outcome = (expectedPattern registry "" expected).map fun pattern => ⟨path, "", expected, pattern⟩) ∧
    ∀ condition, outcome = .ok condition → "" ∈ spelling.split key → taken ∧ condition.operator = "" := by
  intro outcome taken
  have refused : outcome = .error (.emptyPath key) ↔ "" ∈ spelling.split key ∧ ¬ taken :=
    Lookup.condition_emptyPath_iff.trans LookupKey.target_spelled_refused_iff
  have read : taken → ∃ path : Path, path.segments ++ [""] = spelling.split key ∧
      outcome = (expectedPattern registry "" expected).map fun pattern => ⟨path, "", expected, pattern⟩ := by
    rintro ⟨known, front, nonempty, clean, cut⟩
    let path : Path := ⟨front, nonempty, fun s mem same => clean (same ▸ mem)⟩
    refine ⟨path, cut.symm, Lookup.condition_of_target (LookupKey.target_spelled_eq_ok_iff.mpr ?_)⟩
    rw [cut]
    exact splitOperator_concat nonempty known
  refine ⟨refused, read, fun condition done mem => ?_⟩
  have here : taken := by
    by_contra left
    cases done.symm.trans (refused.mpr ⟨mem, left⟩)
  obtain ⟨path, -, same⟩ := read here
  obtain ⟨pattern, -, rfl⟩ := map_eq_ok_iff.mp (same.symm.trans done)
  exact ⟨here, rfl⟩

/-- The standard registry with a comparator of the empty name. -/
def emptyNamed : Registry := Registry.standard.withComparator "" Value.same

theorem emptyPath_unless_taken_doubled :
    (⟨.spelled "a__", .ofNat 0⟩ : Lookup).condition .standard .standard = .error (.emptyPath "a__") ∧
    (⟨.spelled "a____b", .ofNat 0⟩ : Lookup).condition .standard emptyNamed = .error (.emptyPath "a____b") ∧
    ∃ path : Path, path.segments ++ [""] = Spelling.standard.split "a__" ∧
      (⟨.spelled "a__", .ofNat 0⟩ : Lookup).condition .standard emptyNamed = .ok ⟨path, "", .ofNat 0, none⟩ := by
  obtain ⟨refused, -, -⟩ := emptyPath_unless_taken .standard .standard "a__" (.ofNat 0)
  obtain ⟨refusedInside, -, -⟩ := emptyPath_unless_taken .standard emptyNamed "a____b" (.ofNat 0)
  obtain ⟨-, read, -⟩ := emptyPath_unless_taken .standard emptyNamed "a__" (.ofNat 0)
  refine ⟨refused.mpr ⟨by decide, ?_⟩, refusedInside.mpr ⟨by decide, ?_⟩, read ?_⟩
  · rintro ⟨known, -⟩
    exact absurd known (by decide)
  · rintro ⟨-, front, -, -, same⟩
    have ends := congrArg List.getLast? same
    rw [List.getLast?_concat] at ends
    exact absurd ends (by decide)
  · exact ⟨rfl, ["a"], by decide, by decide, by decide⟩

/-- A key with an empty segment at its end is read, where a comparator of the empty name is known. -/
theorem condition_trailingEmpty : "" ∈ Spelling.standard.split "a__" ∧
    (⟨.spelled "a__", .ofNat 0⟩ : Lookup).condition .standard emptyNamed =
      .ok ⟨⟨["a"], by decide, by decide⟩, "", .ofNat 0, none⟩ :=
  ⟨by decide, rfl⟩

end RecordQuery
