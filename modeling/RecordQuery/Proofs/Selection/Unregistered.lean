import RecordQuery.Proofs.Selection.Conjunction

/-!
Operators that are not registered. An operator that is named, by itself or behind a path, is known when the lookup
has been read. The one that is meant where none is named is not looked up until a record is asked; so it is the
only one that a condition can lack, and where the registry lacks it every record fails.
-/

namespace RecordQuery

section
variable {registry : Registry} {spelling : Spelling}

/-! ### Reading -/

/-- The operator taken off the segments is known, or else nothing is taken off. -/
theorem splitOperator_known_or_default (segments : List String) :
    registry.hasComparator (splitOperator registry segments).2 = true ∨
      splitOperator registry segments = (segments, defaultOperator) := by
  rcases splitOperator_cases registry segments with whole | ⟨front, last, some, known, rfl⟩
  · exact Or.inr (splitOperator_whole whole)
  · rw [splitOperator_concat some known]
    exact Or.inl known

/-- The lookup names no operator: its key is a path as a whole. -/
def Lookup.Unnamed [PatternEngine] (spelling : Spelling) (lookup : Lookup) (condition : Condition) : Prop :=
  ∃ text, lookup.key = .spelled text ∧ condition.path.segments = spelling.split text

theorem LookupKey.target_known_or_default {key : LookupKey} {path : Path} {operator : String}
    (found : key.target spelling registry = .ok (path, operator)) :
    registry.hasComparator operator = true ∨
      operator = defaultOperator ∧ ∃ text, key = .spelled text ∧ path.segments = spelling.split text := by
  cases key with
  | explicit text name =>
    obtain ⟨known, rfl, -⟩ := target_explicit_eq_ok_iff.mp found
    exact Or.inl known
  | spelled text =>
    have taken := target_spelled_eq_ok_iff.mp found
    have either := @splitOperator_known_or_default registry (spelling.split text)
    rw [taken] at either
    refine either.imp_right fun whole => ?_
    obtain ⟨segments, meant⟩ := Prod.mk.inj whole
    exact ⟨meant, text, rfl, segments⟩

variable [PatternEngine] {lookup : Lookup} {condition : Condition}

theorem Lookup.condition_known_or_default (read : lookup.condition spelling registry = .ok condition) :
    registry.hasComparator condition.operator = true ∨
      condition.operator = defaultOperator ∧ lookup.Unnamed spelling condition :=
  LookupKey.target_known_or_default (condition_eq_ok_iff.mp read).1

/-! ### Evaluation -/

theorem Condition.evaluate_of_unknown (unknown : registry.hasComparator condition.operator = false) (r : Record) :
    condition.evaluate registry r = .error (.unknownOperator condition.operator) := by
  have none : registry.comparator? condition.operator = none :=
    Option.isNone_iff_eq_none.mp (Option.isSome_eq_false_iff.mp unknown)
  rw [evaluate, none]

/-- No record fails by an unknown operator just where the operator is known. -/
theorem Condition.never_unknown_iff :
    (∀ r name, condition.evaluate registry r ≠ .error (.unknownOperator name)) ↔
      registry.hasComparator condition.operator = true := by
  constructor
  · intro never
    by_contra unknown
    exact never (.map 0 []) _ (evaluate_of_unknown (Bool.eq_false_of_not_eq_true unknown) _)
  · intro known r name failed
    obtain ⟨segment, -, same⟩ := unresolved_of_evaluate_error known failed
    cases same

end

/-- Of each lookup that has been read, the operator is known to the registry and no record fails by an unknown one;
or the lookup names none, the registry does not know the one that is meant then, and all records fail by it. So
none fails by an unknown operator just where the default is known or no condition asks for it. -/
theorem known_unless_default_missing [PatternEngine] {registry : Registry} {spelling : Spelling} {lookups : List Lookup}
    {conditions : List Condition} (read : conditionsOf spelling registry lookups = .ok conditions) :
    List.Forall₂ (fun lookup condition =>
      (registry.hasComparator condition.operator = true ∧
        ∀ r name, condition.evaluate registry r ≠ .error (.unknownOperator name)) ∨
      (registry.hasComparator defaultOperator = false ∧ condition.operator = defaultOperator ∧
        lookup.Unnamed spelling condition ∧
        ∀ r, condition.evaluate registry r = .error (.unknownOperator defaultOperator))) lookups conditions ∧
    ((∀ condition ∈ conditions, ∀ r name, condition.evaluate registry r ≠ .error (.unknownOperator name)) ↔
      registry.hasComparator defaultOperator = true ∨
        ∀ condition ∈ conditions, condition.operator ≠ defaultOperator) := by
  constructor
  · refine (conditionsOf_eq_ok_iff.mp read).imp fun lookup condition read => ?_
    cases known : registry.hasComparator condition.operator with
    | true => exact Or.inl ⟨rfl, Condition.never_unknown_iff.mpr known⟩
    | false =>
      obtain ⟨meant, unnamed⟩ := (Lookup.condition_known_or_default read).resolve_left (by simp [known])
      refine Or.inr ⟨meant ▸ known, meant, unnamed, fun r => ?_⟩
      exact (Condition.evaluate_of_unknown known r).trans (by rw [meant])
  · simp only [Condition.never_unknown_iff]
    constructor
    · intro known
      by_cases default : registry.hasComparator defaultOperator = true
      · exact Or.inl default
      · exact Or.inr fun condition mem meant => default (meant ▸ known condition mem)
    · intro either condition mem
      obtain ⟨lookup, -, read⟩ := exists_lookup_of_mem read mem
      rcases Lookup.condition_known_or_default read with known | ⟨meant, -⟩
      · exact known
      · exact meant ▸ either.resolve_right fun none => none condition mem meant

/-- A registry that knows one operator, which is not the one meant where none is named. -/
def onlySame : Registry := Registry.empty.withComparator "same" Value.same

theorem known_unless_default_missing_onlySame :
    ∃ conditions, conditionsOf .standard onlySame [⟨.spelled "n__same", .ofNat 0⟩] = .ok conditions ∧
      ∀ condition ∈ conditions, ∀ r name, condition.evaluate onlySame r ≠ .error (.unknownOperator name) := by
  have read : conditionsOf .standard onlySame [⟨.spelled "n__same", .ofNat 0⟩] =
      .ok [⟨⟨["n"], by decide, by decide⟩, "same", .ofNat 0, none⟩] := rfl
  obtain ⟨-, never⟩ := known_unless_default_missing read
  refine ⟨_, read, never.mpr (Or.inr ?_)⟩
  rw [List.forall_mem_singleton]
  decide

/-- A lookup that names no operator is read under the empty registry, and fails on the record that it is for. -/
theorem evaluate_default_missing :
    ∃ condition, conditionsOf .standard .empty [⟨.spelled "n", .ofNat 0⟩] = .ok [condition] ∧
      Registry.empty.hasComparator condition.operator = false ∧
      condition.evaluate .empty (.map 1 [("n", .ofNat 0)]) = .error (.unknownOperator "exact") :=
  ⟨⟨⟨["n"], by decide, by decide⟩, "exact", .ofNat 0, none⟩, rfl, rfl, rfl⟩

end RecordQuery
