import RecordQuery.Proofs.Lookup.Target
import RecordQuery.Proofs.Registry.History
import RecordQuery.RecordList

/-!
The selection of records by conditions. Conditions that have been read name operators that are known,
and so each of them is met by a record or is not: no selection depends on its records to succeed.
-/

namespace RecordQuery

/-! ### Operators of conditions -/

section
variable {registry : Registry} {spelling : Spelling}

theorem splitOperator_known (default : registry.hasComparator defaultOperator) (segments : List String) :
    registry.hasComparator (splitOperator registry segments).2 := by
  rcases splitOperator_cases registry segments with whole | ⟨front, last, some, known, rfl⟩
  · rwa [splitOperator_whole whole]
  · rwa [splitOperator_concat some known]

theorem LookupKey.target_known (default : registry.hasComparator defaultOperator) {key : LookupKey}
    {path : Path} {operator : String} (found : key.target spelling registry = .ok (path, operator)) :
    registry.hasComparator operator := by
  cases key with
  | spelled text =>
    have known := splitOperator_known default (spelling.split text)
    rwa [target_spelled_eq_ok_iff.mp found] at known
  | explicit text name =>
    obtain ⟨known, rfl, -⟩ := target_explicit_eq_ok_iff.mp found
    exact known

variable [PatternEngine]

theorem Lookup.condition_known (default : registry.hasComparator defaultOperator) {lookup : Lookup}
    {condition : Condition} (read : lookup.condition spelling registry = .ok condition) :
    registry.hasComparator condition.operator :=
  LookupKey.target_known default (condition_eq_ok_iff.mp read).1

/-- Conditions that have been read name operators that are known. -/
theorem conditionsOf_known (default : registry.hasComparator defaultOperator) {lookups : List Lookup}
    {conditions : List Condition} (read : conditionsOf spelling registry lookups = .ok conditions) :
    ∀ condition ∈ conditions, registry.hasComparator condition.operator := by
  induction lookups generalizing conditions with
  | nil =>
    cases read
    exact fun condition hc => nomatch hc
  | cons lookup lookups ih =>
    obtain ⟨condition, head, read⟩ := bind_eq_ok_iff.mp read
    obtain ⟨conditions, tail, read⟩ := bind_eq_ok_iff.mp read
    cases read
    exact List.forall_mem_cons.mpr ⟨Lookup.condition_known default head, ih tail⟩

end

/-! ### Evaluation -/

section
variable [PatternEngine]

/-- The record meets the condition: its path resolves, to a value as expected. -/
def Condition.met (registry : Registry) (r : Record) (condition : Condition) : Bool :=
  match condition.evaluate registry r with
  | .ok answer => answer
  | .error _ => false

variable {registry : Registry} {conditions : List Condition}

/-- A condition whose operator is known fails on a record by its path alone. -/
theorem Condition.unresolved_of_evaluate_error {condition : Condition} {r : Record} {e : Failure}
    (known : registry.hasComparator condition.operator) (failed : condition.evaluate registry r = .error e) :
    ∃ segment ∈ condition.path.segments, e = .unresolved condition.path.text segment := by
  obtain ⟨comparator, found⟩ := Option.isSome_iff_exists.mp known
  rw [evaluate, found] at failed
  exact Path.exists_segment_of_resolve_error (map_eq_error_iff.mp failed)

theorem meetsAll_eq_ok (known : ∀ condition ∈ conditions, registry.hasComparator condition.operator)
    (r : Record) : meetsAll registry r conditions = .ok (conditions.all (·.met registry r)) := by
  induction conditions with
  | nil => rfl
  | cons condition conditions ih =>
    obtain ⟨head, tail⟩ := List.forall_mem_cons.mp known
    rw [meetsAll, List.all_cons, Condition.met]
    cases answer : condition.evaluate registry r with
    | ok met =>
      cases met with
      | true => exact ih tail
      | false => rfl
    | error e =>
      obtain ⟨segment, -, rfl⟩ := Condition.unresolved_of_evaluate_error head answer
      rfl

/-- A selection by lookups that have been read asks each record and keeps those with the answer wanted. -/
theorem RecordList.keeping_eq_filterM {list : RecordList} {lookups : List Lookup}
    (read : conditionsOf list.spelling registry lookups = .ok conditions) (keep : Bool) :
    list.keeping registry lookups keep =
      (list.records.filterM fun r => (meetsAll registry r conditions).map (· == keep)).map
        fun chosen => { list with records := chosen } := by
  rw [keeping, read]
  exact bind_pure_comp (m := Except Failure) (fun chosen => { list with records := chosen }) _

theorem RecordList.keeping_of_answers {list : RecordList} {lookups : List Lookup} {p : Record → Bool}
    (read : conditionsOf list.spelling registry lookups = .ok conditions)
    (each : ∀ r ∈ list.records, meetsAll registry r conditions = .ok (p r)) (keep : Bool) :
    list.keeping registry lookups keep =
      .ok { list with records := list.records.filter fun r => p r == keep } := by
  have chosen : list.records.filterM (fun r => (meetsAll registry r conditions).map (· == keep)) =
      .ok (list.records.filter fun r => p r == keep) :=
    filterM_ok fun r hr => by rw [each r hr]; rfl
  rw [keeping_eq_filterM read, chosen]
  rfl

/-- A selection succeeds when its lookups can be read, and keeps or drops the records that meet them. -/
theorem RecordList.keeping_eq_ok {list : RecordList} {lookups : List Lookup}
    (default : registry.hasComparator defaultOperator)
    (read : conditionsOf list.spelling registry lookups = .ok conditions) (keep : Bool) :
    list.keeping registry lookups keep =
      .ok { list with records := list.records.filter fun r => conditions.all (·.met registry r) == keep } :=
  keeping_of_answers read (fun r _ => meetsAll_eq_ok (conditionsOf_known default read) r) keep

end

end RecordQuery
