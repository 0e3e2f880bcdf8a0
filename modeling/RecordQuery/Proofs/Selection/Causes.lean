import RecordQuery.Proofs.Selection.Matches
import RecordQuery.Proofs.Selection.ReadAhead

/-!
The causes for which queries by lookups fail. Lookups that have been read name operators that are known,
whatever has been registered, so that a record can fail a condition by a path only, and this counts as a
condition not met. All that is left are lookups that cannot be read, and the number of matches where one
is wanted.
-/

namespace RecordQuery

/-- The failure is by the number of matches, of which one is wanted. -/
def Failure.byNumber : Failure → Bool
  | .noMatch => true
  | .manyMatches _ => true
  | _ => false

/-! ### Lookups that cannot be read -/

section
variable {registry : Registry} {spelling : Spelling}

theorem LookupKey.target_error {key : LookupKey} {e : Failure} (failed : key.target spelling registry = .error e) :
    (∃ text, e = .emptyPath text) ∨ ∃ name, e = .unknownOperator name := by
  cases key with
  | spelled text => exact Or.inl ⟨text, (target_spelled_eq_error_iff.mp failed).2⟩
  | explicit text name =>
    unfold target at failed
    dsimp only at failed
    split at failed
    · exact Or.inl ⟨text, Path.parse_error (map_eq_error_iff.mp failed)⟩
    · cases failed
      exact Or.inr ⟨name, rfl⟩

variable [PatternEngine]

theorem expectedPattern_error {operator : String} {expected : Value} {e : Failure}
    (failed : expectedPattern registry operator expected = .error e) : ∃ reason, e = .invalidPattern reason := by
  obtain ⟨-, -, reason, -, -, rfl⟩ := expectedPattern_eq_error_iff.mp failed
  exact ⟨reason, rfl⟩

/-- A lookup that cannot be read fails by its key, by its operator or by its pattern. -/
theorem Lookup.condition_error {lookup : Lookup} {e : Failure}
    (failed : lookup.condition spelling registry = .error e) :
    (∃ text, e = .emptyPath text) ∨ (∃ name, e = .unknownOperator name) ∨ ∃ reason, e = .invalidPattern reason := by
  rcases bind_eq_error_iff.mp failed with target | ⟨⟨path, operator⟩, -, failed⟩
  · rcases LookupKey.target_error target with empty | unknown
    · exact Or.inl empty
    · exact Or.inr (Or.inl unknown)
  · rcases bind_eq_error_iff.mp failed with pattern | ⟨_, -, done⟩
    · exact Or.inr (Or.inr (expectedPattern_error pattern))
    · cases done

theorem exists_condition_error {lookups : List Lookup} {e : Failure}
    (failed : conditionsOf spelling registry lookups = .error e) :
    ∃ lookup ∈ lookups, lookup.condition spelling registry = .error e := by
  induction lookups with
  | nil => cases failed
  | cons lookup lookups ih =>
    rcases bind_eq_error_iff.mp failed with head | ⟨_, -, failed⟩
    · exact ⟨lookup, List.mem_cons_self, head⟩
    · rcases bind_eq_error_iff.mp failed with tail | ⟨_, -, done⟩
      · obtain ⟨later, mem, cause⟩ := ih tail
        exact ⟨later, List.mem_cons_of_mem _ mem, cause⟩
      · cases done

theorem not_byNumber_of_unread {lookups : List Lookup} {e : Failure}
    (failed : conditionsOf spelling registry lookups = .error e) : e.byNumber = false := by
  obtain ⟨lookup, -, cause⟩ := exists_condition_error failed
  rcases Lookup.condition_error cause with ⟨_, rfl⟩ | ⟨_, rfl⟩ | ⟨_, rfl⟩ <;> rfl

end

/-! ### Queries -/

namespace RecordList

theorem byNumber_of_soleOf {records : List Record} {e : Failure} (failed : soleOf records = .error e) :
    e.byNumber = true := by
  rcases records with _ | ⟨r, _ | ⟨s, records⟩⟩
  · cases failed
    rfl
  · cases failed
  · cases failed
    rfl

section
variable [PatternEngine] {registry : Registry} {list : RecordList} {lookups : List Lookup} {e : Failure}

/-- A query that fails as its lookups do and else has a result fails just where they do. -/
theorem eq_error_iff_of_read {α : Type} {query : Except Failure α}
    (unread : ∀ {e}, conditionsOf list.spelling registry lookups = .error e → query = .error e)
    (answered : ∀ conditions, conditionsOf list.spelling registry lookups = .ok conditions →
      ∃ answer, query = .ok answer) :
    query = .error e ↔ conditionsOf list.spelling registry lookups = .error e := by
  refine ⟨fun failed => ?_, unread⟩
  cases read : conditionsOf list.spelling registry lookups with
  | error cause =>
    cases failed.symm.trans (unread read)
    rfl
  | ok conditions =>
    obtain ⟨answer, done⟩ := answered conditions read
    cases failed.symm.trans done

variable (default : registry.hasComparator defaultOperator)
include default

theorem keeping_eq_error_iff (keep : Bool) :
    list.keeping registry lookups keep = .error e ↔ conditionsOf list.spelling registry lookups = .error e :=
  eq_error_iff_of_read (keeping_eq_error · keep) fun _ read => ⟨_, keeping_eq_ok default read keep⟩

theorem any_eq_error_iff :
    list.any registry lookups = .error e ↔ conditionsOf list.spelling registry lookups = .error e :=
  eq_error_iff_of_read any_eq_error_of_unread fun _ read =>
    ⟨_, any_eq_ok read fun r _ => meetsAll_eq_ok (conditionsOf_known default read) r⟩

theorem single_eq_error_iff : list.single registry lookups = .error e ∧ e.byNumber = false ↔
    conditionsOf list.spelling registry lookups = .error e := by
  cases read : conditionsOf list.spelling registry lookups with
  | error cause =>
    rw [single_eq_error_of_unread read, Except.error.injEq, Except.error.injEq]
    refine and_iff_left_of_imp ?_
    rintro rfl
    exact not_byNumber_of_unread read
  | ok conditions =>
    rw [single_eq_soleOf read fun r _ => meetsAll_eq_ok (conditionsOf_known default read) r]
    simp only [reduceCtorEq, iff_false]
    rintro ⟨failed, apart⟩
    rw [byNumber_of_soleOf failed] at apart
    cases apart

end

/-- Under every registry that registrations can lead to, a query fails just when its lookups cannot be
read, and with that cause, whatever the list; apart from that only the number of matches can be wrong.
The conditions that are read answer for every record: they fail by a path that leads nowhere, if at all,
and that is absorbed. -/
theorem fails_iff_unread [PatternEngine] (history : List Registration) (spelling : Spelling) (lookups : List Lookup) :
    let registry := Registry.standard.after history
    (∀ (records : List Record) (e : Failure),
      let list : RecordList := { records, spelling }
      let unread := conditionsOf spelling registry lookups = .error e
      (list.filter registry lookups = .error e ↔ unread) ∧
      (list.exclude registry lookups = .error e ↔ unread) ∧
      (list.any registry lookups = .error e ↔ unread) ∧
      (list.single registry lookups = .error e ∧ e.byNumber = false ↔ unread)) ∧
    ∀ conditions, conditionsOf spelling registry lookups = .ok conditions → ∀ r : Record,
      (∃ answer, meetsAll registry r conditions = .ok answer) ∧
      ∀ condition ∈ conditions, ∀ e, condition.evaluate registry r = .error e →
        ∃ segment ∈ condition.path.segments, e = .unresolved condition.path.text segment := by
  intro registry
  have default : registry.hasComparator defaultOperator := Registry.hasComparator_default history
  constructor
  · intro records e list unread
    exact ⟨keeping_eq_error_iff default true, keeping_eq_error_iff default false, any_eq_error_iff default,
      single_eq_error_iff default⟩
  · intro conditions read r
    have known := conditionsOf_known default read
    refine ⟨⟨_, meetsAll_eq_ok known r⟩, fun condition mem e failed => ?_⟩
    exact Condition.unresolved_of_evaluate_error (known condition mem) failed

theorem fails_iff_unread_oneField : ∃ segment ∈ ["n"],
    Condition.evaluate (Registry.standard.after [anyTest]) ⟨⟨["n"], by decide, by decide⟩, "exact", .ofNat 0, none⟩
      (.map 2 [("m", .ofNat 2)]) = .error (.unresolved "n" segment) := by
  obtain ⟨-, conditionsAnswer⟩ := fails_iff_unread [anyTest] .standard anyZero
  obtain ⟨-, each⟩ := conditionsAnswer _ conditionsOf_anyZero (.map 2 [("m", .ofNat 2)])
  obtain ⟨segment, mem, same⟩ := each _ (List.mem_cons_of_mem _ List.mem_cons_self) _ rfl
  exact ⟨segment, mem, congrArg Except.error same⟩

end RecordList

end RecordQuery
