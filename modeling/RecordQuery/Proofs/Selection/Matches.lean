import RecordQuery.Proofs.Selection.Partition

/-!
The three queries that look for matches. One collects them, one counts them and keeps the first, and
one stops at the first. They agree on every list and under every registry, failures included: where one
record meets all conditions their operators are known, and so none is passed over that would have failed.
-/

namespace RecordQuery

section
variable [PatternEngine] {registry : Registry} {conditions : List Condition} {r : Record}

theorem Condition.known_of_evaluate {condition : Condition} {answer : Bool}
    (evaluated : condition.evaluate registry r = .ok answer) :
    registry.hasComparator condition.operator := by
  unfold Condition.evaluate at evaluated
  unfold Registry.hasComparator
  cases found : registry.comparator? condition.operator with
  | none =>
    rw [found] at evaluated
    cases evaluated
  | some comparator => rfl

theorem known_of_meetsAll (met : meetsAll registry r conditions = .ok true) :
    ∀ condition ∈ conditions, registry.hasComparator condition.operator := by
  induction conditions with
  | nil =>
    intro condition hc
    cases hc
  | cons condition conditions ih =>
    rw [meetsAll] at met
    split at met
    · next evaluated => exact List.forall_mem_cons.mpr ⟨Condition.known_of_evaluate evaluated, ih met⟩
    all_goals cases met

/-- Conditions that some record meets can be asked of every record. -/
theorem exists_meetsAll_ok (met : meetsAll registry r conditions = .ok true) (s : Record) :
    ∃ answer, meetsAll registry s conditions = .ok answer :=
  ⟨_, meetsAll_eq_ok (known_of_meetsAll met) s⟩

/-- All records answer, or there is a first one that does not, and none in front of it matches. -/
theorem meetsAll_cases (registry : Registry) (conditions : List Condition) (records : List Record) :
    (∃ p : Record → Bool, ∀ r ∈ records, meetsAll registry r conditions = .ok (p r)) ∨
    ∃ before r after e, records = before ++ r :: after ∧
      (∀ s ∈ before, meetsAll registry s conditions = .ok false) ∧ meetsAll registry r conditions = .error e := by
  by_cases answers : ∀ r ∈ records, ∃ answer, meetsAll registry r conditions = .ok answer
  · left
    refine ⟨fun r => (meetsAll registry r conditions).toOption.getD false, fun r hr => ?_⟩
    obtain ⟨answer, same⟩ := answers r hr
    simp only [same, Except.toOption, Option.getD_some]
  · right
    obtain ⟨before, r, after, e, split, clear, failed, -⟩ := mapM_first_error answers
    refine ⟨before, r, after, e, split, fun s hs => ?_, failed⟩
    obtain ⟨answer, same⟩ := clear s hs
    cases answer with
    | false => exact same
    | true =>
      obtain ⟨_, answered⟩ := exists_meetsAll_ok same r
      rw [failed] at answered
      cases answered

end

namespace RecordList

/-! ### The loops -/

section
variable [PatternEngine] {registry : Registry} {conditions : List Condition} {p : Record → Bool} {e : Failure}
  {r : Record} {records before after : List Record}

/-- A loop that goes on after a record that does not match goes on after any number of them. -/
theorem skip_clear {β : Type} {f : List Record → β}
    (step : ∀ s rest, meetsAll registry s conditions = .ok false → f (s :: rest) = f rest)
    (clear : ∀ s ∈ before, meetsAll registry s conditions = .ok false) (rest : List Record) :
    f (before ++ rest) = f rest := by
  induction before with
  | nil => rfl
  | cons s before ih =>
    obtain ⟨head, tail⟩ := List.forall_mem_cons.mp clear
    exact (step s (before ++ rest) head).trans (ih tail)

theorem countMatches_ok (each : ∀ r ∈ records, meetsAll registry r conditions = .ok (p r))
    (found : Option Record) (count : Nat) :
    countMatches registry conditions records (found, count) =
      .ok (found.or (records.filter p).head?, count + (records.filter p).length) := by
  induction records generalizing found count with
  | nil => simp [countMatches]
  | cons r records ih =>
    obtain ⟨head, tail⟩ := List.forall_mem_cons.mp each
    rw [countMatches, head]
    cases answer : p r with
    | false =>
      rw [List.filter_cons_of_neg (by simp [answer])]
      exact ih tail found count
    | true =>
      rw [List.filter_cons_of_pos answer]
      refine (ih tail (found.or (some r)) (count + 1)).trans ?_
      rw [Option.or_assoc, Option.some_or, Nat.add_right_comm]
      rfl

theorem countMatches_error (clear : ∀ s ∈ before, meetsAll registry s conditions = .ok false)
    (failed : meetsAll registry r conditions = .error e) (found : Option Record × Nat) :
    countMatches registry conditions (before ++ r :: after) found = .error e := by
  have skipped := skip_clear (f := fun rest => countMatches registry conditions rest found)
    (fun s rest no => by rw [countMatches, no]) clear (r :: after)
  rw [skipped, countMatches, failed]

theorem someMeets_ok (each : ∀ r ∈ records, meetsAll registry r conditions = .ok (p r)) :
    someMeets registry conditions records = .ok (records.any p) := by
  induction records with
  | nil => rfl
  | cons r records ih =>
    obtain ⟨head, tail⟩ := List.forall_mem_cons.mp each
    rw [someMeets, head, List.any_cons]
    cases p r with
    | false => exact ih tail
    | true => rfl

theorem someMeets_error (clear : ∀ s ∈ before, meetsAll registry s conditions = .ok false)
    (failed : meetsAll registry r conditions = .error e) :
    someMeets registry conditions (before ++ r :: after) = .error e := by
  have skipped := skip_clear (f := someMeets registry conditions)
    (fun s rest no => by rw [someMeets, no]) clear (r :: after)
  rw [skipped, someMeets, failed]

end

/-! ### The queries -/

/-- The one record of several, or the failure by their number. -/
def soleOf : List Record → Except Failure Record
  | [] => .error .noMatch
  | [r] => .ok r
  | records => .error (.manyMatches records.length)

section
variable [PatternEngine] {registry : Registry} {list : RecordList} {lookups : List Lookup}
  {conditions : List Condition} {e : Failure}

theorem single_eq_error_of_unread (failed : conditionsOf list.spelling registry lookups = .error e) :
    list.single registry lookups = .error e := by
  rw [single, failed]
  rfl

theorem any_eq_error_of_unread (failed : conditionsOf list.spelling registry lookups = .error e) :
    list.any registry lookups = .error e := by
  rw [any, failed]
  rfl

variable (read : conditionsOf list.spelling registry lookups = .ok conditions)
include read

theorem any_eq : list.any registry lookups = someMeets registry conditions list.records := by
  rw [any, read]
  rfl

theorem filter_eq_error (failed : list.records.filterM (fun r =>
    (meetsAll registry r conditions).map (· == true)) = .error e) : list.filter registry lookups = .error e := by
  rw [filter, keeping_eq_filterM read, failed]
  rfl

theorem single_eq_error (failed : countMatches registry conditions list.records (none, 0) = .error e) :
    list.single registry lookups = .error e :=
  bind_eq_error_iff.mpr (Or.inr ⟨conditions, read, bind_eq_error_iff.mpr (Or.inl failed)⟩)

variable {p : Record → Bool} (each : ∀ r ∈ list.records, meetsAll registry r conditions = .ok (p r))
include each

theorem filter_eq_ok : list.filter registry lookups = .ok { list with records := list.records.filter p } := by
  simpa only [filter, beq_true] using keeping_of_answers read each true

theorem any_eq_ok : list.any registry lookups = .ok (!(list.records.filter p).isEmpty) := by
  have found : list.records.any p = !(list.records.filter p).isEmpty := by
    rw [Bool.eq_iff_iff]
    simp
  rw [any_eq read, someMeets_ok each, found]

theorem single_eq_soleOf : list.single registry lookups = soleOf (list.records.filter p) := by
  have counted := countMatches_ok each none 0
  rw [Option.none_or, Nat.zero_add] at counted
  rw [single, read]
  change (countMatches registry conditions list.records (none, 0) >>= _) = _
  rw [counted]
  rcases list.records.filter p with _ | ⟨r, _ | ⟨s, others⟩⟩ <;> rfl

end

/-- The three queries agree, under every registry. All fail alike, or else the search tells whether the
selection keeps anything, and the single record is what it keeps, or the failure by how many it keeps. -/
theorem filter_any_single_agree [PatternEngine] (registry : Registry) (list : RecordList) (lookups : List Lookup) :
    (∃ e, list.filter registry lookups = .error e ∧ list.any registry lookups = .error e ∧
      list.single registry lookups = .error e) ∨
    ∃ kept, list.filter registry lookups = .ok kept ∧
      list.any registry lookups = .ok (!kept.records.isEmpty) ∧
      list.single registry lookups = soleOf kept.records := by
  cases read : conditionsOf list.spelling registry lookups with
  | error e =>
    exact Or.inl ⟨e, keeping_eq_error read true, any_eq_error_of_unread read, single_eq_error_of_unread read⟩
  | ok conditions =>
    rcases meetsAll_cases registry conditions list.records with
      ⟨p, each⟩ | ⟨before, r, after, e, split, clear, failed⟩
    · exact Or.inr ⟨_, filter_eq_ok read each, any_eq_ok read each, single_eq_soleOf read each⟩
    · have stuck : list.records.filterM (fun r => (meetsAll registry r conditions).map (· == true)) = .error e := by
        rw [split]
        refine filterM_error (p := fun _ => false) (fun s hs => ?_) (map_eq_error_iff.mpr failed)
        rw [clear s hs]
        rfl
      refine Or.inl ⟨e, filter_eq_error read stuck, ?_, single_eq_error read ?_⟩
      · rw [any_eq read, split]
        exact someMeets_error clear failed
      · rw [split]
        exact countMatches_error clear failed _

end RecordList

end RecordQuery
