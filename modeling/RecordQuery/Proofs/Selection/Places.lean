import RecordQuery.Proofs.Parallel
import RecordQuery.Proofs.Selection.Conjunction

/-!
Selections of the same places. Where the records of two lists answer alike, place by place, the selections
from both lists are of the same places, or fail alike, whatever operators are known.
-/

namespace RecordQuery

section
variable [PatternEngine]

/-- Conditions that one record meets as another record meets others, each as each, are all met alike. -/
theorem meetsAll_congr {registry : Registry} {conditions others : List Condition} {r s : Record}
    (each : List.Forall₂ (fun c d => c.evaluate registry r = d.evaluate registry s) conditions others) :
    meetsAll registry r conditions = meetsAll registry s others := by
  induction each with
  | nil => rfl
  | cons head _ ih => rw [meetsAll, meetsAll, head, ih]

theorem all_met_of_meetsAll {registry : Registry} {conditions : List Condition} {r : Record} {answer : Bool}
    (answered : meetsAll registry r conditions = .ok answer) : conditions.all (·.met registry r) = answer := by
  induction conditions with
  | nil =>
    cases answered
    rfl
  | cons condition conditions ih =>
    rw [meetsAll] at answered
    rw [List.all_cons, Condition.met]
    split at answered
    · next evaluated =>
      rw [evaluated]
      exact ih answered
    · next evaluated =>
      cases answered
      rw [evaluated]
      rfl
    · next evaluated =>
      cases answered
      rw [evaluated]
      rfl
    · cases answered

namespace RecordList

/-- The record at the place meets all conditions. -/
def meetsAt (registry : Registry) (list : RecordList) (conditions : List Condition) (i : Nat) : Bool :=
  list.records[i]?.any fun r => conditions.all (·.met registry r)

variable {registry : Registry} {list other : RecordList} {conditions others : List Condition}
  {lookups otherLookups : List Lookup}

theorem meetsAt_eq (i : Fin list.records.length) :
    list.meetsAt registry conditions i = conditions.all (·.met registry (list.records.get i)) := by
  rw [meetsAt, List.getElem?_eq_getElem i.isLt]
  rfl

theorem keeping_eq_meetsAt (read : conditionsOf list.spelling registry lookups = .ok conditions)
    (answers : ∀ r ∈ list.records, ∃ answer, meetsAll registry r conditions = .ok answer) (keep : Bool) :
    list.keeping registry lookups keep = .ok (list.atPlaces fun i => list.meetsAt registry conditions i == keep) := by
  have each : ∀ r ∈ list.records, meetsAll registry r conditions = .ok (conditions.all (·.met registry r)) := by
    intro r hr
    obtain ⟨answer, answered⟩ := answers r hr
    rw [answered, all_met_of_meetsAll answered]
  simp only [meetsAt_eq]
  rw [keeping_of_answers read each, list.atPlaces_eq fun r => conditions.all (·.met registry r) == keep]

theorem meetsAt_congr (each : List.Forall₂ (fun r s => conditions.all (·.met registry r) =
    others.all (·.met registry s)) list.records other.records) :
    other.meetsAt registry others = list.meetsAt registry conditions := by
  funext i
  have found := getElem?_of_forall₂ each i
  unfold meetsAt
  generalize list.records[i]? = x at found ⊢
  generalize other.records[i]? = y at found ⊢
  cases found with
  | none => rfl
  | some same => exact same.symm

theorem keeping_eq_error_of_mapM {e : Failure} (read : conditionsOf list.spelling registry lookups = .ok conditions)
    (failed : list.records.mapM (meetsAll registry · conditions) = .error e) (keep : Bool) :
    list.keeping registry lookups keep = .error e := by
  rw [keeping_eq_filterM read, filterM_of_mapM_error failed]
  rfl

/-- Where the records of two lists give the same answers, both lists are selected from alike. -/
theorem selections_of_answers (read : conditionsOf list.spelling registry lookups = .ok conditions)
    (otherRead : conditionsOf other.spelling registry otherLookups = .ok others)
    (each : List.Forall₂ (fun r s => meetsAll registry r conditions = meetsAll registry s others)
      list.records other.records) :
    (∃ e, list.filter registry lookups = .error e ∧ list.exclude registry lookups = .error e ∧
      other.filter registry otherLookups = .error e ∧ other.exclude registry otherLookups = .error e) ∨
    ∃ met : Nat → Bool,
      list.filter registry lookups = .ok (list.atPlaces fun i => met i) ∧
      list.exclude registry lookups = .ok (list.atPlaces fun i => !met i) ∧
      other.filter registry otherLookups = .ok (other.atPlaces fun i => met i) ∧
      other.exclude registry otherLookups = .ok (other.atPlaces fun i => !met i) := by
  have asked : Parallel (List.Forall₂ Eq) (list.records.mapM (meetsAll registry · conditions))
      (other.records.mapM (meetsAll registry · others)) := by
    refine .mapM each fun r s same => ?_
    rw [same]
    cases meetsAll registry s others with
    | error e => exact .error e
    | ok answer => exact .ok rfl
  rcases asked.cases_ok_error with ⟨e, left, right⟩ | ⟨answers, _, left, right, -⟩
  · exact Or.inl ⟨e, keeping_eq_error_of_mapM read left true, keeping_eq_error_of_mapM read left false,
      keeping_eq_error_of_mapM otherRead right true, keeping_eq_error_of_mapM otherRead right false⟩
  · have kept := keeping_eq_meetsAt read (forall_ok_of_mapM left)
    have otherKept := keeping_eq_meetsAt otherRead (forall_ok_of_mapM right)
    have same : other.meetsAt registry others = list.meetsAt registry conditions := by
      have answered := (List.forall₂_and_left _ _).mpr ⟨forall_ok_of_mapM left, each⟩
      refine meetsAt_congr (answered.imp ?_)
      rintro r s ⟨⟨answer, answered⟩, same⟩
      rw [all_met_of_meetsAll answered, all_met_of_meetsAll (same.symm.trans answered)]
    rw [same] at otherKept
    obtain ⟨filtered, excluded⟩ := filter_exclude_of_keeping kept
    obtain ⟨otherFiltered, otherExcluded⟩ := filter_exclude_of_keeping otherKept
    exact Or.inr ⟨_, filtered, excluded, otherFiltered, otherExcluded⟩

end RecordList

end

end RecordQuery
