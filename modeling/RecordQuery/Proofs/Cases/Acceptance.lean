import Mathlib.Data.List.Sort
import RecordQuery.Proofs.Cases.Alignment

/-!
Which tables are accepted. Every case has to have just the names that are given, however often these are repeated.
The first case that has not is refused, with the names that it lacks, or else with those that it has beyond them.
-/

namespace RecordQuery

/-- The list of the names of which something holds: ascending, and each name once. -/
structure Enumerates (listed : List String) (p : String → Prop) : Prop where
  ascending : listed.Pairwise (· < ·)
  mem_iff : ∀ name, name ∈ listed ↔ p name

namespace Case

/-- The names of the case are those that are given. -/
def Fits (names : List String) (c : Case) : Prop := ∀ name, name ∈ Dictionary.keys c.fields ↔ name ∈ names

/-- What a case is refused with: the names that it lacks or, if it lacks none, those that are not expected. -/
inductive Refused (names : List String) (c : Case) : CaseError → Prop
  | missing {lacking : List String} (nonempty : lacking ≠ [])
      (each : Enumerates lacking fun name => name ∈ names ∧ name ∉ Dictionary.keys c.fields) :
      Refused names c (.missing c.label lacking)
  | unexpected {extra : List String} (complete : ∀ name ∈ names, name ∈ Dictionary.keys c.fields)
      (nonempty : extra ≠ [])
      (each : Enumerates extra fun name => name ∈ Dictionary.keys c.fields ∧ name ∉ names) :
      Refused names c (.unexpected c.label extra)

end Case

section
variable {names listed other : List String} {p q : String → Prop} {c : Case} {cases : List Case} {e e' : CaseError}

/-! ### Names in order -/

namespace Enumerates

theorem unique (h : Enumerates listed p) (h' : Enumerates other p) : listed = other :=
  h.ascending.eq_of_mem_iff h'.ascending fun name => (h.mem_iff name).trans (h'.mem_iff name).symm

theorem congr (h : Enumerates listed p) (same : ∀ name, p name ↔ q name) : Enumerates listed q :=
  ⟨h.ascending, fun name => (h.mem_iff name).trans (same name)⟩

theorem exists_of_ne_nil (h : Enumerates listed p) (nonempty : listed ≠ []) : ∃ name, p name :=
  (List.exists_mem_of_ne_nil listed nonempty).imp fun name => (h.mem_iff name).mp

theorem ne_nil_of (h : Enumerates listed p) {name : String} (holds : p name) : listed ≠ [] :=
  List.ne_nil_of_mem ((h.mem_iff name).mpr holds)

end Enumerates

theorem enumerates_sortedNames (names : List String) : Enumerates (sortedNames names) (· ∈ names) where
  ascending := List.pairwise_map.mpr (Dictionary.ascending_ofList _)
  mem_iff name := by
    rw [sortedNames, Dictionary.mem_keys_ofList, List.map_map]
    simp

/-! ### One case -/

namespace Case

theorem has_iff_mem_keys {name : String} : Dictionary.has name c.fields = true ↔ name ∈ Dictionary.keys c.fields := by
  rw [Dictionary.mem_keys_iff, Dictionary.has, Option.isSome_iff_exists]

/-- The names that a case lacks, as they are reported. -/
theorem enumerates_lacking (names : List String) (c : Case) :
    Enumerates (sortedNames (names.filter fun name => !Dictionary.has name c.fields))
      fun name => name ∈ names ∧ name ∉ Dictionary.keys c.fields :=
  (enumerates_sortedNames _).congr fun name => by
    rw [List.mem_filter, Bool.not_eq_true', ← Bool.not_eq_true, has_iff_mem_keys]

/-- The names of a case that are not expected, as they are reported. -/
theorem enumerates_extra (names : List String) (c : Case) :
    Enumerates (sortedNames ((Dictionary.keys c.fields).filter fun name => !names.contains name))
      fun name => name ∈ Dictionary.keys c.fields ∧ name ∉ names :=
  (enumerates_sortedNames _).congr fun name => by
    rw [List.mem_filter, Bool.not_eq_true', ← Bool.not_eq_true, List.contains_iff_mem]

theorem fits_iff : c.Fits names ↔
    (∀ name ∈ names, name ∈ Dictionary.keys c.fields) ∧ ∀ name ∈ Dictionary.keys c.fields, name ∈ names :=
  ⟨fun fits => ⟨fun name => (fits name).mpr, fun name => (fits name).mp⟩,
    fun ⟨complete, expected⟩ name => ⟨expected name, complete name⟩⟩

theorem exists_row_iff : (∃ row, c.row names = .ok row) ↔ c.Fits names := by
  simp only [row_eq_ok_iff, has_iff_mem_keys, fits_iff]
  exact ⟨fun ⟨_, complete, expected, _⟩ => ⟨complete, expected⟩,
    fun ⟨complete, expected⟩ => ⟨_, complete, expected, rfl⟩⟩

namespace Refused

theorem not_fits (refused : c.Refused names e) : ¬ c.Fits names := by
  intro fits
  cases refused with
  | missing nonempty each =>
    obtain ⟨name, expected, lacking⟩ := each.exists_of_ne_nil nonempty
    exact lacking ((fits name).mpr expected)
  | unexpected complete nonempty each =>
    obtain ⟨name, there, extra⟩ := each.exists_of_ne_nil nonempty
    exact extra ((fits name).mp there)

/-- A case is refused with one error: missing names go before those that are not expected. -/
theorem unique (refused : c.Refused names e) (refused' : c.Refused names e') : e = e' := by
  cases refused with
  | missing nonempty each =>
    cases refused' with
    | missing _ each' => rw [each.unique each']
    | unexpected complete _ _ =>
      obtain ⟨name, expected, lacking⟩ := each.exists_of_ne_nil nonempty
      exact absurd (complete name expected) lacking
  | unexpected complete _ each =>
    cases refused' with
    | missing nonempty each' =>
      obtain ⟨name, expected, lacking⟩ := each'.exists_of_ne_nil nonempty
      exact absurd (complete name expected) lacking
    | unexpected _ _ each' => rw [each.unique each']

end Refused

theorem refused_of_row_error (failed : c.row names = .error e) : c.Refused names e := by
  simp only [row, isEmpty_filter_not] at failed
  split at failed
  · next incomplete =>
    cases failed
    rw [Bool.not_eq_true', List.all_eq_false] at incomplete
    obtain ⟨name, expected, lacking⟩ := incomplete
    have lists := enumerates_lacking names c
    exact .missing (lists.ne_nil_of ⟨expected, fun there => lacking (has_iff_mem_keys.mpr there)⟩) lists
  · next complete =>
    rw [Bool.not_eq_true, Bool.not_eq_false', List.all_eq_true] at complete
    split at failed
    · next beyond =>
      cases failed
      rw [Bool.not_eq_true', List.all_eq_false] at beyond
      obtain ⟨name, there, extra⟩ := beyond
      have lists := enumerates_extra names c
      refine .unexpected (fun name expected => has_iff_mem_keys.mp (complete name expected)) ?_ lists
      exact lists.ne_nil_of ⟨there, fun expected => extra (List.contains_iff_mem.mpr expected)⟩
    · cases failed

theorem row_eq_error_iff : c.row names = .error e ↔ c.Refused names e := by
  refine ⟨refused_of_row_error, fun refused => ?_⟩
  cases outcome : c.row names with
  | ok row => exact absurd (exists_row_iff.mp ⟨row, outcome⟩) refused.not_fits
  | error e' => rw [refused.unique (refused_of_row_error outcome)]

end Case

end

/-- A table is accepted just where the names of every case are those that are given, and then there is one row for
each case in turn, under its label. Else the first case whose names are not those is refused: with the names that it
lacks, or if it lacks none, with those that are not expected. -/
theorem tabulate_accepts_fitting (names : List String) (cases : List Case) :
    ((∃ rows, tabulate names cases = .ok rows) ↔ ∀ c ∈ cases, c.Fits names) ∧
    (∀ rows, tabulate names cases = .ok rows →
      List.Forall₂ (fun c row => row.label = c.label ∧ row.names = names) cases rows) ∧
    ∀ e, tabulate names cases = .error e ↔
      ∃ before c after, cases = before ++ c :: after ∧ (∀ b ∈ before, b.Fits names) ∧ c.Refused names e := by
  refine ⟨⟨?_, fun fit => ?_⟩, fun rows done => ?_, fun e => ?_⟩
  · rintro ⟨rows, done⟩ c member
    exact Case.exists_row_iff.mp (forall_ok_of_mapM done c member)
  · exact exists_mapM_ok fun c member => Case.exists_row_iff.mpr (fit c member)
  · refine (mapM_eq_ok_iff.mp done).imp fun c row made => ?_
    obtain ⟨-, -, rfl⟩ := Case.row_eq_ok_iff.mp made
    exact ⟨rfl, rfl⟩
  · simp only [tabulate, mapM_eq_error_iff, Case.exists_row_iff, Case.row_eq_error_iff]

/-- The case of two fields with a label. -/
def again : Case := { oneTwo with label := some "again" }

theorem tabulate_accepts_fitting_again :
    (∃ rows, tabulate ["b", "a", "b"] [oneTwo, again] = .ok rows ∧ rows.map Row.label = [none, some "again"]) ∧
    tabulate ["a", "c", "c"] [again] = .error (.missing (some "again") ["c"]) ∧
    tabulate [] [oneTwo, again] = .error (.unexpected none ["a", "b"]) := by
  refine ⟨?_, ?_, ?_⟩
  · obtain ⟨accepted, rowed, -⟩ := tabulate_accepts_fitting ["b", "a", "b"] [oneTwo, again]
    have fit : ∀ c ∈ [oneTwo, again], c.Fits ["b", "a", "b"] :=
      List.forall_mem_cons.mpr ⟨Case.fits_iff.mpr ⟨by decide, by decide⟩,
        List.forall_mem_singleton.mpr (Case.fits_iff.mpr ⟨by decide, by decide⟩)⟩
    obtain ⟨rows, done⟩ := accepted.mpr fit
    refine ⟨rows, done, ?_⟩
    obtain _ | ⟨⟨first, -⟩, _ | ⟨⟨second, -⟩, ⟨⟩⟩⟩ := rowed rows done
    rw [List.map_cons, List.map_singleton, first, second]
    rfl
  · obtain ⟨-, -, refused⟩ := tabulate_accepts_fitting ["a", "c", "c"] [again]
    have lacking : Enumerates ["c"] _ := Case.enumerates_lacking ["a", "c", "c"] again
    exact (refused _).mpr ⟨[], again, [], rfl, (fun b member => nomatch member), .missing (by decide) lacking⟩
  · obtain ⟨-, -, refused⟩ := tabulate_accepts_fitting [] [oneTwo, again]
    have extra : Enumerates ["a", "b"] _ := Case.enumerates_extra [] oneTwo
    exact (refused _).mpr
      ⟨[], oneTwo, [again], rfl, (fun b member => nomatch member), .unexpected (by decide) (by decide) extra⟩

end RecordQuery
