import Mathlib.Data.List.FinRange
import RecordQuery.Proofs.Selection.Conditions

/-!
The two selections by the same lookups. They fail alike, by the first lookup that cannot be read, and
else part the places of the list: a record is kept where it meets every condition, and dropped where it
does not, be it by one path that does not resolve.
-/

namespace RecordQuery

section
variable [PatternEngine] {registry : Registry} {conditions : List Condition} {condition : Condition} {r : Record}

theorem Condition.met_iff : condition.met registry r = true ↔ condition.evaluate registry r = .ok true := by
  unfold met
  cases condition.evaluate registry r <;> simp

theorem Condition.not_met_of_unresolved {e : Failure} (stuck : condition.path.resolve registry r = .error e) :
    condition.met registry r = false := by
  unfold met evaluate
  cases registry.comparator? condition.operator with
  | none => rfl
  | some comparator =>
    dsimp only
    rw [stuck]
    rfl

theorem all_met_iff : conditions.all (·.met registry r) = true ↔
    ∀ condition ∈ conditions, condition.evaluate registry r = .ok true := by
  rw [List.all_eq_true]
  exact forall₂_congr fun _ _ => Condition.met_iff

/-- No other condition makes up for a path that does not resolve. -/
theorem not_all_met_of_unresolved
    (stuck : ∃ condition ∈ conditions, ∃ e, condition.path.resolve registry r = .error e) :
    conditions.all (·.met registry r) = false := by
  obtain ⟨condition, mem, e, stuck⟩ := stuck
  exact List.all_eq_false.mpr ⟨condition, mem, by rw [Condition.not_met_of_unresolved stuck]; decide⟩

end

namespace RecordList

/-- The records at the chosen places, in the order in which they stand. -/
def atPlaces (list : RecordList) (chosen : Fin list.records.length → Bool) : RecordList :=
  { list with records := ((List.finRange list.records.length).filter chosen).map list.records.get }

theorem atPlaces_eq (list : RecordList) (p : Record → Bool) :
    list.atPlaces (fun i => p (list.records.get i)) = { list with records := list.records.filter p } := by
  have places : ((List.finRange list.records.length).filter fun i => p (list.records.get i)).map
      list.records.get = list.records.filter p := by
    conv => rhs; rw [← List.map_get_finRange list.records, List.filter_map]
    rfl
  rw [atPlaces, places]

section
variable [PatternEngine] {registry : Registry} {list : RecordList} {lookups : List Lookup}
  {conditions : List Condition}

theorem keeping_eq_error {e : Failure} (failed : conditionsOf list.spelling registry lookups = .error e)
    (keep : Bool) : list.keeping registry lookups keep = .error e := by
  unfold keeping
  rw [failed]
  rfl

theorem keeping_eq_atPlaces (default : registry.hasComparator defaultOperator)
    (read : conditionsOf list.spelling registry lookups = .ok conditions) (keep : Bool) :
    list.keeping registry lookups keep =
      .ok (list.atPlaces fun i => conditions.all (·.met registry (list.records.get i)) == keep) := by
  rw [list.atPlaces_eq fun r => conditions.all (·.met registry r) == keep]
  exact keeping_eq_ok default read keep

/-- What one selection keeps is at the places where the records answer, and what the other keeps at all others. -/
theorem filter_exclude_of_keeping {met : Fin list.records.length → Bool}
    (each : ∀ keep, list.keeping registry lookups keep = .ok (list.atPlaces fun i => met i == keep)) :
    list.filter registry lookups = .ok (list.atPlaces met) ∧
      list.exclude registry lookups = .ok (list.atPlaces fun i => !met i) := by
  simp only [filter, exclude, each, beq_true, beq_false, and_self]

/-- Under every registry that registrations can lead to, what is kept by lookups and what is dropped by
them are the records at some places and at all the others, or there is the same failure instead. A record
is kept where it meets all conditions, and so a path that does not resolve always drops it. -/
theorem filter_exclude_part (history : List Registration) (list : RecordList) (lookups : List Lookup) :
    let registry := Registry.standard.after history
    (∃ e, conditionsOf list.spelling registry lookups = .error e ∧
      list.filter registry lookups = .error e ∧ list.exclude registry lookups = .error e) ∨
    ∃ conditions met, conditionsOf list.spelling registry lookups = .ok conditions ∧
      list.filter registry lookups = .ok (list.atPlaces met) ∧
      list.exclude registry lookups = .ok (list.atPlaces fun i => !met i) ∧
      (∀ i, met i = true ↔
        ∀ condition ∈ conditions, condition.evaluate registry (list.records.get i) = .ok true) ∧
      ∀ i, (∃ condition ∈ conditions, ∃ e, condition.path.resolve registry (list.records.get i) = .error e) →
        met i = false := by
  intro registry
  have default : registry.hasComparator defaultOperator := Registry.hasComparator_default history
  cases read : conditionsOf list.spelling registry lookups with
  | error e => exact Or.inl ⟨e, rfl, keeping_eq_error read true, keeping_eq_error read false⟩
  | ok conditions =>
    obtain ⟨kept, dropped⟩ := filter_exclude_of_keeping (keeping_eq_atPlaces default read)
    exact Or.inr ⟨conditions, _, rfl, kept, dropped, fun _ => all_met_iff, fun _ => not_all_met_of_unresolved⟩

end

/-- A list of two records, of which one has no second field. -/
def oneField : RecordList :=
  { records := [.map 1 [("m", .ofNat 2), ("n", .ofNat 0)], .map 2 [("m", .ofNat 2)]] }

/-- A comparator that holds of all values. -/
def anyTest : Registration := .test "any" fun _ _ => true

/-- The lookups of a first field that may hold any value and a second field that holds zero. -/
def anyZero : List Lookup := [⟨.spelled "m__any", .null⟩, ⟨.spelled "n", .ofNat 0⟩]

theorem conditionsOf_anyZero : conditionsOf oneField.spelling (Registry.standard.after [anyTest]) anyZero =
    .ok [⟨⟨["m"], by decide, by decide⟩, "any", .null, none⟩,
      ⟨⟨["n"], by decide, by decide⟩, "exact", .ofNat 0, none⟩] := rfl

theorem filter_exclude_part_oneField : ∃ met : Fin 2 → Bool,
    oneField.filter (Registry.standard.after [anyTest]) anyZero = .ok (oneField.atPlaces met) ∧
    oneField.exclude (Registry.standard.after [anyTest]) anyZero = .ok (oneField.atPlaces fun i => !met i) ∧
    met 1 = false := by
  rcases filter_exclude_part [anyTest] oneField anyZero with
    ⟨e, failed, -⟩ | ⟨conditions, met, read, kept, dropped, -, lost⟩
  · cases conditionsOf_anyZero.symm.trans failed
  · cases conditionsOf_anyZero.symm.trans read
    exact ⟨met, kept, dropped, lost (1 : Fin 2) ⟨_, List.mem_cons_of_mem _ List.mem_cons_self, _, rfl⟩⟩

end RecordList

end RecordQuery
