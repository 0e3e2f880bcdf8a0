import RecordQuery.Proofs.Ordering.Sorted
import RecordQuery.Proofs.Sorting.Reverse

/-!
Keys in the opposite directions. They compare records as the keys themselves compare them the other
way round, and so a sort by them succeeds on the same lists and gives, in reverse, what the keys make
of the reversed list.
-/

namespace RecordQuery

/-- The other direction. -/
def Direction.opposite : Direction → Direction
  | ascending => descending
  | descending => ascending

theorem Direction.apply_opposite (d : Direction) (o : Ordering) : d.opposite.apply o = d.apply o.swap := by
  cases d with
  | ascending => rfl
  | descending => exact o.swap_swap.symm

namespace SortKey

/-- The key of the same values in the other direction. -/
def opposite (key : SortKey) : SortKey := { key with direction := key.direction.opposite }

theorem compare_opposite (key : SortKey) (a b : Value) :
    (key.opposite.compare a b).toOption = (key.compare b a).toOption := by
  rw [compare_toOption, compare_toOption, a.compare?_swap b, Option.map_map]
  exact congrArg (fun f => (a.compare? b).map f) (funext key.direction.apply_opposite)

end SortKey

theorem compareRows_opposite (keys : List SortKey) (as bs : List Value) :
    (compareRows (keys.map .opposite) as bs).toOption = (compareRows keys bs as).toOption := by
  match keys, as, bs with
  | [], _, _ => rfl
  | _ :: _, [], [] => rfl
  | _ :: _, [], _ :: _ => rfl
  | _ :: _, _ :: _, [] => rfl
  | key :: keys, a :: as, b :: bs =>
    rw [List.map_cons, compareRows_cons, compareRows_cons, breakTie_toOption, breakTie_toOption,
      key.compare_opposite a b, compareRows_opposite keys as bs]

section
variable {registry : Registry} {keys : List SortKey} {records : List Record} {r s : Record}

theorem keyValues_opposite : keyValues registry (keys.map .opposite) r = keyValues registry keys r :=
  List.mapM_map

theorem resolves_opposite : Resolves registry (keys.map .opposite) r ↔ Resolves registry keys r :=
  List.forall_mem_map

theorem floatFreeKeys_opposite :
    FloatFreeKeys registry (keys.map .opposite) r ↔ FloatFreeKeys registry keys r :=
  List.forall_mem_map

theorem exchanged_opposite (resolved : ∀ r ∈ records, Resolves registry keys r) :
    Exchanged (compareRecords registry keys) (compareRecords registry (keys.map .opposite)) records := by
  intro r hr s hs
  obtain ⟨as, has⟩ := (resolved r hr).exists_keyValues
  obtain ⟨bs, hbs⟩ := (resolved s hs).exists_keyValues
  rw [compareRecords_eq hbs has,
    compareRecords_eq (keyValues_opposite.trans has) (keyValues_opposite.trans hbs), compareRows_opposite]

end

/-- A sort by the keys in the opposite directions succeeds on the same lists, and gives in reverse what
the sort by the keys makes of the reversed list. Records that tie keep their order in both, so that one
result is the other in reverse only where there are none. -/
theorem sortByKeys_opposite (sort : StableSort) {registry : Registry} {keys : List SortKey}
    {records : List Record} (free : ∀ r ∈ records, FloatFreeKeys registry keys r) :
    ((∃ sorted, sortByKeys sort registry (keys.map .opposite) records = .ok sorted) ↔
      ∃ sorted, sortByKeys sort registry keys records = .ok sorted) ∧
    (∀ sorted, sortByKeys sort registry (keys.map .opposite) records = .ok sorted ↔
      sortByKeys sort registry keys records.reverse = .ok sorted.reverse) ∧
    ((records.Pairwise fun r s => compareRecords registry keys r s ≠ .ok .eq) →
      ∀ sorted, sortByKeys sort registry keys records = .ok sorted →
        sortByKeys sort registry (keys.map .opposite) records = .ok sorted.reverse) := by
  have freeOpposite : ∀ r ∈ records, FloatFreeKeys registry (keys.map .opposite) r := fun r hr =>
    floatFreeKeys_opposite.mpr (free r hr)
  have freeReverse : ∀ r ∈ records.reverse, FloatFreeKeys registry keys r := fun r hr =>
    free r (List.mem_reverse.mp hr)
  have resolves : (∀ r ∈ records, Resolves registry (keys.map .opposite) r) ↔
      ∀ r ∈ records, Resolves registry keys r := forall₂_congr fun _ _ => resolves_opposite
  have turned : ∀ sorted, sortByKeys sort registry (keys.map .opposite) records = .ok sorted ↔
      sortByKeys sort registry keys records.reverse = .ok sorted.reverse := by
    intro sorted
    rw [sortByKeys_eq_ok_iff sort freeOpposite, sortByKeys_eq_ok_iff sort freeReverse, resolves]
    simp only [List.mem_reverse]
    refine and_congr_right fun resolved => ?_
    have exchanged := exchanged_opposite resolved
    have coherent := coherent_compareRecords resolved free
    constructor
    · intro stable
      exact stable.reverse exchanged.symm (coherent_compareRecords (resolves.mpr resolved) freeOpposite)
    · intro stable
      have back := stable.reverse (exchanged.mono fun _ => List.mem_reverse.mp)
        (coherent.mono fun _ => List.mem_reverse.mp)
      rwa [List.reverse_reverse, List.reverse_reverse] at back
  refine ⟨?_, turned, fun untied sorted done => (turned _).mpr ?_⟩
  · rw [exists_sortByKeys_ok_iff sort freeOpposite, exists_sortByKeys_ok_iff sort free, resolves]
    exact and_congr_right fun resolved =>
      (exchanged_opposite resolved).pairwise_comparable_iff (coherent_compareRecords resolved free)
  · rw [List.reverse_reverse]
    obtain ⟨resolved, stable⟩ := (sortByKeys_eq_ok_iff sort free).mp done
    exact (sortByKeys_eq_ok_iff sort freeReverse).mpr ⟨fun r hr => resolved r (List.mem_reverse.mp hr),
      stable.of_perm (coherent_compareRecords resolved free) untied records.reverse_perm⟩

open RecordList in
theorem sortByKeys_opposite_outerTie :
    sortByKeys .insertion .empty ([descendingM].map .opposite) outerTie.records =
      .ok [pair 2 1 0, pair 1 2 0, pair 3 2 1] ∧
    sortByKeys .insertion .empty ([descendingM, ascendingN].map .opposite) outerTie.records =
      .ok [pair 2 1 0, pair 3 2 1, pair 1 2 0] := by
  have free : ∀ r ∈ outerTie.records, FloatFreeKeys .empty [descendingM] r := by decide
  have freeBoth : ∀ r ∈ outerTie.records, FloatFreeKeys .empty [descendingM, ascendingN] r := by decide
  have untied : outerTie.records.Pairwise fun r s =>
      compareRecords .empty [descendingM, ascendingN] r s ≠ .ok .eq := by decide
  exact ⟨((sortByKeys_opposite .insertion free).2.1 _).mpr rfl,
    (sortByKeys_opposite .insertion freeBoth).2.2 untied _ rfl⟩

end RecordQuery
