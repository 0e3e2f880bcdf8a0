import RecordQuery.Proofs.Ordering.Sorted
import RecordQuery.Proofs.Selection.Conditions

/-!
Selection and order. A sort that succeeds on a list succeeds on every selection of it, and it makes no
difference which of the two comes first.
-/

namespace RecordQuery

/-- Leaving records out before a sort or behind it makes no difference. -/
theorem sortByKeys_filter (sort : StableSort) {registry : Registry} {keys : List SortKey}
    {records sorted : List Record} (free : ∀ r ∈ records, FloatFreeKeys registry keys r)
    (done : sortByKeys sort registry keys records = .ok sorted) (p : Record → Bool) :
    sortByKeys sort registry keys (records.filter p) = .ok (sorted.filter p) := by
  obtain ⟨resolved, stable⟩ := (sortByKeys_eq_ok_iff sort free).mp done
  have kept : ∀ r ∈ records.filter p, r ∈ records := fun r hr => (List.mem_filter.mp hr).1
  exact (sortByKeys_eq_ok_iff sort fun r hr => free r (kept r hr)).mpr
    ⟨fun r hr => resolved r (kept r hr), stable.filter p⟩

namespace RecordList

theorem sortedWith_keeping [PatternEngine] (sort : StableSort) {registry : Registry} {list sorted : RecordList}
    {lookups : List Lookup} {conditions : List Condition} {texts : List String} {keys : List SortKey}
    (default : registry.hasComparator defaultOperator)
    (read : conditionsOf list.spelling registry lookups = .ok conditions)
    (parsed : parseSortKeys list.spelling texts = .ok keys)
    (free : ∀ r ∈ list.records, FloatFreeKeys registry keys r)
    (done : list.sortedWith sort registry texts = .ok sorted) (keep : Bool) :
    ∃ kept both, list.keeping registry lookups keep = .ok kept ∧
      kept.sortedWith sort registry texts = .ok both ∧ sorted.keeping registry lookups keep = .ok both := by
  obtain ⟨spelled, done⟩ := (sortedWith_eq_ok_iff sort parsed).mp done
  let p : Record → Bool := fun r => conditions.all (·.met registry r) == keep
  have parsedKept : parseSortKeys ({ list with records := list.records.filter p } : RecordList).spelling texts =
      .ok keys := parsed
  refine ⟨{ list with records := list.records.filter p }, { sorted with records := sorted.records.filter p },
    keeping_eq_ok default read keep, ?_, keeping_eq_ok default (spelled ▸ read) keep⟩
  exact (sortedWith_eq_ok_iff sort parsedKept).mpr ⟨spelled, sortByKeys_filter sort free done p⟩

/-- Selection and order commute, under every registry that registrations can lead to: where the lookups
can be read and the sort of the whole list succeeds, so does that of what is kept of it, with the same
records in the same order. -/
theorem sortedWith_filter_exclude [PatternEngine] (sort : StableSort) (history : List Registration)
    {list sorted : RecordList} {lookups : List Lookup} {conditions : List Condition} {texts : List String}
    {keys : List SortKey}
    (read : conditionsOf list.spelling (Registry.standard.after history) lookups = .ok conditions)
    (parsed : parseSortKeys list.spelling texts = .ok keys)
    (free : ∀ r ∈ list.records, FloatFreeKeys (Registry.standard.after history) keys r)
    (done : list.sortedWith sort (Registry.standard.after history) texts = .ok sorted) :
    (∃ kept both, list.filter (Registry.standard.after history) lookups = .ok kept ∧
      kept.sortedWith sort (Registry.standard.after history) texts = .ok both ∧
      sorted.filter (Registry.standard.after history) lookups = .ok both) ∧
    (∃ kept both, list.exclude (Registry.standard.after history) lookups = .ok kept ∧
      kept.sortedWith sort (Registry.standard.after history) texts = .ok both ∧
      sorted.exclude (Registry.standard.after history) lookups = .ok both) :=
  have default := Registry.hasComparator_default history
  ⟨sortedWith_keeping sort default read parsed free done true,
    sortedWith_keeping sort default read parsed free done false⟩

theorem sortedWith_filter_exclude_outerTie :
    ∃ kept both, outerTie.filter (Registry.standard.after [.test "any" fun _ _ => true])
        [⟨.spelled "n__lt", .ofNat 1⟩] = .ok kept ∧
      kept.sortedWith .insertion (Registry.standard.after [.test "any" fun _ _ => true]) ["-m"] = .ok both ∧
      both.records = [pair 1 2 0, pair 2 1 0] := by
  have parsed : parseSortKeys outerTie.spelling ["-m"] = .ok [descendingM] := by decide
  have done : outerTie.sortedWith .insertion (Registry.standard.after [.test "any" fun _ _ => true]) ["-m"] =
      .ok { records := [pair 1 2 0, pair 3 2 1, pair 2 1 0] } := rfl
  have read : conditionsOf outerTie.spelling (Registry.standard.after [.test "any" fun _ _ => true])
      [⟨.spelled "n__lt", .ofNat 1⟩] = .ok [⟨ascendingN.path, "lt", .ofNat 1, none⟩] := rfl
  obtain ⟨⟨kept, both, chosen, sorted, same⟩, -⟩ :=
    sortedWith_filter_exclude .insertion _ read parsed (by decide) done
  cases same
  exact ⟨kept, _, chosen, sorted, rfl⟩

end RecordList

end RecordQuery
