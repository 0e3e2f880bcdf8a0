import RecordQuery.Proofs.Ordering.Records
import RecordQuery.RecordList

/-!
What sorting a list of records does. Where it succeeds it gives the one stable order of the records;
it fails at the first record whose keys do not all resolve, and else just where two of the records do
not compare. Sorts follow each other as their keys do.
-/

namespace RecordQuery

namespace RecordList
variable {registry : Registry} {list sorted : RecordList} {texts : List String} {keys : List SortKey}
  (sort : StableSort)

theorem sortedWith_eq (parsed : parseSortKeys list.spelling texts = .ok keys) :
    list.sortedWith sort registry texts =
      (sortByKeys sort registry keys list.records).map fun records => { list with records } := by
  unfold sortedWith
  rw [parsed]
  change (sortByKeys sort registry keys list.records >>= fun records => pure { list with records }) = _
  cases sortByKeys sort registry keys list.records <;> rfl

theorem sortedWith_eq_ok_iff (parsed : parseSortKeys list.spelling texts = .ok keys) :
    list.sortedWith sort registry texts = .ok sorted ↔
      sorted.spelling = list.spelling ∧ sortByKeys sort registry keys list.records = .ok sorted.records := by
  rw [sortedWith_eq sort parsed, map_eq_ok_iff]
  cases sorted
  constructor
  · rintro ⟨records, done, same⟩
    cases same
    exact ⟨rfl, done⟩
  · rintro ⟨rfl, done⟩
    exact ⟨_, done, rfl⟩

/-- A sort of a list that succeeds keeps its records, in the order of the keys, and leaves records that
tie in the order in which they stood. -/
theorem sortedWith_stable (parsed : parseSortKeys list.spelling texts = .ok keys)
    (free : ∀ r ∈ list.records, FloatFreeKeys registry keys r)
    (done : list.sortedWith sort registry texts = .ok sorted) :
    sorted.spelling = list.spelling ∧ sorted.records.Perm list.records ∧
      sorted.records.Pairwise (AtMost (compareRecords registry keys)) ∧
      ∃ places : List (Fin list.records.length), places.Perm (List.finRange list.records.length) ∧
        sorted.records = places.map list.records.get ∧
        places.Pairwise fun i j =>
          compareRecords registry keys (list.records.get i) (list.records.get j) = .ok .eq → i < j := by
  obtain ⟨spelled, done⟩ := (sortedWith_eq_ok_iff sort parsed).mp done
  have resolved := resolves_of_sortByKeys done
  have h := coherent_compareRecords resolved free
  rw [sortByKeys_eq sort resolved] at done
  have stable := sort.stablySorted_of_apply h done
  obtain ⟨places, perm, order, arranged⟩ := sort.places_of_apply_ok h done
  refine ⟨spelled, stable.perm, stable.sorted, places, perm, arranged, order.imp fun {i j} before tie => ?_⟩
  rcases before with less | ⟨-, front⟩
  · cases less.symm.trans tie
  · exact front

/-- A record of two numbers. -/
def pair (handle : Nat) (m n : Int64) : Record :=
  .map handle [("m", .number (.signed m)), ("n", .number (.signed n))]

/-- The key of the first number, in descending order. -/
def descendingM : SortKey := ⟨⟨["m"], by decide, by decide⟩, .descending⟩

/-- A list of three records, of which the outer two have one first number. -/
def outerTie : RecordList := { records := [pair 1 2 0, pair 2 1 0, pair 3 2 1] }

theorem sortedWith_stable_outerTie :
    outerTie.sortedWith .insertion .empty ["-m"] = .ok { records := [pair 1 2 0, pair 3 2 1, pair 2 1 0] } ∧
      [pair 1 2 0, pair 3 2 1, pair 2 1 0].Perm outerTie.records ∧
      [pair 1 2 0, pair 3 2 1, pair 2 1 0].Pairwise (AtMost (compareRecords .empty [descendingM])) := by
  have parsed : parseSortKeys outerTie.spelling ["-m"] = .ok [descendingM] := by decide
  have done : outerTie.sortedWith .insertion .empty ["-m"] =
      .ok { records := [pair 1 2 0, pair 3 2 1, pair 2 1 0] } := rfl
  obtain ⟨-, perm, ordered, -⟩ := sortedWith_stable .insertion parsed (by decide) done
  exact ⟨done, perm, ordered⟩

/-! ### Failure -/

/-- The failure of the first record that has a key which does not resolve, by the first such key of it. -/
def FirstUnresolved (registry : Registry) (keys : List SortKey) (records : List Record) (e : Failure) : Prop :=
  ∃ before r after earlier key later segment, records = before ++ r :: after ∧
    (∀ s ∈ before, Resolves registry keys s) ∧ keys = earlier ++ key :: later ∧
    Resolves registry earlier r ∧ e = .unresolved key.path.text segment ∧
    key.path.resolve registry r = .error e

theorem incomparable_of_sortByKeys (resolved : ∀ r ∈ list.records, Resolves registry keys r)
    (free : ∀ r ∈ list.records, FloatFreeKeys registry keys r) {e : Failure}
    (failed : sortByKeys sort registry keys list.records = .error e) :
    ∃ i j : Fin list.records.length, i ≠ j ∧
      Incomparable registry keys (list.records.get i) (list.records.get j) e := by
  rw [sortByKeys_eq sort resolved] at failed
  obtain ⟨i, j, ne, failed⟩ := sort.places_of_apply_error (coherent_compareRecords resolved free) failed
  refine ⟨i, j, ne, incomparable_of_compareRecords ?_ ?_ failed⟩
  · exact resolved _ (List.get_mem _ _)
  · exact resolved _ (List.get_mem _ _)

theorem sortedWith_eq_error_iff (parsed : parseSortKeys list.spelling texts = .ok keys) {e : Failure} :
    list.sortedWith sort registry texts = .error e ↔ sortByKeys sort registry keys list.records = .error e := by
  rw [sortedWith_eq sort parsed, map_eq_error_iff]

/-- A sort of a list succeeds just where all keys resolve and all pairs of records compare. -/
theorem exists_sortedWith_ok_iff (parsed : parseSortKeys list.spelling texts = .ok keys)
    (free : ∀ r ∈ list.records, FloatFreeKeys registry keys r) :
    (∃ sorted, list.sortedWith sort registry texts = .ok sorted) ↔
      (∀ r ∈ list.records, Resolves registry keys r) ∧
        list.records.Pairwise (Comparable (compareRecords registry keys)) := by
  rw [← exists_sortByKeys_ok_iff sort free]
  constructor
  · rintro ⟨sorted, done⟩
    exact ⟨sorted.records, ((sortedWith_eq_ok_iff sort parsed).mp done).2⟩
  · rintro ⟨records, done⟩
    exact ⟨{ list with records }, (sortedWith_eq_ok_iff sort parsed).mpr ⟨rfl, done⟩⟩

/-- Whether a sort succeeds depends neither on the pairs that it looks at nor on the order of the list. -/
theorem exists_sortedWith_ok_perm (other : StableSort) (parsed : parseSortKeys list.spelling texts = .ok keys)
    (free : ∀ r ∈ list.records, FloatFreeKeys registry keys r) {shuffled : RecordList}
    (spelled : shuffled.spelling = list.spelling) (perm : shuffled.records.Perm list.records) :
    (∃ sorted, shuffled.sortedWith other registry texts = .ok sorted) ↔
      ∃ sorted, list.sortedWith sort registry texts = .ok sorted := by
  have free' : ∀ r ∈ shuffled.records, FloatFreeKeys registry keys r := fun r hr =>
    free r (perm.mem_iff.mp hr)
  have same : (∀ r ∈ shuffled.records, Resolves registry keys r) ↔
      ∀ r ∈ list.records, Resolves registry keys r := forall_congr' fun r => imp_congr_left perm.mem_iff
  rw [exists_sortedWith_ok_iff other (spelled ▸ parsed) free', exists_sortedWith_ok_iff sort parsed free, same]
  exact and_congr_right fun resolved =>
    (coherent_compareRecords resolved free).pairwise_comparable_perm perm

/-- How a sort of a list can fail: by the first record with a key that does not resolve, and where there
is none just by two records that do not compare, in whatever order the list stands. -/
theorem sortedWith_fails (parsed : parseSortKeys list.spelling texts = .ok keys) :
    ((∃ r ∈ list.records, ¬ Resolves registry keys r) → ∃ e, FirstUnresolved registry keys list.records e ∧
      list.sortedWith sort registry texts = .error e) ∧
    ((∀ r ∈ list.records, Resolves registry keys r) → (∀ r ∈ list.records, FloatFreeKeys registry keys r) →
      ((∃ text left right, list.sortedWith sort registry texts = .error (.incomparable text left right)) ↔
        ∃ i j : Fin list.records.length, i ≠ j ∧
          ¬ Comparable (compareRecords registry keys) (list.records.get i) (list.records.get j)) ∧
      (∀ e, list.sortedWith sort registry texts = .error e → ∃ i j : Fin list.records.length, i ≠ j ∧
        Incomparable registry keys (list.records.get i) (list.records.get j) e) ∧
      ((∀ i j : Fin list.records.length, i ≠ j →
        Comparable (compareRecords registry keys) (list.records.get i) (list.records.get j)) →
        ∃ sorted, list.sortedWith sort registry texts = .ok sorted)) ∧
    ((∀ r ∈ list.records, FloatFreeKeys registry keys r) →
      ∀ (other : StableSort) (shuffled : RecordList), shuffled.spelling = list.spelling →
        shuffled.records.Perm list.records →
        ((∃ sorted, shuffled.sortedWith other registry texts = .ok sorted) ↔
          ∃ sorted, list.sortedWith sort registry texts = .ok sorted)) := by
  refine ⟨fun ⟨r, hr, lost⟩ => ?_, fun resolved free => ?_, fun free other shuffled spelled perm =>
    exists_sortedWith_ok_perm sort other parsed free spelled perm⟩
  · obtain ⟨before, r, after, earlier, key, later, e, split, clear, turns, first, stuck, failed⟩ :=
      sortByKeys_unresolved sort fun all => lost (all r hr)
    obtain ⟨segment, -, named⟩ := Path.exists_segment_of_resolve_error stuck
    exact ⟨e, ⟨before, r, after, earlier, key, later, segment, split, clear, turns, first, named, stuck⟩,
      (sortedWith_eq_error_iff sort parsed).mpr failed⟩
  · have h := coherent_compareRecords resolved free
    have named : ∀ e, list.sortedWith sort registry texts = .error e →
        ∃ i j : Fin list.records.length, i ≠ j ∧
          Incomparable registry keys (list.records.get i) (list.records.get j) e := fun e failed =>
      incomparable_of_sortByKeys sort resolved free ((sortedWith_eq_error_iff sort parsed).mp failed)
    have succeeds : (∃ sorted, list.sortedWith sort registry texts = .ok sorted) ↔
        ∀ i j : Fin list.records.length, i ≠ j →
          Comparable (compareRecords registry keys) (list.records.get i) (list.records.get j) := by
      rw [exists_sortedWith_ok_iff sort parsed free, ← StableSort.pairwise_comparable_iff h]
      exact and_iff_right resolved
    refine ⟨⟨?_, ?_⟩, named, succeeds.mpr⟩
    · rintro ⟨text, left, right, failed⟩
      -- Without two such records the sort would have succeeded.
      by_contra all
      push Not at all
      obtain ⟨sorted, done⟩ := succeeds.mpr all
      rw [failed] at done
      cases done
    · rintro ⟨i, j, ne, apart⟩
      cases outcome : list.sortedWith sort registry texts with
      | ok sorted => exact absurd (succeeds.mp ⟨sorted, outcome⟩ i j ne) apart
      | error e =>
        obtain ⟨-, -, -, ⟨key, -, v, w, -, -, -, rfl⟩⟩ := named e outcome
        exact ⟨key.text, v.kind, w.kind, rfl⟩

/-- A list of two records, of which one has a number under a name and the other null. -/
def mixedKinds : RecordList := { records := [pair 1 2 0, .map 2 [("m", .null)]] }

theorem sortedWith_fails_mixedKinds : ∃ text left right,
    mixedKinds.sortedWith .insertion .empty ["-m"] = .error (.incomparable text left right) := by
  have parsed : parseSortKeys mixedKinds.spelling ["-m"] = .ok [descendingM] := by decide
  have resolved : ∀ r ∈ mixedKinds.records, Resolves .empty [descendingM] r := by decide
  have outcome := ((sortedWith_fails .insertion parsed).2.1 resolved (by decide)).1
  exact outcome.mpr ⟨⟨0, by decide⟩, ⟨1, by decide⟩, by decide, by decide⟩

/-! ### Sorts in turn -/

/-- A list that is sorted by some keys, and then by others, is sorted by both, of which the later are
primary. -/
theorem sortedWith_append {first second : List String} {firstKeys secondKeys : List SortKey}
    {mid last : RecordList} (parsedFirst : parseSortKeys list.spelling first = .ok firstKeys)
    (parsedSecond : parseSortKeys list.spelling second = .ok secondKeys)
    (freeFirst : ∀ r ∈ list.records, FloatFreeKeys registry firstKeys r)
    (freeSecond : ∀ r ∈ list.records, FloatFreeKeys registry secondKeys r)
    (before : list.sortedWith sort registry second = .ok mid)
    (after : mid.sortedWith sort registry first = .ok last) :
    list.sortedWith sort registry (first ++ second) = .ok last := by
  obtain ⟨spelledMid, before⟩ := (sortedWith_eq_ok_iff sort parsedSecond).mp before
  obtain ⟨spelledLast, after⟩ := (sortedWith_eq_ok_iff sort (spelledMid ▸ parsedFirst)).mp after
  have parsed : parseSortKeys list.spelling (first ++ second) = .ok (firstKeys ++ secondKeys) :=
    mapM_eq_ok_iff.mpr (List.rel_append (mapM_eq_ok_iff.mp parsedFirst) (mapM_eq_ok_iff.mp parsedSecond))
  exact (sortedWith_eq_ok_iff sort parsed).mpr ⟨spelledLast.trans spelledMid,
    sortByKeys_append sort freeFirst freeSecond before after⟩

/-- The key of the second number. -/
def ascendingN : SortKey := ⟨⟨["n"], by decide, by decide⟩, .ascending⟩

theorem sortedWith_append_outerTie : outerTie.sortedWith .insertion .empty ["n", "-m"] =
    .ok { records := [pair 1 2 0, pair 2 1 0, pair 3 2 1] } := by
  have parsedN : parseSortKeys outerTie.spelling ["n"] = .ok [ascendingN] := by decide
  have parsedM : parseSortKeys outerTie.spelling ["-m"] = .ok [descendingM] := by decide
  have before : outerTie.sortedWith .insertion .empty ["-m"] =
      .ok { records := [pair 1 2 0, pair 3 2 1, pair 2 1 0] } := rfl
  exact sortedWith_append .insertion parsedN parsedM (by decide) (by decide) before rfl

end RecordList

end RecordQuery
