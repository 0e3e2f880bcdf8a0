import RecordQuery.Proofs.Ordering.Alike

/-!
Queries on equal data. Among records that hold integers only, whatever represents these and whichever
handles the maps have, equal lists and equal lookups give equal results: the same places are selected,
and the same orderings succeed, with lists that are equal again.
-/

namespace RecordQuery

/-- Equality is a congruence of the paths and operators of a registry, among the records around and the
values that have no double in them. -/
structure Registry.Congruent (around : Record → Prop) (registry : Registry) : Prop where
  path : ∀ (path : Path) r s, around r → around s → r.same s = true →
    Parallel (fun v w => v.same w = true) (path.resolve registry r) (path.resolve registry s)
  comparator : ∀ name c, registry.comparator? name = some c → ∀ v w v' w' : Value,
    v.Plain around → w.Plain around → v'.Plain around → w'.Plain around →
    v.same v' = true → w.same w' = true → c v w = c v' w'
  transform : ∀ name t, registry.transform? name = some t → ∀ v w : Value,
    v.Plain around → w.Plain around → v.same w = true → Option.Rel (fun v w => v.same w = true) (t v) (t w)

/-- The records that a query on some records by some lookups can come upon. -/
def Record.Involved (records : List Record) (lookups : List Lookup) : Record → Prop :=
  Record.Reached fun r => r ∈ records ∨ ∃ lookup ∈ lookups, r ∈ lookup.expected.records

theorem Record.involved_of_mem {records : List Record} {lookups : List Lookup} :
    ∀ r ∈ records, Record.Involved records lookups r := fun _ mem => .root (Or.inl mem)

/-- No double is involved in a query, neither as a value expected nor as one that a record holds, and one
handle stands for one record. -/
structure IntegerData (records : List Record) (lookups : List Lookup) : Prop where
  held : ∀ r, Record.Involved records lookups r → ∀ v : Value, r.Holds v → v.floatFree = true
  expected : ∀ lookup ∈ lookups, lookup.expected.floatFree = true
  handle : ∀ r s, Record.Involved records lookups r → Record.Involved records lookups s →
    r.identical s = true → r = s

theorem Registry.Faithful.congruent {around : Record → Prop} {registry : Registry}
    (population : Population around) (faithful : registry.Faithful around) : registry.Congruent around where
  path path r s hr hs same :=
    (Path.resolve_parallel population faithful ⟨hr, hs, same⟩ path).imp fun _ _ alike => alike.same
  comparator name c found v w v' w' hv hw hv' hw' sameV sameW :=
    faithful.comparator name c found v w v' w' (Value.alike_of_same hv hv' sameV)
      (Value.alike_of_same hw hw' sameW)
  transform name t found v w hv hw same := by
    have derived := faithful.transform name t found v w (Value.alike_of_same hv hw same)
    generalize t v = x at derived ⊢
    generalize t w = y at derived ⊢
    cases derived with
    | none => exact .none
    | some alike => exact .some alike.same

namespace IntegerData
variable {records : List Record} {lookups : List Lookup} (data : IntegerData records lookups)
include data

theorem population : Population (Record.Involved records lookups) :=
  population_reached data.held data.handle

theorem plain_expected : ∀ lookup ∈ lookups, lookup.expected.Plain (Record.Involved records lookups) :=
  fun lookup hl => ⟨data.expected lookup hl, fun _ mem => .root (Or.inr ⟨lookup, hl, mem⟩)⟩

end IntegerData

namespace RecordList

theorem same_iff {list other : RecordList} : list.same other = true ↔
    List.Forall₂ (fun r s : Record => r.same s = true) list.records other.records := by
  rw [List.forall₂_iff_zip, RecordList.same, Bool.and_eq_true, beq_iff_eq, List.all_eq_true]
  simp only [Prod.forall]

theorem alike_of_pairwise {around : Record → Prop} {records others : List Record}
    (there : ∀ r ∈ records ++ others, around r)
    (same : List.Forall₂ (fun r s : Record => r.same s = true) records others) :
    List.Forall₂ (Record.Alike around) records others := by
  rw [List.forall₂_iff_zip] at same ⊢
  refine ⟨same.1, fun pair => ?_⟩
  obtain ⟨hr, hs⟩ := List.of_mem_zip pair
  exact ⟨there _ (List.mem_append_left _ hr), there _ (List.mem_append_right _ hs), same.2 pair⟩

/-- Under the standard registry, of two lists of equal records equal lookups keep the same places and drop
the same, and the same orderings give equal lists, or there is the same failure instead; for equality is a
congruence of all that a query does with values. -/
theorem equal_results_of_equal_data [PatternEngine] (sort : StableSort) (spelling : Spelling)
    {records others : List Record} {lookups otherLookups : List Lookup}
    (data : IntegerData (records ++ others) (lookups ++ otherLookups))
    (same : List.Forall₂ (fun r s : Record => r.same s = true) records others)
    (asked : sameLookups lookups otherLookups = true) (texts : List String) :
    let list : RecordList := ⟨records, spelling⟩
    let other : RecordList := ⟨others, spelling⟩
    ((∃ e, list.filter .standard lookups = .error e ∧ list.exclude .standard lookups = .error e ∧
        other.filter .standard otherLookups = .error e ∧ other.exclude .standard otherLookups = .error e) ∨
      ∃ met : Nat → Bool,
        list.filter .standard lookups = .ok (list.atPlaces fun i => met i) ∧
        list.exclude .standard lookups = .ok (list.atPlaces fun i => !met i) ∧
        other.filter .standard otherLookups = .ok (other.atPlaces fun i => met i) ∧
        other.exclude .standard otherLookups = .ok (other.atPlaces fun i => !met i)) ∧
    ((∃ e, list.sortedWith sort .standard texts = .error e ∧ other.sortedWith sort .standard texts = .error e) ∨
      ∃ sorted otherSorted, list.sortedWith sort .standard texts = .ok sorted ∧
        other.sortedWith sort .standard texts = .ok otherSorted ∧ sorted.same otherSorted = true) ∧
    Registry.standard.Congruent (Record.Involved (records ++ others) (lookups ++ otherLookups)) := by
  intro list other
  have population := data.population
  have faithful := Registry.faithful_standard population
  have alike : list.Alike (Record.Involved (records ++ others) (lookups ++ otherLookups)) other :=
    ⟨rfl, alike_of_pairwise Record.involved_of_mem same⟩
  obtain ⟨expected, otherExpected⟩ := List.forall_mem_append.mp data.plain_expected
  refine ⟨?_, ?_, faithful.congruent population⟩
  · exact selections_alike population faithful alike
      (alike_of_sameLookups expected otherExpected asked)
  · rcases (sortedWith_parallel population faithful sort alike texts).cases_ok_error with
      failed | ⟨sorted, otherSorted, left, right, result⟩
    · exact Or.inl failed
    · exact Or.inr ⟨sorted, otherSorted, left, right, same_iff.mpr (result.each.imp fun _ _ rs => rs.same)⟩

/-- Two records, of which the one has the other in a list and numbers whose sum exceeds the integers. -/
def nested (first second : Nat) (one two : Number) : List Record :=
  let low : Record := .map first [("n", .number one)]
  [.map second [("n", .number two), ("others", .list [.record low]),
    ("shares", .list [.number (.unsigned 18446744073709551615), .number one])], low]

/-- The nested records in both representations. -/
def eitherNested : List Record := nested 1 2 (.signed 1) (.signed 2) ++ nested 3 4 (.unsigned 1) (.unsigned 2)

/-- The lookups of a sum that exceeds a number, in both representations. -/
def eitherAbove : List Lookup :=
  [⟨.spelled "shares__sum__gt", .number (.signed 1)⟩] ++ [⟨.spelled "shares__sum__gt", .number (.unsigned 1)⟩]

theorem plain_eitherNested : ∀ r ∈ eitherNested, ∀ v, r.Holds v → v.Plain (· ∈ eitherNested) := by
  simp [eitherNested, nested, Record.plain_map_iff, Value.plain_list_iff, Value.plain_record_iff,
    Value.plain_number_iff, Number.toInt?]

theorem mem_of_involved {r : Record} (involved : Record.Involved eitherNested eitherAbove r) :
    r ∈ eitherNested := by
  induction involved with
  | root start =>
    rcases start with mem | ⟨lookup, hl, mem⟩
    · exact mem
    · have none : ∀ lookup ∈ eitherAbove, lookup.expected.records = [] := by simp [eitherAbove, Value.records]
      rw [none lookup hl] at mem
      cases mem
  | inner outer held mem ih => exact (plain_eitherNested _ ih _ held).2 _ mem

theorem integerData_nested : IntegerData eitherNested eitherAbove where
  held r hr v held := (plain_eitherNested r (mem_of_involved hr) v held).1
  expected := by decide
  handle r s hr hs identical := by
    have hr := mem_of_involved hr
    have hs := mem_of_involved hs
    simp only [eitherNested, nested, List.cons_append, List.nil_append, List.mem_cons, List.not_mem_nil,
      or_false] at hr hs
    -- Four handles stand for four records.
    rcases hr with rfl | rfl | rfl | rfl <;> rcases hs with rfl | rfl | rfl | rfl <;>
      first | rfl | cases identical

theorem conditionsOf_above :
    conditionsOf .standard .standard [⟨.spelled "shares__sum__gt", .number (.signed 1)⟩] =
      .ok [⟨⟨["shares", "sum"], by decide, by decide⟩, "gt", .number (.signed 1), none⟩] := rfl

theorem equal_results_of_equal_data_nested :
    let list : RecordList := ⟨nested 1 2 (.signed 1) (.signed 2), .standard⟩
    let other : RecordList := ⟨nested 3 4 (.unsigned 1) (.unsigned 2), .standard⟩
    IntegerData (list.records ++ other.records) eitherAbove ∧ list.same other = true ∧
    (∃ met : Nat → Bool,
      list.filter .standard [⟨.spelled "shares__sum__gt", .number (.signed 1)⟩] =
        .ok (list.atPlaces fun i => met i) ∧
      other.filter .standard [⟨.spelled "shares__sum__gt", .number (.unsigned 1)⟩] =
        .ok (other.atPlaces fun i => met i)) ∧
    ∃ sorted otherSorted, list.sortedBy .standard ["n"] = .ok sorted ∧
      other.sortedBy .standard ["n"] = .ok otherSorted ∧ sorted.same otherSorted = true := by
  intro list other
  have same : list.same other = true := by decide
  obtain ⟨selection, order, -⟩ :=
    equal_results_of_equal_data .insertion .standard integerData_nested (same_iff.mp same) (by decide) ["n"]
  refine ⟨integerData_nested, same, ?_, ?_⟩
  · rcases selection with ⟨e, failed, -⟩ | ⟨met, kept, -, otherKept, -⟩
    · cases failed.symm.trans (keeping_eq_atPlaces Registry.hasComparator_standard conditionsOf_above true)
    · exact ⟨met, kept, otherKept⟩
  · rcases order with ⟨e, failed, -⟩ | sorted
    · have done : (list.sortedWith .insertion .standard ["n"]).isOk = true := by decide
      rw [failed] at done
      cases done
    · exact sorted

end RecordList

end RecordQuery
