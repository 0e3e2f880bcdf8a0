import Mathlib.Data.List.Perm.Basic
import RecordQuery.Proofs.Selection.Partition

/-!
Lookups of several calls and in several orders. A list of lookups is read one by one, so that reading
two lists in turn and reading them joined fail alike; and a selection keeps a record by all of the
conditions together, in whatever order and in however many calls they are asked.
-/

namespace RecordQuery

section
variable [PatternEngine] {spelling : Spelling} {registry : Registry} {first second shuffled : List Lookup}
  {conditions : List Condition}

theorem conditionsOf_eq_mapM (lookups : List Lookup) :
    conditionsOf spelling registry lookups = lookups.mapM (·.condition spelling registry) := by
  induction lookups with
  | nil => rfl
  | cons lookup lookups ih => rw [conditionsOf, List.mapM_cons, ih]

theorem conditionsOf_eq_ok_iff {lookups : List Lookup} : conditionsOf spelling registry lookups = .ok conditions ↔
    List.Forall₂ (fun lookup condition => lookup.condition spelling registry = .ok condition) lookups conditions := by
  rw [conditionsOf_eq_mapM, mapM_eq_ok_iff]

theorem exists_lookup_of_mem {lookups : List Lookup} {condition : Condition}
    (read : conditionsOf spelling registry lookups = .ok conditions) (mem : condition ∈ conditions) :
    ∃ lookup ∈ lookups, lookup.condition spelling registry = .ok condition := by
  rw [conditionsOf_eq_ok_iff] at read
  induction read with
  | nil => cases mem
  | @cons lookup _ lookups _ head _ ih =>
    rcases List.mem_cons.mp mem with rfl | mem
    · exact ⟨lookup, List.mem_cons_self, head⟩
    · obtain ⟨later, member, same⟩ := ih mem
      exact ⟨later, List.mem_cons_of_mem _ member, same⟩

theorem conditionsOf_append (first second : List Lookup) :
    conditionsOf spelling registry (first ++ second) = (do
      let earlier ← conditionsOf spelling registry first
      let later ← conditionsOf spelling registry second
      return earlier ++ later) := by
  simp only [conditionsOf_eq_mapM, List.mapM_append]

/-- Lookups in another order are read as the same conditions in that order. -/
theorem conditionsOf_perm (perm : shuffled.Perm first)
    (read : conditionsOf spelling registry first = .ok conditions) :
    ∃ moved, conditionsOf spelling registry shuffled = .ok moved ∧ moved.Perm conditions := by
  simp only [conditionsOf_eq_mapM, mapM_eq_ok_iff] at *
  obtain ⟨moved, each, same⟩ := List.perm_comp_forall₂ perm read
  exact ⟨moved, each, same⟩

/-- Two lists of lookups are both read, or the first lookup of them that cannot be read decides. -/
theorem conditionsOf_append_cases (spelling : Spelling) (registry : Registry) (first second : List Lookup) :
    (∃ earlier later, conditionsOf spelling registry first = .ok earlier ∧
      conditionsOf spelling registry second = .ok later ∧
      conditionsOf spelling registry (first ++ second) = .ok (earlier ++ later)) ∨
    ∃ e, conditionsOf spelling registry (first ++ second) = .error e ∧
      (conditionsOf spelling registry first = .error e ∨
        (∃ earlier, conditionsOf spelling registry first = .ok earlier) ∧
          conditionsOf spelling registry second = .error e) := by
  rw [conditionsOf_append]
  cases conditionsOf spelling registry first with
  | error e => exact Or.inr ⟨e, rfl, Or.inl rfl⟩
  | ok earlier =>
    cases conditionsOf spelling registry second with
    | error e => exact Or.inr ⟨e, rfl, Or.inr ⟨⟨earlier, rfl⟩, rfl⟩⟩
    | ok later => exact Or.inl ⟨earlier, later, rfl, rfl, rfl⟩

end

namespace RecordList

section
variable [PatternEngine] {registry : Registry} {list : RecordList} {first second : List Lookup}
  {earlier later : List Condition}

/-- What is kept has the spelling of the list, so that further lookups are read as on the list. -/
theorem keeping_keeping (default : registry.hasComparator defaultOperator)
    (readFirst : conditionsOf list.spelling registry first = .ok earlier)
    (readSecond : conditionsOf list.spelling registry second = .ok later) (keep : Bool) :
    (list.keeping registry first keep >>= fun kept => kept.keeping registry second keep) =
      .ok { list with records := list.records.filter fun r =>
        (earlier.all (·.met registry r) == keep) && (later.all (·.met registry r) == keep) } := by
  let kept : RecordList :=
    { list with records := list.records.filter fun r => earlier.all (·.met registry r) == keep }
  have readKept : conditionsOf kept.spelling registry second = .ok later := readSecond
  refine bind_eq_ok_iff.mpr ⟨kept, keeping_eq_ok default readFirst keep, ?_⟩
  rw [keeping_eq_ok default readKept keep, List.filter_filter]
  simp only [Bool.and_comm]
  rfl

theorem keeping_keeping_eq_error (default : registry.hasComparator defaultOperator) {e : Failure}
    (failed : conditionsOf list.spelling registry first = .error e ∨
      (∃ earlier, conditionsOf list.spelling registry first = .ok earlier) ∧
        conditionsOf list.spelling registry second = .error e) (keep : Bool) :
    (list.keeping registry first keep >>= fun kept => kept.keeping registry second keep) = .error e := by
  rcases failed with failed | ⟨⟨earlier, read⟩, failed⟩
  · rw [keeping_eq_error failed keep]
    rfl
  · let kept : RecordList :=
      { list with records := list.records.filter fun r => earlier.all (·.met registry r) == keep }
    have failedKept : conditionsOf kept.spelling registry second = .error e := failed
    rw [keeping_eq_ok default read keep]
    exact keeping_eq_error failedKept keep

/-- Under every registry that registrations can lead to: two calls that keep what meets their lookups are
one call with all of them, failures included; the order of lookups that can be read makes no difference;
and all lookups in one call drop what meets them all, in two calls what meets those of either. -/
theorem filter_exclude_conjunction (history : List Registration) (list : RecordList)
    (first second : List Lookup) :
    let registry := Registry.standard.after history
    (list.filter registry first >>= fun kept => kept.filter registry second) =
      list.filter registry (first ++ second) ∧
    (∀ shuffled conditions, shuffled.Perm first → conditionsOf list.spelling registry first = .ok conditions →
      ∃ kept dropped, list.filter registry first = .ok kept ∧ list.filter registry shuffled = .ok kept ∧
        list.exclude registry first = .ok dropped ∧ list.exclude registry shuffled = .ok dropped) ∧
    ((∃ e, conditionsOf list.spelling registry (first ++ second) = .error e ∧
      list.exclude registry (first ++ second) = .error e ∧
      (list.exclude registry first >>= fun kept => kept.exclude registry second) = .error e) ∨
    ∃ byFirst bySecond, list.exclude registry first = .ok (list.atPlaces byFirst) ∧
      list.exclude registry second = .ok (list.atPlaces bySecond) ∧
      list.exclude registry (first ++ second) = .ok (list.atPlaces fun i => byFirst i || bySecond i) ∧
      (list.exclude registry first >>= fun kept => kept.exclude registry second) =
        .ok (list.atPlaces fun i => byFirst i && bySecond i)) := by
  intro registry
  have default : registry.hasComparator defaultOperator := Registry.hasComparator_default history
  refine ⟨?_, fun shuffled conditions perm read => ?_, ?_⟩
  · rcases conditionsOf_append_cases list.spelling registry first second with
      ⟨earlier, later, readFirst, readSecond, read⟩ | ⟨e, failed, either⟩
    · refine (keeping_keeping default readFirst readSecond true).trans ?_
      rw [filter, keeping_eq_ok default read]
      simp only [List.all_append, beq_true]
    · exact (keeping_keeping_eq_error default either true).trans (keeping_eq_error failed true).symm
  · obtain ⟨moved, readShuffled, same⟩ := conditionsOf_perm perm read
    have meets : ∀ r, moved.all (·.met registry r) = conditions.all (·.met registry r) := fun r => same.all_eq
    have places := filter_exclude_of_keeping (keeping_eq_atPlaces default readShuffled)
    simp only [meets] at places
    obtain ⟨kept, dropped⟩ := filter_exclude_of_keeping (keeping_eq_atPlaces default read)
    exact ⟨_, _, kept, places.1, dropped, places.2⟩
  · rcases conditionsOf_append_cases list.spelling registry first second with
      ⟨earlier, later, readFirst, readSecond, read⟩ | ⟨e, failed, either⟩
    · have places := (filter_exclude_of_keeping (keeping_eq_atPlaces default read)).2
      refine Or.inr ⟨_, _, (filter_exclude_of_keeping (keeping_eq_atPlaces default readFirst)).2,
        (filter_exclude_of_keeping (keeping_eq_atPlaces default readSecond)).2, ?_, ?_⟩
      · simpa only [List.all_append, Bool.not_and] using places
      · refine (keeping_keeping default readFirst readSecond false).trans ?_
        rw [list.atPlaces_eq fun r => !earlier.all (·.met registry r) && !later.all (·.met registry r)]
        simp only [beq_false]
    · exact Or.inl ⟨e, failed, keeping_eq_error failed false, keeping_keeping_eq_error default either false⟩

end

theorem filter_exclude_conjunction_anyZero : ∃ kept dropped,
    oneField.filter (Registry.standard.after [anyTest]) anyZero = .ok kept ∧
    oneField.filter (Registry.standard.after [anyTest]) anyZero.reverse = .ok kept ∧
    oneField.exclude (Registry.standard.after [anyTest]) anyZero = .ok dropped ∧
    oneField.exclude (Registry.standard.after [anyTest]) anyZero.reverse = .ok dropped :=
  (filter_exclude_conjunction [anyTest] oneField anyZero anyZero).2.1 anyZero.reverse _ anyZero.reverse_perm
    conditionsOf_anyZero

end RecordList

end RecordQuery
