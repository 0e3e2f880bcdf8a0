import RecordQuery.Proofs.Ordering.Sorted

/-!
The columns of a sort, one for each key. A column is asked only for records that tie in all columns in
front of it. So a sort succeeds just where the values of every such pair compare: in the first column
all pairs do, while a later one may hold values that do not, where records differ before it.
-/

namespace RecordQuery

/-- The values of a key from two records compare. -/
def ComparableBy (registry : Registry) (key : SortKey) (r s : Record) : Prop :=
  ∃ v w, key.path.resolve registry r = .ok v ∧ key.path.resolve registry s = .ok w ∧ ∃ o, v.compare? w = some o

/-- The records compare by each key for which the keys in front of it tie. -/
def ComparableInTurn (registry : Registry) (keys : List SortKey) (r s : Record) : Prop :=
  ∀ earlier key later, keys = earlier ++ key :: later →
    compareRecords registry earlier r s = .ok .eq → ComparableBy registry key r s

section
variable {registry : Registry} {key : SortKey} {keys : List SortKey} {r s : Record}

theorem comparable_singleton_iff (hr : Resolves registry [key] r) (hs : Resolves registry [key] s) :
    Comparable (compareRecords registry [key]) r s ↔ ComparableBy registry key r s := by
  obtain ⟨v, hv⟩ := hr key List.mem_cons_self
  obtain ⟨w, hw⟩ := hs key List.mem_cons_self
  have outcome : (compareRecords registry [key] r s).toOption = (v.compare? w).map key.direction.apply := by
    have rowR : keyValues registry [key] r = .ok [v] := keyValues_eq_ok_iff.mpr (.cons hv .nil)
    have rowS : keyValues registry [key] s = .ok [w] := keyValues_eq_ok_iff.mpr (.cons hw .nil)
    rw [compareRecords_eq rowR rowS, compareRows_cons, breakTie_toOption, key.compare_toOption]
    rcases (v.compare? w).map key.direction.apply with _ | _ | _ | _ <;> rfl
  constructor
  · rintro ⟨o, answer⟩
    rw [← toOption_eq_some_iff, outcome, Option.map_eq_some_iff] at answer
    obtain ⟨o, answer, -⟩ := answer
    exact ⟨v, w, hv, hw, o, answer⟩
  · rintro ⟨v', w', hv', hw', o, answer⟩
    cases hv.symm.trans hv'
    cases hw.symm.trans hw'
    rw [answer] at outcome
    exact ⟨_, toOption_eq_some_iff.mp outcome⟩

theorem compareRecords_cons (hr : Resolves registry (key :: keys) r) (hs : Resolves registry (key :: keys) s) :
    compareRecords registry (key :: keys) r s =
      breakTie (compareRecords registry [key] r s) (compareRecords registry keys r s) :=
  compareRecords_append (show Resolves registry ([key] ++ keys) r from hr) hs

theorem comparableInTurn_cons_iff (hr : Resolves registry (key :: keys) r)
    (hs : Resolves registry (key :: keys) s) : ComparableInTurn registry (key :: keys) r s ↔
      ComparableBy registry key r s ∧
        (compareRecords registry [key] r s = .ok .eq → ComparableInTurn registry keys r s) := by
  -- In front of a later key stand the first key and those between.
  have front : ∀ {earlier other later}, keys = earlier ++ other :: later →
      (compareRecords registry (key :: earlier) r s = .ok .eq ↔
        compareRecords registry [key] r s = .ok .eq ∧ compareRecords registry earlier r s = .ok .eq) := by
    rintro earlier other later rfl
    have sub : ∀ k ∈ key :: earlier, k ∈ key :: (earlier ++ other :: later) :=
      ((List.sublist_append_left earlier _).cons_cons key).subset
    rw [compareRecords_cons (fun k hk => hr k (sub k hk)) (fun k hk => hs k (sub k hk)), breakTie_eq_tie_iff]
  constructor
  · intro all
    refine ⟨all [] key keys rfl rfl, fun tie earlier other later split ties => ?_⟩
    exact all (key :: earlier) other later (congrArg (key :: ·) split) ((front split).mpr ⟨tie, ties⟩)
  · rintro ⟨first, rest⟩ earlier other later split ties
    cases earlier with
    | nil =>
      cases split
      exact first
    | cons _ earlier =>
      obtain ⟨rfl, behind⟩ := List.cons.inj split
      obtain ⟨tie, ties⟩ := (front behind).mp ties
      exact rest tie earlier other later behind ties

/-- Records compare by some keys just where they compare by each in turn. -/
theorem comparable_iff_inTurn (hr : Resolves registry keys r) (hs : Resolves registry keys s) :
    Comparable (compareRecords registry keys) r s ↔ ComparableInTurn registry keys r s := by
  induction keys with
  | nil =>
    refine iff_of_true ⟨.eq, rfl⟩ fun earlier key later split => ?_
    exact absurd split.symm (by simp)
  | cons key keys ih =>
    obtain ⟨headR, tailR⟩ := List.forall_mem_cons.mp hr
    obtain ⟨headS, tailS⟩ := List.forall_mem_cons.mp hs
    have single := comparable_singleton_iff (List.forall_mem_singleton.mpr headR) (List.forall_mem_singleton.mpr headS)
    rw [Comparable, compareRecords_cons hr hs, breakTie_ok_iff, comparableInTurn_cons_iff hr hs, ← single,
      ← ih tailR tailS]
    rfl

end

namespace RecordList
variable {registry : Registry} {list : RecordList} {texts : List String} {keys : List SortKey}

/-- A sort succeeds just where all keys resolve and every two records compare by each key for which the
keys in front of it tie; by the first key, then, all records do. -/
theorem exists_sortedWith_ok_iff_inTurn (sort : StableSort) (parsed : parseSortKeys list.spelling texts = .ok keys)
    (free : ∀ r ∈ list.records, FloatFreeKeys registry keys r) :
    (∃ sorted, list.sortedWith sort registry texts = .ok sorted) ↔
      (∀ r ∈ list.records, Resolves registry keys r) ∧ ∀ i j : Fin list.records.length, i ≠ j →
        ComparableInTurn registry keys (list.records.get i) (list.records.get j) := by
  rw [exists_sortedWith_ok_iff sort parsed free]
  refine and_congr_right fun resolved => ?_
  rw [StableSort.pairwise_comparable_iff (coherent_compareRecords resolved free)]
  refine forall₂_congr fun i j => imp_congr_right fun _ => ?_
  exact comparable_iff_inTurn (resolved _ (List.get_mem _ _)) (resolved _ (List.get_mem _ _))

/-- Two records of one first number, which go by the second. -/
theorem exists_sortedWith_ok_iff_inTurn_outerTie : ComparableBy .empty ascendingN (pair 1 2 0) (pair 3 2 1) := by
  have parsed : parseSortKeys outerTie.spelling ["-m", "n"] = .ok [descendingM, ascendingN] := by decide
  have free : ∀ r ∈ outerTie.records, FloatFreeKeys .empty [descendingM, ascendingN] r := by decide
  have inTurn := (exists_sortedWith_ok_iff_inTurn .insertion parsed free).mp ⟨_, rfl⟩
  exact inTurn.2 ⟨0, by decide⟩ ⟨2, by decide⟩ (by decide) [descendingM] ascendingN [] rfl (by decide)

/-- A record of a number and one of null under the second name, and of different numbers under the first. -/
def mixedSecond : RecordList :=
  { records := [pair 1 2 0, .map 2 [("m", .number (.signed 1)), ("n", .null)]] }

/-- A sort by a first key without ties does not ask for the second, whose values need not compare. -/
theorem sortedWith_mixedSecond :
    parseSortKeys mixedSecond.spelling ["-m", "n"] = .ok [descendingM, ascendingN] ∧
    mixedSecond.sortedWith .insertion .empty ["-m", "n"] = .ok mixedSecond ∧
    ¬ ComparableBy .empty ascendingN (mixedSecond.records.get ⟨0, by decide⟩)
      (mixedSecond.records.get ⟨1, by decide⟩) := by
  refine ⟨by decide, rfl, ?_⟩
  rintro ⟨v, w, hv, hw, o, outcome⟩
  cases hv
  cases hw
  cases outcome

end RecordList

end RecordQuery
