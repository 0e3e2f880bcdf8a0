import RecordQuery.Proofs.Ordering.Rows
import RecordQuery.Proofs.Selection.Alike

/-!
The sort of lists of equal records by the same keys. The values of the keys are alike, and so is every
comparison of them, from which alone a sort learns where records go.
-/

namespace RecordQuery

section
variable {around : Record → Prop}

theorem SortKey.compare_eq (key : SortKey) {v w v' w' : Value} (hv : v.Alike around v')
    (hw : w.Alike around w') : key.compare v w = key.compare v' w' := by
  rw [SortKey.compare, SortKey.compare, hv.compare?_eq hw, hv.kind_eq, hw.kind_eq]

theorem compareRows_eq (keys : List SortKey) {as bs as' bs' : List Value}
    (ha : List.Forall₂ (Value.Alike around) as as') (hb : List.Forall₂ (Value.Alike around) bs bs') :
    compareRows keys as bs = compareRows keys as' bs' := by
  induction keys generalizing as bs as' bs' with
  | nil => rfl
  | cons key keys ih =>
    cases ha with
    | nil => rfl
    | cons headA ha =>
      cases hb with
      | nil => rfl
      | cons headB hb => rw [compareRows_cons, compareRows_cons, key.compare_eq headA headB, ih ha hb]

variable {registry : Registry} (population : Population around) (faithful : registry.Faithful around)
include population faithful

theorem keyValues_parallel {r s : Record} (rs : r.Alike around s) (keys : List SortKey) :
    Parallel (List.Forall₂ (Value.Alike around)) (keyValues registry keys r) (keyValues registry keys s) := by
  refine .mapM (R := Eq) (List.forall₂_eq_eq_eq ▸ rfl) ?_
  rintro key _ rfl
  exact Path.resolve_parallel population faithful rs key.path

theorem sortByKeys_parallel (sort : StableSort) (keys : List SortKey) {records others : List Record}
    (each : List.Forall₂ (Record.Alike around) records others) :
    Parallel (List.Forall₂ (Record.Alike around)) (sortByKeys sort registry keys records)
      (sortByKeys sort registry keys others) := by
  let Row (a b : List Value × Record) : Prop := List.Forall₂ (Value.Alike around) a.1 b.1 ∧ a.2.Alike around b.2
  have rows : Parallel (List.Forall₂ Row)
      (records.mapM fun r => (keyValues registry keys r).map fun values => (values, r))
      (others.mapM fun r => (keyValues registry keys r).map fun values => (values, r)) := by
    refine .mapM each fun r s rs => ?_
    exact (keyValues_parallel population faithful rs keys).map fun as bs alike => ⟨alike, rs⟩
  refine rows.bind fun as bs alike => ?_
  refine (sort.apply_parallel alike fun a b a' b' ha hb => ?_).bind fun cs ds sorted => ?_
  · exact compareRows_eq keys ha.1 hb.1
  · refine .ok ?_
    rw [List.forall₂_map_left_iff, List.forall₂_map_right_iff]
    exact sorted.imp fun c d row => row.2

theorem RecordList.sortedWith_parallel (sort : StableSort) {list other : RecordList} (h : list.Alike around other)
    (texts : List String) : Parallel (RecordList.Alike around) (list.sortedWith sort registry texts)
      (other.sortedWith sort registry texts) := by
  unfold RecordList.sortedWith
  rw [h.spelling]
  cases parseSortKeys other.spelling texts with
  | error e => exact .error e
  | ok keys =>
    refine (sortByKeys_parallel population faithful sort keys h.each).bind fun records others sorted => ?_
    exact .ok ⟨rfl, sorted⟩

end

end RecordQuery
