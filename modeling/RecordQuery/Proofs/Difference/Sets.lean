import Mathlib.Data.List.Sort
import RecordQuery.Difference

/-!
The symmetric difference of two lists taken as sets. The items of the first set are gone through, and each takes
its counterpart out of the second set or else is found in the first alone. What is then left of the second set is
in that alone. The items are found ascending and each once, so that neither the order of the lists counts nor how
often an item stands in them, nor which of them comes first.
-/

namespace RecordQuery

section
variable {α : Type} [Ord α] [Std.LawfulEqOrd α] {x y : α} {as bs items others done : List α} {u : Unmatched α}

/-! ### Items put in -/

theorem mem_insertOnce : y ∈ insertOnce x items ↔ y = x ∨ y ∈ items := by
  induction items with
  | nil => rw [insertOnce, List.mem_cons]
  | cons z items ih =>
    unfold insertOnce
    split
    · exact List.mem_cons
    · next same =>
      obtain rfl : x = z := Std.LawfulEqOrd.eq_of_compare same
      rw [List.mem_cons, ← or_assoc, or_self]
    · rw [List.mem_cons, ih, List.mem_cons, or_left_comm]

theorem mem_foldr_insertOnce : x ∈ items.foldr insertOnce others ↔ x ∈ items ∨ x ∈ others := by
  induction items with
  | nil => exact (or_iff_right List.not_mem_nil).symm
  | cons y items ih => rw [List.foldr_cons, mem_insertOnce, ih, List.mem_cons, or_assoc]

theorem mem_sortedSet : x ∈ sortedSet items ↔ x ∈ items :=
  mem_foldr_insertOnce.trans (or_iff_left List.not_mem_nil)

/-! ### Order -/

variable [Std.TransOrd α]

omit [Std.LawfulEqOrd α] in
theorem ascending_cons_cons (before : compare x y = .lt) (ascending : (y :: items).Pairwise (compare · · = .lt)) :
    (x :: y :: items).Pairwise (compare · · = .lt) := by
  refine List.pairwise_cons.mpr ⟨fun z hz => ?_, ascending⟩
  rcases List.mem_cons.mp hz with rfl | later
  · exact before
  · exact Std.TransCmp.lt_trans before (List.rel_of_pairwise_cons ascending later)

theorem ascending_insertOnce (ascending : items.Pairwise (compare · · = .lt)) :
    (insertOnce x items).Pairwise (compare · · = .lt) := by
  induction items with
  | nil => exact List.pairwise_singleton _ x
  | cons z items ih =>
    obtain ⟨first, others⟩ := List.pairwise_cons.mp ascending
    unfold insertOnce
    split
    · next before => exact ascending_cons_cons before ascending
    · exact ascending
    · next after =>
      refine List.pairwise_cons.mpr ⟨fun y hy => ?_, ih others⟩
      rcases mem_insertOnce.mp hy with rfl | later
      · exact Std.OrientedCmp.gt_iff_lt.mp after
      · exact first y later

theorem ascending_foldr_insertOnce (ascending : others.Pairwise (compare · · = .lt)) :
    (items.foldr insertOnce others).Pairwise (compare · · = .lt) := by
  induction items with
  | nil => exact ascending
  | cons y items ih => exact ascending_insertOnce ih

theorem ascending_sortedSet : (sortedSet items).Pairwise (compare · · = .lt) :=
  ascending_foldr_insertOnce List.Pairwise.nil

omit [Std.LawfulEqOrd α] in
theorem nodup_of_ascending (ascending : items.Pairwise (compare · · = .lt)) : items.Nodup := by
  refine ascending.imp fun before same => ?_
  rw [same, Std.ReflOrd.compare_self] at before
  cases before

omit [Std.LawfulEqOrd α] in
/-- Ascending lists of the same items are one list. -/
theorem eq_of_ascending (first : as.Pairwise (compare · · = .lt)) (second : bs.Pairwise (compare · · = .lt))
    (same : ∀ x, x ∈ as ↔ x ∈ bs) : as = bs := by
  have : Std.Asymm fun a b : α => compare a b = .lt := ⟨fun _ _ => Std.OrientedCmp.not_lt_of_lt⟩
  exact first.eq_of_mem_iff second same

/-! ### Items taken out -/

omit [Std.TransOrd α] in
theorem exists_of_takeOut? (taken : takeOut? x items = some others) :
    ∃ before after, items = before ++ x :: after ∧ others = before ++ after := by
  induction items generalizing others with
  | nil => cases taken
  | cons y items ih =>
    unfold takeOut? at taken
    split at taken
    · cases taken
    · next same =>
      obtain rfl : x = y := Std.LawfulEqOrd.eq_of_compare same
      cases taken
      exact ⟨[], _, rfl, rfl⟩
    · obtain ⟨rest, found, rfl⟩ := Option.map_eq_some_iff.mp taken
      obtain ⟨before, after, rfl, rfl⟩ := ih found
      exact ⟨y :: before, after, rfl, rfl⟩

omit [Std.TransOrd α] in
theorem ascending_of_takeOut? (ascending : items.Pairwise (compare · · = .lt))
    (taken : takeOut? x items = some others) : others.Pairwise (compare · · = .lt) := by
  obtain ⟨before, after, rfl, rfl⟩ := exists_of_takeOut? taken
  exact ascending.sublist ((List.sublist_cons_self x after).append_left before)

omit [Std.TransOrd α] in
theorem mem_of_takeOut? (taken : takeOut? x items = some others) : x ∈ items := by
  obtain ⟨before, after, rfl, -⟩ := exists_of_takeOut? taken
  exact List.mem_append_right before List.mem_cons_self

theorem mem_iff_of_takeOut? (ascending : items.Pairwise (compare · · = .lt))
    (taken : takeOut? x items = some others) : y ∈ others ↔ y ∈ items ∧ y ≠ x := by
  obtain ⟨before, after, rfl, rfl⟩ := exists_of_takeOut? taken
  have once := nodup_of_ascending ascending
  have gone : x ∉ before ++ after := (List.nodup_cons.mp (List.nodup_middle.mp once)).1
  rw [List.perm_middle.mem_iff, List.mem_cons]
  constructor
  · intro there
    exact ⟨Or.inr there, fun same => gone (same ▸ there)⟩
  · rintro ⟨rfl | there, different⟩
    · exact absurd rfl different
    · exact there

omit [Std.LawfulEqOrd α] in
/-- The search may end in front of an item that is behind the one looked for, for so are all that follow. -/
theorem not_mem_of_takeOut? (ascending : items.Pairwise (compare · · = .lt)) (missing : takeOut? x items = none) :
    x ∉ items := by
  induction items with
  | nil => exact List.not_mem_nil
  | cons y items ih =>
    unfold takeOut? at missing
    split at missing
    · next before => exact (List.nodup_cons.mp (nodup_of_ascending (ascending_cons_cons before ascending))).1
    · cases missing
    · next after =>
      have later := ih ascending.of_cons (Option.map_eq_none_iff.mp missing)
      refine fun mem => (List.mem_cons.mp mem).elim (fun same => ?_) later
      rw [same, Std.ReflOrd.compare_self] at after
      cases after

/-! ### The first set gone through -/

namespace Unmatched

/-- The items are those without a counterpart when the given part of the first set is done: what is left of the
second set has not been met in this part, and what has been found in it is not in the second set. -/
structure Of (u : Unmatched α) (done bs : List α) : Prop where
  first_ascending : u.first.Pairwise (compare · · = .lt)
  second_ascending : u.second.Pairwise (compare · · = .lt)
  mem_first : ∀ y, y ∈ u.first ↔ y ∈ done ∧ y ∉ bs
  mem_second : ∀ y, y ∈ u.second ↔ y ∈ bs ∧ y ∉ done

/-- An item that comes for the first time finds its counterpart, if the second set has one. -/
theorem Of.add (h : u.Of done bs) (new : x ∉ done) : (u.add x).Of (done ++ [x]) bs := by
  have mem_done (y : α) : y ∈ done ++ [x] ↔ y ∈ done ∨ y = x := by rw [List.mem_append, List.mem_singleton]
  unfold Unmatched.add
  split
  · next others taken =>
    have there : x ∈ bs := ((h.mem_second x).mp (mem_of_takeOut? taken)).1
    refine ⟨h.first_ascending, ascending_of_takeOut? h.second_ascending taken, fun y => ?_, fun y => ?_⟩
    · rw [h.mem_first, mem_done, or_and_right, or_iff_left]
      rintro ⟨rfl, absent⟩
      exact absent there
    · rw [mem_iff_of_takeOut? h.second_ascending taken, h.mem_second, mem_done, not_or, and_assoc]
  · next missing =>
    have absent : x ∉ bs := fun there =>
      not_mem_of_takeOut? h.second_ascending missing ((h.mem_second x).mpr ⟨there, new⟩)
    refine ⟨ascending_insertOnce h.first_ascending, h.second_ascending, fun y => ?_, fun y => ?_⟩
    · rw [mem_insertOnce, h.mem_first, mem_done, or_and_right, or_comm]
      exact or_congr_right ⟨fun same => ⟨same, same ▸ absent⟩, And.left⟩
    · rw [h.mem_second, mem_done, not_or]
      refine and_congr_right fun there => (and_iff_left ?_).symm
      rintro rfl
      exact absent there

theorem Of.foldl (h : u.Of done bs) (once : (done ++ items).Nodup) :
    (items.foldl Unmatched.add u).Of (done ++ items) bs := by
  -- An item that came a second time would not find its counterpart any more, and would be taken for one alone.
  induction items generalizing u done with
  | nil =>
    rw [List.append_nil]
    exact h
  | cons x items ih =>
    have new : x ∉ done := fun there => (List.nodup_append.mp once).2.2 x there x List.mem_cons_self rfl
    rw [List.append_cons] at once ⊢
    exact ih (h.add new) once

/-- No item of the first set comes twice, for that set has each once. -/
theorem of_sortedSet (as bs : List α) :
    ((sortedSet as).foldl Unmatched.add ⟨[], sortedSet bs⟩).Of (sortedSet as) (sortedSet bs) := by
  have start : Unmatched.Of ⟨[], sortedSet bs⟩ [] (sortedSet bs) :=
    ⟨List.Pairwise.nil, ascending_sortedSet, fun y => by simp, fun y => by simp⟩
  exact start.foldl (nodup_of_ascending ascending_sortedSet)

end Unmatched

/-! ### Items of one list alone -/

theorem mem_symmetricDifference :
    x ∈ symmetricDifference as bs ↔ x ∈ as ∧ x ∉ bs ∨ x ∈ bs ∧ x ∉ as := by
  have unmatched := Unmatched.of_sortedSet as bs
  rw [symmetricDifference, mem_foldr_insertOnce, unmatched.mem_first, unmatched.mem_second, mem_sortedSet,
    mem_sortedSet, or_comm]

theorem ascending_symmetricDifference : (symmetricDifference as bs).Pairwise (compare · · = .lt) :=
  ascending_foldr_insertOnce (Unmatched.of_sortedSet as bs).first_ascending

theorem symmetricDifference_eq_nil_iff : symmetricDifference as bs = [] ↔ ∀ x, x ∈ as ↔ x ∈ bs := by
  rw [List.eq_nil_iff_forall_not_mem]
  refine forall_congr' fun x => ?_
  rw [mem_symmetricDifference]
  tauto

theorem symmetricDifference_comm (as bs : List α) : symmetricDifference as bs = symmetricDifference bs as := by
  refine eq_of_ascending ascending_symmetricDifference ascending_symmetricDifference fun x => ?_
  exact mem_symmetricDifference.trans (or_comm.trans mem_symmetricDifference.symm)

/-- Only the items of the lists count, and not their order nor how often they stand there. -/
theorem symmetricDifference_congr {as' bs' : List α} (first : ∀ x, x ∈ as' ↔ x ∈ as)
    (second : ∀ x, x ∈ bs' ↔ x ∈ bs) : symmetricDifference as' bs' = symmetricDifference as bs := by
  refine eq_of_ascending ascending_symmetricDifference ascending_symmetricDifference fun x => ?_
  rw [mem_symmetricDifference, mem_symmetricDifference, first, second]

/-- The symmetric difference has the items that are in one list and not in the other, ascending and each once. It
is the same for the lists exchanged, and for lists with the same items in another order or more often. Nothing is
in it just where the lists have the same items. -/
theorem symmetricDifference_exactly_alone (as bs : List α) :
    (∀ x, x ∈ symmetricDifference as bs ↔ x ∈ as ∧ x ∉ bs ∨ x ∈ bs ∧ x ∉ as) ∧
      (symmetricDifference as bs).Pairwise (compare · · = .lt) ∧ (symmetricDifference as bs).Nodup ∧
      symmetricDifference bs as = symmetricDifference as bs ∧
      (∀ as' bs', (∀ x, x ∈ as' ↔ x ∈ as) → (∀ x, x ∈ bs' ↔ x ∈ bs) →
        symmetricDifference as' bs' = symmetricDifference as bs) ∧
      (symmetricDifference as bs = [] ↔ ∀ x, x ∈ as ↔ x ∈ bs) := by
  have ascending : (symmetricDifference as bs).Pairwise (compare · · = .lt) := ascending_symmetricDifference
  refine ⟨fun x => mem_symmetricDifference, ascending, nodup_of_ascending ascending, ?_, ?_, ?_⟩
  · exact symmetricDifference_comm bs as
  · intro as' bs' first second
    exact symmetricDifference_congr first second
  · exact symmetricDifference_eq_nil_iff

end

theorem symmetricDifference_exactly_alone_repeated :
    symmetricDifference ["3", "2", "1"] ["1", "2", "4"] = ["3", "4"] ∧
      symmetricDifference ["1", "2", "4"] ["3", "2", "1"] = ["3", "4"] ∧
      symmetricDifference ["1", "3", "2", "3"] ["4", "1", "1", "2"] = ["3", "4"] ∧
      ∀ x : String, x ∈ ["3", "4"] ↔
        x ∈ ["3", "2", "1"] ∧ x ∉ ["1", "2", "4"] ∨ x ∈ ["1", "2", "4"] ∧ x ∉ ["3", "2", "1"] := by
  have found : symmetricDifference ["3", "2", "1"] ["1", "2", "4"] = ["3", "4"] := by decide
  obtain ⟨exactly, -, -, exchanged, rearranged, -⟩ :=
    symmetricDifference_exactly_alone ["3", "2", "1"] ["1", "2", "4"]
  have first : ["1", "3", "2", "3"] ⊆ ["3", "2", "1"] ∧ ["3", "2", "1"] ⊆ ["1", "3", "2", "3"] := by decide
  have second : ["4", "1", "1", "2"] ⊆ ["1", "2", "4"] ∧ ["1", "2", "4"] ⊆ ["4", "1", "1", "2"] := by decide
  refine ⟨found, exchanged.trans found, ?_, found ▸ exactly⟩
  exact (rearranged _ _ (fun x => ⟨@first.1 x, @first.2 x⟩) fun x => ⟨@second.1 x, @second.2 x⟩).trans found

end RecordQuery
