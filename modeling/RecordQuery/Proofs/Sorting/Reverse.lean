import RecordQuery.Proofs.Sorting.Stable

/-!
Stable order from the other end. A list in stable order is, read backwards, the reversed list in the
stable order of the comparison with its elements exchanged; ties keep their places, since both lists
turn round. Without ties the order of the elements to be sorted does not matter.
-/

namespace RecordQuery

section
variable {α ε : Type} {cmp cmp' : α → α → Except ε Ordering} {xs ys zs : List α} {a b : α}

/-- One comparison answers as the other does with its elements exchanged. The failures may differ. -/
def Exchanged (cmp cmp' : α → α → Except ε Ordering) (xs : List α) : Prop :=
  ∀ a ∈ xs, ∀ b ∈ xs, (cmp' a b).toOption = (cmp b a).toOption

namespace Exchanged

theorem symm (e : Exchanged cmp cmp' xs) : Exchanged cmp' cmp xs :=
  fun a ha b hb => (e b hb a ha).symm

theorem mono (e : Exchanged cmp cmp' xs) (sub : ∀ a ∈ ys, a ∈ xs) : Exchanged cmp cmp' ys :=
  fun a ha b hb => e a (sub a ha) b (sub b hb)

theorem ok_iff (e : Exchanged cmp cmp' xs) (ha : a ∈ xs) (hb : b ∈ xs) {o : Ordering} :
    cmp' a b = .ok o ↔ cmp b a = .ok o := by
  rw [← toOption_eq_some_iff, ← toOption_eq_some_iff, e a ha b hb]

theorem comparable_iff (e : Exchanged cmp cmp' xs) (ha : a ∈ xs) (hb : b ∈ xs) :
    Comparable cmp' a b ↔ Comparable cmp b a :=
  exists_congr fun _ => e.ok_iff ha hb

theorem atMost_iff (e : Exchanged cmp cmp' xs) (ha : a ∈ xs) (hb : b ∈ xs) :
    AtMost cmp' a b ↔ AtMost cmp b a :=
  exists_congr fun _ => and_congr_left fun _ => e.ok_iff ha hb

/-- A tie is one both ways round. -/
theorem ties_eq (e : Exchanged cmp cmp' xs) (h : Coherent cmp xs) (ha : a ∈ xs) (hb : b ∈ xs) :
    ties cmp' a b = ties cmp a b := by
  rw [Bool.eq_iff_iff, ties_iff, ties_iff, e.ok_iff ha hb]
  exact ⟨h.ties_symm hb ha, h.ties_symm ha hb⟩

/-- All pairs compare in one comparison just where they do in the other. -/
theorem pairwise_comparable_iff (e : Exchanged cmp cmp' xs) (h : Coherent cmp xs) :
    xs.Pairwise (Comparable cmp') ↔ xs.Pairwise (Comparable cmp) := by
  have each : ∀ {a b : α}, a ∈ xs → b ∈ xs → (Comparable cmp' a b ↔ Comparable cmp a b) := fun ha hb =>
    (e.comparable_iff ha hb).trans ⟨h.comparable_symm hb ha, h.comparable_symm ha hb⟩
  constructor
  · exact fun all => all.imp_of_mem fun ha hb => (each ha hb).mp
  · exact fun all => all.imp_of_mem fun ha hb => (each ha hb).mpr

end Exchanged

namespace StablySorted

theorem reverse (e : Exchanged cmp cmp' xs) (h : Coherent cmp xs) (hy : StablySorted cmp xs ys) :
    StablySorted cmp' xs.reverse ys.reverse where
  perm := (ys.reverse_perm.trans hy.perm).trans xs.reverse_perm.symm
  sorted := by
    refine List.pairwise_reverse.mpr (hy.sorted.imp_of_mem fun {a b} ha hb before => ?_)
    exact (e.atMost_iff (hy.perm.mem_iff.mp hb) (hy.perm.mem_iff.mp ha)).mpr before
  stable a ha := by
    have ha : a ∈ xs := List.mem_reverse.mp ha
    have tied : ∀ b ∈ xs, ties cmp' a b = ties cmp a b := fun b hb => e.ties_eq h ha hb
    rw [List.filter_reverse, List.filter_reverse, List.filter_congr tied,
      List.filter_congr fun b hb => tied b (hy.perm.mem_iff.mp hb), hy.stable a ha]

/-- Where no two elements tie, a stable order is one of the same elements in any order. -/
theorem of_perm (h : Coherent cmp xs) (untied : xs.Pairwise fun a b => cmp a b ≠ .ok .eq)
    (perm : zs.Perm xs) (hy : StablySorted cmp xs ys) : StablySorted cmp zs ys where
  perm := hy.perm.trans perm.symm
  sorted := hy.sorted
  stable a ha := by
    have ha : a ∈ xs := perm.mem_iff.mp ha
    rw [hy.stable a ha]
    -- Two elements that tie with the same one would tie with each other.
    have single : (xs.filter (ties cmp a)).Pairwise fun _ _ => False := by
      refine (untied.filter _).imp_of_mem fun {b c} hb hc apart => apart ?_
      obtain ⟨hb, tieB⟩ := List.mem_filter.mp hb
      obtain ⟨hc, tieC⟩ := List.mem_filter.mp hc
      exact h.ties_trans hb ha hc (h.ties_symm ha hb (ties_iff.mp tieB)) (ties_iff.mp tieC)
    have same := perm.filter (ties cmp a)
    exact same.symm.eq_of_pairwise (fun _ _ _ _ never => never.elim) single
      ((same.pairwise_iff fun never => never).mpr single)

end StablySorted

end

end RecordQuery
