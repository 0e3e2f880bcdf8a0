import RecordQuery.Proofs.Sorting.Outcome
import RecordQuery.Proofs.Traversal

/-!
Lists in stable order. A list has one stable order at most, and for a coherent comparison it has one
just where all its elements compare, which is what every stable sort gives. Stable order is kept when
elements are left out, and one order after the other is the order by both.
-/

namespace RecordQuery

section
variable {α ε : Type}

/-- The two elements compare as equal. -/
def ties (cmp : α → α → Except ε Ordering) (a b : α) : Bool :=
  match cmp a b with
  | .ok .eq => true
  | _ => false

theorem ties_iff {cmp : α → α → Except ε Ordering} {a b : α} : ties cmp a b = true ↔ cmp a b = .ok .eq := by
  unfold ties
  split
  · simp [*]
  · next other => simpa using other

/-- The first outcome, and where it is a tie the second. -/
def breakTie (first second : Except ε Ordering) : Except ε Ordering :=
  match first with
  | .ok .eq => second
  | decided => decided

/-- Compares by the first comparison, and where it ties by the second. -/
def inTurn (cmp₁ cmp₂ : α → α → Except ε Ordering) (a b : α) : Except ε Ordering :=
  breakTie (cmp₁ a b) (cmp₂ a b)

theorem ties_inTurn (cmp₁ cmp₂ : α → α → Except ε Ordering) (a b : α) :
    ties (inTurn cmp₁ cmp₂) a b = (ties cmp₁ a b && ties cmp₂ a b) := by
  unfold ties inTurn
  cases cmp₁ a b with
  | ok o => cases o <;> rfl
  | error e => rfl

/-- `ys` holds the elements of `xs` in order, and those of a tie in the order in which they stand. -/
structure StablySorted (cmp : α → α → Except ε Ordering) (xs ys : List α) : Prop where
  perm : ys.Perm xs
  sorted : ys.Pairwise (AtMost cmp)
  stable : ∀ a ∈ xs, ys.filter (ties cmp a) = xs.filter (ties cmp a)

end

/-- Whether all pairs compare does not depend on the order of the elements. -/
theorem Coherent.pairwise_comparable_perm {α ε : Type} {cmp : α → α → Except ε Ordering} {xs ys : List α}
    (h : Coherent cmp xs) (perm : ys.Perm xs) :
    ys.Pairwise (Comparable cmp) ↔ xs.Pairwise (Comparable cmp) := by
  have either : ∀ {l : List α}, (∀ a ∈ l, a ∈ xs) → (l.Pairwise (Comparable cmp) ↔
      l.Pairwise fun a b => Comparable cmp a b ∨ Comparable cmp b a) := fun sub =>
    ⟨fun all => all.imp Or.inl, fun all => all.imp_of_mem fun ha hb compare =>
      compare.elim id (h.comparable_symm (sub _ hb) (sub _ ha))⟩
  rw [either fun _ => perm.mem_iff.mp, either fun _ => id]
  exact perm.pairwise_iff Or.symm

namespace StablySorted
variable {α ε : Type} {cmp : α → α → Except ε Ordering} {xs ys zs : List α}

/-- Two sorted lists of the same elements in which every tie stands alike are one. -/
theorem eq_of_ties (h : Coherent cmp ys) (perm : ys.Perm zs) (sorted : ys.Pairwise (AtMost cmp))
    (sorted' : zs.Pairwise (AtMost cmp))
    (stable : ∀ a ∈ ys, ys.filter (ties cmp a) = zs.filter (ties cmp a)) : ys = zs := by
  induction ys generalizing zs with
  | nil => exact perm.nil_eq
  | cons a ys ih =>
    cases zs with
    | nil => exact absurd perm.symm.nil_eq (by simp)
    | cons b zs =>
      obtain ⟨first, others⟩ := List.pairwise_cons.mp sorted
      obtain ⟨first', others'⟩ := List.pairwise_cons.mp sorted'
      have head : a = b := by
        by_contra ne
        have hb : b ∈ ys := (List.mem_cons.mp (perm.mem_iff.mpr List.mem_cons_self)).resolve_left (Ne.symm ne)
        have ha : a ∈ zs := (List.mem_cons.mp (perm.mem_iff.mp List.mem_cons_self)).resolve_left ne
        have hb' : b ∈ a :: ys := List.mem_cons_of_mem _ hb
        have tie := h.ties_of_atMost List.mem_cons_self hb' (first b hb) (first' a ha)
        have self := h.ties_self List.mem_cons_self hb' tie
        have groups := stable a List.mem_cons_self
        rw [List.filter_cons_of_pos (ties_iff.mpr self), List.filter_cons_of_pos (ties_iff.mpr tie)] at groups
        exact ne (List.cons.inj groups).1
      subst head
      refine congrArg (a :: ·) (ih (h.mono fun _ => List.mem_cons_of_mem _) (perm.cons_inv) others others'
        fun c hc => ?_)
      have groups := stable c (List.mem_cons_of_mem _ hc)
      cases tie : ties cmp c a with
      | false => rwa [List.filter_cons_of_neg (by simp [tie]), List.filter_cons_of_neg (by simp [tie])] at groups
      | true =>
        rw [List.filter_cons_of_pos tie, List.filter_cons_of_pos tie] at groups
        exact (List.cons.inj groups).2

theorem unique (h : Coherent cmp xs) (hy : StablySorted cmp xs ys) (hz : StablySorted cmp xs zs) : ys = zs :=
  eq_of_ties (h.mono fun _ => hy.perm.mem_iff.mp) (hy.perm.trans hz.perm.symm) hy.sorted hz.sorted
    fun a ha => (hy.stable a (hy.perm.mem_iff.mp ha)).trans (hz.stable a (hy.perm.mem_iff.mp ha)).symm

theorem congr {cmp' : α → α → Except ε Ordering} (same : ∀ a ∈ xs, ∀ b ∈ xs, cmp a b = cmp' a b)
    (hy : StablySorted cmp xs ys) : StablySorted cmp' xs ys where
  perm := hy.perm
  sorted := hy.sorted.imp_of_mem fun {a b} ha hb ⟨o, answer, ne⟩ =>
    ⟨o, (same a (hy.perm.mem_iff.mp ha) b (hy.perm.mem_iff.mp hb)) ▸ answer, ne⟩
  stable a ha := by
    have tied : ∀ b ∈ xs, ties cmp' a b = ties cmp a b := fun b hb => by rw [ties, ties, same a ha b hb]
    rw [List.filter_congr tied, List.filter_congr fun b hb => tied b (hy.perm.mem_iff.mp hb)]
    exact hy.stable a ha

theorem comparable (h : Coherent cmp xs) (hy : StablySorted cmp xs ys) : xs.Pairwise (Comparable cmp) :=
  (h.pairwise_comparable_perm hy.perm).mp (hy.sorted.imp fun ⟨o, answer, _⟩ => ⟨o, answer⟩)

/-- Leaving elements out keeps the stable order. -/
theorem filter (p : α → Bool) (hy : StablySorted cmp xs ys) :
    StablySorted cmp (xs.filter p) (ys.filter p) where
  perm := hy.perm.filter p
  sorted := hy.sorted.filter p
  stable a ha := by
    rw [List.filter_comm, hy.stable a (List.mem_filter.mp ha).1, List.filter_comm]

/-- Two elements of a tie stand as they stood before. -/
theorem sublist_of_tie (h : Coherent cmp xs) (hy : StablySorted cmp xs ys) {a b : α} (sub : [a, b].Sublist ys)
    (tie : cmp a b = .ok .eq) : [a, b].Sublist xs := by
  have ha : a ∈ xs := hy.perm.mem_iff.mp (sub.subset (by simp))
  have hb : b ∈ xs := hy.perm.mem_iff.mp (sub.subset (by simp))
  have self := h.ties_self ha hb tie
  have kept : [a, b].filter (ties cmp a) = [a, b] := by simp [ties_iff.mpr self, ties_iff.mpr tie]
  have inTie : [a, b].Sublist (xs.filter (ties cmp a)) := by
    rw [← hy.stable a ha, ← kept]
    exact sub.filter _
  exact inTie.trans List.filter_sublist

/-- A stable order by one comparison, put in stable order by another, is in stable order by both in turn. -/
theorem inTurn {cmp₁ cmp₂ : α → α → Except ε Ordering} (h : Coherent cmp₁ xs)
    (hy : StablySorted cmp₂ xs ys) (hz : StablySorted cmp₁ ys zs) :
    StablySorted (RecordQuery.inTurn cmp₁ cmp₂) xs zs where
  perm := hz.perm.trans hy.perm
  sorted := List.pairwise_iff_forall_sublist.mpr fun {a b} sub => by
    obtain ⟨o, answer, ne⟩ := List.pairwise_iff_forall_sublist.mp hz.sorted sub
    cases o with
    | lt => exact ⟨.lt, by simp only [RecordQuery.inTurn, breakTie, answer], by simp⟩
    | eq =>
      -- The second sort left what ties in it as the first one had put it.
      have stood := hz.sublist_of_tie (h.mono fun _ => hy.perm.mem_iff.mp) sub answer
      obtain ⟨o₂, answer₂, ne₂⟩ := List.pairwise_iff_forall_sublist.mp hy.sorted stood
      exact ⟨o₂, by simp only [RecordQuery.inTurn, breakTie, answer, answer₂], ne₂⟩
    | gt => exact absurd rfl ne
  stable a ha := by
    have split : ∀ l : List α, l.filter (ties (RecordQuery.inTurn cmp₁ cmp₂) a) =
        (l.filter (ties cmp₂ a)).filter (ties cmp₁ a) := fun l => by
      rw [List.filter_filter]
      exact List.filter_congr fun b _ => ties_inTurn cmp₁ cmp₂ a b
    calc zs.filter (ties (RecordQuery.inTurn cmp₁ cmp₂) a)
        = (zs.filter (ties cmp₁ a)).filter (ties cmp₂ a) := by rw [split, List.filter_comm]
      _ = (ys.filter (ties cmp₂ a)).filter (ties cmp₁ a) := by
          rw [hz.stable a (hy.perm.mem_iff.mpr ha), List.filter_comm]
      _ = xs.filter (ties (RecordQuery.inTurn cmp₁ cmp₂) a) := by rw [hy.stable a ha, split]

/-- Places in order give a list in stable order. -/
theorem of_places (h : Coherent cmp xs) {places : List (Fin xs.length)}
    (perm : places.Perm (List.finRange xs.length))
    (sorted : places.Pairwise (Precedes fun i j : Fin xs.length => cmp (xs.get i) (xs.get j))) :
    StablySorted cmp xs (places.map xs.get) where
  perm := by
    have moved := perm.map xs.get
    rwa [List.map_get_finRange] at moved
  sorted := List.pairwise_map.mpr (sorted.imp fun {i j} before => by
    rcases before with less | ⟨tie, -⟩
    · exact ⟨.lt, less, by simp⟩
    · exact ⟨.eq, tie, by simp⟩)
  stable a ha := by
    -- The places of one tie ascend, and so they stand as in the list.
    have ascending : (places.filter fun i => ties cmp a (xs.get i)).Pairwise (· < ·) := by
      refine (sorted.filter _).imp_of_mem fun {i j} hi hj before => ?_
      have hai := ties_iff.mp (List.mem_filter.mp hi).2
      have haj := ties_iff.mp (List.mem_filter.mp hj).2
      have tie : cmp (xs.get i) (xs.get j) = .ok .eq := h.ties_trans (List.get_mem _ _) ha (List.get_mem _ _)
        (h.ties_symm ha (List.get_mem _ _) hai) haj
      rcases before with less | ⟨-, front⟩
      · cases less.symm.trans tie
      · exact front
    have same := (perm.filter fun i => ties cmp a (xs.get i)).eq_of_pairwise
      (fun i j _ _ ij ji => absurd (Fin.lt_trans ij ji) (Fin.lt_irrefl i)) ascending
      ((List.pairwise_lt_finRange xs.length).filter _)
    have back : (places.map xs.get).filter (ties cmp a) =
        ((List.finRange xs.length).map xs.get).filter (ties cmp a) := by
      rw [List.filter_map, List.filter_map]
      exact congrArg _ same
    rwa [List.map_get_finRange] at back

end StablySorted

/-! ### Stable sorts -/

namespace StableSort
variable {α ε : Type} {cmp : α → α → Except ε Ordering} {xs ys : List α} (sort : StableSort)

theorem apply_eq (cmp : α → α → Except ε Ordering) (xs : List α) : sort.apply cmp xs =
    ((sort.course xs.length).run fun i j => cmp (xs.get i) (xs.get j)).map (List.map xs.get) := rfl

theorem apply_eq_of_length (cmp : α → α → Except ε Ordering) (xs : List α) {n : Nat} (h : n = xs.length) :
    sort.apply cmp xs = ((sort.course n).run fun i j => cmp (xs.get (i.cast h)) (xs.get (j.cast h))).map
      (List.map fun i => xs.get (i.cast h)) := by
  subst h
  rfl

theorem apply_congr {cmp' : α → α → Except ε Ordering} (same : ∀ a ∈ xs, ∀ b ∈ xs, cmp a b = cmp' a b) :
    sort.apply cmp xs = sort.apply cmp' xs := by
  have places : (fun i j : Fin xs.length => cmp (xs.get i) (xs.get j)) = fun i j => cmp' (xs.get i) (xs.get j) :=
    funext fun i => funext fun j => same _ (List.get_mem _ _) _ (List.get_mem _ _)
  rw [apply_eq, apply_eq, places]

/-- Images are sorted as the elements are by their images. -/
theorem apply_map {β : Type} (f : α → β) (cmp : β → β → Except ε Ordering) (xs : List α) :
    sort.apply cmp (xs.map f) = (sort.apply (fun a b => cmp (f a) (f b)) xs).map (List.map f) := by
  rw [sort.apply_eq_of_length cmp (xs.map f) (List.length_map f).symm, apply_eq]
  have images : ∀ i : Fin xs.length, (xs.map f).get (i.cast (List.length_map f).symm) = f (xs.get i) :=
    fun i => List.getElem_map f
  simp only [images]
  cases (sort.course xs.length).run fun i j => cmp (f (xs.get i)) (f (xs.get j)) with
  | ok places => exact congrArg Except.ok List.map_map.symm
  | error e => rfl

/-- A sort that succeeds arranges the places of the list. -/
theorem places_of_apply_ok (h : Coherent cmp xs) (done : sort.apply cmp xs = .ok ys) :
    ∃ places : List (Fin xs.length), places.Perm (List.finRange xs.length) ∧
      places.Pairwise (Precedes fun i j : Fin xs.length => cmp (xs.get i) (xs.get j)) ∧
      ys = places.map xs.get := by
  obtain ⟨places, ran, same⟩ := map_eq_ok_iff.mp done
  obtain ⟨perm, sorted⟩ := sort.run_ok h.places ran
  exact ⟨places, perm, sorted, same.symm⟩

/-- A sort that fails has found two places that do not compare. -/
theorem places_of_apply_error (h : Coherent cmp xs) {e : ε} (failed : sort.apply cmp xs = .error e) :
    ∃ i j : Fin xs.length, i ≠ j ∧ cmp (xs.get i) (xs.get j) = .error e := by
  have ran := map_eq_error_iff.mp failed
  exact sort.run_error h.places ran

theorem stablySorted_of_apply (h : Coherent cmp xs) (done : sort.apply cmp xs = .ok ys) :
    StablySorted cmp xs ys := by
  obtain ⟨places, perm, sorted, rfl⟩ := sort.places_of_apply_ok h done
  exact StablySorted.of_places h perm sorted

theorem pairwise_comparable_iff (h : Coherent cmp xs) : xs.Pairwise (Comparable cmp) ↔
    ∀ i j : Fin xs.length, i ≠ j → Comparable cmp (xs.get i) (xs.get j) := by
  rw [List.pairwise_iff_getElem]
  constructor
  · intro all i j ne
    rcases Nat.lt_or_gt_of_ne (fun same => ne (Fin.ext same)) with lt | gt
    · exact all i j i.2 j.2 lt
    · exact h.comparable_symm (List.get_mem _ _) (List.get_mem _ _) (all j i j.2 i.2 gt)
  · intro all i j hi hj lt
    exact all ⟨i, hi⟩ ⟨j, hj⟩ (fun same => by simp only [Fin.mk.injEq] at same; omega)

/-- A sort succeeds just where all pairs compare, whichever of them it looks at. -/
theorem exists_apply_ok_iff (h : Coherent cmp xs) :
    (∃ ys, sort.apply cmp xs = .ok ys) ↔ xs.Pairwise (Comparable cmp) := by
  constructor
  · rintro ⟨ys, done⟩
    exact (sort.stablySorted_of_apply h done).comparable h
  · intro all
    cases outcome : sort.apply cmp xs with
    | ok ys => exact ⟨ys, rfl⟩
    | error e =>
      obtain ⟨i, j, ne, failed⟩ := sort.places_of_apply_error h outcome
      obtain ⟨o, answer⟩ := (pairwise_comparable_iff h).mp all i j ne
      rw [failed] at answer
      cases answer

/-- Every stable sort gives the stable order, if there is one. -/
theorem apply_eq_ok_iff (h : Coherent cmp xs) : sort.apply cmp xs = .ok ys ↔ StablySorted cmp xs ys := by
  refine ⟨sort.stablySorted_of_apply h, fun sorted => ?_⟩
  obtain ⟨zs, done⟩ := (sort.exists_apply_ok_iff h).mpr (sorted.comparable h)
  rw [done, sorted.unique h (sort.stablySorted_of_apply h done)]

end StableSort

end RecordQuery
