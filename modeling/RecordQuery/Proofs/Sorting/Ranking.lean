import Mathlib.Data.Set.Card
import RecordQuery.Sorting.Course

/-!
Comparisons that may fail, and the rankings that agree with them. A coherent comparison is a partial
order with ties: some ranking agrees with all its answers, and where an element is not at most another
one, some such ranking puts it above.
-/

namespace RecordQuery

/-- The two elements compare. -/
def Comparable {α ε : Type} (cmp : α → α → Except ε Ordering) (a b : α) : Prop :=
  ∃ o, cmp a b = .ok o

instance {α ε : Type} (cmp : α → α → Except ε Ordering) (a b : α) : Decidable (Comparable cmp a b) :=
  match answer : cmp a b with
  | .ok o => isTrue ⟨o, answer⟩
  | .error _ => isFalse fun ⟨_, other⟩ => nomatch answer.symm.trans other

/-- The two elements compare, and the first is not the greater one. -/
def AtMost {α ε : Type} (cmp : α → α → Except ε Ordering) (a b : α) : Prop :=
  ∃ o, cmp a b = .ok o ∧ o ≠ .gt

/-- The answers on some elements agree with each other, both ways round and along chains. -/
structure Coherent {α ε : Type} (cmp : α → α → Except ε Ordering) (xs : List α) : Prop where
  swap : ∀ {a b : α} {o : Ordering}, a ∈ xs → b ∈ xs → cmp a b = .ok o → cmp b a = .ok o.swap
  chain : ∀ {a b c : α} {o₁ o₂ : Ordering}, a ∈ xs → b ∈ xs → c ∈ xs → cmp a b = .ok o₁ →
    cmp b c = .ok o₂ → o₁ ≠ .gt → o₂ ≠ .gt → cmp a c = .ok (o₁.then o₂)

namespace Coherent
variable {α ε : Type} {cmp : α → α → Except ε Ordering} {xs : List α} {a b c : α}

theorem mono {ys : List α} (h : Coherent cmp xs) (sub : ∀ a ∈ ys, a ∈ xs) : Coherent cmp ys where
  swap ha hb := h.swap (sub _ ha) (sub _ hb)
  chain ha hb hc := h.chain (sub _ ha) (sub _ hb) (sub _ hc)

theorem comparable_symm (h : Coherent cmp xs) (ha : a ∈ xs) (hb : b ∈ xs) :
    Comparable cmp a b → Comparable cmp b a :=
  fun ⟨_, answer⟩ => ⟨_, h.swap ha hb answer⟩

theorem atMost_trans (h : Coherent cmp xs) (ha : a ∈ xs) (hb : b ∈ xs) (hc : c ∈ xs) :
    AtMost cmp a b → AtMost cmp b c → AtMost cmp a c :=
  fun ⟨o₁, h₁, ne₁⟩ ⟨o₂, h₂, ne₂⟩ =>
    ⟨o₁.then o₂, h.chain ha hb hc h₁ h₂ ne₁ ne₂, by cases o₁ <;> simp_all⟩

/-- Of two elements that are each at most the other neither comes first. -/
theorem ties_of_atMost (h : Coherent cmp xs) (ha : a ∈ xs) (hb : b ∈ xs) :
    AtMost cmp a b → AtMost cmp b a → cmp a b = .ok .eq := by
  rintro ⟨o₁, h₁, ne₁⟩ ⟨o₂, h₂, ne₂⟩
  have back := h.swap ha hb h₁
  rw [h₂] at back
  cases back
  cases o₁ with
  | lt => exact absurd rfl ne₂
  | eq => exact h₁
  | gt => exact absurd rfl ne₁

theorem ties_symm (h : Coherent cmp xs) (ha : a ∈ xs) (hb : b ∈ xs) (tie : cmp a b = .ok .eq) :
    cmp b a = .ok .eq := h.swap ha hb tie

theorem ties_trans (h : Coherent cmp xs) (ha : a ∈ xs) (hb : b ∈ xs) (hc : c ∈ xs)
    (h₁ : cmp a b = .ok .eq) (h₂ : cmp b c = .ok .eq) : cmp a c = .ok .eq :=
  h.chain ha hb hc h₁ h₂ (by simp) (by simp)

theorem ties_self (h : Coherent cmp xs) (ha : a ∈ xs) (hb : b ∈ xs) (tie : cmp a b = .ok .eq) :
    cmp a a = .ok .eq := h.ties_trans ha hb ha tie (h.ties_symm ha hb tie)

theorem not_lt_self (h : Coherent cmp xs) (ha : a ∈ xs) : cmp a a ≠ .ok .lt := by
  intro less
  have back := h.swap ha ha less
  rw [less] at back
  cases back

theorem not_atMost_of_lt (h : Coherent cmp xs) (ha : a ∈ xs) (hb : b ∈ xs) (less : cmp a b = .ok .lt) :
    ¬ AtMost cmp b a := by
  intro back
  have tie := h.ties_of_atMost ha hb ⟨.lt, less, by simp⟩ back
  rw [less] at tie
  cases tie

/-- A comparison of elements is one of their places. -/
theorem places (h : Coherent cmp xs) :
    Coherent (fun i j : Fin xs.length => cmp (xs.get i) (xs.get j)) (List.finRange xs.length) where
  swap _ _ := h.swap (List.get_mem _ _) (List.get_mem _ _)
  chain _ _ _ := h.chain (List.get_mem _ _) (List.get_mem _ _) (List.get_mem _ _)

end Coherent

/-! ### Heights in a preorder -/

section Height
variable {n : Nat} {r : Fin n → Fin n → Prop}

/-- The number of elements that are not above the element. -/
noncomputable def height (r : Fin n → Fin n → Prop) (i : Fin n) : Nat := {j | r j i}.ncard

theorem height_le (trans : ∀ i j k, r i j → r j k → r i k) {i j : Fin n} (h : r i j) :
    height r i ≤ height r j :=
  Set.ncard_le_ncard (fun k hk => trans k i j hk h) (Set.toFinite _)

theorem height_lt (refl : ∀ i, r i i) (trans : ∀ i j k, r i j → r j k → r i k) {i j : Fin n}
    (h : r i j) (strict : ¬ r j i) : height r i < height r j := by
  refine Set.ncard_lt_ncard ⟨fun k hk => trans k i j hk h, fun back => ?_⟩ (Set.toFinite _)
  exact strict (back (refl j))

end Height

/-! ### Rankings that agree with a comparison -/

/-- No answer contradicts the ranking. -/
def Agrees {n : Nat} {ε : Type} (cmp : Fin n → Fin n → Except ε Ordering) (rank : Fin n → Nat) : Prop :=
  ∀ i j o, cmp i j = .ok o → compare (rank i) (rank j) = o

/-- The two places are one, or the first is at most the second. -/
def Under {n : Nat} {ε : Type} (cmp : Fin n → Fin n → Except ε Ordering) (i j : Fin n) : Prop :=
  i = j ∨ AtMost cmp i j

section Agreement
variable {n : Nat} {ε : Type} {cmp : Fin n → Fin n → Except ε Ordering}
  (h : Coherent cmp (List.finRange n))
include h

theorem under_trans (i j k : Fin n) : Under cmp i j → Under cmp j k → Under cmp i k := by
  rintro (rfl | hij) (rfl | hjk)
  · exact Or.inl rfl
  · exact Or.inr hjk
  · exact Or.inr hij
  · exact Or.inr (h.atMost_trans (List.mem_finRange i) (List.mem_finRange j) (List.mem_finRange k) hij hjk)

theorem not_under_of_lt {i j : Fin n} (less : cmp i j = .ok .lt) : ¬ Under cmp j i := by
  rintro (rfl | back)
  · exact h.not_lt_self (List.mem_finRange j) less
  · exact h.not_atMost_of_lt (List.mem_finRange i) (List.mem_finRange j) less back

/-- Heights agree with a comparison, in a preorder that holds what is at most, and nothing against it. -/
theorem agrees_height {r : Fin n → Fin n → Prop} (refl : ∀ i, r i i)
    (trans : ∀ i j k, r i j → r j k → r i k) (holds : ∀ i j, Under cmp i j → r i j)
    (strict : ∀ i j, cmp i j = .ok .lt → ¬ r j i) : Agrees cmp (height r) := by
  have less : ∀ i j, cmp i j = .ok .lt → height r i < height r j := fun i j answer =>
    height_lt refl trans (holds i j (Or.inr ⟨.lt, answer, by simp⟩)) (strict i j answer)
  intro i j o answer
  have back := h.swap (List.mem_finRange i) (List.mem_finRange j) answer
  cases o with
  | lt => exact Nat.compare_eq_lt.mpr (less i j answer)
  | eq =>
    refine Nat.compare_eq_eq.mpr (Nat.le_antisymm ?_ ?_)
    · exact height_le trans (holds i j (Or.inr ⟨.eq, answer, by simp⟩))
    · exact height_le trans (holds j i (Or.inr ⟨.eq, back, by simp⟩))
  | gt => exact Nat.compare_eq_gt.mpr (less j i back)

theorem agrees_height_under : Agrees cmp (height (Under cmp)) :=
  agrees_height h (fun _ => Or.inl rfl) (under_trans h) (fun _ _ => id) fun _ _ => not_under_of_lt h

/-- A place that is not at most another one is above it in some ranking that agrees. -/
theorem exists_agrees_above {x y : Fin n} (apart : ¬ Under cmp x y) :
    ∃ rank, Agrees cmp rank ∧ rank y < rank x := by
  -- The preorder that also holds `y` to be at most `x`.
  let r : Fin n → Fin n → Prop := fun i j => Under cmp i j ∨ (Under cmp i y ∧ Under cmp x j)
  have refl : ∀ i, r i i := fun i => Or.inl (Or.inl rfl)
  have trans : ∀ i j k, r i j → r j k → r i k := by
    rintro i j k (hij | ⟨hiy, hxj⟩) (hjk | ⟨hjy, hxk⟩)
    · exact Or.inl (under_trans h i j k hij hjk)
    · exact Or.inr ⟨under_trans h i j y hij hjy, hxk⟩
    · exact Or.inr ⟨hiy, under_trans h x j k hxj hjk⟩
    · exact Or.inr ⟨hiy, hxk⟩
  have strict : ∀ i j, cmp i j = .ok .lt → ¬ r j i := by
    rintro i j answer (back | ⟨hjy, hxi⟩)
    · exact not_under_of_lt h answer back
    · have hij : Under cmp i j := Or.inr ⟨.lt, answer, by simp⟩
      exact apart (under_trans h x j y (under_trans h x i j hxi hij) hjy)
  refine ⟨height r, agrees_height h refl trans (fun _ _ => Or.inl) strict, ?_⟩
  refine height_lt refl trans (Or.inr ⟨Or.inl rfl, Or.inl rfl⟩) ?_
  rintro (hxy | ⟨hxy, -⟩) <;> exact apart hxy

/-- A place that does not compare with itself has a rank of its own in some ranking that agrees. -/
theorem exists_agrees_alone {x : Fin n} (alone : ¬ Comparable cmp x x) :
    ∃ rank, Agrees cmp rank ∧ ∀ j, j ≠ x → rank j ≠ rank x := by
  have base := agrees_height_under h
  have untied : ∀ i j, cmp i j = .ok .eq → i ≠ x := by
    rintro i j tie rfl
    exact alone ⟨.eq, h.ties_self (List.mem_finRange i) (List.mem_finRange j) tie⟩
  -- Ranks are doubled, and the place takes the odd one above its own.
  let rank : Fin n → Nat := fun i => 2 * height (Under cmp) i + if i = x then 1 else 0
  refine ⟨rank, fun i j o answer => ?_, fun j hj => ?_⟩
  · have heights := base i j o answer
    cases o with
    | lt =>
      have lower := Nat.compare_eq_lt.mp heights
      refine Nat.compare_eq_lt.mpr ?_
      dsimp only [rank]
      split <;> omega
    | eq =>
      have hi := untied i j answer
      have hj := untied j i (h.ties_symm (List.mem_finRange i) (List.mem_finRange j) answer)
      have level := Nat.compare_eq_eq.mp heights
      refine Nat.compare_eq_eq.mpr ?_
      simp only [rank, hi, hj, ↓reduceIte, level]
    | gt =>
      have higher := Nat.compare_eq_gt.mp heights
      refine Nat.compare_eq_gt.mpr ?_
      dsimp only [rank]
      split <;> omega
  · simp only [rank, hj, ↓reduceIte]
    omega

end Agreement

end RecordQuery
