import RecordQuery.Sorting.Course

/-!
Sorting by insertion: the elements are put one after the other behind a sorted row, which stands in
reverse. Under every ranking this arranges the elements stably.
-/

namespace RecordQuery

namespace Course
variable {n : Nat}

/-- Puts a place behind a sorted row that stands in reverse: it passes those that it goes before. -/
def insertLast (i : Fin n) (rest : List (Fin n) → Course n) : List (Fin n) → Course n
  | [] => rest [i]
  | j :: js => .ask i j fun o =>
    if o = .lt then insertLast i (fun sorted => rest (j :: sorted)) js
    else rest (i :: j :: js)

/-- Puts places one after the other behind a sorted row that stands in reverse. -/
def insertAll : List (Fin n) → List (Fin n) → Course n
  | sorted, [] => .settled sorted.reverse
  | sorted, i :: is => insertLast i (fun sorted => insertAll sorted is) sorted

/-! ### Under a ranking -/

variable {rank : Fin n → Nat}

/-- A row in reverse with a place put behind it by rank. -/
def placed (rank : Fin n → Nat) (i : Fin n) (row : List (Fin n)) : List (Fin n) :=
  row.takeWhile (fun j => rank i < rank j) ++ i :: row.dropWhile (fun j => rank i < rank j)

theorem placed_perm (i : Fin n) (row : List (Fin n)) : (placed rank i row).Perm (i :: row) := by
  have whole : row.takeWhile (fun j => rank i < rank j) ++ row.dropWhile (fun j => rank i < rank j) = row :=
    List.takeWhile_append_dropWhile
  unfold placed
  conv => rhs; rw [← whole]
  exact List.perm_middle

/-- In a sorted row a place is put so that the row stays sorted, if it stands behind all places of it. -/
theorem placed_sorted {i : Fin n} {row : List (Fin n)} (sorted : row.Pairwise fun a b => Before rank b a)
    (later : ∀ j ∈ row, j < i) : (placed rank i row).Pairwise fun a b => Before rank b a := by
  induction row with
  | nil => simp [placed]
  | cons j js ih =>
    obtain ⟨first, others⟩ := List.pairwise_cons.mp sorted
    have kept := ih others fun k hk => later k (List.mem_cons_of_mem _ hk)
    by_cases passed : rank i < rank j
    · have split : placed rank i (j :: js) = j :: placed rank i js := by simp [placed, passed]
      rw [split]
      refine List.pairwise_cons.mpr ⟨fun k hk => ?_, kept⟩
      rcases List.mem_cons.mp ((placed_perm i js).mem_iff.mp hk) with rfl | hk
      · exact Or.inl passed
      · exact first k hk
    · have stop : placed rank i (j :: js) = i :: j :: js := by simp [placed, passed]
      rw [stop]
      have next : Before rank j i := by
        have := later j List.mem_cons_self
        unfold Before
        omega
      refine List.pairwise_cons.mpr ⟨fun k hk => ?_, sorted⟩
      rcases List.mem_cons.mp hk with rfl | hk
      · exact next
      · have := first k hk
        unfold Before at this next ⊢
        omega

theorem run_insertLast (i : Fin n) (rest : List (Fin n) → Course n) (row : List (Fin n)) :
    run (ranked rank) (insertLast i rest row) = run (ranked rank) (rest (placed rank i row)) := by
  induction row generalizing rest with
  | nil => rfl
  | cons j js ih =>
    rw [insertLast, run_ask, ranked, Except.bind]
    by_cases passed : rank i < rank j
    · simp [Nat.compare_eq_lt, passed, ih, placed]
    · simp [Nat.compare_eq_lt, passed, placed]

/-- An insertion compares the new place with places of the row only. -/
theorem meets_insertLast {i a b : Fin n} {rest : List (Fin n) → Course n} {row : List (Fin n)}
    (met : (insertLast i rest row).Meets (ranked rank) a b) :
    (a = i ∧ b ∈ row) ∨ (rest (placed rank i row)).Meets (ranked rank) a b := by
  induction row generalizing rest with
  | nil => exact Or.inr met
  | cons j js ih =>
    obtain ⟨rfl, rfl⟩ | ⟨o, answer, met⟩ := met
    · exact Or.inl ⟨rfl, List.mem_cons_self⟩
    · cases answer
      by_cases passed : rank i < rank j
      · simp only [Nat.compare_eq_lt, passed, ↓reduceIte] at met
        obtain ⟨same, mem⟩ | met := ih met
        · exact Or.inl ⟨same, List.mem_cons_of_mem _ mem⟩
        · exact Or.inr (by simpa [placed, passed] using met)
      · simp only [Nat.compare_eq_lt, passed, ↓reduceIte] at met
        exact Or.inr (by simpa [placed, passed] using met)

/-- A sorted row in reverse, and places that stand behind those of the row, in their order. -/
structure Ready (rank : Fin n → Nat) (row waiting : List (Fin n)) : Prop where
  sorted : row.Pairwise fun a b => Before rank b a
  ascending : waiting.Pairwise (· < ·)
  later : ∀ j ∈ row, ∀ i ∈ waiting, j < i

theorem Ready.next {row waiting : List (Fin n)} {i : Fin n} (ready : Ready rank row (i :: waiting)) :
    Ready rank (placed rank i row) waiting where
  sorted := placed_sorted ready.sorted fun j hj => ready.later j hj i List.mem_cons_self
  ascending := ready.ascending.tail
  later := fun j hj k hk => by
    rcases List.mem_cons.mp ((placed_perm i row).mem_iff.mp hj) with rfl | hj
    · exact (List.pairwise_cons.mp ready.ascending).1 k hk
    · exact ready.later j hj k (List.mem_cons_of_mem _ hk)

theorem insertAll_arranges {row waiting : List (Fin n)} (ready : Ready rank row waiting) :
    ∃ places, (insertAll row waiting).run (ranked rank) = .ok places ∧
      places.Perm (row ++ waiting) ∧ places.Pairwise (Before rank) := by
  induction waiting generalizing row with
  | nil =>
    refine ⟨row.reverse, rfl, ?_, List.pairwise_reverse.mpr ready.sorted⟩
    rw [List.append_nil]
    exact List.reverse_perm row
  | cons i waiting ih =>
    obtain ⟨places, ran, perm, sorted⟩ := ih ready.next
    refine ⟨places, ?_, ?_, sorted⟩
    · rw [insertAll, run_insertLast]
      exact ran
    · exact perm.trans (((placed_perm i row).append_right waiting).trans List.perm_middle.symm)

theorem insertAll_meets {row waiting : List (Fin n)} (ready : Ready rank row waiting) (i : Fin n) :
    ¬ (insertAll row waiting).Meets (ranked rank) i i := by
  induction waiting generalizing row with
  | nil => exact id
  | cons j waiting ih =>
    intro met
    rcases meets_insertLast met with ⟨rfl, mem⟩ | met
    · exact absurd (ready.later i mem i List.mem_cons_self) (Fin.lt_irrefl i)
    · exact ih ready.next met

theorem ready_finRange (rank : Fin n → Nat) : Ready rank [] (List.finRange n) where
  sorted := List.Pairwise.nil
  ascending := List.pairwise_lt_finRange n
  later := fun _ hj => nomatch hj

end Course

/-- The stable sort that puts the elements one after the other behind a sorted row. -/
def StableSort.insertion : StableSort where
  course n := .insertAll [] (List.finRange n)
  arranges rank := Course.insertAll_arranges (Course.ready_finRange rank)
  shared rank i met := absurd met (Course.insertAll_meets (Course.ready_finRange rank) i)

end RecordQuery
