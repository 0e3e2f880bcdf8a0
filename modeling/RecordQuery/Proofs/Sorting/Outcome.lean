import Mathlib.Data.List.FinRange
import RecordQuery.Proofs.Sorting.Ranking

/-!
What a stable sort makes of a coherent comparison that may fail. It looks at some pairs only, and yet
succeeds just where all pairs compare: an arrangement whose neighbours it had not compared would be
wrong under a ranking that agrees with all its answers.
-/

namespace RecordQuery

/-- Place `i` comes first, or stands in front of place `j` in a tie. -/
def Precedes {n : Nat} {ε : Type} (cmp : Fin n → Fin n → Except ε Ordering) (i j : Fin n) : Prop :=
  cmp i j = .ok .lt ∨ (cmp i j = .ok .eq ∧ i < j)

/-! ### Courses under rankings that agree -/

namespace Course
variable {n : Nat} {ε : Type} {cmp : Fin n → Fin n → Except ε Ordering} {rank : Fin n → Nat}

/-- A failure is one of a comparison that the course meets. -/
theorem meets_of_run_error {course : Course n} {e : ε} (failed : course.run cmp = .error e) :
    ∃ i j, course.Meets cmp i j ∧ cmp i j = .error e := by
  induction course with
  | settled places => cases failed
  | ask i j next ih =>
    rw [run_ask] at failed
    cases answer : cmp i j with
    | ok o =>
      rw [answer] at failed
      obtain ⟨a, b, met, he⟩ := ih o failed
      exact ⟨a, b, Or.inr ⟨o, answer, met⟩, he⟩
    | error e' =>
      rw [answer] at failed
      cases failed
      exact ⟨i, j, Or.inl ⟨rfl, rfl⟩, answer⟩

theorem run_ranked (agrees : Agrees cmp rank) {course : Course n} {places : List (Fin n)}
    (ran : course.run cmp = .ok places) : course.run (ranked rank) = .ok places := by
  induction course with
  | settled => cases ran; rfl
  | ask i j next ih =>
    rw [run_ask] at ran ⊢
    cases answer : cmp i j with
    | ok o =>
      rw [answer] at ran
      rw [ranked, agrees i j o answer]
      exact ih o ran
    | error e =>
      rw [answer] at ran
      cases ran

theorem meets_ranked (agrees : Agrees cmp rank) {course : Course n} {i j : Fin n}
    (met : course.Meets cmp i j) : course.Meets (ranked rank) i j := by
  induction course with
  | settled => exact met
  | ask a b next ih =>
    rcases met with here | ⟨o, answer, met⟩
    · exact Or.inl here
    · exact Or.inr ⟨o, by rw [ranked, agrees a b o answer], ih o met⟩

end Course

/-! ### Stable sorts -/

namespace StableSort
variable {n : Nat} {ε : Type} {cmp : Fin n → Fin n → Except ε Ordering} (sort : StableSort)

/-- A comparison of a place with itself never makes a sort fail. -/
theorem run_error (h : Coherent cmp (List.finRange n)) {e : ε}
    (failed : (sort.course n).run cmp = .error e) : ∃ i j, i ≠ j ∧ cmp i j = .error e := by
  obtain ⟨i, j, met, he⟩ := Course.meets_of_run_error failed
  refine ⟨i, j, ?_, he⟩
  rintro rfl
  have alone : ¬ Comparable cmp i i := fun ⟨o, answer⟩ => by
    rw [he] at answer
    cases answer
  obtain ⟨rank, agrees, unique⟩ := exists_agrees_alone h alone
  obtain ⟨j, hj, same⟩ := sort.shared rank i (Course.meets_ranked agrees met)
  exact unique j hj same

theorem run_before {rank : Fin n → Nat} (agrees : Agrees cmp rank) {places : List (Fin n)}
    (ran : (sort.course n).run cmp = .ok places) :
    places.Perm (List.finRange n) ∧ places.Pairwise (Before rank) := by
  obtain ⟨arranged, ran', perm, sorted⟩ := sort.arranges rank
  rw [Course.run_ranked agrees ran] at ran'
  cases ran'
  exact ⟨perm, sorted⟩

/-- The places in their new order follow each other as compared, though the sort need not have compared
each pair of them. -/
theorem run_ok (h : Coherent cmp (List.finRange n)) {places : List (Fin n)}
    (ran : (sort.course n).run cmp = .ok places) :
    places.Perm (List.finRange n) ∧ places.Pairwise (Precedes cmp) := by
  have base := agrees_height_under h
  have perm := (sort.run_before base ran).1
  refine ⟨perm, List.pairwise_iff_forall_sublist.mpr fun {x y} sub => ?_⟩
  have first : ∀ rank, Agrees cmp rank → Before rank x y := fun rank agrees =>
    List.pairwise_iff_forall_sublist.mp (sort.run_before agrees ran).2 sub
  have ne : x ≠ y := by
    have nodup := (perm.nodup_iff.mpr (List.nodup_finRange n)).sublist sub
    simpa using nodup
  have under : Under cmp x y := by
    by_contra apart
    obtain ⟨rank, agrees, above⟩ := exists_agrees_above h apart
    have := first rank agrees
    unfold Before at this
    omega
  obtain ⟨o, answer, notGreater⟩ := under.resolve_left ne
  cases o with
  | lt => exact Or.inl answer
  | eq =>
    have level := Nat.compare_eq_eq.mp (base x y .eq answer)
    refine Or.inr ⟨answer, ?_⟩
    rcases first _ base with lower | ⟨-, front⟩
    · omega
    · exact front
  | gt => exact absurd rfl notGreater

end StableSort

end RecordQuery
