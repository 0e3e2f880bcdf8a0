import RecordQuery.Path
import RecordQuery.Proofs.Sorting.Stable
import RecordQuery.Proofs.Traversal

/-!
Two runs side by side. They are parallel when both fail with one cause or both succeed, with results of
a given relation; steps that are parallel make runs that are, over lists that are related place by place
and along the segments of a path. A stable sort of two lists whose elements compare alike is parallel too,
as it learns nothing but the outcomes of comparisons.
-/

namespace RecordQuery

/-- Both runs fail with one cause, or both succeed with related results. -/
inductive Parallel {α β ε : Type} (R : α → β → Prop) : Except ε α → Except ε β → Prop
  | ok {a : α} {b : β} (related : R a b) : Parallel R (.ok a) (.ok b)
  | error (e : ε) : Parallel R (.error e) (.error e)

namespace Parallel
variable {α β γ δ ε : Type} {R : α → β → Prop} {S : γ → δ → Prop} {x : Except ε α} {y : Except ε β}

theorem imp {Q : α → β → Prop} (h : Parallel R x y) (weaker : ∀ a b, R a b → Q a b) : Parallel Q x y := by
  cases h with
  | ok related => exact .ok (weaker _ _ related)
  | error e => exact .error e

theorem bind {f : α → Except ε γ} {g : β → Except ε δ} (h : Parallel R x y)
    (next : ∀ a b, R a b → Parallel S (f a) (g b)) : Parallel S (x >>= f) (y >>= g) := by
  cases h with
  | ok related => exact next _ _ related
  | error e => exact .error e

theorem map {f : α → γ} {g : β → δ} (h : Parallel R x y) (next : ∀ a b, R a b → S (f a) (g b)) :
    Parallel S (x.map f) (y.map g) := by
  cases h with
  | ok related => exact .ok (next _ _ related)
  | error e => exact .error e

theorem map_eq {f : α → γ} {g : β → γ} (h : Parallel R x y) (next : ∀ a b, R a b → f a = g b) :
    x.map f = y.map g := by
  cases h with
  | ok related => exact congrArg Except.ok (next _ _ related)
  | error e => rfl

theorem mapError {ε' : Type} (h : Parallel R x y) (f : ε → ε') : Parallel R (x.mapError f) (y.mapError f) := by
  cases h with
  | ok related => exact .ok related
  | error e => exact .error (f e)

theorem mapM {f : α → Except ε γ} {g : β → Except ε δ} {as : List α} {bs : List β}
    (each : List.Forall₂ R as bs) (step : ∀ a b, R a b → Parallel S (f a) (g b)) :
    Parallel (List.Forall₂ S) (as.mapM f) (bs.mapM g) := by
  induction each with
  | nil => exact .ok .nil
  | cons head _ ih =>
    rw [List.mapM_cons, List.mapM_cons]
    refine (step _ _ head).bind fun c d first => ?_
    refine ih.bind fun cs ds rest => ?_
    exact .ok (.cons first rest)

theorem cases_ok_error (h : Parallel R x y) :
    (∃ e, x = .error e ∧ y = .error e) ∨ ∃ a b, x = .ok a ∧ y = .ok b ∧ R a b := by
  cases h with
  | ok related => exact Or.inr ⟨_, _, rfl, rfl, related⟩
  | error e => exact Or.inl ⟨e, rfl, rfl⟩

end Parallel

/-! ### Lists place by place -/

section
variable {α β : Type} {R : α → β → Prop} {as : List α} {bs : List β} {f : α → Bool} {g : β → Bool}

theorem any_eq_of_forall₂ (each : List.Forall₂ R as bs) (agree : ∀ a b, R a b → f a = g b) :
    as.any f = bs.any g := by
  induction each with
  | nil => rfl
  | cons head _ ih => rw [List.any_cons, List.any_cons, agree _ _ head, ih]

theorem all_eq_of_forall₂ (each : List.Forall₂ R as bs) (agree : ∀ a b, R a b → f a = g b) :
    as.all f = bs.all g := by
  induction each with
  | nil => rfl
  | cons head _ ih => rw [List.all_cons, List.all_cons, agree _ _ head, ih]

theorem getElem?_of_forall₂ (each : List.Forall₂ R as bs) (i : Nat) : Option.Rel R as[i]? bs[i]? := by
  induction each generalizing i with
  | nil => exact .none
  | cons head _ ih =>
    cases i with
    | zero => exact .some head
    | succ i => exact ih i

end

/-! ### Paths -/

namespace Path
variable {registry : Registry} {Before After : Value → Value → Prop} {v w : Value} {segment : String}
  {rest : List String}

/-- Two ways are parallel when one step leads to related values, or to none, and from there on they are. -/
theorem parallel_follow_cons
    (step : Option.Rel Before (advance registry v segment rest.isEmpty) (advance registry w segment rest.isEmpty))
    (next : ∀ v' w', advance registry v segment rest.isEmpty = some v' → Before v' w' →
      Parallel After (follow registry v' rest) (follow registry w' rest)) :
    Parallel After (follow registry v (segment :: rest)) (follow registry w (segment :: rest)) := by
  unfold follow
  generalize advance registry v segment rest.isEmpty = x at step next ⊢
  generalize advance registry w segment rest.isEmpty = y at step ⊢
  cases step with
  | none => exact .error segment
  | some related => exact next _ _ rfl related

theorem parallel_resolve {path : Path} {r s : Record} (ways : Parallel After
    (follow registry (.record r) path.segments) (follow registry (.record s) path.segments)) :
    Parallel After (path.resolve registry r) (path.resolve registry s) := by
  rw [resolve_eq, resolve_eq]
  exact ways.mapError _

end Path

/-! ### Stable sorts -/

section
variable {α β ε : Type} {R : α → β → Prop} {xs : List α} {ys : List β}

/-- Related lists are the two sides of one list of related pairs. -/
theorem exists_pairs (each : List.Forall₂ R xs ys) :
    ∃ pairs : List { p : α × β // R p.1 p.2 }, pairs.map (·.1.1) = xs ∧ pairs.map (·.1.2) = ys := by
  induction each with
  | nil => exact ⟨[], rfl, rfl⟩
  | @cons x y xs ys head _ ih =>
    obtain ⟨pairs, hxs, hys⟩ := ih
    refine ⟨⟨(x, y), head⟩ :: pairs, ?_, ?_⟩
    · rw [List.map_cons, hxs]
    · rw [List.map_cons, hys]

theorem StableSort.apply_parallel (sort : StableSort) {cmp : α → α → Except ε Ordering}
    {cmp' : β → β → Except ε Ordering} (each : List.Forall₂ R xs ys)
    (alike : ∀ a b a' b', R a a' → R b b' → cmp a b = cmp' a' b') :
    Parallel (List.Forall₂ R) (sort.apply cmp xs) (sort.apply cmp' ys) := by
  obtain ⟨pairs, rfl, rfl⟩ := exists_pairs each
  -- Both sorts are the sort of the pairs, by the left sides or by the right ones.
  have answers : (fun p q : { p : α × β // R p.1 p.2 } => cmp p.1.1 q.1.1) = fun p q => cmp' p.1.2 q.1.2 :=
    funext fun p => funext fun q => alike _ _ _ _ p.2 q.2
  rw [sort.apply_map, sort.apply_map, answers]
  cases sort.apply (fun p q : { p : α × β // R p.1 p.2 } => cmp' p.1.2 q.1.2) pairs with
  | error e => exact .error e
  | ok sorted =>
    refine .ok ?_
    rw [List.forall₂_map_left_iff, List.forall₂_map_right_iff, List.forall₂_same]
    intro p _
    exact p.2

end

end RecordQuery
