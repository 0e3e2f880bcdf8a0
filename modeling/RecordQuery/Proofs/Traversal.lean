import Mathlib.Data.List.Forall2

/-!
Steps that may fail, and traversals of lists by them. A traversal succeeds when every step does, and
else fails with the first step that does not.
-/

namespace RecordQuery

section
variable {α β ε : Type}

theorem bind_eq_ok_iff {x : Except ε α} {f : α → Except ε β} {b : β} :
    x >>= f = .ok b ↔ ∃ a, x = .ok a ∧ f a = .ok b := by
  cases x with
  | error e => exact ⟨(fun failed => nomatch failed), fun ⟨_, failed, _⟩ => nomatch failed⟩
  | ok a =>
    constructor
    · exact fun done => ⟨a, rfl, done⟩
    · rintro ⟨_, same, done⟩
      cases same
      exact done

theorem bind_eq_error_iff {x : Except ε α} {f : α → Except ε β} {e : ε} :
    x >>= f = .error e ↔ x = .error e ∨ ∃ a, x = .ok a ∧ f a = .error e := by
  cases x with
  | error e' =>
    constructor
    · intro failed
      cases failed
      exact Or.inl rfl
    · rintro (failed | ⟨_, done, _⟩)
      · cases failed
        rfl
      · cases done
  | ok a =>
    constructor
    · exact fun failed => Or.inr ⟨a, rfl, failed⟩
    · rintro (failed | ⟨_, done, failed⟩)
      · cases failed
      · cases done
        exact failed

theorem map_eq_ok_iff {x : Except ε α} {f : α → β} {b : β} :
    x.map f = .ok b ↔ ∃ a, x = .ok a ∧ f a = b := by
  cases x <;> simp [Except.map]

theorem map_eq_error_iff {x : Except ε α} {f : α → β} {e : ε} : x.map f = .error e ↔ x = .error e := by
  cases x <;> simp [Except.map]

theorem mapError_eq_ok_iff {ε' : Type} {x : Except ε α} {f : ε → ε'} {a : α} :
    x.mapError f = .ok a ↔ x = .ok a := by
  cases x <;> simp [Except.mapError]

theorem mapError_eq_error_iff {ε' : Type} {x : Except ε α} {f : ε → ε'} {e' : ε'} :
    x.mapError f = .error e' ↔ ∃ e, x = .error e ∧ f e = e' := by
  cases x <;> simp [Except.mapError]

theorem toOption_eq_some_iff {x : Except ε α} {a : α} : x.toOption = some a ↔ x = .ok a := by
  cases x <;> simp [Except.toOption]

end

/-! ### Results in turn -/

section
variable {α β ε : Type} {f : α → Except ε β} {xs : List α}

theorem mapM_cons_eq_ok_iff {x : α} {zs : List β} :
    (x :: xs).mapM f = .ok zs ↔ ∃ y, f x = .ok y ∧ ∃ ys, xs.mapM f = .ok ys ∧ y :: ys = zs := by
  simp only [List.mapM_cons, bind_eq_ok_iff, pure, Except.pure, Except.ok.injEq]

/-- A traversal succeeds with the results of its steps, each at its place. -/
theorem mapM_eq_ok_iff {ys : List β} :
    xs.mapM f = .ok ys ↔ List.Forall₂ (fun x y => f x = .ok y) xs ys := by
  induction xs generalizing ys with
  | nil =>
    constructor
    · intro done
      cases done
      exact List.Forall₂.nil
    · intro each
      cases each
      rfl
  | cons x xs ih =>
    rw [mapM_cons_eq_ok_iff]
    constructor
    · rintro ⟨y, head, ys, tail, rfl⟩
      exact List.Forall₂.cons head (ih.mp tail)
    · rintro (_ | ⟨head, tail⟩)
      exact ⟨_, head, _, ih.mpr tail, rfl⟩

theorem exists_mapM_ok (steps : ∀ x ∈ xs, ∃ y, f x = .ok y) : ∃ ys, xs.mapM f = .ok ys := by
  induction xs with
  | nil => exact ⟨[], rfl⟩
  | cons x xs ih =>
    obtain ⟨⟨y, head⟩, later⟩ := List.forall_mem_cons.mp steps
    obtain ⟨ys, tail⟩ := ih later
    exact ⟨y :: ys, mapM_cons_eq_ok_iff.mpr ⟨y, head, ys, tail, rfl⟩⟩

/-- A traversal with a step that fails has the failure of the first such step. -/
theorem mapM_first_error (steps : ¬ ∀ x ∈ xs, ∃ y, f x = .ok y) :
    ∃ before x after e, xs = before ++ x :: after ∧ (∀ z ∈ before, ∃ y, f z = .ok y) ∧
      f x = .error e ∧ xs.mapM f = .error e := by
  induction xs with
  | nil => exact absurd (fun _ hx => (nomatch hx)) steps
  | cons x xs ih =>
    cases head : f x with
    | error e =>
      refine ⟨[], x, xs, e, rfl, (fun _ hz => nomatch hz), head, ?_⟩
      rw [List.mapM_cons, head]
      rfl
    | ok y =>
      obtain ⟨before, z, after, e, rfl, earlier, failed, tail⟩ := ih fun later =>
        steps (List.forall_mem_cons.mpr ⟨⟨y, head⟩, later⟩)
      refine ⟨x :: before, z, after, e, rfl, List.forall_mem_cons.mpr ⟨⟨y, head⟩, earlier⟩, failed, ?_⟩
      rw [List.mapM_cons, head]
      change ((before ++ z :: after).mapM f >>= fun ys => pure (y :: ys)) = .error e
      rw [tail]
      rfl

/-- A traversal fails with the failure of a step behind steps that all succeed. -/
theorem mapM_eq_error_iff {e : ε} : xs.mapM f = .error e ↔
    ∃ before x after, xs = before ++ x :: after ∧ (∀ z ∈ before, ∃ y, f z = .ok y) ∧ f x = .error e := by
  constructor
  · intro failed
    have steps : ¬ ∀ x ∈ xs, ∃ y, f x = .ok y := by
      intro steps
      obtain ⟨ys, done⟩ := exists_mapM_ok steps
      cases failed.symm.trans done
    obtain ⟨before, x, after, e', split, clear, stuck, first⟩ := mapM_first_error steps
    cases failed.symm.trans first
    exact ⟨before, x, after, split, clear, stuck⟩
  · rintro ⟨before, x, after, rfl, clear, stuck⟩
    obtain ⟨ys, done⟩ := exists_mapM_ok clear
    rw [List.mapM_append, done]
    change ((x :: after).mapM f >>= fun zs => pure (ys ++ zs)) = .error e
    rw [List.mapM_cons, stuck]
    rfl

/-- A traversal that succeeds has succeeded at every step. -/
theorem forall_ok_of_mapM {ys : List β} (done : xs.mapM f = .ok ys) : ∀ x ∈ xs, ∃ y, f x = .ok y := by
  by_contra steps
  obtain ⟨_, _, _, e, -, -, -, failed⟩ := mapM_first_error steps
  rw [failed] at done
  cases done

end

/-- A traversal of lists that goes through each of them is one of all their elements. -/
theorem mapM_flatten {α β ε : Type} {f : α → Except ε (List β)} {g : List α → Except ε (List β)}
    {xss : List (List α)} (each : ∀ xs ∈ xss, g xs = (xs.mapM f).map List.flatten) :
    (xss.mapM g).map List.flatten = (xss.flatten.mapM f).map List.flatten := by
  induction xss with
  | nil => rfl
  | cons xs xss ih =>
    obtain ⟨here, later⟩ := List.forall_mem_cons.mp each
    rw [List.mapM_cons, List.flatten_cons, List.mapM_append, here]
    cases xs.mapM f with
    | error e => rfl
    | ok ys =>
      change (xss.mapM g >>= fun zss => pure (ys.flatten :: zss)).map List.flatten =
        (xss.flatten.mapM f >>= fun zs => pure (ys ++ zs)).map List.flatten
      cases tail : xss.flatten.mapM f with
      | error e =>
        rw [map_eq_error_iff.mp ((ih later).trans (congrArg _ tail))]
        rfl
      | ok zs =>
        obtain ⟨zss, run, same⟩ := map_eq_ok_iff.mp ((ih later).trans (congrArg _ tail))
        rw [run]
        exact congrArg Except.ok (by simp [same])

/-! ### Folds -/

/-- A fold fails at the first element that its step refuses, after what it has made of those in front. -/
theorem foldlM_eq_error_iff {α β ε : Type} {f : β → α → Except ε β} {xs : List α} {b : β} {e : ε} :
    xs.foldlM f b = .error e ↔
      ∃ before x after c, xs = before ++ x :: after ∧ before.foldlM f b = .ok c ∧ f c x = .error e := by
  constructor
  · intro failed
    induction xs generalizing b with
    | nil => cases failed
    | cons x xs ih =>
      rcases bind_eq_error_iff.mp failed with head | ⟨c, head, tail⟩
      · exact ⟨[], x, xs, b, rfl, rfl, head⟩
      · obtain ⟨before, y, after, c', rfl, run, stuck⟩ := ih tail
        exact ⟨x :: before, y, after, c', rfl, bind_eq_ok_iff.mpr ⟨c, head, run⟩, stuck⟩
  · rintro ⟨before, x, after, c, rfl, run, stuck⟩
    rw [List.foldlM_append, run]
    change (x :: after).foldlM f c = .error e
    exact bind_eq_error_iff.mpr (Or.inl stuck)

/-! ### Selections -/

section
variable {α ε : Type} {f : α → Except ε Bool} {p : α → Bool} {xs : List α}

theorem filterAuxM_ok (each : ∀ x ∈ xs, f x = .ok (p x)) (acc : List α) :
    xs.filterAuxM f acc = .ok ((xs.filter p).reverse ++ acc) := by
  induction xs generalizing acc with
  | nil => rfl
  | cons x xs ih =>
    obtain ⟨head, tail⟩ := List.forall_mem_cons.mp each
    rw [List.filterAuxM, head]
    change xs.filterAuxM f (cond (p x) (x :: acc) acc) = _
    rw [ih tail]
    cases answer : p x <;> simp [answer]

/-- A selection whose steps all answer keeps what they accept. -/
theorem filterM_ok (each : ∀ x ∈ xs, f x = .ok (p x)) : xs.filterM f = .ok (xs.filter p) := by
  rw [List.filterM, filterAuxM_ok each, List.append_nil]
  exact congrArg Except.ok (List.reverse_reverse _)

variable {x : α} {before after : List α} {e : ε}

theorem filterAuxM_error (clear : ∀ z ∈ before, f z = .ok (p z)) (failed : f x = .error e) (acc : List α) :
    (before ++ x :: after).filterAuxM f acc = .error e := by
  induction before generalizing acc with
  | nil =>
    rw [List.nil_append, List.filterAuxM, failed]
    rfl
  | cons z before ih =>
    obtain ⟨head, tail⟩ := List.forall_mem_cons.mp clear
    rw [List.cons_append, List.filterAuxM, head]
    exact ih tail _

/-- A selection with a step that fails has the failure of the first such step. -/
theorem filterM_error (clear : ∀ z ∈ before, f z = .ok (p z)) (failed : f x = .error e) :
    (before ++ x :: after).filterM f = .error e := by
  rw [List.filterM, filterAuxM_error clear failed]
  rfl

/-- A selection by the results of steps has the failure of the traversal by them. -/
theorem filterM_of_mapM_error {β : Type} {g : α → Except ε β} (failed : xs.mapM g = .error e) (test : β → Bool) :
    xs.filterM (fun x => (g x).map test) = .error e := by
  have steps : ¬ ∀ x ∈ xs, ∃ y, g x = .ok y := by
    intro steps
    obtain ⟨ys, done⟩ := exists_mapM_ok steps
    cases failed.symm.trans done
  obtain ⟨before, x, after, e', rfl, clear, stuck, first⟩ := mapM_first_error steps
  cases failed.symm.trans first
  refine filterM_error (p := fun z => ((g z).map test).toOption.getD false) (fun z hz => ?_) ?_
  · obtain ⟨y, done⟩ := clear z hz
    rw [done]
    rfl
  · rw [stuck]
    rfl

end

end RecordQuery
