import RecordQuery.Proofs.Value.Wide
import RecordQuery.Value.Compare

/-!
The order of values. The other way round a comparison has the swapped outcome, doubles and NaN among
the values or not. Along a chain of values without doubles the outcomes agree: integers compare
exactly, whatever their representation, and lists in turn.
-/

namespace RecordQuery

/-! ### Outcomes in turn -/

/-- The first outcome, and where it is a tie the second. -/
def andThen : Option Ordering → Option Ordering → Option Ordering
  | some .eq, rest => rest
  | decided, _ => decided

theorem andThen_swap (p q : Option Ordering) :
    (andThen p q).map Ordering.swap = andThen (p.map Ordering.swap) (q.map Ordering.swap) := by
  cases p with
  | none => rfl
  | some o => cases o <;> rfl

/-- Of three elements, the outcomes `p` of the first and the second and `q` of the second and the third
give the outcome `r` of the first and the third, if both steps ascend. -/
def Chains (p q r : Option Ordering) : Prop :=
  ∀ o₁ o₂, p = some o₁ → q = some o₂ → o₁ ≠ .gt → o₂ ≠ .gt → r = some (o₁.then o₂)

theorem Chains.andThen {p q r s t u : Option Ordering} (first : Chains p q r) (rest : Chains s t u) :
    Chains (andThen p s) (andThen q t) (andThen r u) := by
  intro o₁ o₂ h₁ h₂ ne₁ ne₂
  cases p with
  | none => cases h₁
  | some p =>
  cases q with
  | none => cases h₂
  | some q =>
  cases p with
  | gt =>
    cases h₁
    exact absurd rfl ne₁
  | lt =>
    cases h₁
    cases q with
    | gt =>
      cases h₂
      exact absurd rfl ne₂
    | lt | eq => rw [first _ _ rfl rfl (by simp) (by simp)]; rfl
  | eq =>
    cases q with
    | gt =>
      cases h₂
      exact absurd rfl ne₂
    | lt =>
      cases h₂
      rw [first _ _ rfl rfl (by simp) (by simp)]
      cases o₁ with
      | gt => exact absurd rfl ne₁
      | lt | eq => rfl
    | eq =>
      rw [first _ _ rfl rfl (by simp) (by simp)]
      exact rest o₁ o₂ h₁ h₂ ne₁ ne₂

/-- The outcomes of a total order chain. -/
theorem chains_compare {α : Type} [Ord α] [Std.TransOrd α] (a b c : α) :
    Chains (some (compare a b)) (some (compare b c)) (some (compare a c)) := by
  intro o₁ o₂ h₁ h₂ ne₁ ne₂
  have h₁ : compare a b = o₁ := Option.some.inj h₁
  have h₂ : compare b c = o₂ := Option.some.inj h₂
  refine congrArg some ?_
  cases o₁ with
  | gt => exact absurd rfl ne₁
  | lt =>
    cases o₂ with
    | gt => exact absurd rfl ne₂
    | lt => exact Std.TransCmp.lt_trans h₁ h₂
    | eq => exact Std.TransCmp.lt_of_lt_of_eq h₁ h₂
  | eq =>
    cases o₂ with
    | gt => exact absurd rfl ne₂
    | lt => exact Std.TransCmp.lt_of_eq_of_lt h₁ h₂
    | eq => exact Std.TransCmp.eq_trans h₁ h₂

/-! ### Numbers -/

theorem Binary.compare?_swap (x y : Float) : compare? y x = (compare? x y).map Ordering.swap := by
  unfold compare?
  cases place? x with
  | none => cases place? y <;> rfl
  | some a =>
    cases place? y with
    | none => rfl
    | some b => exact congrArg some Std.OrientedOrd.eq_swap

namespace Number

theorem compare?_swap (a b : Number) : b.compare? a = (a.compare? b).map Ordering.swap := by
  by_cases both : a.toInt?.isSome ∧ b.toInt?.isSome
  · obtain ⟨m, hm⟩ := Option.isSome_iff_exists.mp both.1
    obtain ⟨n, hn⟩ := Option.isSome_iff_exists.mp both.2
    rw [compare?_of_toInt? hm hn, compare?_of_toInt? hn hm]
    exact congrArg some Std.OrientedOrd.eq_swap
  · rw [compare?_of_not_both both, compare?_of_not_both (mt And.symm both)]
    exact Binary.compare?_swap _ _

theorem compare?_chains {a b c : Number} (ha : a.toInt?.isSome) (hb : b.toInt?.isSome)
    (hc : c.toInt?.isSome) : Chains (a.compare? b) (b.compare? c) (a.compare? c) := by
  obtain ⟨l, hl⟩ := Option.isSome_iff_exists.mp ha
  obtain ⟨m, hm⟩ := Option.isSome_iff_exists.mp hb
  obtain ⟨n, hn⟩ := Option.isSome_iff_exists.mp hc
  rw [compare?_of_toInt? hl hm, compare?_of_toInt? hm hn, compare?_of_toInt? hl hn]
  exact chains_compare l m n

end Number

/-! ### Values -/

theorem compareItems?_cons (a b : Value) (as bs : List Value) :
    compareItems? (a :: as) (b :: bs) = andThen (a.compare? b) (compareItems? as bs) := by
  rw [compareItems?]
  rcases a.compare? b with _ | _ | _ | _ <;> rfl

mutual

theorem Value.compare?_swap (v w : Value) : w.compare? v = (v.compare? w).map Ordering.swap := by
  match v with
  | .null => cases w <;> rfl
  | .bool a =>
    cases w with
    | bool b => exact congrArg some Std.OrientedOrd.eq_swap
    | _ => rfl
  | .number a =>
    cases w with
    | number b => exact a.compare?_swap b
    | _ => rfl
  | .string a =>
    cases w with
    | string b => exact congrArg some Std.OrientedOrd.eq_swap
    | _ => rfl
  | .list as =>
    cases w with
    | list bs => exact compareItems?_swap as bs
    | _ => rfl
  | .record r => cases w <;> rfl

theorem compareItems?_swap (as bs : List Value) :
    compareItems? bs as = (compareItems? as bs).map Ordering.swap := by
  match as, bs with
  | [], [] => rfl
  | [], _ :: _ => rfl
  | _ :: _, [] => rfl
  | a :: as, b :: bs =>
    rw [compareItems?_cons, compareItems?_cons, andThen_swap, a.compare?_swap b, compareItems?_swap as bs]

end

mutual

/-- No double is in the value, nor in a list within it. What records hold is not compared. -/
def Value.floatFree : Value → Bool
  | .number n => n.toInt?.isSome
  | .list items => floatFreeItems items
  | _ => true

/-- No double is in the items, nor in a list within them. -/
def floatFreeItems : List Value → Bool
  | [] => true
  | v :: vs => v.floatFree && floatFreeItems vs

end

mutual

theorem Value.compare?_chains {v w u : Value} (hv : v.floatFree) (hw : w.floatFree) (hu : u.floatFree) :
    Chains (v.compare? w) (w.compare? u) (v.compare? u) := by
  intro o₁ o₂ h₁ h₂
  match v, w, u with
  | .null, .null, .null => cases h₁; cases h₂; exact fun _ _ => rfl
  | .bool a, .bool b, .bool c => exact chains_compare a b c o₁ o₂ h₁ h₂
  | .number a, .number b, .number c => exact Number.compare?_chains hv hw hu o₁ o₂ h₁ h₂
  | .string a, .string b, .string c => exact chains_compare a b c o₁ o₂ h₁ h₂
  | .list as, .list bs, .list cs => exact compareItems?_chains hv hw hu o₁ o₂ h₁ h₂

theorem compareItems?_chains {as bs cs : List Value} (ha : floatFreeItems as) (hb : floatFreeItems bs)
    (hc : floatFreeItems cs) : Chains (compareItems? as bs) (compareItems? bs cs) (compareItems? as cs) := by
  intro o₁ o₂ h₁ h₂ ne₁ ne₂
  match as, bs, cs with
  | [], [], [] => cases h₁; cases h₂; rfl
  | [], [], _ :: _ => cases h₁; cases h₂; rfl
  | [], _ :: _, _ :: _ => cases h₁; rfl
  | _, _ :: _, [] =>
    -- No list is followed by one that it begins with.
    have greater : o₂ = .gt := (Option.some.inj h₂).symm
    exact absurd greater ne₂
  | _ :: _, [], _ =>
    have greater : o₁ = .gt := (Option.some.inj h₁).symm
    exact absurd greater ne₁
  | a :: as, b :: bs, c :: cs =>
    rw [compareItems?_cons] at h₁ h₂ ⊢
    obtain ⟨ha, has⟩ := Bool.and_eq_true_iff.mp ha
    obtain ⟨hb, hbs⟩ := Bool.and_eq_true_iff.mp hb
    obtain ⟨hc, hcs⟩ := Bool.and_eq_true_iff.mp hc
    exact (Value.compare?_chains ha hb hc).andThen (compareItems?_chains has hbs hcs) o₁ o₂ h₁ h₂ ne₁ ne₂

end

end RecordQuery
