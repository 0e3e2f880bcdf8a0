import RecordQuery.Proofs.Ordering.Rows

/-!
Values without doubles, and rows of them, are ordered in part. Steps that do not descend lead to what
compares with their start, and values that tie cannot be told apart: they compare alike with every other
one, and fail to compare with the same ones, for the same cause.
-/

namespace RecordQuery

/-- Among some elements a comparison orders in part: two steps that do not descend make one that does
not, which ties only where both do; and elements that tie are compared alike with every other one. -/
structure OrdersInPart {α β : Type} (among : α → Prop) (cmp : α → α → β) (outcome : β → Option Ordering) :
    Prop where
  chain : ∀ a b c, among a → among b → among c → ∀ o₁ o₂, outcome (cmp a b) = some o₁ →
    outcome (cmp b c) = some o₂ → o₁ ≠ .gt → o₂ ≠ .gt →
    ∃ o, outcome (cmp a c) = some o ∧ o ≠ .gt ∧ (o = .eq → o₁ = .eq ∧ o₂ = .eq)
  tie : ∀ a b x, among a → among b → among x → outcome (cmp a b) = some .eq → cmp a x = cmp b x

theorem Chains.ascends {p q r : Option Ordering} (h : Chains p q r) {o₁ o₂ : Ordering}
    (h₁ : p = some o₁) (h₂ : q = some o₂) (ne₁ : o₁ ≠ .gt) (ne₂ : o₂ ≠ .gt) :
    ∃ o, r = some o ∧ o ≠ .gt ∧ (o = .eq → o₁ = .eq ∧ o₂ = .eq) := by
  refine ⟨o₁.then o₂, h o₁ o₂ h₁ h₂ ne₁ ne₂, ?_, ?_⟩
  · cases o₁ with
    | gt => exact absurd rfl ne₁
    | lt => simp [Ordering.then]
    | eq => exact ne₂
  · exact Ordering.then_eq_eq.mp

/-! ### Values -/

namespace Value
variable {v w u : Value}

theorem kind_eq_of_compare? {o : Ordering} (outcome : v.compare? w = some o) : v.kind = w.kind := by
  cases v <;> cases w <;> first | rfl | cases outcome

/-- What compares with a value compares alike with one that ties with it. -/
theorem compare?_of_tie (hv : v.floatFree) (hw : w.floatFree) (hu : u.floatFree) (tie : v.compare? w = some .eq)
    {o : Ordering} (outcome : w.compare? u = some o) : v.compare? u = some o := by
  cases o with
  | lt | eq => exact compare?_chains hv hw hu .eq _ tie outcome (by simp) (by simp)
  | gt =>
    -- A descent is a chain from the other end.
    have down : u.compare? w = some .lt := by rw [w.compare?_swap u, outcome]; rfl
    have back : w.compare? v = some .eq := by rw [v.compare?_swap w, tie]; rfl
    have less : u.compare? v = some .lt := compare?_chains hu hw hv .lt .eq down back (by simp) (by simp)
    rw [u.compare?_swap v, less]
    rfl

theorem compare?_congr (hv : v.floatFree) (hw : w.floatFree) (hu : u.floatFree)
    (tie : v.compare? w = some .eq) : v.compare? u = w.compare? u := by
  have back : w.compare? v = some .eq := by rw [v.compare?_swap w, tie]; rfl
  refine Option.ext fun o => ⟨?_, ?_⟩
  · exact compare?_of_tie hw hv hu back
  · exact compare?_of_tie hv hw hu tie

end Value

/-! ### Rows -/

theorem SortKey.compare_congr (key : SortKey) {v w u : Value} (hv : v.floatFree) (hw : w.floatFree)
    (hu : u.floatFree) (tie : key.compare v w = .ok .eq) : key.compare v u = key.compare w u := by
  have tie : v.compare? w = some .eq := by
    rw [← toOption_eq_some_iff, compare_toOption, Option.map_eq_some_iff] at tie
    obtain ⟨o, outcome, applied⟩ := tie
    rwa [Direction.apply_eq_eq_iff.mp applied] at outcome
  rw [compare, compare, Value.compare?_congr hv hw hu tie, Value.kind_eq_of_compare? tie]

/-- Rows that tie compare alike with every other row, failures included. -/
theorem compareRows_congr {keys : List SortKey} {as bs xs : List Value} (hab : as.length = bs.length)
    (freeA : ∀ v ∈ as, v.floatFree) (freeB : ∀ v ∈ bs, v.floatFree) (freeX : ∀ v ∈ xs, v.floatFree)
    (tie : compareRows keys as bs = .ok .eq) : compareRows keys as xs = compareRows keys bs xs := by
  match keys, as, bs, xs with
  | [], _, _, _ | _ :: _, [], [], _ | _ :: _, _ :: _, _ :: _, [] => rfl
  | key :: keys, a :: as, b :: bs, x :: xs =>
    rw [compareRows_cons, breakTie_eq_tie_iff] at tie
    obtain ⟨head, rest⟩ := tie
    obtain ⟨freeHeadA, freeA⟩ := List.forall_mem_cons.mp freeA
    obtain ⟨freeHeadB, freeB⟩ := List.forall_mem_cons.mp freeB
    obtain ⟨freeHeadX, freeX⟩ := List.forall_mem_cons.mp freeX
    rw [compareRows_cons, compareRows_cons, key.compare_congr freeHeadA freeHeadB freeHeadX head,
      compareRows_congr (Nat.succ.inj hab) freeA freeB freeX rest]

/-- Values without doubles are ordered in part, and so are rows of one length of them under all sort
keys, whatever their directions and their number. -/
theorem floatFree_ordersInPart :
    OrdersInPart (fun v => v.floatFree = true) Value.compare? id ∧
    ∀ (keys : List SortKey) (n : Nat),
      OrdersInPart (fun row => row.length = n ∧ ∀ v ∈ row, v.floatFree = true) (compareRows keys) Except.toOption := by
  refine ⟨⟨fun a b c ha hb hc o₁ o₂ h₁ h₂ => ?_, fun a b x ha hb hx => ?_⟩, fun keys n =>
    ⟨fun as bs cs ha hb hc o₁ o₂ h₁ h₂ => ?_, fun as bs xs ha hb hx tie => ?_⟩⟩
  · exact (Value.compare?_chains ha hb hc).ascends h₁ h₂
  · exact Value.compare?_congr ha hb hx
  · have chains : Chains (compareRows keys as bs).toOption (compareRows keys bs cs).toOption
        (compareRows keys as cs).toOption :=
      compareRows_chains (ha.1.trans hb.1.symm) (hb.1.trans hc.1.symm) ha.2 hb.2 hc.2
    exact chains.ascends h₁ h₂
  · exact compareRows_congr (ha.1.trans hb.1.symm) ha.2 hb.2 hx.2 (toOption_eq_some_iff.mp tie)

/-- Values that tie need not be the same. -/
example : (Value.list [.number (.signed 1)]).compare? (.list [.number (.unsigned 1)]) = some .eq := by decide

end RecordQuery
