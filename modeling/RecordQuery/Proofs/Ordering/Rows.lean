import RecordQuery.Ordering
import RecordQuery.Proofs.Sorting.Stable
import RecordQuery.Proofs.Value.Order

/-!
The comparison of rows of key values. It follows the order of values key by key, each in its own
direction, and so it can be asked the other way round and along chains as that order can.
-/

namespace RecordQuery

/-! ### Single keys -/

/-- Chains can be followed from the other end, as ascending steps may be taken in either turn. -/
theorem Chains.flip {p q r : Option Ordering} (h : Chains q p r) : Chains p q r := by
  intro o₁ o₂ h₁ h₂ ne₁ ne₂
  rw [h o₂ o₁ h₂ h₁ ne₂ ne₁]
  cases o₁ with
  | gt => exact absurd rfl ne₁
  | lt | eq =>
    cases o₂ with
    | gt => exact absurd rfl ne₂
    | lt | eq => rfl

namespace SortKey
variable (key : SortKey)

theorem compare_toOption (a b : Value) :
    (key.compare a b).toOption = (a.compare? b).map key.direction.apply := by
  unfold compare
  cases a.compare? b <;> rfl

theorem compare_swap (a b : Value) :
    (key.compare b a).toOption = (key.compare a b).toOption.map Ordering.swap := by
  rw [compare_toOption, compare_toOption, a.compare?_swap b, Option.map_map, Option.map_map]
  exact congrArg (fun f => (a.compare? b).map f) (funext key.direction.apply_swap)

theorem compare_chains {a b c : Value} (ha : a.floatFree) (hb : b.floatFree) (hc : c.floatFree) :
    Chains (key.compare a b).toOption (key.compare b c).toOption (key.compare a c).toOption := by
  simp only [compare_toOption]
  cases key.direction with
  | ascending =>
    have same : ∀ p : Option Ordering, p.map Direction.ascending.apply = p := fun p => by cases p <;> rfl
    rw [same, same, same]
    exact Value.compare?_chains ha hb hc
  | descending =>
    have back : ∀ v w : Value, (v.compare? w).map Direction.descending.apply = w.compare? v := fun v w =>
      (v.compare?_swap w).symm
    rw [back, back, back]
    exact (Value.compare?_chains hc hb ha).flip

/-- A key fails on two values with their kinds, which do not compare. -/
theorem compare_error {a b : Value} {e : Failure} (failed : key.compare a b = .error e) :
    a.compare? b = none ∧ e = .incomparable key.text a.kind b.kind := by
  unfold compare at failed
  cases answer : a.compare? b with
  | some o =>
    rw [answer] at failed
    cases failed
  | none =>
    rw [answer] at failed
    cases failed
    exact ⟨rfl, rfl⟩

end SortKey

/-! ### Rows -/

theorem breakTie_toOption {ε : Type} (first second : Except ε Ordering) :
    (breakTie first second).toOption = andThen first.toOption second.toOption := by
  cases first with
  | ok o => cases o <;> rfl
  | error e => rfl

theorem breakTie_assoc {ε : Type} (first second third : Except ε Ordering) :
    breakTie (breakTie first second) third = breakTie first (breakTie second third) := by
  cases first with
  | ok o => cases o <;> rfl
  | error e => rfl

theorem breakTie_eq_tie_iff {ε : Type} {first second : Except ε Ordering} :
    breakTie first second = .ok .eq ↔ first = .ok .eq ∧ second = .ok .eq := by
  cases first with
  | ok o => cases o <;> simp [breakTie]
  | error e => simp [breakTie]

theorem breakTie_ok_iff {ε : Type} {first second : Except ε Ordering} :
    (∃ o, breakTie first second = .ok o) ↔
      (∃ o, first = .ok o) ∧ (first = .ok .eq → ∃ o, second = .ok o) := by
  cases first with
  | ok o => cases o <;> simp [breakTie]
  | error e => simp [breakTie]

theorem compareRows_cons (key : SortKey) (keys : List SortKey) (a b : Value) (as bs : List Value) :
    compareRows (key :: keys) (a :: as) (b :: bs) =
      breakTie (key.compare a b) (compareRows keys as bs) := by
  rw [compareRows]
  rcases key.compare a b with _ | _ | _ | _ <;> rfl

/-- The keys behind others break their ties. -/
theorem compareRows_append {first second : List SortKey} {as bs cs ds : List Value}
    (ha : first.length = as.length) (hb : first.length = bs.length) :
    compareRows (first ++ second) (as ++ cs) (bs ++ ds) =
      breakTie (compareRows first as bs) (compareRows second cs ds) := by
  match first, as, bs with
  | [], [], [] => rfl
  | key :: first, a :: as, b :: bs =>
    simp only [List.cons_append, compareRows_cons, breakTie_assoc]
    rw [compareRows_append (Nat.succ.inj ha) (Nat.succ.inj hb)]

theorem compareRows_swap (keys : List SortKey) (as bs : List Value) :
    (compareRows keys bs as).toOption = (compareRows keys as bs).toOption.map Ordering.swap := by
  match keys, as, bs with
  | [], _, _ => rfl
  | _ :: _, [], [] => rfl
  | _ :: _, [], _ :: _ => rfl
  | _ :: _, _ :: _, [] => rfl
  | key :: keys, a :: as, b :: bs =>
    rw [compareRows_cons, compareRows_cons, breakTie_toOption, breakTie_toOption, andThen_swap,
      key.compare_swap a b, compareRows_swap keys as bs]

theorem compareRows_chains {keys : List SortKey} {as bs cs : List Value} (hab : as.length = bs.length)
    (hbc : bs.length = cs.length) (freeA : ∀ v ∈ as, v.floatFree) (freeB : ∀ v ∈ bs, v.floatFree)
    (freeC : ∀ v ∈ cs, v.floatFree) :
    Chains (compareRows keys as bs).toOption (compareRows keys bs cs).toOption
      (compareRows keys as cs).toOption := by
  match keys, as, bs, cs with
  | [], _, _, _ | _ :: _, [], [], [] =>
    -- Nothing is left to compare, neither keys nor values.
    intro o₁ o₂ h₁ h₂ _ _
    cases h₁
    cases h₂
    rfl
  | key :: keys, a :: as, b :: bs, c :: cs =>
    simp only [compareRows_cons, breakTie_toOption]
    obtain ⟨freeHeadA, freeA⟩ := List.forall_mem_cons.mp freeA
    obtain ⟨freeHeadB, freeB⟩ := List.forall_mem_cons.mp freeB
    obtain ⟨freeHeadC, freeC⟩ := List.forall_mem_cons.mp freeC
    exact (key.compare_chains freeHeadA freeHeadB freeHeadC).andThen
      (compareRows_chains (Nat.succ.inj hab) (Nat.succ.inj hbc) freeA freeB freeC)

end RecordQuery
