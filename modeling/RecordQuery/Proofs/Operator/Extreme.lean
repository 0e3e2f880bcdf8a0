import RecordQuery.Operator.Transform
import RecordQuery.Proofs.Ordering.PartialOrder
import RecordQuery.Proofs.Value.Population

/-!
The largest and the smallest item of a list. One pass keeps the best item so far and compares each later one
with it alone. What it ends with has beaten every item in front of it and is beaten by none behind it, as long
as no doubles are among them; so where all items compare it is the first that no other one beats.
-/

namespace RecordQuery

/-! ### Values in the order wanted -/

theorem swap_ne {wanted : Ordering} (decided : wanted ≠ .eq) : wanted.swap ≠ wanted := by
  cases wanted with
  | lt | gt => decide
  | eq => exact absurd rfl decided

namespace Value
variable {v w x best : Value} {wanted o : Ordering}

/-- The two values compare. -/
def Compares (v w : Value) : Prop := ∃ o, v.compare? w = some o

instance (v w : Value) : Decidable (v.Compares w) :=
  decidable_of_iff ((v.compare? w).isSome = true) Option.isSome_iff_exists

theorem Compares.symm (h : v.Compares w) : w.Compares v := by
  obtain ⟨o, outcome⟩ := h
  exact ⟨o.swap, by rw [v.compare?_swap w, outcome]; rfl⟩

/-- What is beaten does not beat. -/
theorem not_beaten_of_beats (decided : wanted ≠ .eq) (beats : v.compare? w = some wanted) :
    w.compare? v = some wanted.swap ∧ wanted.swap ≠ wanted := by
  refine ⟨?_, swap_ne decided⟩
  rw [v.compare?_swap w, beats]
  rfl

/-- What beats a value beats every one that does not beat that value. -/
theorem beats_of_beats (decided : wanted ≠ .eq) (hx : x.floatFree) (hb : best.floatFree) (hv : v.floatFree)
    (beats : x.compare? best = some wanted) (outcome : v.compare? best = some o) (other : o ≠ wanted) :
    x.compare? v = some wanted := by
  cases wanted with
  | eq => exact absurd rfl decided
  | gt =>
    have up : best.compare? x = some .lt := (not_beaten_of_beats decided beats).1
    have below : v.compare? x = some (o.then .lt) := compare?_chains hv hb hx o .lt outcome up other (by simp)
    rw [v.compare?_swap x, below]
    cases o with
    | lt | eq => rfl
    | gt => exact absurd rfl other
  | lt =>
    have down : best.compare? v = some o.swap := by rw [v.compare?_swap best, outcome]; rfl
    refine compare?_chains hx hb hv .lt o.swap beats down (by simp) ?_
    cases o with
    | lt => exact absurd rfl other
    | eq | gt => decide

/-- What does not beat a value ties with it or is beaten by it. -/
theorem tie_or_beaten (decided : wanted ≠ .eq) (outcome : v.compare? w = some o) (ne : o ≠ wanted) :
    v.compare? w = some .eq ∨ w.compare? v = some wanted := by
  by_cases tie : o = .eq
  · exact Or.inl (tie ▸ outcome)
  · have back : o.swap = wanted := by
      cases wanted with
      | eq => exact absurd rfl decided
      | lt | gt => cases o <;> first | rfl | exact absurd rfl tie | exact absurd rfl ne
    refine Or.inr ?_
    rw [v.compare?_swap w, outcome, ← back]
    rfl

end Value

namespace Transform

section
variable {wanted : Ordering} {items front behind : List Value} {item best x v : Value}

/-! ### The pass -/

theorem extremeItem?_append (best : Value) (xs ys : List Value) :
    extremeItem? wanted best (xs ++ ys) = (extremeItem? wanted best xs).bind (extremeItem? wanted · ys) := by
  induction xs generalizing best with
  | nil => rfl
  | cons item xs ih =>
    rw [List.cons_append, extremeItem?, extremeItem?]
    cases item.compare? best with
    | none => rfl
    | some o => exact ih _

/-- An item more is compared with the best one of those before. -/
theorem extreme_concat (nonempty : items ≠ []) (item : Value) :
    extreme wanted (.list (items ++ [item])) = (extreme wanted (.list items)).bind fun best =>
      (item.compare? best).map fun o => if o = wanted then item else best := by
  obtain ⟨first, rest, rfl⟩ := List.exists_cons_of_ne_nil nonempty
  change extremeItem? wanted first (rest ++ [item]) = (extremeItem? wanted first rest).bind _
  rw [extremeItem?_append]
  congr 1
  funext best
  rw [extremeItem?]
  cases item.compare? best <;> rfl

/-- A longer list has an extreme item only if the items before have one, with which the new one compares. -/
theorem extreme_concat_eq_some_iff (nonempty : items ≠ []) :
    extreme wanted (.list (items ++ [item])) = some x ↔
      ∃ best o, extreme wanted (.list items) = some best ∧ item.compare? best = some o ∧
        x = if o = wanted then item else best := by
  rw [extreme_concat nonempty, Option.bind_eq_some_iff]
  simp only [Option.map_eq_some_iff, eq_comm (b := x)]
  constructor
  · rintro ⟨best, before, o, outcome, rfl⟩
    exact ⟨best, o, before, outcome, rfl⟩
  · rintro ⟨best, o, before, outcome, rfl⟩
    exact ⟨best, before, o, outcome, rfl⟩

theorem mem_of_extreme (found : extreme wanted (.list items) = some x) : x ∈ items := by
  induction items using List.reverseRecOn generalizing x with
  | nil => cases found
  | append_singleton items item ih =>
    by_cases nonempty : items = []
    · subst nonempty
      cases found
      exact List.mem_singleton_self _
    · obtain ⟨best, o, before, -, rfl⟩ := (extreme_concat_eq_some_iff nonempty).mp found
      split
      · exact List.mem_append_right _ (List.mem_singleton_self _)
      · exact List.mem_append_left _ (ih before)

/-- Items that all compare have an extreme one. -/
theorem exists_extreme (wanted : Ordering) (nonempty : items ≠ []) (compare : items.Pairwise Value.Compares) :
    ∃ x, extreme wanted (.list items) = some x := by
  induction items using List.reverseRecOn with
  | nil => exact absurd rfl nonempty
  | append_singleton items item ih =>
    by_cases none : items = []
    · subst none
      exact ⟨item, rfl⟩
    · obtain ⟨earlier, -, last⟩ := List.pairwise_append.mp compare
      obtain ⟨best, before⟩ := ih none earlier
      obtain ⟨o, outcome⟩ := (last best (mem_of_extreme before) item (List.mem_singleton_self _)).symm
      exact ⟨_, (extreme_concat_eq_some_iff none).mpr ⟨best, o, before, outcome, rfl⟩⟩

/-! ### What the pass keeps -/

/-- An item of a list beats all in front of it, and none behind it beats that item. -/
structure Crowned (wanted : Ordering) (items front : List Value) (best : Value) (behind : List Value) : Prop where
  place : items = front ++ best :: behind
  beats : ∀ v ∈ front, best.compare? v = some wanted
  unbeaten : ∀ v ∈ behind, ∃ o, v.compare? best = some o ∧ o ≠ wanted

namespace Crowned

theorem mem (crowned : Crowned wanted items front best behind) : best ∈ items := by
  rw [crowned.place]
  exact List.mem_append_right _ List.mem_cons_self

/-- No item but the crowned one itself beats it. -/
theorem unbeaten_by (decided : wanted ≠ .eq) (crowned : Crowned wanted items front best behind) (mem : v ∈ items) :
    v = best ∨ ∃ o, v.compare? best = some o ∧ o ≠ wanted := by
  rw [crowned.place] at mem
  rcases List.mem_append.mp mem with before | here
  · exact Or.inr ⟨_, Value.not_beaten_of_beats decided (crowned.beats v before)⟩
  · rcases List.mem_cons.mp here with same | after
    · exact Or.inl same
    · exact Or.inr (crowned.unbeaten v after)

/-- What beats the crowned item of a list without doubles beats all its items. -/
theorem beats_all (decided : wanted ≠ .eq) (free : ∀ v ∈ items, v.floatFree) (hx : x.floatFree)
    (crowned : Crowned wanted items front best behind) (beats : x.compare? best = some wanted) :
    ∀ v ∈ items, x.compare? v = some wanted := by
  intro v mem
  rcases crowned.unbeaten_by decided mem with rfl | ⟨o, outcome, other⟩
  · exact beats
  · exact Value.beats_of_beats decided hx (free best crowned.mem) (free v mem) beats outcome other

/-- One step of the pass, with an item more: it is crowned, or the item that was stays so. -/
theorem step (decided : wanted ≠ .eq) (free : ∀ v ∈ items, v.floatFree) (hx : item.floatFree)
    (crowned : Crowned wanted items front best behind) {o : Ordering} (outcome : item.compare? best = some o) :
    ∃ front' behind', Crowned wanted (items ++ [item]) front' (if o = wanted then item else best) behind' := by
  split
  · next won =>
    exact ⟨items, [], rfl, crowned.beats_all decided free hx (won ▸ outcome), fun v mem => nomatch mem⟩
  · next lost =>
    refine ⟨front, behind ++ [item], ?_, crowned.beats, ?_⟩
    · rw [crowned.place, List.append_assoc, List.cons_append]
    · rw [List.forall_mem_append, List.forall_mem_singleton]
      exact ⟨crowned.unbeaten, o, outcome, lost⟩

end Crowned

/-- The whole pass ends with a crowned item. -/
theorem crowned_of_extreme (decided : wanted ≠ .eq) (free : ∀ v ∈ items, v.floatFree)
    (found : extreme wanted (.list items) = some x) : ∃ front behind, Crowned wanted items front x behind := by
  induction items using List.reverseRecOn generalizing x with
  | nil => cases found
  | append_singleton items item ih =>
    rw [List.forall_mem_append, List.forall_mem_singleton] at free
    by_cases nonempty : items = []
    · subst nonempty
      cases found
      exact ⟨[], [], rfl, (fun v mem => nomatch mem), fun v mem => nomatch mem⟩
    · obtain ⟨best, o, before, outcome, rfl⟩ := (extreme_concat_eq_some_iff nonempty).mp found
      obtain ⟨front, behind, crowned⟩ := ih free.1 before
      exact crowned.step decided free.1 free.2 outcome

/-! ### The first unbeaten item -/

/-- No item at another place beats the one at this place. -/
def Unbeaten (wanted : Ordering) (items : List Value) (i : Fin items.length) : Prop :=
  ∀ j, j ≠ i → items[j].compare? items[i] ≠ some wanted

theorem Crowned.exists_first (decided : wanted ≠ .eq) (crowned : Crowned wanted items front best behind) :
    ∃ i : Fin items.length, items[i] = best ∧ Unbeaten wanted items i ∧ ∀ j < i, ¬ Unbeaten wanted items j := by
  obtain ⟨rfl, beats, unbeaten⟩ := crowned
  have bound : front.length < (front ++ best :: behind).length := by simp
  have here : (front ++ best :: behind)[front.length] = best := by simp
  have ahead : ∀ j : Fin (front ++ best :: behind).length, (j : Nat) < front.length →
      (front ++ best :: behind)[j] ∈ front := by
    intro j before
    rw [Fin.getElem_fin, List.getElem_append_left before]
    exact List.getElem_mem before
  refine ⟨⟨front.length, bound⟩, here, fun j other => ?_, fun j before unbeatenThere => ?_⟩
  · rw [Fin.getElem_fin _ ⟨front.length, _⟩, here]
    rcases Nat.lt_trichotomy j front.length with before | same | after
    · obtain ⟨back, ne⟩ := Value.not_beaten_of_beats decided (beats _ (ahead j before))
      rw [back]
      exact fun same => ne (Option.some.inj same)
    · exact absurd (Fin.ext same) other
    · have mem : (front ++ best :: behind)[j] ∈ behind := by
        obtain ⟨k, hk⟩ : ∃ k, (j : Nat) = front.length + (k + 1) := ⟨j - front.length - 1, by omega⟩
        simp only [Fin.getElem_fin, hk, List.getElem_append_right (Nat.le_add_right _ _), Nat.add_sub_cancel_left,
          List.getElem_cons_succ]
        exact List.getElem_mem _
      obtain ⟨o, outcome, ne⟩ := unbeaten _ mem
      rw [outcome]
      exact fun same => ne (Option.some.inj same)
  · refine unbeatenThere ⟨front.length, bound⟩ (Fin.ne_of_gt before) ?_
    rw [Fin.getElem_fin _ ⟨front.length, _⟩, here]
    exact beats _ (ahead j before)

/-- Crowned items of one list in two orders are equal. -/
theorem Crowned.same (decided : wanted ≠ .eq) {items' front' behind' : List Value} {best' : Value}
    (free : ∀ v ∈ items, v.floatFree) (perm : items'.Perm items) (crowned : Crowned wanted items front best behind)
    (crowned' : Crowned wanted items' front' best' behind') : best.same best' = true := by
  rcases crowned'.unbeaten_by decided (perm.mem_iff.mpr crowned.mem) with rfl | ⟨o, first, ne⟩
  · exact Value.same_self (free best crowned.mem)
  · rcases crowned.unbeaten_by decided (perm.mem_iff.mp crowned'.mem) with rfl | ⟨o', second, ne'⟩
    · exact Value.same_self (free best' crowned.mem)
    · rcases Value.tie_or_beaten decided first ne with tie | beaten
      · exact (Value.same_of_compare? tie).1
      · exact absurd (Option.some.inj (second.symm.trans beaten)) ne'

end

/-! ### Characters -/

section
variable {wanted : Ordering}

theorem compare_ne_trans {a b c : Char} (decided : wanted ≠ .eq) (first : compare a b ≠ wanted)
    (second : compare b c ≠ wanted) : compare a c ≠ wanted := by
  cases wanted with
  | eq => exact absurd rfl decided
  | lt =>
    exact Ordering.isGE_iff_ne_lt.mp
      (Std.TransCmp.isGE_trans (Ordering.isGE_iff_ne_lt.mpr first) (Ordering.isGE_iff_ne_lt.mpr second))
  | gt =>
    exact Ordering.isLE_iff_ne_gt.mp
      (Std.TransCmp.isLE_trans (Ordering.isLE_iff_ne_gt.mpr first) (Ordering.isLE_iff_ne_gt.mpr second))

theorem extremeChar_unbeaten (decided : wanted ≠ .eq) (best : Char) (cs : List Char) :
    extremeChar wanted best cs ∈ best :: cs ∧ ∀ d ∈ best :: cs, compare d (extremeChar wanted best cs) ≠ wanted := by
  induction cs generalizing best with
  | nil =>
    rw [List.forall_mem_singleton]
    refine ⟨List.mem_singleton_self _, ?_⟩
    rw [extremeChar, List.foldl_nil, Std.ReflOrd.compare_self]
    exact decided.symm
  | cons c cs ih =>
    have next : extremeChar wanted best (c :: cs) =
        extremeChar wanted (if compare c best = wanted then c else best) cs := rfl
    obtain ⟨mem, unbeaten⟩ := ih (if compare c best = wanted then c else best)
    rw [← next] at mem unbeaten
    obtain ⟨head, tail⟩ := List.forall_mem_cons.mp unbeaten
    -- Neither of the two that met beats the one that is kept.
    have kept : compare best (if compare c best = wanted then c else best) ≠ wanted ∧
        compare c (if compare c best = wanted then c else best) ≠ wanted := by
      split
      · next won =>
        have back : compare best c = (compare c best).swap := Std.OrientedCmp.eq_swap
        rw [back, won, Std.ReflOrd.compare_self]
        exact ⟨swap_ne decided, decided.symm⟩
      · next lost =>
        rw [Std.ReflOrd.compare_self]
        exact ⟨decided.symm, lost⟩
    refine ⟨?_, ?_⟩
    · rcases List.mem_cons.mp mem with same | later
      · rw [same]
        split
        · exact List.mem_cons_of_mem _ List.mem_cons_self
        · exact List.mem_cons_self
      · exact List.mem_cons_of_mem _ (List.mem_cons_of_mem _ later)
    · rw [List.forall_mem_cons, List.forall_mem_cons]
      exact ⟨compare_ne_trans decided kept.1 head, compare_ne_trans decided kept.2 head, tail⟩

end

/-- The extreme item of a list without doubles whose items all compare is the first that no other one beats:
the largest one wanted, the first that none is greater than, the smallest one, the first that none is less than.
In every other order of the items it is an equal one. The extreme character of a string is one of its characters
that none of them beats. An empty list and an empty string have none. -/
theorem extreme_of_comparable {wanted : Ordering} (decided : wanted ≠ .eq) :
    (∀ items : List Value, items ≠ [] → (∀ v ∈ items, v.floatFree) → items.Pairwise Value.Compares →
      (∃ i : Fin items.length, extreme wanted (.list items) = some items[i] ∧ Unbeaten wanted items i ∧
        ∀ j < i, ¬ Unbeaten wanted items j) ∧
      ∀ items', items'.Perm items → ∃ x x', extreme wanted (.list items) = some x ∧
        extreme wanted (.list items') = some x' ∧ x.same x' = true) ∧
    (∀ s : String, s ≠ "" → ∃ c ∈ s.toList, extreme wanted (.string s) = some (.ofChar c) ∧
      ∀ d ∈ s.toList, compare d c ≠ wanted) ∧
    extreme wanted (.list []) = none ∧ extreme wanted (.string "") = none := by
  refine ⟨fun items nonempty free comparable => ?_, fun s nonempty => ?_, rfl, rfl⟩
  · obtain ⟨x, found⟩ := exists_extreme wanted nonempty comparable
    obtain ⟨front, behind, crowned⟩ := crowned_of_extreme decided free found
    constructor
    · obtain ⟨i, rfl, unbeaten, first⟩ := crowned.exists_first decided
      exact ⟨i, found, unbeaten, first⟩
    · intro items' perm
      have nonempty' : items' ≠ [] := fun none => nonempty (List.nil_perm.mp (none ▸ perm))
      have comparable' : items'.Pairwise Value.Compares :=
        (perm.pairwise_iff fun h => h.symm).mpr comparable
      obtain ⟨x', found'⟩ := exists_extreme wanted nonempty' comparable'
      obtain ⟨front', behind', crowned'⟩ :=
        crowned_of_extreme decided (fun v mem => free v (perm.mem_iff.mp mem)) found'
      exact ⟨x, x', found, found', crowned.same decided free perm crowned'⟩
  · cases chars : s.toList with
    | nil => exact absurd (String.toList_eq_nil_iff.mp chars) nonempty
    | cons c cs =>
      obtain ⟨mem, unbeaten⟩ := extremeChar_unbeaten decided c cs
      refine ⟨extremeChar wanted c cs, mem, ?_, unbeaten⟩
      rw [extreme, chars]

/-- Lists of which the second and the third tie, each with its representation of one integer. -/
def tied : List Value :=
  [.list [.number (.signed 1), .bool true], .list [.number (.signed 2), .null], .list [.number (.unsigned 2), .null]]

theorem extreme_of_comparable_tied :
    (tied ≠ [] ∧ (∀ v ∈ tied, v.floatFree) ∧ tied.Pairwise Value.Compares) ∧
    (∃ i : Fin tied.length, extreme .gt (.list tied) = some tied[i] ∧ Unbeaten .gt tied i ∧
      ∀ j < i, ¬ Unbeaten .gt tied j) ∧
    (∃ x x', extreme .lt (.list tied) = some x ∧ extreme .lt (.list tied.reverse) = some x' ∧ x.same x' = true) ∧
    ∃ c ∈ "FOAF".toList, extreme .gt (.string "FOAF") = some (.ofChar c) ∧ ∀ d ∈ "FOAF".toList, compare d c ≠ .gt := by
  have nonempty : tied ≠ [] := List.cons_ne_nil _ _
  have free : ∀ v ∈ tied, v.floatFree := by decide
  have comparable : tied.Pairwise Value.Compares := by decide
  obtain ⟨largest, strings, -⟩ := extreme_of_comparable (show Ordering.gt ≠ .eq by decide)
  obtain ⟨smallest, -⟩ := extreme_of_comparable (show Ordering.lt ≠ .eq by decide)
  exact ⟨⟨nonempty, free, comparable⟩, (largest tied nonempty free comparable).1,
    (smallest tied nonempty free comparable).2 _ (List.reverse_perm tied), strings "FOAF" (by decide)⟩

/-- Of items that tie the first is the largest one, whatever represents them. -/
example : extreme .gt (.list [.number (.signed 2), .number (.unsigned 2)]) = some (.number (.signed 2)) ∧
    extreme .gt (.list [.number (.unsigned 2), .number (.signed 2)]) = some (.number (.unsigned 2)) := ⟨rfl, rfl⟩

end Transform

end RecordQuery
