import RecordQuery.Proofs.Operator.Extreme

/-!
Lists with items that do not compare. The pass for an extreme item compares each item with the best one of those
in front of it, and with no other; so two items that do not compare go unnoticed where the one in front has been
beaten before the other one is met. That needs lists among the items: all other values that compare with one value
compare with each other, and then any two items that do not compare leave the list without an extreme one.
-/

namespace RecordQuery

/-! ### Values other than lists -/

theorem Number.exists_compare?_iff {m n : Number} :
    (∃ o, m.compare? n = some o) ↔ (∃ p, m.place? = some p) ∧ ∃ p, n.place? = some p := by
  by_cases both : m.toInt?.isSome ∧ n.toInt?.isSome
  · obtain ⟨k, hk⟩ := Option.isSome_iff_exists.mp both.1
    obtain ⟨l, hl⟩ := Option.isSome_iff_exists.mp both.2
    exact iff_of_true ⟨_, compare?_of_toInt? hk hl⟩ ⟨⟨_, place?_of_toInt? hk⟩, _, place?_of_toInt? hl⟩
  · simp only [compare?_eq_some_iff_of_not_both both]
    constructor
    · rintro ⟨-, p, q, hp, hq, -⟩
      exact ⟨⟨p, hp⟩, q, hq⟩
    · rintro ⟨⟨p, hp⟩, q, hq⟩
      exact ⟨_, p, q, hp, hq, rfl⟩

namespace Value
variable {v w u : Value}

/-- Values other than lists compare when they are of one kind and each compares with itself: NaN and records
do not. -/
theorem compares_iff_of_not_list (other : v.list? = none) :
    v.Compares w ↔ v.kind = w.kind ∧ v.Compares v ∧ w.Compares w := by
  constructor
  · rintro ⟨o, outcome⟩
    refine ⟨kind_eq_of_compare? outcome, ?_⟩
    match v, w with
    | .null, .null => exact ⟨⟨_, rfl⟩, _, rfl⟩
    | .bool a, .bool b => exact ⟨⟨_, rfl⟩, _, rfl⟩
    | .string a, .string b => exact ⟨⟨_, rfl⟩, _, rfl⟩
    | .number m, .number n =>
      obtain ⟨hm, hn⟩ := Number.exists_compare?_iff.mp ⟨o, outcome⟩
      exact ⟨Number.exists_compare?_iff.mpr ⟨hm, hm⟩, Number.exists_compare?_iff.mpr ⟨hn, hn⟩⟩
    | .list _, _ => cases other
  · rintro ⟨kinds, hv, hw⟩
    cases v with
    | list => cases other
    | record r =>
      obtain ⟨o, outcome⟩ := hv
      cases outcome
    | null =>
      cases w with
      | null => exact ⟨_, rfl⟩
      | _ => simp [kind] at kinds
    | bool a =>
      cases w with
      | bool b => exact ⟨_, rfl⟩
      | _ => simp [kind] at kinds
    | string a =>
      cases w with
      | string b => exact ⟨_, rfl⟩
      | _ => simp [kind] at kinds
    | number m =>
      cases w with
      | number n =>
        obtain ⟨hm, -⟩ := Number.exists_compare?_iff.mp hv
        obtain ⟨hn, -⟩ := Number.exists_compare?_iff.mp hw
        exact Number.exists_compare?_iff.mpr ⟨hm, hn⟩
      | _ => simp [kind] at kinds

instance : Std.Symm Value.Compares := ⟨fun _ _ h => h.symm⟩

theorem Compares.trans_of_not_list (other : v.list? = none) (other' : w.list? = none) (first : v.Compares w)
    (second : w.Compares u) : v.Compares u := by
  obtain ⟨kinds, hv, -⟩ := (compares_iff_of_not_list other).mp first
  obtain ⟨kinds', -, hu⟩ := (compares_iff_of_not_list other').mp second
  exact (compares_iff_of_not_list other).mpr ⟨kinds.trans kinds', hv, hu⟩

end Value

namespace Transform

section
variable {wanted : Ordering} {items front behind : List Value} {item x v : Value}

/-! ### The item at which the pass stops -/

/-- A list with an extreme item has one in every part at its start. -/
theorem extreme_of_append (nonempty : front ≠ []) (found : extreme wanted (.list (front ++ behind)) = some x) :
    ∃ best, extreme wanted (.list front) = some best := by
  induction behind using List.reverseRecOn generalizing x with
  | nil => exact ⟨x, by rwa [List.append_nil] at found⟩
  | append_singleton behind item ih =>
    rw [← List.append_assoc] at found
    obtain ⟨best, o, before, -⟩ := (extreme_concat_eq_some_iff (List.append_ne_nil_of_left_ne_nil nonempty _)).mp found
    exact ih before

/-- Where a list has an extreme item, each item compares with the extreme one of those in front of it. -/
theorem compares_of_extreme (nonempty : front ≠ [])
    (found : extreme wanted (.list (front ++ item :: behind)) = some x) :
    ∃ best, extreme wanted (.list front) = some best ∧ item.Compares best := by
  rw [List.append_cons] at found
  obtain ⟨y, reached⟩ := extreme_of_append (List.append_ne_nil_of_left_ne_nil nonempty _) found
  obtain ⟨best, o, before, outcome, -⟩ := (extreme_concat_eq_some_iff nonempty).mp reached
  exact ⟨best, before, o, outcome⟩

theorem extreme_eq_none_iff : extreme wanted (.list items) = none ↔ items = [] ∨
    ∃ front item behind best, items = front ++ item :: behind ∧ extreme wanted (.list front) = some best ∧
      ¬ item.Compares best := by
  constructor
  · intro missing
    induction items using List.reverseRecOn with
    | nil => exact Or.inl rfl
    | append_singleton items item ih =>
      by_cases nonempty : items = []
      · subst nonempty
        cases missing
      · refine Or.inr ?_
        cases before : extreme wanted (.list items) with
        | none =>
          obtain ⟨front, stopped, behind, best, rfl, reached, apart⟩ := (ih before).resolve_left nonempty
          exact ⟨front, stopped, behind ++ [item], best, by rw [List.append_assoc, List.cons_append], reached, apart⟩
        | some best =>
          refine ⟨items, item, [], best, rfl, before, ?_⟩
          rintro ⟨o, outcome⟩
          have found := (extreme_concat_eq_some_iff nonempty).mpr ⟨best, o, before, outcome, rfl⟩
          cases missing.symm.trans found
  · rintro (rfl | ⟨front, item, behind, best, rfl, reached, apart⟩)
    · rfl
    · by_contra some
      obtain ⟨x, found⟩ := Option.ne_none_iff_exists'.mp some
      have nonempty : front ≠ [] := List.ne_nil_of_mem (mem_of_extreme reached)
      obtain ⟨other, there, compare⟩ := compares_of_extreme nonempty found
      cases reached.symm.trans there
      exact apart compare

/-! ### Pairs that do not compare -/

/-- Of two items that do not compare the one in front is beaten by a third in front of the other. -/
def Outranked (wanted : Ordering) (items : List Value) : Prop :=
  ∀ front item behind, items = front ++ item :: behind →
    ∀ v ∈ front, ¬ v.Compares item → ∃ u ∈ front, u.compare? v = some wanted

theorem extreme_isSome_iff_outranked (decided : wanted ≠ .eq) (free : ∀ v ∈ items, v.floatFree) :
    (extreme wanted (.list items)).isSome ↔ items ≠ [] ∧ Outranked wanted items := by
  constructor
  · intro some
    obtain ⟨x, found⟩ := Option.isSome_iff_exists.mp some
    refine ⟨List.ne_nil_of_mem (mem_of_extreme found), ?_⟩
    rintro front item behind rfl v mem apart
    obtain ⟨freeFront, freeItem, -⟩ : (∀ v ∈ front, v.floatFree) ∧ item.floatFree ∧ ∀ v ∈ behind, v.floatFree := by
      rwa [List.forall_mem_append, List.forall_mem_cons] at free
    obtain ⟨best, reached, compare⟩ := compares_of_extreme (List.ne_nil_of_mem mem) found
    obtain ⟨ahead, between, crowned⟩ := crowned_of_extreme decided freeFront reached
    refine ⟨best, crowned.mem, ?_⟩
    -- The item compares with the best one, so the other is not that and does not tie with it.
    rcases crowned.unbeaten_by decided mem with rfl | ⟨o, outcome, ne⟩
    · exact absurd compare.symm apart
    · rcases Value.tie_or_beaten decided outcome ne with tie | beaten
      · obtain ⟨o', outcome'⟩ := compare.symm
        refine absurd ⟨o', ?_⟩ apart
        rw [Value.compare?_congr (freeFront v mem) (freeFront best crowned.mem) freeItem tie]
        exact outcome'
      · exact beaten
  · rintro ⟨nonempty, outranked⟩
    rw [Option.isSome_iff_ne_none]
    intro missing
    obtain ⟨front, item, behind, best, rfl, reached, apart⟩ := (extreme_eq_none_iff.mp missing).resolve_left nonempty
    have freeFront : ∀ v ∈ front, v.floatFree := fun v mem => free v (List.mem_append_left _ mem)
    obtain ⟨ahead, between, crowned⟩ := crowned_of_extreme decided freeFront reached
    obtain ⟨u, mem, beats⟩ := outranked front item behind rfl best crowned.mem fun compare => apart compare.symm
    rcases crowned.unbeaten_by decided mem with rfl | ⟨o, outcome, ne⟩
    · obtain ⟨back, ne⟩ := Value.not_beaten_of_beats decided beats
      exact ne (Option.some.inj (back.symm.trans beats))
    · exact ne (Option.some.inj (outcome.symm.trans beats))

theorem pairwise_compares_of_extreme (others : ∀ v ∈ items, v.list? = none)
    (found : extreme wanted (.list items) = some x) : items.Pairwise Value.Compares := by
  induction items using List.reverseRecOn generalizing x with
  | nil => exact List.Pairwise.nil
  | append_singleton items item ih =>
    by_cases nonempty : items = []
    · subst nonempty
      exact List.pairwise_singleton _ _
    · rw [List.forall_mem_append, List.forall_mem_singleton] at others
      obtain ⟨best, o, before, outcome, -⟩ := (extreme_concat_eq_some_iff nonempty).mp found
      have earlier := ih others.1 before
      have last : best.Compares item := Value.Compares.symm ⟨o, outcome⟩
      refine List.pairwise_append.mpr ⟨earlier, List.pairwise_singleton _ _, fun v mem w here => ?_⟩
      obtain rfl := List.mem_singleton.mp here
      by_cases same : v = best
      · exact same ▸ last
      · have meet := earlier.forall mem (mem_of_extreme before) same
        exact meet.trans_of_not_list (others.1 v mem) (others.1 best (mem_of_extreme before)) last

theorem extreme_isSome_iff_of_not_lists (others : ∀ v ∈ items, v.list? = none) :
    (extreme wanted (.list items)).isSome ↔ items ≠ [] ∧ items.Pairwise Value.Compares := by
  rw [Option.isSome_iff_exists]
  constructor
  · rintro ⟨x, found⟩
    exact ⟨List.ne_nil_of_mem (mem_of_extreme found), pairwise_compares_of_extreme others found⟩
  · rintro ⟨nonempty, compare⟩
    exact exists_extreme _ nonempty compare

end

/-- A list has no extreme item just where it is empty or some item does not compare with the extreme one of those
in front of it. Without doubles this is so where two items do not compare and the one in front is not beaten by a
third in front of the other. Where no item is a list it is so wherever two items do not compare, for the largest
and the smallest alike and in every order of the items. -/
theorem extreme_isSome_unless_noticed (wanted : Ordering) (items : List Value) :
    (extreme wanted (.list items) = none ↔ items = [] ∨
      ∃ front item behind best, items = front ++ item :: behind ∧ extreme wanted (.list front) = some best ∧
        ¬ item.Compares best) ∧
    (wanted ≠ .eq → (∀ v ∈ items, v.floatFree) →
      ((extreme wanted (.list items)).isSome ↔ items ≠ [] ∧ Outranked wanted items)) ∧
    ((∀ v ∈ items, v.list? = none) →
      (¬ items.Pairwise Value.Compares → extreme .gt (.list items) = none ∧ extreme .lt (.list items) = none) ∧
      ((extreme wanted (.list items)).isSome ↔ items ≠ [] ∧ items.Pairwise Value.Compares) ∧
      ∀ items', items'.Perm items →
        (extreme wanted (.list items')).isSome = (extreme wanted (.list items)).isSome) := by
  refine ⟨extreme_eq_none_iff, extreme_isSome_iff_outranked, fun others => ⟨fun apart => ⟨?_, ?_⟩,
    extreme_isSome_iff_of_not_lists others, fun items' perm => ?_⟩⟩
  · by_contra some
    exact apart ((extreme_isSome_iff_of_not_lists others).mp (Option.isSome_iff_ne_none.mpr some)).2
  · by_contra some
    exact apart ((extreme_isSome_iff_of_not_lists others).mp (Option.isSome_iff_ne_none.mpr some)).2
  · have empty : items' ≠ [] ↔ items ≠ [] := by
      rw [← List.length_pos_iff, ← List.length_pos_iff, perm.length_eq]
    rw [Bool.eq_iff_iff, extreme_isSome_iff_of_not_lists others,
      extreme_isSome_iff_of_not_lists fun v mem => others v (perm.mem_iff.mp mem), empty,
      perm.pairwise_iff fun h => h.symm]

/-- A list that is greater than the two behind it, which do not compare. -/
def outranking : List Value :=
  [.list [.number (.signed 2)], .list [.number (.signed 1), .null], .list [.number (.signed 1), .number (.signed 0)]]

theorem extreme_isSome_unless_noticed_outranking :
    (∀ v ∈ outranking, v.floatFree) ∧ (extreme .gt (.list outranking)).isSome ∧ Outranked .gt outranking ∧
      ¬ Outranked .lt outranking ∧
    (∀ v ∈ [Value.number (.signed 1), .null], v.list? = none) ∧
      extreme .gt (.list [.null, .number (.signed 1)]) = none := by
  have free : ∀ v ∈ outranking, v.floatFree := by decide
  have others : ∀ v ∈ [Value.number (.signed 1), .null], v.list? = none := by decide
  obtain ⟨-, largest, -⟩ := extreme_isSome_unless_noticed .gt outranking
  obtain ⟨-, smallest, -⟩ := extreme_isSome_unless_noticed .lt outranking
  obtain ⟨-, -, inEveryOrder⟩ := extreme_isSome_unless_noticed .gt [.number (.signed 1), .null]
  have found := largest (by decide) free
  have missing := smallest (by decide) free
  refine ⟨free, rfl, (found.mp rfl).2, fun outranked => ?_, others, ?_⟩
  · cases missing.mpr ⟨List.cons_ne_nil _ _, outranked⟩
  · have apart := (inEveryOrder others).2.2 _ (List.Perm.swap _ _ _)
    exact Option.not_isSome_iff_eq_none.mp (by rw [apart]; decide)

/-- Two items do not compare, and the list has a largest one all the same; in another order it has none. -/
theorem extreme_unnoticed :
    ¬ outranking[1].Compares outranking[2] ∧
    extreme .gt (.list outranking) = some outranking[0] ∧ extreme .lt (.list outranking) = none ∧
    outranking.reverse.Perm outranking ∧ extreme .gt (.list outranking.reverse) = none :=
  ⟨by decide, rfl, rfl, List.reverse_perm _, rfl⟩

end Transform

end RecordQuery
