import RecordQuery.Proofs.Binary.Nearest
import RecordQuery.Proofs.Value.Wide

/-!
The order of numbers across their representations. A comparison with a double takes place among
doubles, and one of two integers does not, so an integer and another one that has the same nearest
double tie with that double, but not with each other. Apart from this, "less or equal" and "equal" can
be followed along any numbers.
-/

namespace RecordQuery.Number

/-- The first number is less than the second or equal to it. -/
def AtMost (a b : Number) : Prop := a.compare? b = some .lt ∨ a.compare? b = some .eq

instance (a b : Number) : Decidable (AtMost a b) := inferInstanceAs (Decidable (_ ∨ _))

/-- The place of the nearest double in the numeric order. NaN has none. -/
def place? (a : Number) : Option Int := Binary.place? a.toFloat

variable {a b c : Number} {m n : Int}

theorem same_iff : a.same b = true ↔ a.compare? b = some .eq := by
  unfold same
  rw [beq_iff_eq]

theorem place?_of_toInt? (ha : a.toInt? = some m) : a.place? = some (Binary.nearestPlace m) := by
  cases a with
  | signed k => cases ha; exact Binary.place?_ofInt _
  | unsigned k => cases ha; exact Binary.place?_ofInt _
  | float x => cases ha

/-! ### Comparison by integers and by places -/

theorem atMost_iff_of_toInt? (ha : a.toInt? = some m) (hb : b.toInt? = some n) : AtMost a b ↔ m ≤ n := by
  unfold AtMost
  rw [compare?_of_toInt? ha hb]
  simp only [Option.some.injEq, compare_lt_iff_lt, compare_eq_iff_eq]
  omega

theorem same_iff_of_toInt? (ha : a.toInt? = some m) (hb : b.toInt? = some n) : a.same b = true ↔ m = n := by
  rw [same_iff, compare?_of_toInt? ha hb]
  simp only [Option.some.injEq, compare_eq_iff_eq]

theorem compare?_eq_some_iff_of_not_both (mixed : ¬ (a.toInt?.isSome ∧ b.toInt?.isSome)) {o : Ordering} :
    a.compare? b = some o ↔ ∃ x y, a.place? = some x ∧ b.place? = some y ∧ compare x y = o := by
  unfold place?
  rw [compare?_of_not_both mixed, Binary.compare?]
  cases Binary.place? a.toFloat with
  | none => simp
  | some x => cases Binary.place? b.toFloat <;> simp

theorem atMost_iff_of_not_both (mixed : ¬ (a.toInt?.isSome ∧ b.toInt?.isSome)) :
    AtMost a b ↔ ∃ x y, a.place? = some x ∧ b.place? = some y ∧ x ≤ y := by
  unfold AtMost
  simp only [compare?_eq_some_iff_of_not_both mixed, compare_lt_iff_lt, compare_eq_iff_eq, le_iff_lt_or_eq,
    ← exists_or, ← and_or_left]

theorem same_iff_of_not_both (mixed : ¬ (a.toInt?.isSome ∧ b.toInt?.isSome)) :
    a.same b = true ↔ ∃ x, a.place? = some x ∧ b.place? = some x := by
  rw [same_iff, compare?_eq_some_iff_of_not_both mixed]
  simp only [compare_eq_iff_eq]
  constructor
  · rintro ⟨x, _, hx, hy, rfl⟩
    exact ⟨x, hx, hy⟩
  · rintro ⟨x, hx, hy⟩
    exact ⟨x, x, hx, hy, rfl⟩

/-- Rounding keeps the order, so that the nearest doubles stand as the numbers do. -/
theorem places_of_atMost (le : AtMost a b) : ∃ x y, a.place? = some x ∧ b.place? = some y ∧ x ≤ y := by
  by_cases both : a.toInt?.isSome ∧ b.toInt?.isSome
  · obtain ⟨m, ha⟩ := Option.isSome_iff_exists.mp both.1
    obtain ⟨n, hb⟩ := Option.isSome_iff_exists.mp both.2
    exact ⟨_, _, place?_of_toInt? ha, place?_of_toInt? hb,
      Binary.nearestPlace_mono ((atMost_iff_of_toInt? ha hb).mp le)⟩
  · exact (atMost_iff_of_not_both both).mp le

theorem place_of_same (eq : a.same b = true) : ∃ x, a.place? = some x ∧ b.place? = some x := by
  by_cases both : a.toInt?.isSome ∧ b.toInt?.isSome
  · obtain ⟨m, ha⟩ := Option.isSome_iff_exists.mp both.1
    obtain ⟨n, hb⟩ := Option.isSome_iff_exists.mp both.2
    obtain rfl := (same_iff_of_toInt? ha hb).mp eq
    exact ⟨_, place?_of_toInt? ha, place?_of_toInt? hb⟩
  · exact (same_iff_of_not_both both).mp eq

/-! ### Along three numbers -/

/-- The outer numbers are integers, one at least of more bits than a significand has, and the middle one
is a double that is the nearest to both. -/
def Blurred (a b c : Number) : Prop :=
  ∃ m n x, a.toInt? = some m ∧ b = float x ∧ c.toInt? = some n ∧ a.same b = true ∧ b.same c = true ∧
    (2 ^ 53 < m.natAbs ∨ 2 ^ 53 < n.natAbs)

theorem blurred_of_ne {x : Float} (ha : a.toInt? = some m) (hc : c.toInt? = some n) (ab : a.same (float x))
    (bc : (float x).same c) (ne : m ≠ n) : Blurred a (float x) c := by
  obtain ⟨p, hap, hxp⟩ := place_of_same ab
  obtain ⟨q, hxq, hcq⟩ := place_of_same bc
  have places : Binary.nearestPlace m = Binary.nearestPlace n := by
    cases (place?_of_toInt? ha).symm.trans hap
    cases (place?_of_toInt? hc).symm.trans hcq
    exact Option.some.inj (hxp.symm.trans hxq)
  refine ⟨m, n, x, ha, rfl, hc, ab, bc, ?_⟩
  -- Integers within the range of significands have places of their own.
  by_contra inRange
  obtain ⟨hm, hn⟩ := not_or.mp inRange
  rcases lt_or_gt_of_ne ne with lt | gt
  · exact (Binary.nearestPlace_lt lt (by omega) (by omega)).ne places
  · exact (Binary.nearestPlace_lt gt (by omega) (by omega)).ne places.symm

theorem atMost_of_places {x : Float} (ha : a.toInt? = some m) (hc : c.toInt? = some n)
    (clear : ¬ Blurred a (float x) c) (ab : AtMost a (float x)) (bc : AtMost (float x) c) : AtMost a c := by
  rw [atMost_iff_of_toInt? ha hc]
  by_contra greater
  obtain ⟨p, q, hap, hxq, pq⟩ := places_of_atMost ab
  obtain ⟨q', r, hxq', hcr, qr⟩ := places_of_atMost bc
  cases hxq.symm.trans hxq'
  cases (place?_of_toInt? ha).symm.trans hap
  cases (place?_of_toInt? hc).symm.trans hcr
  -- The integers stand the other way round, so that their places and that between them are one.
  have back := Binary.nearestPlace_mono (Int.not_le.mp greater).le
  obtain rfl : q = Binary.nearestPlace m := by omega
  have same : Binary.nearestPlace m = Binary.nearestPlace n := by omega
  refine clear (blurred_of_ne ha hc ?_ ?_ (Int.not_le.mp greater).ne')
  · exact (same_iff_of_not_both (by simp [toInt?])).mpr ⟨_, hap, hxq⟩
  · exact (same_iff_of_not_both (by simp [toInt?])).mpr ⟨_, hxq, same ▸ hcr⟩

/-- "Less or equal" and "equal" are transitive, except where two integers are compared through a double
that is the nearest to both: their own comparison is exact. -/
theorem transitive_unless_blurred (clear : ¬ Blurred a b c) :
    (AtMost a b → AtMost b c → AtMost a c) ∧ (a.same b → b.same c → a.same c) := by
  by_cases outer : a.toInt?.isSome ∧ c.toInt?.isSome
  · obtain ⟨m, ha⟩ := Option.isSome_iff_exists.mp outer.1
    obtain ⟨n, hc⟩ := Option.isSome_iff_exists.mp outer.2
    cases hb : b.toInt? with
    | some k =>
      rw [atMost_iff_of_toInt? ha hb, atMost_iff_of_toInt? hb hc, atMost_iff_of_toInt? ha hc,
        same_iff_of_toInt? ha hb, same_iff_of_toInt? hb hc, same_iff_of_toInt? ha hc]
      exact ⟨Int.le_trans, Eq.trans⟩
    | none =>
      cases b with
      | signed k => cases hb
      | unsigned k => cases hb
      | float x =>
        refine ⟨atMost_of_places ha hc clear, fun ab bc => ?_⟩
        rw [same_iff_of_toInt? ha hc]
        by_contra ne
        exact clear (blurred_of_ne ha hc ab bc ne)
  · rw [atMost_iff_of_not_both outer, same_iff_of_not_both outer]
    constructor
    · intro ab bc
      obtain ⟨p, q, hap, hbq, pq⟩ := places_of_atMost ab
      obtain ⟨q', r, hbq', hcr, qr⟩ := places_of_atMost bc
      cases hbq.symm.trans hbq'
      exact ⟨p, r, hap, hcr, Int.le_trans pq qr⟩
    · intro ab bc
      obtain ⟨p, hap, hbp⟩ := place_of_same ab
      obtain ⟨q, hbq, hcq⟩ := place_of_same bc
      cases hbp.symm.trans hbq
      exact ⟨p, hap, hcq⟩

theorem transitive_unless_blurred_lastDouble :
    ¬ Blurred (signed 9007199254740993) (unsigned 9007199254740993) (float 9007199254740992) ∧
      AtMost (signed 9007199254740993) (float 9007199254740992) ∧
      (signed 9007199254740993).same (float 9007199254740992) := by
  have clear : ¬ Blurred (signed 9007199254740993) (unsigned 9007199254740993) (float 9007199254740992) := by
    rintro ⟨m, n, x, -, middle, -⟩
    cases middle
  obtain ⟨le, eq⟩ := transitive_unless_blurred clear
  exact ⟨clear, le (by decide) (by decide), eq (by decide) (by decide)⟩

/-- On all numbers neither relation is transitive: `2 ^ 53 + 1` ties with the double `2 ^ 53`, and this
ties with the integer `2 ^ 53`, which is less. -/
theorem not_transitive_beyond_significands :
    (¬ ∀ a b c : Number, a.place?.isSome → b.place?.isSome → c.place?.isSome →
      AtMost a b → AtMost b c → AtMost a c) ∧
    (¬ ∀ a b c : Number, a.place?.isSome → b.place?.isSome → c.place?.isSome →
      a.same b → b.same c → a.same c) := by
  constructor
  · intro law
    have broken : AtMost (signed 9007199254740993) (signed 9007199254740992) :=
      law _ (float 9007199254740992) _ (by decide) (by decide) (by decide) (by decide) (by decide)
    exact absurd broken (by decide)
  · intro law
    have broken : (signed 9007199254740993).same (signed 9007199254740992) :=
      law _ (float 9007199254740992) _ (by decide) (by decide) (by decide) (by decide) (by decide)
    exact absurd broken (by decide)

end RecordQuery.Number
