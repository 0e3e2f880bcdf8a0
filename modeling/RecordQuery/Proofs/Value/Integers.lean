import RecordQuery.Proofs.Operator.Total

/-!
Integers among numbers. Read as the integers that they hold, signed and unsigned numbers compare, are zero, have
absolute values and add up as integers do. A sum is represented in the first way that can hold it, so that it depends
on the integers alone and not on the representations in which they come.
-/

namespace RecordQuery.Number

section
variable {a b c d : Number} {m n k : Int}

/-- The number represents the integer in the first way that can hold it: signed, else unsigned, else by the nearest
double. -/
def Represents (k : Int) : Number → Prop
  | signed i => i.toInt = k
  | unsigned i => i.toNat = k ∧ 2 ^ 63 ≤ k
  | float x => x = Binary.ofInt k ∧ ¬ InRange k

/-! ### Sums -/

theorem represents_ofInt (k : Int) : Represents k (ofInt k) := by
  have least : Int64.minValue.toInt = -2 ^ 63 := by decide
  have greatest : Int64.maxValue.toInt = 2 ^ 63 - 1 := by decide
  have size : (UInt64.size : Int) = 2 ^ 64 := rfl
  unfold ofInt
  split
  · next fits => exact Int64.toInt_ofInt_of_le (by omega) (by omega)
  · next beyond =>
    -- What is not signed but fits the other range lies above the signed one.
    split
    · next fits =>
      have small : k.toNat < UInt64.size := by omega
      have held : ((UInt64.ofNat k.toNat).toNat : Int) = k := by
        rw [UInt64.toNat_ofNat_of_lt' small, Int.toNat_of_nonneg fits.1]
      exact ⟨held, by omega⟩
    · next outside => exact ⟨rfl, fun ⟨low, high⟩ => outside (by omega)⟩

/-- The wide integers that are added stand for the two that are held, and their sum does not overflow. -/
theorem exists_wide?_add (ha : a.toInt? = some m) (hb : b.toInt? = some n) :
    ∃ x y : Wide, a.wide? = some x ∧ b.wide? = some y ∧ x.toInt = m ∧ y.toInt = n ∧
      x.saddOverflow y = false ∧ a.add b = ofWide (x + y) := by
  obtain ⟨x, wideA, rfl⟩ := exists_wide?_of_toInt? ha
  obtain ⟨y, wideB, rfl⟩ := exists_wide?_of_toInt? hb
  exact ⟨x, y, wideA, wideB, rfl, rfl, saddOverflow_of_wide? wideA wideB, by rw [add, wideA, wideB]⟩

theorem add_eq_of_same (ha : a.toInt?.isSome) (hb : b.toInt?.isSome) (hc : c.toInt?.isSome) (hd : d.toInt?.isSome)
    (left : a.same c = true) (right : b.same d = true) : a.add b = c.add d := by
  obtain ⟨m, ha⟩ := Option.isSome_iff_exists.mp ha
  obtain ⟨n, hb⟩ := Option.isSome_iff_exists.mp hb
  obtain ⟨k, hc⟩ := Option.isSome_iff_exists.mp hc
  obtain ⟨l, hd⟩ := Option.isSome_iff_exists.mp hd
  rw [same_iff_of_toInt? ha hc] at left
  rw [same_iff_of_toInt? hb hd] at right
  rw [add_of_integers ha hb, add_of_integers hc hd, left, right]

theorem add_comm_of_integers (ha : a.toInt? = some m) (hb : b.toInt? = some n) : a.add b = b.add a := by
  rw [add_of_integers ha hb, add_of_integers hb ha, Int.add_comm]

/-! ### All operations -/

/-- On integers, comparison and equality are those of the integers that are held, and so are the test for zero and the
absolute value, which is an integer again. The sum is taken of the two integers made wide, does not overflow there, and
is represented in the first way that can hold it, in either order of the operands and whatever represents them. -/
theorem integers_faithful (ha : a.toInt? = some m) (hb : b.toInt? = some n) :
    a.compare? b = some (compare m n) ∧ (a.same b = true ↔ m = n) ∧ (a.isZero = true ↔ m = 0) ∧
    a.abs.toInt? = some |m| ∧
    (∃ x y : Wide, a.wide? = some x ∧ b.wide? = some y ∧ x.toInt = m ∧ y.toInt = n ∧
      x.saddOverflow y = false ∧ a.add b = ofWide (x + y)) ∧
    Represents (m + n) (a.add b) ∧
    a.add b = b.add a ∧
    ∀ c d : Number, c.toInt?.isSome → d.toInt?.isSome → a.same c = true → b.same d = true →
      a.add b = c.add d := by
  have magnitude : a.abs.toInt? = some |m| := by rw [toInt?_abs ha, Int.abs_eq_natAbs]
  have sum : Represents (m + n) (a.add b) := add_of_integers ha hb ▸ represents_ofInt (m + n)
  refine ⟨compare?_of_toInt? ha hb, same_iff_of_toInt? ha hb, isZero_iff_of_toInt? ha, magnitude,
    exists_wide?_add ha hb, sum, add_comm_of_integers ha hb, ?_⟩
  intro c d hc hd left right
  exact add_eq_of_same (Option.isSome_iff_exists.mpr ⟨m, ha⟩) (Option.isSome_iff_exists.mpr ⟨n, hb⟩) hc hd left right

end

/-- The least integer and the greatest. -/
theorem integers_faithful_bounds :
    (signed (-9223372036854775808)).toInt? = some (-9223372036854775808) ∧
    (unsigned 18446744073709551615).toInt? = some 18446744073709551615 ∧
    (signed (-9223372036854775808)).compare? (unsigned 18446744073709551615) = some .lt ∧
    (signed (-9223372036854775808)).abs.toInt? = some 9223372036854775808 ∧
    Represents 9223372036854775807 ((signed (-9223372036854775808)).add (unsigned 18446744073709551615)) := by
  have least : (signed (-9223372036854775808)).toInt? = some (-9223372036854775808) := by decide
  have greatest : (unsigned 18446744073709551615).toInt? = some 18446744073709551615 := by decide
  obtain ⟨order, -, -, magnitude, -, sum, -⟩ := integers_faithful least greatest
  exact ⟨least, greatest, order, magnitude, sum⟩

end RecordQuery.Number
