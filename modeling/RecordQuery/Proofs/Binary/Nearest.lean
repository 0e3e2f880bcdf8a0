import Mathlib
import RecordQuery.Binary

/-!
The doubles nearest to integers. Rounding is monotone at each of its stages, from the quotient to the
bits, and so the places of the nearest doubles stand as the integers do; up to `2 ^ 53` rounding
changes nothing, and different integers have different places.
-/

namespace RecordQuery.Binary

/-! ### Quotients -/

theorem roundDiv_mono {a b : Nat} (le : a ≤ b) (den : Nat) : roundDiv a den ≤ roundDiv b den := by
  unfold roundDiv
  dsimp only
  have quotients : a / den ≤ b / den := Nat.div_le_div_right le
  rcases quotients.lt_or_eq with lt | eq
  · split <;> split <;> omega
  · have remainders : a % den ≤ b % den := by
      have ha := Nat.div_add_mod a den
      have hb := Nat.div_add_mod b den
      rw [eq] at ha
      omega
    rw [eq]
    split <;> split <;> omega

theorem roundDiv_mul (k : Nat) {den : Nat} (pos : 0 < den) : roundDiv (k * den) den = k := by
  unfold roundDiv
  rw [Nat.mul_div_cancel _ pos, Nat.mul_mod_left]
  exact if_neg (by omega)

theorem le_roundDiv {k a den : Nat} (pos : 0 < den) (le : k * den ≤ a) : k ≤ roundDiv a den :=
  (roundDiv_mul k pos).symm.le.trans (roundDiv_mono le den)

theorem roundDiv_le {k a den : Nat} (pos : 0 < den) (le : a ≤ k * den) : roundDiv a den ≤ k :=
  (roundDiv_mono le den).trans (roundDiv_mul k pos).le

/-! ### Natural numbers -/

theorem inUnits_natCast (a k : Nat) : inUnits a 1 (k : Int) = (a, 2 ^ k) := by
  simp [inUnits]

theorem inUnits_neg_natCast (a k : Nat) : inUnits a 1 (-(k : Int)) = (a * 2 ^ k, 1) := by
  cases k with
  | zero => simp [inUnits]
  | succ k =>
    have below : ¬ (0 : Int) ≤ -((k + 1 : Nat) : Int) := by omega
    rw [inUnits, if_neg below, neg_neg, Int.toNat_natCast]
    rfl

theorem inUnits_mono {a b : Nat} (le : a ≤ b) (q : Int) :
    (inUnits a 1 q).2 = (inUnits b 1 q).2 ∧ (inUnits a 1 q).1 ≤ (inUnits b 1 q).1 := by
  obtain ⟨k, rfl | rfl⟩ := q.eq_nat_or_neg
  · rw [inUnits_natCast, inUnits_natCast]
    exact ⟨rfl, le⟩
  · rw [inUnits_neg_natCast, inUnits_neg_natCast]
    exact ⟨rfl, Nat.mul_le_mul_right _ le⟩

/-- Measured in the unit `e` places below its leading bit, a number has `e + 1` bits before the point. -/
theorem inUnits_bounds {a : Nat} (nonzero : a ≠ 0) (e : Nat) :
    0 < (inUnits a 1 (a.log2 - e)).2 ∧ 2 ^ e * (inUnits a 1 (a.log2 - e)).2 ≤ (inUnits a 1 (a.log2 - e)).1 ∧
      (inUnits a 1 (a.log2 - e)).1 < 2 ^ (e + 1) * (inUnits a 1 (a.log2 - e)).2 := by
  have low : 2 ^ a.log2 ≤ a := Nat.log2_self_le nonzero
  have high : a < 2 ^ (a.log2 + 1) := Nat.lt_log2_self
  rcases Nat.le_total e a.log2 with le | le
  · obtain ⟨k, hk⟩ := Nat.exists_eq_add_of_le le
    have unit : (a.log2 : Int) - e = (k : Int) := by omega
    rw [unit, inUnits_natCast]
    refine ⟨Nat.two_pow_pos k, ?_, ?_⟩
    · rwa [← pow_add, ← hk]
    · rwa [← pow_add, show e + 1 + k = a.log2 + 1 by omega]
  · obtain ⟨k, hk⟩ := Nat.exists_eq_add_of_le le
    have unit : (a.log2 : Int) - e = -(k : Int) := by omega
    rw [unit, inUnits_neg_natCast, mul_one, mul_one]
    refine ⟨Nat.one_pos, ?_, ?_⟩
    · rw [hk, pow_add]
      exact Nat.mul_le_mul_right _ low
    · rw [show e + 1 = a.log2 + 1 + k by omega, pow_add]
      exact Nat.mul_lt_mul_of_pos_right high (Nat.two_pow_pos k)

theorem log2_mono {a b : Nat} (le : a ≤ b) : a.log2 ≤ b.log2 := by
  rw [Nat.log2_eq_log_two, Nat.log2_eq_log_two]
  exact Nat.log_mono_right le

/-- The leading 53 bits of a natural number, rounded. -/
def significand (a : Nat) : Nat :=
  roundDiv (inUnits a 1 (a.log2 - 52)).1 (inUnits a 1 (a.log2 - 52)).2

theorem le_significand {a : Nat} (nonzero : a ≠ 0) : fractions ≤ significand a := by
  obtain ⟨pos, low, -⟩ := inUnits_bounds nonzero 52
  exact le_roundDiv pos low

theorem significand_le {a : Nat} (nonzero : a ≠ 0) : significand a ≤ 2 * fractions := by
  obtain ⟨pos, -, high⟩ := inUnits_bounds nonzero 52
  exact roundDiv_le pos high.le

theorem significand_mono {a b : Nat} (le : a ≤ b) (binade : a.log2 = b.log2) : significand a ≤ significand b := by
  obtain ⟨unit, below⟩ := inUnits_mono le ((b.log2 : Int) - 52)
  unfold significand
  rw [binade, unit]
  exact roundDiv_mono below _

/-- A number of no more bits than a significand is not rounded. -/
theorem significand_eq {a k : Nat} (bits : a.log2 + k = 52) : significand a = a * 2 ^ k := by
  have unit : (a.log2 : Int) - 52 = -(k : Int) := by omega
  unfold significand
  rw [unit, inUnits_neg_natCast]
  simpa using roundDiv_mul (a * 2 ^ k) Nat.one_pos

theorem significand_lt {a : Nat} (bits : a.log2 ≤ 52) : significand a < 2 * fractions := by
  obtain ⟨k, hk⟩ := Nat.exists_eq_add_of_le bits
  rw [significand_eq hk.symm]
  calc a * 2 ^ k < 2 ^ (a.log2 + 1) * 2 ^ k := Nat.mul_lt_mul_of_pos_right Nat.lt_log2_self (Nat.two_pow_pos k)
    _ = 2 ^ 53 := by rw [← pow_add, show a.log2 + 1 + k = 53 by omega]

theorem significand_strictMono {a b : Nat} (lt : a < b) (binade : a.log2 = b.log2) (bits : a.log2 ≤ 52) :
    significand a < significand b := by
  obtain ⟨k, hk⟩ := Nat.exists_eq_add_of_le bits
  rw [significand_eq hk.symm, significand_eq (binade ▸ hk.symm)]
  exact Nat.mul_lt_mul_of_pos_right lt (Nat.two_pow_pos k)

theorem unit_of_nat {a : Nat} (nonzero : a ≠ 0) : double.unit a 1 = a.log2 - 52 := by
  obtain ⟨pos, low, -⟩ := inUnits_bounds nonzero 53
  have quotient : ¬ (inUnits a 1 (a.log2 - 53)).1 / (inUnits a 1 (a.log2 - 53)).2 < Nat.pow 2 double.precision :=
    Nat.not_lt.mpr ((Nat.le_div_iff_mul_le pos).mpr low)
  have first : max double.least ((a.log2 : Int) - (1 : Nat).log2 - double.precision) = a.log2 - 53 := by
    change max (-1074 : Int) ((a.log2 : Int) - (0 : Nat) - (53 : Nat)) = a.log2 - 53
    omega
  unfold Format.unit
  dsimp only
  rw [first, if_neg quotient]
  omega

/-- The bits count the binades below that of a value and its place within it, up to infinity. -/
theorem magnitudeBits_eq {m : Nat} (low : fractions ≤ m) (high : m < 2 * fractions) (l : Nat) :
    magnitudeBits (if 971 < (l : Int) - 52 then none else some (m, (l : Int) - 52)) =
      min infinityBits ((l + 1022) * fractions + m) := by
  by_cases infinite : 971 < (l : Int) - 52
  · rw [if_pos infinite, magnitudeBits]
    simp only [fractions, infinityBits] at *
    omega
  · rw [if_neg infinite, magnitudeBits, if_neg (Nat.not_lt.mpr low)]
    simp only [fractions, infinityBits] at *
    omega

/-- The magnitude bits of the double nearest to a natural number. -/
def magnitude (a : Nat) : Nat := magnitudeBits (double.nearest? a 1)

theorem magnitude_zero : magnitude 0 = 0 := by decide

theorem magnitude_eq {a : Nat} (nonzero : a ≠ 0) :
    magnitude a = min infinityBits ((a.log2 + 1022) * fractions + significand a) := by
  have low := le_significand nonzero
  have high := significand_le nonzero
  unfold magnitude Format.nearest?
  rw [unit_of_nat nonzero]
  change magnitudeBits
    (let rounded := if significand a = 2 * fractions then (significand a / 2, (a.log2 : Int) - 52 + 1)
      else (significand a, (a.log2 : Int) - 52)
    if (971 : Int) < rounded.2 then none else some rounded) = _
  rcases high.lt_or_eq with lt | full
  · rw [if_neg lt.ne]
    exact magnitudeBits_eq low lt _
  · -- A significand that is rounded up to the next binade has the least one there.
    have exponent : (a.log2 : Int) - 52 + 1 = (a.log2 + 1 : Nat) - 52 := by omega
    rw [if_pos full, full, Nat.mul_div_cancel_left _ Nat.two_pos, exponent]
    refine (magnitudeBits_eq Nat.le.refl (by decide) _).trans (congrArg _ ?_)
    ring

theorem magnitude_mono {a b : Nat} (le : a ≤ b) : magnitude a ≤ magnitude b := by
  rcases Nat.eq_zero_or_pos a with rfl | pos
  · rw [magnitude_zero]
    exact Nat.zero_le _
  · have ha : a ≠ 0 := pos.ne'
    have hb : b ≠ 0 := (pos.trans_le le).ne'
    rw [magnitude_eq ha, magnitude_eq hb]
    refine min_le_min_left _ ?_
    rcases (log2_mono le).lt_or_eq with lt | eq
    · have high := significand_le ha
      have low := le_significand hb
      simp only [fractions] at *
      omega
    · rw [eq]
      exact Nat.add_le_add_left (significand_mono le eq) _

theorem magnitude_le (a : Nat) : magnitude a ≤ infinityBits := by
  rcases Nat.eq_zero_or_pos a with rfl | pos
  · rw [magnitude_zero]
    exact Nat.zero_le _
  · rw [magnitude_eq pos.ne']
    exact min_le_left _ _

/-- As far as significands reach, different numbers have different doubles. -/
theorem magnitude_lt {a b : Nat} (lt : a < b) (exact : b ≤ 2 ^ 53) : magnitude a < magnitude b := by
  have hb : b ≠ 0 := (Nat.zero_le a).trans_lt lt |>.ne'
  have low := le_significand hb
  rcases Nat.eq_zero_or_pos a with rfl | pos
  · rw [magnitude_zero, magnitude_eq hb]
    simp only [fractions, infinityBits] at *
    omega
  · have bits : a.log2 ≤ 52 := Nat.le_of_lt_succ ((Nat.log2_lt pos.ne').mpr (lt.trans_le exact))
    have high := significand_lt bits
    rw [magnitude_eq pos.ne', magnitude_eq hb]
    rcases (log2_mono lt.le).lt_or_eq with later | same
    · simp only [fractions, infinityBits] at *
      omega
    · have strict := significand_strictMono lt same bits
      simp only [fractions, infinityBits] at *
      omega

/-! ### Bits -/

open Float.Model Float.Model.UnpackedFloat in
/-- Bits of NaN alone are changed when they become a double. -/
theorem toBits_ofBits {b : UInt64} (ordered : b.toNat % signBit ≤ infinityBits) :
    (Float.ofBits b).toBits = b := by
  have valid : Format.binary64.Valid b.toBitVec := by
    refine ⟨fun full mantissa => absurd (BitVec.eq_of_toNat_eq ?_) mantissa⟩
    have exponent : b.toNat >>> 52 % 2 ^ 11 = 2047 := by
      have read := congrArg BitVec.toNat full
      simp only [unpackExponent, BitVec.toNat_cast, BitVec.extractLsb_toNat, UInt64.toNat_toBitVec] at read
      exact read
    simp only [unpackMantissa, BitVec.toNat_cast, BitVec.extractLsb_toNat, UInt64.toNat_toBitVec]
    change b.toNat >>> 0 % 2 ^ 52 = 0
    simp only [signBit, infinityBits, Nat.shiftRight_eq_div_pow] at *
    omega
  exact congrArg UInt64.ofBitVec (pack_unpack_of_valid valid)

theorem place?_ofBits {bits : Nat} (size : bits < 2 * signBit) (ordered : bits % signBit ≤ infinityBits) :
    place? (Float.ofBits (UInt64.ofNat bits)) =
      some (if signBit ≤ bits then -((bits % signBit : Nat) : Int) else (bits % signBit : Nat)) := by
  have read : (UInt64.ofNat bits).toNat = bits := UInt64.toNat_ofNat_of_lt' size
  rw [place?, toBits_ofBits (by rwa [read]), read, if_neg (Nat.not_lt.mpr ordered)]

theorem place?_ofMagnitude (negative : Bool) {bits : Nat} (ordered : bits ≤ infinityBits) :
    place? (ofMagnitude negative bits) = some (if negative then -(bits : Int) else bits) := by
  have positive : bits < signBit := ordered.trans_lt (by decide)
  cases negative with
  | true =>
    have lower : (signBit + bits) % signBit = bits := by rw [Nat.add_mod_left, Nat.mod_eq_of_lt positive]
    have place := place?_ofBits (show signBit + bits < 2 * signBit by omega) (by rwa [lower])
    rwa [lower, if_pos (Nat.le_add_right _ _)] at place
  | false =>
    have lower : (0 + bits) % signBit = bits := by rw [Nat.zero_add, Nat.mod_eq_of_lt positive]
    have place := place?_ofBits (show 0 + bits < 2 * signBit by omega) (by rwa [lower])
    rwa [lower, if_neg (by omega)] at place

/-! ### Integers -/

/-- The place of the double nearest to an integer. -/
def nearestPlace (n : Int) : Int := if n < 0 then -(magnitude n.natAbs : Int) else magnitude n.natAbs

theorem place?_ofInt (n : Int) : place? (ofInt n) = some (nearestPlace n) := by
  change place? (ofMagnitude (n < 0) (magnitude n.natAbs)) = _
  rw [place?_ofMagnitude _ (magnitude_le n.natAbs), nearestPlace]
  simp only [decide_eq_true_eq]

theorem nearestPlace_mono {m n : Int} (le : m ≤ n) : nearestPlace m ≤ nearestPlace n := by
  unfold nearestPlace
  split
  · split
    · have := magnitude_mono (show n.natAbs ≤ m.natAbs by omega)
      omega
    · omega
  · have := magnitude_mono (show m.natAbs ≤ n.natAbs by omega)
    split <;> omega

theorem nearestPlace_lt {m n : Int} (lt : m < n) (hm : m.natAbs ≤ 2 ^ 53) (hn : n.natAbs ≤ 2 ^ 53) :
    nearestPlace m < nearestPlace n := by
  unfold nearestPlace
  rcases Int.lt_or_le m 0 with negative | positive
  · rw [if_pos negative]
    split
    · have := magnitude_lt (show n.natAbs < m.natAbs by omega) hm
      omega
    · have := magnitude_lt (show 0 < m.natAbs by omega) hm
      omega
  · have := magnitude_lt (show m.natAbs < n.natAbs by omega) hn
    rw [if_neg (by omega), if_neg (by omega)]
    omega

end RecordQuery.Binary
