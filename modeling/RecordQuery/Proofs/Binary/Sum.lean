import RecordQuery.Proofs.Binary.Nearest

/-!
Sums of doubles. NaN comes of NaN or of infinities of both signs, so that a sum to which finite doubles
are added one by one keeps its place in the numeric order.
-/

namespace RecordQuery.Binary

open Float.Model

/-! ### Doubles taken apart -/

section
variable (b : UInt64)

theorem unpackExponent_toNat :
    (@UnpackedFloat.unpackExponent .binary64 b.toBitVec).toNat = b.toNat % signBit / fractions := by
  simp only [UnpackedFloat.unpackExponent, BitVec.toNat_cast, BitVec.extractLsb_toNat, UInt64.toNat_toBitVec]
  change b.toNat >>> 52 % 2 ^ 11 = _
  simp only [signBit, fractions, Nat.shiftRight_eq_div_pow]
  omega

theorem unpackMantissa_toNat :
    (@UnpackedFloat.unpackMantissa .binary64 b.toBitVec).toNat = b.toNat % signBit % fractions := by
  simp only [UnpackedFloat.unpackMantissa, BitVec.toNat_cast, BitVec.extractLsb_toNat, UInt64.toNat_toBitVec]
  change b.toNat >>> 0 % 2 ^ 52 = _
  simp only [signBit, fractions, Nat.shiftRight_eq_div_pow]
  omega

/-- The greatest exponent is that of infinity and of NaN. -/
theorem unpackExponent_eq_full_iff :
    @UnpackedFloat.unpackExponent .binary64 b.toBitVec = -1#11 ↔ infinityBits ≤ b.toNat % signBit := by
  have exponent := unpackExponent_toNat b
  rw [← BitVec.toNat_inj, exponent]
  change _ = 2047 ↔ _
  simp only [signBit, fractions, infinityBits]
  omega

theorem unpackMantissa_eq_zero_iff (full : infinityBits ≤ b.toNat % signBit) :
    @UnpackedFloat.unpackMantissa .binary64 b.toBitVec = 0#52 ↔ b.toNat % signBit = infinityBits := by
  have mantissa := unpackMantissa_toNat b
  rw [← BitVec.toNat_inj, mantissa]
  change _ = 0 ↔ _
  simp only [signBit, fractions, infinityBits] at *
  omega

theorem unpack_eq_notANumber_iff :
    UnpackedFloat.unpack .binary64 b.toBitVec = .notANumber ↔ infinityBits < b.toNat % signBit := by
  unfold UnpackedFloat.unpack
  dsimp only
  split
  · next exponent =>
    have full := (unpackExponent_eq_full_iff b).mp exponent
    split
    · next mantissa =>
      have infinite := (unpackMantissa_eq_zero_iff b full).mp mantissa
      exact iff_of_false (fun same => nomatch same) infinite.le.not_gt
    · next mantissa =>
      have finite : b.toNat % signBit ≠ infinityBits := fun infinite =>
        mantissa ((unpackMantissa_eq_zero_iff b full).mpr infinite)
      exact iff_of_true rfl (full.lt_of_ne finite.symm)
  · next exponent =>
    have finite : ¬ infinityBits < b.toNat % signBit := fun greater =>
      exponent ((unpackExponent_eq_full_iff b).mpr greater.le)
    split
    · split <;> exact iff_of_false (fun same => nomatch same) finite
    · exact iff_of_false (fun same => nomatch same) finite

theorem unpack_ne_infinity (finite : b.toNat % signBit < infinityBits) (s : UnpackedFloat.Sign) :
    UnpackedFloat.unpack .binary64 b.toBitVec ≠ .infinity s := by
  unfold UnpackedFloat.unpack
  dsimp only
  split
  · next exponent => exact absurd finite (Nat.not_lt.mpr ((unpackExponent_eq_full_iff b).mp exponent))
  · split
    · split <;> exact fun same => nomatch same
    · exact fun same => nomatch same

end

variable {x y : Float}

theorem unpack_ne_notANumber_iff : x.toModel.unpack ≠ .notANumber ↔ ∃ p, place? x = some p := by
  have number : x.toModel.unpack ≠ .notANumber ↔ ¬ infinityBits < x.toBits.toNat % signBit :=
    (unpack_eq_notANumber_iff x.toBits).not
  rw [number]
  unfold place?
  dsimp only
  split
  · next greater => exact iff_of_false (not_not_intro greater) (fun ⟨_, place⟩ => nomatch place)
  · next ordered => exact iff_of_true ordered ⟨_, rfl⟩

theorem unpack_ne_infinity_of_place? {p : Int} (place : place? x = some p) (finite : p.natAbs < infinityBits)
    (s : UnpackedFloat.Sign) : x.toModel.unpack ≠ .infinity s := by
  refine unpack_ne_infinity x.toBits ?_ s
  unfold place? at place
  dsimp only at place
  split at place
  · cases place
  · cases place
    split at finite <;> omega

/-! ### Doubles put together -/

theorem unpack_packComponents_ne_notANumber (s : UnpackedFloat.Sign) (e : BitVec 11) (m : BitVec 52)
    (number : e = -1#11 → m = 0#52) :
    UnpackedFloat.unpack .binary64 (UnpackedFloat.packComponents .binary64 s e m) ≠ .notANumber := by
  have exponent : UnpackedFloat.unpackExponent (UnpackedFloat.packComponents .binary64 s e m) = e :=
    UnpackedFloat.unpackExponent_packComponents
  have mantissa : UnpackedFloat.unpackMantissa (UnpackedFloat.packComponents .binary64 s e m) = m :=
    UnpackedFloat.unpackMantissa_packComponents
  unfold UnpackedFloat.unpack
  dsimp only
  split
  · next full =>
    split
    · exact fun same => nomatch same
    · next nonzero => exact absurd (mantissa.trans (number (exponent.symm.trans full))) nonzero
  · split
    · split <;> exact fun same => nomatch same
    · exact fun same => nomatch same

theorem unpack_pack_ne_notANumber {f : UnpackedFloat} (number : f ≠ .notANumber) :
    UnpackedFloat.unpack .binary64 (UnpackedFloat.pack .binary64 f) ≠ .notANumber := by
  cases f with
  | notANumber => exact absurd rfl number
  | infinity s => exact unpack_packComponents_ne_notANumber _ _ _ fun _ => rfl
  | zero s => exact unpack_packComponents_ne_notANumber _ _ _ fun _ => rfl
  | finite s m e pos =>
    rw [UnpackedFloat.pack]
    dsimp only
    split
    · exact unpack_packComponents_ne_notANumber _ _ _ fun _ => rfl
    · next inRange =>
      split
      · refine unpack_packComponents_ne_notANumber _ _ _ fun full => absurd ?_ inRange
        have exponent := congrArg BitVec.toNat full
        rw [BitVec.toNat_ofNat] at exponent
        change _ = 2047 at exponent
        change 2 ^ 11 ≤ _
        omega
      · exact unpack_packComponents_ne_notANumber _ _ _ fun full => absurd full (by decide)

/-! ### Sums -/

theorem round_ne_notANumber (s : UnpackedFloat.Sign) (m : Nat) (e : Int) :
    UnpackedFloat.round .binary64 s m e ≠ .notANumber := by
  unfold UnpackedFloat.round UnpackedFloat.roundWithAccuracy
  dsimp only
  split <;> exact fun same => nomatch same

theorem normalize_ne_notANumber (m e : Int) (s : UnpackedFloat.Sign) :
    UnpackedFloat.normalize .binary64 m e s ≠ .notANumber := by
  unfold UnpackedFloat.normalize
  split
  · exact round_ne_notANumber _ _ _
  · exact fun same => nomatch same
  · exact round_ne_notANumber _ _ _

theorem add_ne_notANumber {f g : UnpackedFloat} (hf : f ≠ .notANumber) (hg : g ≠ .notANumber)
    (finite : ∀ s, g ≠ .infinity s) : UnpackedFloat.add .binary64 f g ≠ .notANumber := by
  cases g with
  | notANumber => exact absurd rfl hg
  | infinity s => exact absurd rfl (finite s)
  | zero s =>
    cases f with
    | notANumber => exact absurd rfl hf
    | infinity s' => exact fun same => nomatch same
    | zero s' =>
      rw [UnpackedFloat.add]
      split <;> exact fun same => nomatch same
    | finite s' m' e' pos' => exact fun same => nomatch same
  | finite s m e pos =>
    cases f with
    | notANumber => exact absurd rfl hf
    | infinity s' => exact fun same => nomatch same
    | zero s' => exact fun same => nomatch same
    | finite s' m' e' pos' => exact normalize_ne_notANumber _ _ _

/-- A sum is NaN only if it is of NaN or of two infinities. -/
theorem exists_place?_add {p q : Int} (hx : place? x = some p) (hy : place? y = some q)
    (finite : q.natAbs < infinityBits) : ∃ r, place? (x + y) = some r := by
  refine unpack_ne_notANumber_iff.mp (unpack_pack_ne_notANumber (add_ne_notANumber ?_ ?_ ?_))
  · exact unpack_ne_notANumber_iff.mpr ⟨p, hx⟩
  · exact unpack_ne_notANumber_iff.mpr ⟨q, hy⟩
  · exact unpack_ne_infinity_of_place? hy finite

theorem exists_place?_abs {p : Int} (hx : place? x = some p) : ∃ r, place? x.abs = some r := by
  have number := unpack_ne_notANumber_iff.mpr ⟨p, hx⟩
  refine unpack_ne_notANumber_iff.mp (unpack_pack_ne_notANumber ?_)
  cases parts : x.toModel.unpack with
  | notANumber => exact absurd parts number
  | infinity s | zero s | finite s m e pos => exact fun same => nomatch same

/-- Integers of 64 bits are far below infinity. -/
theorem nearestPlace_finite {n : Int} (size : n.natAbs < 2 ^ 64) : (nearestPlace n).natAbs < infinityBits := by
  have finite : magnitude n.natAbs < infinityBits := by
    rcases Nat.eq_zero_or_pos n.natAbs with zero | pos
    · rw [zero, magnitude_zero]
      decide
    · have bits : n.natAbs.log2 < 64 := (Nat.log2_lt pos.ne').mpr size
      have high := significand_le pos.ne'
      rw [magnitude_eq pos.ne']
      simp only [fractions, infinityBits] at *
      omega
  unfold nearestPlace
  split <;> omega

end RecordQuery.Binary
