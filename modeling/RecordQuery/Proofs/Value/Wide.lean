import Mathlib.Algebra.Group.Int.Defs
import RecordQuery.Number

/-!
Numbers by the integers that they hold. Integers of one representation are compared as they are and others as wide
integers; a sum is taken among wide integers, which it never overflows, and put back into a representation where it
fits one. By the integers that are held there is one comparison, one absolute value and one sum for them all.
-/

namespace RecordQuery.Number

variable {a b : Number} {m n : Int} {x y : Wide}

/-! ### Wide integers -/

@[simp] theorem toInt_widenSigned (i : Int64) : (widenSigned i).toInt = i.toInt :=
  BitVec.toInt_signExtend_of_le (by decide)

@[simp] theorem toInt_widenUnsigned (i : UInt64) : (widenUnsigned i).toInt = i.toNat := by
  have high := i.toNat_lt
  rw [widenUnsigned, BitVec.toInt_setWidth, UInt64.toNat_toBitVec]
  exact Int.bmod_eq_of_le (by omega) (by omega)

/-- A number that holds an integer has a wide one to it, which stands for the same. -/
theorem toInt?_eq_map_wide? (a : Number) : a.toInt? = a.wide?.map BitVec.toInt := by
  cases a with
  | signed i => exact congrArg some (toInt_widenSigned i).symm
  | unsigned i => exact congrArg some (toInt_widenUnsigned i).symm
  | float x => rfl

theorem exists_wide?_of_toInt? (ha : a.toInt? = some m) : ∃ x, a.wide? = some x ∧ x.toInt = m :=
  Option.map_eq_some_iff.mp ((toInt?_eq_map_wide? a).symm.trans ha)

theorem bounds_of_wide? (ha : a.wide? = some x) : -2 ^ 63 ≤ x.toInt ∧ x.toInt < 2 ^ 64 := by
  cases a with
  | signed i =>
    cases ha
    have low := i.le_toInt
    have high := i.toInt_lt
    rw [toInt_widenSigned]
    omega
  | unsigned i =>
    cases ha
    have high := i.toNat_lt
    rw [toInt_widenUnsigned]
    omega
  | float x => cases ha

theorem bounds_of_toInt? (ha : a.toInt? = some m) : -2 ^ 63 ≤ m ∧ m < 2 ^ 64 := by
  obtain ⟨x, wide, rfl⟩ := exists_wide?_of_toInt? ha
  exact bounds_of_wide? wide

/-- Of two numbers that are not both of an integer representation, one is a double. -/
theorem exists_float_of_not_both (mixed : ¬ (a.toInt?.isSome ∧ b.toInt?.isSome)) :
    (∃ x, a = float x) ∨ ∃ x, b = float x := by
  cases a with
  | float x => exact Or.inl ⟨x, rfl⟩
  | signed i | unsigned i =>
    cases b with
    | float x => exact Or.inr ⟨x, rfl⟩
    | signed j | unsigned j => exact absurd ⟨rfl, rfl⟩ mixed

/-- Two integers of 64 bits, of either sign, add up within 128 bits. -/
theorem saddOverflow_of_wide? (ha : a.wide? = some x) (hb : b.wide? = some y) : x.saddOverflow y = false := by
  obtain ⟨lowX, highX⟩ := bounds_of_wide? ha
  obtain ⟨lowY, highY⟩ := bounds_of_wide? hb
  simp only [BitVec.saddOverflow, Bool.or_eq_false_iff, decide_eq_false_iff_not]
  omega

/-! ### Back from wide integers -/

theorem signed?_eq (x : Wide) : signed? x =
    if Int64.minValue.toInt ≤ x.toInt ∧ x.toInt ≤ Int64.maxValue.toInt then some (.ofInt x.toInt) else none := by
  have low : (widenSigned .minValue).toInt = Int64.minValue.toInt := toInt_widenSigned _
  have high : (widenSigned .maxValue).toInt = Int64.maxValue.toInt := toInt_widenSigned _
  have cut : x.setWidth 64 = .ofInt 64 x.toInt := (BitVec.signExtend_eq_setWidth_of_le x (by decide)).symm
  simp only [signed?, Bool.and_eq_true, BitVec.sle_iff_toInt_le, low, high, cut]
  rfl

theorem unsigned?_eq (x : Wide) : unsigned? x =
    if 0 ≤ x.toInt ∧ x.toInt < UInt64.size then some (.ofNat x.toInt.toNat) else none := by
  have low : (0 : Wide).toInt = 0 := rfl
  have high : (widenUnsigned 0xFFFFFFFFFFFFFFFF).toInt = 0xFFFFFFFFFFFFFFFF := by decide
  have size : (UInt64.size : Int) = 0xFFFFFFFFFFFFFFFF + 1 := rfl
  simp only [unsigned?, Bool.and_eq_true, BitVec.sle_iff_toInt_le, low, high, size, Int.lt_add_one_iff]
  refine ite_congr rfl (fun fits => ?_) fun _ => rfl
  -- A wide integer that is not negative is the natural number that its bits spell.
  have plain : x.toInt.toNat = x.toNat := by
    have either := x.toInt_eq_toNat_cond
    have high := x.isLt
    omega
  rw [plain]
  exact congrArg (fun bits => some (UInt64.ofBitVec bits)) (BitVec.ofNat_toNat 64 x).symm

theorem ofWide_eq_ofInt (x : Wide) : ofWide x = ofInt x.toInt := by
  rw [ofWide, ofInt, signed?_eq, unsigned?_eq]
  by_cases signed : Int64.minValue.toInt ≤ x.toInt ∧ x.toInt ≤ Int64.maxValue.toInt
  · rw [if_pos signed, if_pos signed]
  · rw [if_neg signed, if_neg signed]
    by_cases unsigned : 0 ≤ x.toInt ∧ x.toInt < UInt64.size
    · rw [if_pos unsigned, if_pos unsigned]
    · rw [if_neg unsigned, if_neg unsigned]

/-! ### Comparison -/

theorem compareWide_eq (x y : Wide) : compareWide x y = compare x.toInt y.toInt := by
  simp only [compareWide, BitVec.slt_iff_toInt_lt]
  split
  · next less => exact (Int.compare_eq_lt.mpr less).symm
  · split
    · next greater => exact (Int.compare_eq_gt.mpr greater).symm
    · exact (Int.compare_eq_eq.mpr (by omega)).symm

theorem compare_signed (i j : Int64) : compare i j = compare i.toInt j.toInt := by
  change compareOfLessAndEq i j = compareOfLessAndEq i.toInt j.toInt
  simp only [compareOfLessAndEq, Int64.lt_iff_toInt_lt, ← Int64.toInt_inj]

theorem compare_unsigned (i j : UInt64) : compare i j = compare (i.toNat : Int) j.toNat := by
  change compareOfLessAndEq i j = compareOfLessAndEq (i.toNat : Int) j.toNat
  simp only [compareOfLessAndEq, UInt64.lt_iff_toNat_lt, Int.ofNat_lt, Int.natCast_inj, UInt64.toNat_inj]

/-- Integers compare as integers, whatever represents them. -/
theorem compare?_of_toInt? (ha : a.toInt? = some m) (hb : b.toInt? = some n) :
    a.compare? b = some (compare m n) := by
  cases a with
  | float x => cases ha
  | signed i =>
    cases ha
    cases b with
    | float x => cases hb
    | signed j =>
      cases hb
      exact congrArg some (compare_signed i j)
    | unsigned j =>
      cases hb
      rw [compare?, compareWide_eq, toInt_widenSigned, toInt_widenUnsigned]
  | unsigned i =>
    cases ha
    cases b with
    | float x => cases hb
    | signed j =>
      cases hb
      rw [compare?, compareWide_eq, toInt_widenSigned, toInt_widenUnsigned]
    | unsigned j =>
      cases hb
      exact congrArg some (compare_unsigned i j)

/-- A comparison in which a double takes part is one of doubles. -/
theorem compare?_of_not_both (mixed : ¬ (a.toInt?.isSome ∧ b.toInt?.isSome)) :
    a.compare? b = Binary.compare? a.toFloat b.toFloat := by
  rcases exists_float_of_not_both mixed with ⟨x, rfl⟩ | ⟨x, rfl⟩
  · cases b <;> rfl
  · cases a <;> rfl

/-! ### Absolute values -/

/-- Only the least integer has no absolute value of its own representation. -/
theorem checkedAbs?_eq_none_iff {i : Int64} : checkedAbs? i = none ↔ i = .minValue := by
  unfold checkedAbs?
  constructor
  · intro none
    split at none
    · split at none
      · assumption
      · cases none
    · cases none
  · rintro rfl
    rfl

theorem toInt_of_checkedAbs? {i j : Int64} (done : checkedAbs? i = some j) : j.toInt = i.toInt.natAbs := by
  have least : Int64.minValue.toInt = -2 ^ 63 := by decide
  have beyondLeast : i ≠ .minValue := fun least => nomatch (checkedAbs?_eq_none_iff.mpr least).symm.trans done
  rw [ne_eq, ← Int64.toInt_inj] at beyondLeast
  have low := i.le_toInt
  have high := i.toInt_lt
  unfold checkedAbs? at done
  split at done
  · next negative =>
    have below : i.toInt < 0 := Int64.lt_iff_toInt_lt.mp negative
    split at done
    · cases done
    · cases done
      rw [Int64.toInt_neg, Int.bmod_eq_of_le (by omega) (by omega)]
      omega
  · next positive =>
    cases done
    have above : ¬ i.toInt < 0 := fun below => positive (Int64.lt_iff_toInt_lt.mpr below)
    omega

/-- The absolute value of an integer is an integer, that of the least one too. -/
theorem toInt?_abs (ha : a.toInt? = some m) : a.abs.toInt? = some (m.natAbs : Int) := by
  cases a with
  | float x => cases ha
  | unsigned i => cases ha; rfl
  | signed i =>
    cases ha
    rw [abs]
    cases done : checkedAbs? i with
    | some j => exact congrArg some (toInt_of_checkedAbs? done)
    | none =>
      cases checkedAbs?_eq_none_iff.mp done
      rfl

/-! ### Sums -/

/-- The sum of integers is represented in the first way that can hold it. -/
theorem add_of_integers (ha : a.toInt? = some m) (hb : b.toInt? = some n) : a.add b = ofInt (m + n) := by
  obtain ⟨x, wideA, rfl⟩ := exists_wide?_of_toInt? ha
  obtain ⟨y, wideB, rfl⟩ := exists_wide?_of_toInt? hb
  have exact : (x + y).toInt = x.toInt + y.toInt :=
    BitVec.toInt_add_of_not_saddOverflow (by rw [saddOverflow_of_wide? wideA wideB]; decide)
  rw [add, wideA, wideB, ← exact]
  exact ofWide_eq_ofInt (x + y)

/-- A sum in which a double takes part is one of doubles. -/
theorem add_of_not_both (mixed : ¬ (a.toInt?.isSome ∧ b.toInt?.isSome)) :
    a.add b = float (a.toFloat + b.toFloat) := by
  rcases exists_float_of_not_both mixed with ⟨x, rfl⟩ | ⟨x, rfl⟩
  · rfl
  · cases a <;> rfl

end RecordQuery.Number
