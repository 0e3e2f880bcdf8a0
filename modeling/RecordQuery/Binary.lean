/-!
Binary floating-point numbers as exact quantities: the value nearest to a ratio of naturals, the
parts of a double, and the place of a double in the numeric order.
-/

namespace RecordQuery.Binary

/-! ### Rounding -/

/-- A quotient rounded to the nearest natural, halves to the even one. -/
def roundDiv (num den : Nat) : Nat :=
  let q := num / den
  let r := num % den
  if den < 2 * r ∨ (2 * r = den ∧ q % 2 = 1) then q + 1 else q

/-- Numerator and denominator of `num / den` measured in units of `2 ^ q`. -/
def inUnits (num den : Nat) (q : Int) : Nat × Nat :=
  if 0 ≤ q then (num, den * Nat.pow 2 q.toNat) else (num * Nat.pow 2 (-q).toNat, den)

/-- A binary format: significands have at most `precision` bits, and the unit of the last bit ranges
from `2 ^ least` to `2 ^ greatest`. -/
structure Format where
  precision : Nat
  least : Int
  greatest : Int

/-- The format of 64-bit floats. -/
def double : Format := ⟨53, -1074, 971⟩

/-- The exponent of the finest unit in which a ratio still fits the precision. -/
def Format.unit (f : Format) (num den : Nat) : Int :=
  let q := max f.least ((num.log2 : Int) - den.log2 - f.precision)
  let scaled := inUnits num den q
  if scaled.1 / scaled.2 < Nat.pow 2 f.precision then q else q + 1

/-- Significand and exponent of the value nearest to a ratio, and none where it exceeds the format. -/
def Format.nearest? (f : Format) (num den : Nat) : Option (Nat × Int) :=
  let q := f.unit num den
  let scaled := inUnits num den q
  let m := roundDiv scaled.1 scaled.2
  let rounded := if m = Nat.pow 2 f.precision then (m / 2, q + 1) else (m, q)
  if f.greatest < rounded.2 then none else some rounded

/-! ### Doubles -/

/-- The bit of the sign. -/
def signBit : Nat := 0x8000000000000000

/-- The number of fractions in a binade, which the lower bits count. -/
def fractions : Nat := 0x10000000000000

/-- The magnitude bits of infinity. -/
def infinityBits : Nat := 0x7FF0000000000000

/-- The magnitude bits of NaN. -/
def nanBits : Nat := 0x7FF8000000000000

/-- The magnitude bits of `m * 2 ^ q`. -/
def magnitudeBits : Option (Nat × Int) → Nat
  | none => infinityBits
  | some (m, q) => if m < fractions then m else (q + 1075).toNat * fractions + (m - fractions)

/-- The double with the given sign and magnitude bits. -/
def ofMagnitude (negative : Bool) (bits : Nat) : Float :=
  Float.ofBits (UInt64.ofNat ((if negative then signBit else 0) + bits))

/-- The double nearest to a ratio, halves to the even one. -/
def ofRatio (negative : Bool) (num den : Nat) : Float :=
  ofMagnitude negative (magnitudeBits (double.nearest? num den))

/-- The double nearest to an integer. -/
def ofInt (n : Int) : Float := ofRatio (n < 0) n.natAbs 1

/-- What a double stands for: finite ones are `m * 2 ^ q` with a sign. -/
inductive Parts where
  | nan
  | infinite (negative : Bool)
  | finite (negative : Bool) (m : Nat) (q : Int)
  deriving DecidableEq, Repr

/-- Takes a double apart. -/
def parts (x : Float) : Parts :=
  let bits := x.toBits.toNat
  let negative : Bool := signBit ≤ bits
  let magnitude := bits % signBit
  let exponent : Nat := magnitude / fractions
  let fraction : Nat := magnitude % fractions
  if infinityBits < magnitude then .nan
  else if magnitude = infinityBits then .infinite negative
  else if exponent = 0 then .finite negative fraction (-1074)
  else .finite negative (fractions + fraction) ((exponent : Int) - 1075)

/-- The place of a double in the numeric order; NaN has none, and the two zeros share theirs. -/
def place? (x : Float) : Option Int :=
  let bits := x.toBits.toNat
  let magnitude := bits % signBit
  if infinityBits < magnitude then none
  else some (if signBit ≤ bits then -(magnitude : Int) else magnitude)

/-- Numeric comparison, undefined where NaN takes part. -/
def compare? (x y : Float) : Option Ordering :=
  match place? x, place? y with
  | some a, some b => some (compare a b)
  | _, _ => none

end RecordQuery.Binary
