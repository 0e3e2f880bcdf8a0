import RecordQuery.Binary

/-!
The shortest decimal that reads back as a given double: of all decimals that round to it, the one
with the fewest digits, and among those the nearest.
-/

namespace RecordQuery.Decimal

/-- A positive decimal `digits * 10 ^ exponent`. -/
structure Significand where
  digits : Nat
  exponent : Int
  deriving DecidableEq, Repr

/-- The reals that round to `m * 2 ^ q`, in quarters of the unit `2 ^ q`. The lower half is narrower
where the significand is the least of its binade, and the ends belong to it where `m` is even. -/
structure Interval where
  low : Nat
  mid : Nat
  high : Nat
  closed : Bool

/-- The interval of a positive double. -/
def Interval.of (m : Nat) (q : Int) : Interval where
  low := if m = Binary.fractions ∧ -1074 < q then 4 * m - 1 else 4 * m - 2
  mid := 4 * m
  high := 4 * m + 2
  closed := m % 2 = 0

/-- A point lies in the interval. The point is `p / d` quarters. -/
def Interval.holds (v : Interval) (p d : Nat) : Bool :=
  if v.closed then v.low * d ≤ p && p ≤ v.high * d else v.low * d < p && p < v.high * d

/-- The point `n * 10 ^ i` as a ratio of quarters of `2 ^ q`, given by the factor of `n` and the
denominator. -/
def gridScale (q i : Int) : Nat × Nat :=
  (Nat.pow 10 i.toNat * Nat.pow 2 (2 - q).toNat,
    Nat.pow 10 (-i).toNat * Nat.pow 2 (q - 2).toNat)

/-- Of the two neighbours of the value among the multiples of `10 ^ i`, the nearer one that lies in
the interval; the upper one where both are equally near. -/
def onGrid? (v : Interval) (q i : Int) : Option Nat :=
  let (step, d) := gridScale q i
  let s := v.mid * d / step
  let below := v.holds (s * step) d
  let above := v.holds ((s + 1) * step) d
  if below && (!above || 2 * (v.mid * d) < (2 * s + 1) * step) then some s
  else if above then some (s + 1)
  else none

/-- The first grid at or below `10 ^ i` that meets the interval, within the given number of steps. -/
def scan (v : Interval) (q : Int) : Int → Nat → Significand
  | i, 0 => ⟨v.mid, i⟩
  | i, fuel + 1 =>
    match onGrid? v q i with
    | some n => ⟨n, i⟩
    | none => scan v q (i - 1) fuel

/-- An exponent `i` with `m * 2 ^ q ≤ 10 ^ i`, not far above. -/
def topExponent (m : Nat) (q : Int) : Int := ((m.log2 : Int) + q + 1) * 30103 / 100000 + 1

/-- The shortest decimal of `m * 2 ^ q` for a positive `m`. Twenty grids are enough, since seventeen
digits tell any two doubles apart. -/
def shortest (m : Nat) (q : Int) : Significand :=
  scan (Interval.of m q) q (topExponent m q) 20

end RecordQuery.Decimal
