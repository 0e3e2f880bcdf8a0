import RecordQuery.Decimal.Layout

/-!
Numbers: signed and unsigned 64-bit integers and doubles, with comparison across the three. Integers
compare exactly, those of one representation as they are and others among wide integers, which have
room for both; a comparison with a double takes place among doubles.
-/

namespace RecordQuery

/-- A number in one of three representations. -/
inductive Number where
  | signed (n : Int64)
  | unsigned (n : UInt64)
  | float (x : Float)

namespace Number

/-! ### Conversion -/

/-- The integer that a number holds, if it is of an integer representation. -/
def toInt? : Number → Option Int
  | signed n => some n.toInt
  | unsigned n => some n.toNat
  | float _ => none

/-- The double nearest to a number. -/
def toFloat : Number → Float
  | signed n => Binary.ofInt n.toInt
  | unsigned n => Binary.ofInt n.toNat
  | float x => x

/-- The representation of an integer: signed if it fits, else unsigned if it fits, else the nearest
double. -/
def ofInt (n : Int) : Number :=
  if Int64.minValue.toInt ≤ n ∧ n ≤ Int64.maxValue.toInt then signed (Int64.ofInt n)
  else if 0 ≤ n ∧ n < UInt64.size then unsigned (UInt64.ofNat n.toNat)
  else float (Binary.ofInt n)

/-- A count. -/
def ofNat (n : Nat) : Number := unsigned (UInt64.ofNat n)

/-! ### Wide integers -/

/-- A signed integer of 128 bits. -/
abbrev Wide := BitVec 128

/-- A signed integer, made wide. -/
def widenSigned (n : Int64) : Wide := n.toBitVec.signExtend 128

/-- An unsigned integer, made wide. -/
def widenUnsigned (n : UInt64) : Wide := n.toBitVec.setWidth 128

/-- An integer representation, made wide. -/
def wide? : Number → Option Wide
  | signed n => some (widenSigned n)
  | unsigned n => some (widenUnsigned n)
  | float _ => none

/-- Wide integers in their order. -/
def compareWide (m n : Wide) : Ordering := if m.slt n then .lt else if n.slt m then .gt else .eq

/-- A wide integer in the signed representation, if it lies between the bounds of that. -/
def signed? (n : Wide) : Option Int64 :=
  if (widenSigned .minValue).sle n && n.sle (widenSigned .maxValue) then
    some (.ofBitVec (n.setWidth 64))
  else none

/-- A wide integer in the unsigned representation, if it lies between the bounds of that. -/
def unsigned? (n : Wide) : Option UInt64 :=
  if (0 : Wide).sle n && n.sle (widenUnsigned 0xFFFFFFFFFFFFFFFF) then
    some (.ofBitVec (n.setWidth 64))
  else none

/-- The representation of a wide integer: signed if it fits, else unsigned if it fits, else the nearest
double. -/
def ofWide (n : Wide) : Number :=
  match signed? n with
  | some m => signed m
  | none =>
    match unsigned? n with
    | some m => unsigned m
    | none => float (Binary.ofInt n.toInt)

/-! ### Comparison -/

/-- Numeric comparison, undefined where NaN takes part. -/
def compare? : Number → Number → Option Ordering
  | signed m, signed n => some (compare m n)
  | unsigned m, unsigned n => some (compare m n)
  | float x, float y => Binary.compare? x y
  | signed m, unsigned n => some (compareWide (widenSigned m) (widenUnsigned n))
  | unsigned m, signed n => some (compareWide (widenUnsigned m) (widenSigned n))
  | a, b => Binary.compare? a.toFloat b.toFloat

/-- Numbers are equal when they compare as equal, whatever their representation. -/
def same (a b : Number) : Bool := a.compare? b == some .eq

instance : BEq Number := ⟨same⟩

/-- The number is zero, of either sign. -/
def isZero : Number → Bool
  | signed n => n == 0
  | unsigned n => n == 0
  | float x => Binary.place? x == some 0

/-! ### Arithmetic -/

/-- The absolute value of a signed integer, if it is one. The least has none. -/
def checkedAbs? (n : Int64) : Option Int64 :=
  if n < 0 then if n = .minValue then none else some (-n) else some n

/-- The absolute value of a signed integer as an unsigned one, which has room for that of the least. -/
def unsignedAbs (n : Int64) : UInt64 := n.abs.toUInt64

/-- Absolute value; that of the least signed integer is unsigned. -/
def abs : Number → Number
  | signed n =>
    match checkedAbs? n with
    | some m => signed m
    | none => unsigned (unsignedAbs n)
  | unsigned n => unsigned n
  | float x => float x.abs

/-- The sum of two numbers, exact among integers as long as it fits one of their representations. -/
def add (a b : Number) : Number :=
  match a.wide?, b.wide? with
  | some m, some n => ofWide (m + n)
  | _, _ => float (a.toFloat + b.toFloat)

/-! ### Text -/

/-- Plain text of doubles: positional throughout, and without a point where none is needed. -/
def plainStyle : Decimal.Style := ⟨0, none⟩

/-- Tagged text of doubles: at least one place after the point, and scientific from `1e16` on and
below `1e-4`. -/
def taggedStyle : Decimal.Style := ⟨1, some (-3, 16)⟩

/-- Plain text. -/
def text : Number → String
  | signed n => toString n.toInt
  | unsigned n => toString n.toNat
  | float x => plainStyle.float x

/-- Text that names the representation. -/
def taggedText : Number → String
  | signed n => "I64(" ++ toString n.toInt ++ ")"
  | unsigned n => "U64(" ++ toString n.toNat ++ ")"
  | float x => "F64(" ++ taggedStyle.float x ++ ")"

end Number

end RecordQuery
