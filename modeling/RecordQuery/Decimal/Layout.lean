import RecordQuery.Decimal.Shortest

/-!
How the digits of a number are laid out as text: positional or scientific.
-/

namespace RecordQuery.Decimal

/-- Where the point may stand for positional layout, and how many places follow it at least. -/
structure Style where
  places : Nat
  /-- Least and greatest number of digits before the point in positional layout; without bounds
  all numbers are positional. -/
  positional : Option (Int × Int)

/-- Digits around a point: `point` of them stand before it. -/
def positionalText (places : Nat) (digits : List Char) (point : Int) : List Char :=
  let zeros n := List.replicate n '0'
  let whole := if point ≤ 0 then ['0'] else
    digits.take point.toNat ++ zeros (point.toNat - digits.length)
  let fraction := zeros (-point).toNat ++ digits.drop point.toNat
  let padded := fraction ++ zeros (places - fraction.length)
  if padded.isEmpty then whole else whole ++ '.' :: padded

/-- One digit before the point, and the power of ten after an `e`. -/
def scientificText (digits : List Char) (point : Int) : List Char :=
  let power := 'e' :: (toString (point - 1)).toList
  digits.take 1 ++ (if digits.length ≤ 1 then power else '.' :: digits.drop 1 ++ power)

/-- The text of a non-negative decimal. -/
def Style.text (style : Style) (s : Significand) : List Char :=
  let digits := Nat.toDigits 10 s.digits
  let point := s.exponent + digits.length
  match style.positional with
  | some (low, high) =>
    if low ≤ point ∧ point ≤ high then positionalText style.places digits point
    else scientificText digits point
  | none => positionalText style.places digits point

/-- The text of a double: its shortest decimal, with the sign of zero kept. -/
def Style.float (style : Style) (x : Float) : String :=
  let signed (negative : Bool) (text : List Char) :=
    String.ofList (if negative then '-' :: text else text)
  match Binary.parts x with
  | .nan => "NaN"
  | .infinite negative => signed negative "inf".toList
  | .finite negative 0 _ => signed negative (positionalText style.places ['0'] 1)
  | .finite negative m q => signed negative (style.text (shortest m q))

end RecordQuery.Decimal
