import RecordQuery.Unicode.CaseRuns
import RecordQuery.Unicode.Property

/-!
Case of text: full lower and upper case, with the rule for a capital sigma at the end of a word, and
simple folding of single characters.
-/

namespace RecordQuery.Unicode

/-! ### Shifts -/

/-- The shift maps the code point. -/
def Shift.applies (s : Shift) (n : Nat) : Bool :=
  s.first ≤ n && n ≤ s.last && (n - s.first) % s.step == 0

/-- The image of a code point, which is itself where no shift applies. -/
def shifted (shifts : List Shift) (n : Nat) : Nat :=
  match shifts.find? (·.applies n) with
  | some s => ((n : Int) + s.offset).toNat
  | none => n

/-! ### Lower case -/

/-- After the characters that casing looks through, the next one has a case. -/
def casedNext (cs : List Char) : Bool :=
  match cs.dropWhile isCaseIgnorable with
  | c :: _ => isCased c
  | [] => false

/-- A capital sigma becomes a final one where a cased character comes before it in the word and
none after it. -/
def lowerSigma (before after : List Char) : Char :=
  if casedNext before && !casedNext after then 'ς' else 'σ'

/-- The lower case of a character whose neighbours do not matter. -/
def lowerChar (c : Char) : List Char :=
  if c = 'İ' then ['i', '\u0307'] else [Char.ofNat (shifted lowerShifts c.toNat)]

/-- Lower case of text that follows the characters `before`, which stand in reverse. -/
def lowerFrom (before : List Char) : List Char → List Char
  | [] => []
  | c :: cs =>
    (if c = 'Σ' then [lowerSigma before cs] else lowerChar c) ++ lowerFrom (c :: before) cs

/-- Full lower case. -/
def toLower (s : String) : String := String.ofList (lowerFrom [] s.toList)

/-! ### Upper case -/

/-- The upper case of a character, which may be several. -/
def upperChar (c : Char) : List Char :=
  match upperExpansions.find? (·.1 == c.toNat) with
  | some (_, image) => image.map Char.ofNat
  | none => [Char.ofNat (shifted upperShifts c.toNat)]

/-- Full upper case. -/
def toUpper (s : String) : String := String.ofList (s.toList.flatMap upperChar)

/-! ### Folding -/

/-- The code points that a shift maps, each with its image. -/
def Shift.pairs (s : Shift) : List (Nat × Nat) :=
  (List.range ((s.last - s.first) / s.step + 1)).map fun i =>
    let n := s.first + i * s.step
    (n, ((n : Int) + s.offset).toNat)

/-- Each code point that differs in case only from the representative of its class, with that
representative, which folding leaves alone. -/
def foldPairs : List (Nat × Nat) := foldShifts.flatMap Shift.pairs

end RecordQuery.Unicode
