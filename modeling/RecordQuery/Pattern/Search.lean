import RecordQuery.Pattern.Expression

/-!
The search for a match in a text. The places between the characters of a text are the bits of a
natural; an expression maps the places where a match may begin to those where one may end.
-/

namespace RecordQuery.Pattern

/-! ### Places -/

/-- The character, or a blank in place of one that is not of ASCII. -/
def asciiOrBlank (c : Char) : Char := if c.toNat < 0x80 then c else ' '

/-- The condition holds between the two neighbours. -/
def Look.holds (l : Look) (before after : Option Char) : Bool :=
  let wordBefore := before.any CharSet.word.mem
  let wordAfter := after.any CharSet.word.mem
  match l with
  | .ascii l => l.holds (before.map asciiOrBlank) (after.map asciiOrBlank)
  | .textStart => before.isNone
  | .textEnd => after.isNone
  | .lineStart => before.all (· == '\n')
  | .lineEnd => after.all (· == '\n')
  | .anyLineStart => before.all (· == '\n') || (before == some '\r' && after != some '\n')
  | .anyLineEnd => after.all (· == '\r') || (after == some '\n' && before != some '\r')
  | .wordBoundary => wordBefore != wordAfter
  | .notWordBoundary => wordBefore == wordAfter
  | .wordStart => !wordBefore && wordAfter
  | .wordEnd => wordBefore && !wordAfter
  | .wordStartHalf => !wordBefore
  | .wordEndHalf => !wordAfter

/-- Bit `i` is set where the test holds of the `i`-th character. -/
def charBits (test : Char → Bool) : List Char → Nat
  | [] => 0
  | c :: cs => (test c).toNat + 2 * charBits test cs

/-- Bit `i` is set where the test holds of the neighbours of the `i`-th place. -/
def placeBits (test : Option Char → Option Char → Bool) : Option Char → List Char → Nat
  | before, [] => (test before none).toNat
  | before, c :: cs => (test before (some c)).toNat + 2 * placeBits test (some c) cs

/-! ### Matching -/

/-- An expression laid along a text: of each set and each condition, the places where it holds. -/
inductive Trail where
  | empty
  | one (places : Nat)
  | look (places : Nat)
  | seq (a b : Trail)
  | alt (a b : Trail)
  | repeated (a : Trail) (least : Nat) (most : Nat)

/-- Lays an expression along a text. More repetitions than the text has characters find nothing
new. -/
def Expression.along (text : List Char) : Expression → Trail
  | .empty => .empty
  | .one s => .one (charBits s.mem text)
  | .look l => .look (placeBits l.holds none text)
  | .group _ a => a.along text
  | .seq a b => .seq (a.along text) (b.along text)
  | .alt a b => .alt (a.along text) (b.along text)
  | .repeated a least most _ => .repeated (a.along text) least (most.getD (least + text.length + 1))

/-- Applies a step the given number of times, or until it changes nothing. -/
def iterate (step : Nat → Nat) : Nat → Nat → Nat
  | 0, places => places
  | n + 1, places =>
    let next := step places
    if next = places then places else iterate step n next

/-- The places where a match may end that begins at one of the given places. -/
def Trail.ends : Trail → Nat → Nat
  | .empty, places => places
  | .one held, places => 2 * (places &&& held)
  | .look held, places => places &&& held
  | .seq a b, places => b.ends (a.ends places)
  | .alt a b, places => a.ends places ||| b.ends places
  | .repeated a least most, places =>
    iterate (fun p => p ||| a.ends p) (most - least) (iterate a.ends least places)

/-- The expression matches somewhere in the text. -/
def Expression.search (e : Expression) (text : List Char) : Bool :=
  (e.along text).ends (placeBits (fun _ _ => true) none text) != 0

end RecordQuery.Pattern
