import RecordQuery.Pattern.CharSet

/-!
Regular expressions over characters. Larger ones are built in a normal form: sequences and choices
lean to the right and hold no sequence or choice as a part of their own kind, and a choice between
characters is a set.
-/

namespace RecordQuery.Pattern

/-- A condition on the place between two characters. -/
inductive Look where
  | textStart
  | textEnd
  | lineStart
  | lineEnd
  /-- Line ends that count a carriage return, alone or before a line feed, as one end. -/
  | anyLineStart
  | anyLineEnd
  | wordBoundary
  | notWordBoundary
  | wordStart
  | wordEnd
  | wordStartHalf
  | wordEndHalf
  /-- The condition with words of ASCII characters alone. -/
  | ascii (l : Look)
  deriving DecidableEq, Repr

/-- A regular expression. -/
inductive Expression where
  | empty
  | one (s : CharSet)
  | look (l : Look)
  /-- A group whose match is told apart, by its number. -/
  | group (number : Nat) (a : Expression)
  | seq (a b : Expression)
  | alt (a b : Expression)
  /-- At least `least` times, and at most `most` times if that is given. What is lazy prefers few times
  to many, which tells apart matches but not whether there is one. -/
  | repeated (a : Expression) (least : Nat) (most : Option Nat) (isLazy : Bool)
  deriving DecidableEq, Repr

namespace Expression

/-! ### Sequences -/

/-- The expressions that stand one after another. -/
def parts : Expression → List Expression
  | empty => []
  | seq a b => a.parts ++ b.parts
  | e => [e]

/-- Parts one after another. -/
def chain : List Expression → Expression
  | [] => empty
  | [e] => e
  | e :: es => seq e (chain es)

/-- Expressions one after another. -/
def sequence (es : List Expression) : Expression := chain (es.flatMap parts)

/-- The expression is one certain character. -/
def isCharacter : Expression → Bool
  | one ⟨[r]⟩ => r.1 == r.2
  | _ => false

/-- The parts, with characters that follow each other taken together. -/
def chunks (e : Expression) : List (List Expression) :=
  e.parts.splitBy fun a b => a.isCharacter && b.isCharacter

/-! ### Choices -/

/-- The expressions to choose from. -/
def arms : Expression → List Expression
  | alt a b => a.arms ++ b.arms
  | e => [e]

/-- A choice between arms. -/
def fork : List Expression → Expression
  | [] => one .none
  | [e] => e
  | e :: es => alt e (fork es)

/-- The set of an expression that is one. -/
def set? : Expression → Option CharSet
  | one s => some s
  | _ => none

/-- A choice between arms, which is a set if all are characters, or all are other sets. -/
def join (es : List Expression) : Expression :=
  match es.mapM set? with
  | some sets =>
    if es.all isCharacter || es.all (!·.isCharacter) then one (.unions sets) else fork es
  | none => fork es

/-- The longest beginning that two lists share. -/
def shared {α : Type} [DecidableEq α] : List α → List α → List α
  | a :: as, b :: bs => if a = b then a :: shared as bs else []
  | _, _ => []

/-- A choice between expressions. If all arms are sequences, what they begin with alike stands in
front of the choice. -/
def choice (es : List Expression) : Expression :=
  let es := es.flatMap arms
  match join es, es.map chunks with
  | one s, _ => one s
  | whole, [] => whole
  | whole, c :: cs =>
    let start := cs.foldl shared c
    if start.isEmpty || (c :: cs).any (·.length < 2) then whole
    else
      let rests := (c :: cs).map fun d => chain (d.drop start.length).flatten
      sequence (start.flatten ++ [join (rests.flatMap arms)])

/-! ### Repetition -/

/-- The expression matches nothing but the empty text. -/
def isZeroWidth : Expression → Bool
  | empty => true
  | one _ => false
  | look _ => true
  | group _ a => a.isZeroWidth
  | seq a b => a.isZeroWidth && b.isZeroWidth
  | alt a b => a.isZeroWidth && b.isZeroWidth
  | repeated a _ _ _ => a.isZeroWidth

/-- An expression so many times. What matches the empty text only is taken once at most. -/
def times (a : Expression) (least : Nat) (most : Option Nat) (isLazy : Bool) : Expression :=
  let (least, most) :=
    if a.isZeroWidth then (min least 1, some (min (most.getD 1) 1)) else (least, most)
  match least, most with
  | 0, some 0 => empty
  | 1, some 1 => a
  | _, _ => repeated a least most isLazy

end Expression

end RecordQuery.Pattern
