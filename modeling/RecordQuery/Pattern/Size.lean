import RecordQuery.Pattern.Expression
import RecordQuery.Pattern.Plan

/-!
The size of a pattern, which has a limit. A pattern needs one automaton to read texts forward, which
also tells the groups apart, and one to read them backward, and both have to fit.
-/

namespace RecordQuery.Pattern

/-- The way in which an automaton reads a text. -/
inductive Reading where
  | forward
  | backward
  deriving DecidableEq, Repr

/-- The plan of a set. Characters of ASCII alone take one state and an end. -/
def CharSet.plan (reading : Reading) (s : CharSet) : Plan :=
  if s.ranges.all (·.2 < 0x80) then .states 2 (s.ranges.length * rangeSize)
  else match reading with
    | .forward => .sharedEnds s.tree
    | .backward => .sharedStarts s.sequences

/-! ### Literal texts -/

/-- The bytes of an expression that is one certain text. -/
def Expression.literal? (e : Expression) : Option (List UInt8) :=
  match e.parts with
  | [] => none
  | parts => List.flatten <$> parts.mapM fun
    | .one ⟨[r]⟩ => if r.1 == r.2 then some (String.utf8EncodeChar (Char.ofNat r.1)) else none
    | _ => none

/-- Words in the stretches between empty words. -/
def stretches : List (List UInt8) → List (List (List UInt8))
  | [] => [[]]
  | [] :: words => [] :: stretches words
  | word :: words => match stretches words with
    | [] => [[word]]
    | stretch :: rest => (word :: stretch) :: rest

/-- Words with one empty word only where several begin the list. -/
def oneEmpty : List (List UInt8) → List (List UInt8)
  | [] :: words => [] :: words.dropWhile List.isEmpty
  | words => words

/-- The first bytes of words, each with what follows it. -/
def byFirst (words : List (List UInt8)) : List (List (List UInt8)) :=
  (words.filterMap List.head?).eraseDups.map fun b =>
    (words.filter (·.head? == some b)).map List.tail

/-- The plan of the tree of words up to a length, in which words share their beginnings unless a
shorter word between them is whole there. -/
def treePlan : Nat → List (List UInt8) → Plan
  | 0, _ => .states 0 0
  | n + 1, words =>
    let stretched := (stretches (oneEmpty words)).map byFirst
    let filled := stretched.filter (!·.isEmpty)
    .andThen (.fork (filled.length + (stretched.length - 1))) <|
      .inOrder <| filled.map fun rests =>
        .andThen (.states 1 (if rests.length = 1 then 0 else rests.length * rangeSize)) <|
          .inOrder ((rests.filter (·.any (!·.isEmpty))).map (treePlan n))

/-- The plan of a choice between words. -/
def wordsPlan (reading : Reading) (words : List (List UInt8)) : Plan :=
  let words := if reading = .forward then words else words.map List.reverse
  .andThen (.states 1 0) (treePlan ((words.map List.length).foldl max 0) words)

/-! ### Expressions -/

/-- The plan of a choice between arms that are planned already. The fork is made once there are two
arms, and then the rest of them. -/
def armsPlan : List Plan → Plan
  | [] => .states 0 0
  | [a] => a
  | a :: b :: rest =>
    .inOrder (a :: b :: .states 2 ((2 + rest.length) * branchSize) :: rest)

/-- The plan of a repetition of what is planned already. -/
def repeatedPlan (isNonempty : Bool) (a : Plan) (least : Nat) : Option Nat → Plan
  | none =>
    if least = 0 then
      if isNonempty then .andThen (.fork 2) a
      else .inOrder [a, .fork 2, .fork 2, .states 1 0]
    else .andThen (.times least a) (.fork 2)
  | some most =>
    if least = 0 ∧ most = 1 then .inOrder [.fork 2, a, .states 1 0]
    else if least = most then .times least a
    else .inOrder [if least = 0 then .states 1 0 else .times least a, .states 1 0,
      .times (most - least) (.andThen (.fork 2) a)]

namespace Expression

/-- A least length of the texts that match, which is positive if no empty text does. None, if there
is a part that no text matches. -/
def leastLength? : Expression → Option Nat
  | empty => some 0
  | one s => if s.ranges.isEmpty then none else some 1
  | look _ => some 0
  | group _ a => a.leastLength?
  | seq a b => a.leastLength?.bind fun m => b.leastLength?.map (m + ·)
  | alt a b => a.leastLength?.bind fun m => b.leastLength?.map (min m)
  | repeated a least _ _ => a.leastLength?.map (least * ·)

/-- The plan of an expression whose arms are planned already. A choice between literal texts is
planned as a tree of them. -/
def ofArms (reading : Reading) (e : Expression) (arms : List Plan) : Plan :=
  match arms with
  | _ :: _ :: _ => match e.arms.mapM literal? with
    | some words => wordsPlan reading words
    | none => armsPlan arms
  | _ => armsPlan arms

/-- The plans of the arms of an expression. -/
def armPlans (reading : Reading) : Expression → List Plan
  | alt a b => a.armPlans reading ++ b.armPlans reading
  | empty => [.states 1 0]
  | one s => match (one s).literal? with
    | some bytes => [.states bytes.length 0]
    | none => [s.plan reading]
  | look _ => [.states 1 0]
  | group _ a =>
    let inside := a.ofArms reading (a.armPlans reading)
    if reading = .forward then [.inOrder [.states 1 0, inside, .states 1 0]] else [inside]
  | seq a b =>
    let first := a.ofArms reading (a.armPlans reading)
    let second := b.ofArms reading (b.armPlans reading)
    if reading = .forward then [.andThen first second] else [.andThen second first]
  | repeated a least most _ =>
    [repeatedPlan (a.leastLength?.any (0 < ·)) (a.ofArms reading (a.armPlans reading)) least most]

/-- The plan of an expression. -/
def plan (reading : Reading) (e : Expression) : Plan := e.ofArms reading (e.armPlans reading)

/-- Every match begins at the beginning of the text, or on backward reading ends at its end. -/
def isAnchored (reading : Reading) : Expression → Bool
  | empty => false
  | one _ => false
  | look l => l = if reading = .forward then .textStart else .textEnd
  | group _ a => a.isAnchored reading
  | seq a b =>
    if reading = .forward then a.isAnchored reading || a.isZeroWidth && b.isAnchored reading
    else b.isAnchored reading || b.isZeroWidth && a.isAnchored reading
  | alt a b => a.isAnchored reading && b.isAnchored reading
  | repeated a least _ _ => 0 < least && a.isAnchored reading

/-- The plan of the whole automaton: the way over the bytes before a match, the marks of the match
around the expression, and its end. -/
def automatonPlan (reading : Reading) (e : Expression) : Plan :=
  let way := if e.isAnchored reading then .states 1 0 else .states 3 (2 * branchSize + rangeSize)
  let mark := if reading = .forward then .states 1 0 else .states 0 0
  .inOrder [way, mark, e.plan reading, mark, .states 1 0]

/-- Both automata keep to the limit. -/
def fits (e : Expression) : Bool :=
  (e.automatonPlan .forward).fits && (e.automatonPlan .backward).fits

end Expression

end RecordQuery.Pattern
