import RecordQuery.Pattern.Expression

/-!
Openings: the texts that matches of an expression may begin with. Where all of them are whole matches,
the search is one for words and needs no automaton, so the size of the expression has no limit. Parts
that no text can match, or that no search gets to, may then be as large as they like.
-/

namespace RecordQuery.Pattern

/-- Bytes that a match may begin with, which may be all of it. -/
structure Opening where
  bytes : List UInt8
  isWhole : Bool
  deriving DecidableEq, Repr

/-- Openings, the preferred ones first. None, if they are too many to tell. -/
abbrev Openings := Option (List Opening)

/-! ### Limits -/

/-- The most members of a set that is spelled out. -/
def memberLimit : Nat := 10

/-- The most times that a repetition is spelled out. -/
def timesLimit : Nat := 10

/-- The most bytes of an opening. -/
def lengthLimit : Nat := 100

/-- The most openings of an expression. -/
def openingLimit : Nat := 250

/-- The bytes that are left of each opening where there are too many. -/
def crowdedLength : Nat := 4

/-! ### Lists of openings -/

namespace Opening

/-- The empty match. -/
def blank : Opening := ⟨[], true⟩

/-- The same bytes, with more of the match to come. -/
def unfinished (o : Opening) : Opening := ⟨o.bytes, false⟩

/-- Cuts an opening down to a length. -/
def cut (length : Nat) (o : Opening) : Opening :=
  if o.bytes.length ≤ length then o else ⟨o.bytes.take length, false⟩

/-- What a match begins with that goes on with another one. -/
def followedBy (a b : Opening) : Opening :=
  if a.isWhole then ⟨a.bytes ++ b.bytes, b.isWhole⟩ else a

/-- Openings in which neighbours of the same bytes are one, which is whole if both are. -/
def mergeNeighbours : List Opening → List Opening
  | [] => []
  | o :: os => match mergeNeighbours os with
    | [] => [o]
    | next :: rest =>
      if o.bytes = next.bytes then ⟨o.bytes, o.isWhole && next.isWhole⟩ :: rest
      else o :: next :: rest

/-- No opening can be followed by anything. -/
def areFinal (os : Openings) : Bool := os.all (·.all (!·.isWhole))

/-- The openings of what stands behind others. -/
def behind (before after : Openings) : Openings :=
  if areFinal before then before
  else
    let openings : Openings := match before, after with
      | some bs, some as =>
        if bs.length * as.length ≤ openingLimit then
          some <| mergeNeighbours <| bs.flatMap fun b =>
            if b.isWhole then as.map b.followedBy else [b]
        else unknownBehind bs
      | some bs, none => unknownBehind bs
      | none, _ => none
    openings.map (·.map (cut lengthLimit))
where
  /-- The openings where it is not known what follows. -/
  unknownBehind (bs : List Opening) : Openings :=
    if bs.any (·.bytes.isEmpty) then none else some (bs.map unfinished)

/-- The openings of a choice between two expressions. -/
def beside (before after : Openings) : Openings :=
  match before, after with
  | some bs, some as =>
    if bs.length + as.length ≤ openingLimit then some (mergeNeighbours (bs ++ as))
    else
      let shorten (os : List Opening) := mergeNeighbours (os.map (cut crowdedLength))
      if (shorten bs).length + (shorten as).length ≤ openingLimit then
        some (mergeNeighbours (shorten bs ++ shorten as))
      else none
  | _, _ => none

end Opening

/-! ### Openings of expressions -/

open Opening

/-- The openings of a set with few members, which are whole. -/
def CharSet.openings (s : CharSet) : Openings :=
  if (s.ranges.map fun r => r.2 + 1 - r.1).foldl (· + ·) 0 ≤ memberLimit then
    some <| s.ranges.flatMap fun r => (List.range (r.2 + 1 - r.1)).map fun i =>
      ⟨String.utf8EncodeChar (Char.ofNat (r.1 + i)), true⟩
  else .none

/-- The openings of a repetition of what has the given ones. -/
def repeatedOpenings (os : Openings) (least : Nat) (most : Option Nat) (isLazy : Bool) : Openings :=
  let unfinish := Option.map (List.map unfinished)
  if least = 0 then
    let os := if most = some 1 then os else unfinish os
    if isLazy then beside (some [blank]) os else beside os (some [blank])
  else
    let all := (List.replicate (min least timesLimit) os).foldl behind (some [blank])
    if most = some least ∧ least ≤ timesLimit then all else unfinish all

namespace Expression

/-- How the openings of an expression are joined with earlier ones. -/
inductive Joining where
  | behind
  | beside
  deriving DecidableEq, Repr

/-- Joins openings with earlier ones. -/
def Joining.join : Joining → Openings → Openings → Openings
  | behind => Opening.behind
  | beside => Opening.beside

/-- The openings of an expression, joined with earlier ones. -/
def openingsWith (j : Joining) (before : Openings) : Expression → Openings
  | empty => j.join before (some [blank])
  | one s => j.join before s.openings
  | look _ => j.join before (some [blank])
  | group _ a => j.join before (a.openingsWith .behind (some [blank]))
  | seq a b =>
    let both (start : Openings) := b.openingsWith .behind (a.openingsWith .behind start)
    if j = .behind then both before else j.join before (both (some [blank]))
  | alt a b =>
    let both (start : Openings) := b.openingsWith .beside (a.openingsWith .beside start)
    if j = .beside then both before else j.join before (both (some []))
  | repeated a least most isLazy =>
    j.join before (repeatedOpenings (a.openingsWith .behind (some [blank])) least most isLazy)

/-- The openings of an expression. -/
def openings (e : Expression) : Openings := e.openingsWith .behind (some [blank])

end Expression

/-! ### The choice of a search -/

/-- The bytes that are common in texts. -/
def commonBytes : List (UInt8 × UInt8) := [
  (0x0A, 0x0A), (0x0D, 0x0D), (0x20, 0x20), (0x28, 0x29), (0x2C, 0x32), (0x39, 0x3A), (0x5F, 0x5F),
  (0x61, 0x69), (0x6C, 0x70), (0x72, 0x76), (0x78, 0x79), (0x7C, 0x7C), (0x80, 0x84), (0x90, 0x90),
  (0xB1, 0xB1), (0xB5, 0xB7), (0xB9, 0xBD), (0xBF, 0xFF)]

/-- The first byte is not common. -/
def beginsRarely : List UInt8 → Bool
  | [] => false
  | b :: _ => !commonBytes.any fun r => r.1 ≤ b && b ≤ r.2

/-- Openings without those that begin with an earlier one, which is preferred to them. -/
def preferred (os : List Opening) : List Opening :=
  os.foldl (fun kept o => if kept.any (·.bytes.isPrefixOf o.bytes) then kept else kept ++ [o]) []

/-- What the openings have in common at their beginning. -/
def sharedStart : List Opening → List UInt8
  | [] => []
  | o :: os => os.foldl (fun start o => Expression.shared start o.bytes) o.bytes

/-- The openings that a search for many of them looks for: cut as far as it takes to have few. -/
def shortened (os : List Opening) : List Opening :=
  let cutTo (length most : Nat) (os : List Opening) :=
    if os.length ≤ most then os else preferred (os.map (cut length))
  cutTo 3 64 (cutTo 4 10 (cutTo 5 10 os))

/-- The search for openings is a search for whole matches. Where they begin alike in a way that is rare
or long, only their common beginning is looked for, and where they are many, shorter ones, unless that
would find too much. -/
def isWordSearch (os : List Opening) : Bool :=
  let kept := preferred os
  let areWhole (os : List Opening) := os.all (·.isWhole)
  let start := sharedStart kept
  if os.isEmpty || os.any (·.bytes.isEmpty) then false
  else if 1 < os.length && start.length ≤ 3 && beginsRarely start then
    areWhole (kept.map (cut 1))
  else if 4 < start.length || (1 < start.length && !(areWhole kept && kept.length ≤ 16)) then
    areWhole (kept.map (cut start.length))
  else
    let found := shortened kept
    areWhole kept && (areWhole found || found.any (·.bytes.length ≤ 2) || 64 < found.length)

namespace Expression

/-- No condition on a place and no group that is told apart is in the expression. -/
def isPlain : Expression → Bool
  | empty => true
  | one _ => true
  | look _ => false
  | group _ _ => false
  | seq a b => a.isPlain && b.isPlain
  | alt a b => a.isPlain && b.isPlain
  | repeated a _ _ _ => a.isPlain

/-- The expression is searched for as a list of words. -/
def isWordSearch (e : Expression) : Bool := e.isPlain && e.openings.any Pattern.isWordSearch

end Expression

end RecordQuery.Pattern
