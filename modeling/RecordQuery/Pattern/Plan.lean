import RecordQuery.Pattern.ByteRange
import Std.Data.HashMap

/-!
Plans of automata over UTF-8: which states an automaton has, in the order in which they are made. A
plan is carried out state by state, with each repetition written out, up to a limit of memory.

The states of a set are shared where byte sequences end alike (or, when texts are read backward, begin
alike). What has been made is kept in a table with a limited number of places, and a later state takes
the place of an earlier one, so not everything that could be shared is.
-/

namespace RecordQuery.Pattern

/-! ### Room -/

/-- The bytes of a state. -/
def stateSize : Nat := 32

/-- The bytes of a transition on a range of bytes, in a state that has several. -/
def rangeSize : Nat := 8

/-- The bytes of a transition to a state that is one of several to go on from. -/
def branchSize : Nat := 4

/-- The greatest size of an automaton: ten mebibytes. -/
def sizeLimit : Nat := 10485760

/-- An automaton in the making: the number of its states, which is the number of the next one, and
their size in bytes. -/
structure Draft where
  states : Nat := 0
  bytes : Nat := 0
  deriving DecidableEq, Repr

/-- Adds states with more bytes between them, as long as the limit allows it. -/
def Draft.add (d : Draft) (count extra : Nat) : Option Draft :=
  let bytes := d.bytes + count * stateSize + extra
  if bytes ≤ sizeLimit then some ⟨d.states + count, bytes⟩ else none

/-! ### Sharing -/

/-- What tells two states of a set apart: the ranges of bytes with the numbers of the states that they
lead to or from, latest first. -/
abbrev Edges := List (ByteRange × Nat)

/-- The states that were made last, by place: their edges and their numbers. -/
abbrev Recent := Std.HashMap UInt64 (Edges × Nat)

/-- Stirs a number into a hash. -/
def stir (hash : UInt64) (n : Nat) : UInt64 := (hash ^^^ n.toUInt64) * 1099511628211

/-- The hash of nothing. -/
def hashStart : UInt64 := 14695981039346656037

/-- Looks for a state with the given edges at a place, or makes it there with more bytes. -/
def obtain (place : UInt64) (edges : Edges) (extra : Nat) (d : Draft) (recent : Recent) :
    Option (Nat × Draft × Recent) :=
  match recent[place]? with
  | some (there, number) =>
    if there = edges then some (number, d, recent)
    else (d.add 1 extra).map (d.states, ·, recent.insert place (edges, d.states))
  | none => (d.add 1 extra).map (d.states, ·, recent.insert place (edges, d.states))

/-- The number of places for states that byte sequences end with. -/
def endPlaces : UInt64 := 10000

/-- Makes the state whose edges are those given and those to the trees that follow. The trees under an
edge are made before it, and all ends lead to the target. -/
def makeTree (target : Nat) (hash : UInt64) (edges : Edges) :
    ByteTree → Draft → Recent → Option (Nat × Draft × Recent)
  | .nil, d, recent =>
    obtain (hash % endPlaces) edges (edges.length * rangeSize) d recent
  | .branch r .nil next, d, recent =>
    makeTree target (stir (stir (stir hash r.1) r.2) target) ((r, target) :: edges) next d recent
  | .branch r under next, d, recent =>
    match makeTree target hashStart [] under d recent with
    | some (n, d, recent) =>
      makeTree target (stir (stir (stir hash r.1) r.2) n) ((r, n) :: edges) next d recent
    | none => none

/-- The number of places for states that byte sequences begin with. -/
def startPlaces : UInt64 := 1000

/-- Makes the states of a byte sequence on the way back to the given state, each from the one before
it. -/
def makeSequence (origin : Nat) : ByteSequence → Draft → Recent → Option (Draft × Recent)
  | [], d, recent => some (d, recent)
  | r :: rs, d, recent =>
    let place := stir (stir (stir hashStart origin) r.1) r.2 % startPlaces
    match obtain place [(r, origin)] 0 d recent with
    | some (n, d, recent) => makeSequence n rs d recent
    | none => none

/-- Makes the states of byte sequences between which there is a choice. -/
def makeSequences (target : Nat) : List ByteSequence → Draft → Recent → Option Draft
  | [], d, _ => some d
  | seq :: seqs, d, recent =>
    match makeSequence target seq d recent with
    | some (d, recent) =>
      match d.add 0 branchSize with
      | some d => makeSequences target seqs d recent
      | none => none
    | none => none

/-! ### Plans -/

/-- The states of an automaton in the order in which they are made. -/
inductive Plan where
  /-- So many states with that many more bytes between them. -/
  | states (count extra : Nat)
  /-- A set whose byte sequences share their ends. -/
  | sharedEnds (tree : ByteTree)
  /-- A set whose byte sequences share their beginnings. -/
  | sharedStarts (seqs : List ByteSequence)
  | andThen (a b : Plan)
  | times (n : Nat) (a : Plan)

namespace Plan

/-- Carries out a step the given number of times. -/
def repeatStep (step : Draft → Option Draft) : Nat → Draft → Option Draft
  | 0, d => some d
  | n + 1, d => match step d with
    | some d => repeatStep step n d
    | none => none

/-- Carries out a plan, unless it goes beyond the limit. -/
def carryOut : Plan → Draft → Option Draft
  | states count extra, d => d.add count extra
  | sharedEnds tree, d =>
    match d.add 1 0 with
    | some next => (makeTree d.states hashStart [] tree next ∅).map (·.2.1)
    | none => none
  | sharedStarts seqs, d =>
    match d.add 2 0 with
    | some next => makeSequences (d.states + 1) seqs next ∅
    | none => none
  | andThen a b, d => match a.carryOut d with
    | some d => b.carryOut d
    | none => none
  | times n a, d => repeatStep a.carryOut n d

/-- The automaton keeps to the limit. -/
def fits (p : Plan) : Bool := (p.carryOut {}).isSome

/-- Plans one after another. -/
def inOrder (ps : List Plan) : Plan := ps.foldr andThen (states 0 0)

/-- A state that goes on from so many others. -/
def fork (branches : Nat) : Plan := states 1 (branches * branchSize)

end Plan

end RecordQuery.Pattern
