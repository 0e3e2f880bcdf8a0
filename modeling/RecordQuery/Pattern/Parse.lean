import RecordQuery.Pattern.Bracket
import RecordQuery.Pattern.Opening
import RecordQuery.Pattern.Size

/-!
Reading patterns. The text is read from the left with a stack of open groups; look-around,
back-references and all that does not close is refused.
-/

namespace RecordQuery.Pattern

/-- One part of a sequence: an expression with the depth of its nesting, or a setting of flags,
which cannot be repeated. -/
inductive Piece where
  | setting
  | part (e : Expression) (depth : Nat)

/-- A group that is open: its number if its match is told apart, the pieces and branches before it in
the group around it, latest first, and the flags to return to. -/
structure Level where
  number : Option Nat
  pieces : List Piece
  branches : List Piece
  flags : Flags

/-- The state of reading. Pieces, branches and groups stand latest first. -/
structure Reader where
  rest : List Char
  flags : Flags := {}
  pieces : List Piece := []
  branches : List Piece := []
  outer : List Level := []
  /-- The number of groups told apart so far. -/
  groups : Nat := 0
  names : List (List Char) := []

/-- The expression of a piece. -/
def Piece.expression : Piece → Expression
  | setting => .empty
  | part e _ => e

/-- The depth of a piece. -/
def Piece.depth : Piece → Nat
  | setting => 0
  | part _ depth => depth

/-- Pieces under one node, which adds a level unless there is one piece only. The latest piece
stands first. -/
def Piece.gather (join : List Expression → Expression) (pieces : List Piece) : Piece :=
  part (join (pieces.reverse.map expression)) <|
    match pieces with
    | [] => 0
    | [piece] => piece.depth
    | _ => 1 + (pieces.map depth).foldl max 0

namespace Reader

/-- The pieces of the current branch as one. -/
def branch (r : Reader) : Piece := Piece.gather .sequence r.pieces

/-- The branches of the current group as one. -/
def group (r : Reader) : Piece := Piece.gather .choice (r.branch :: r.branches)

/-- Adds an expression of the given depth and goes on behind it. -/
def add (r : Reader) (e : Expression) (rest : List Char) (depth : Nat) : Reader :=
  { r with pieces := .part e depth :: r.pieces, rest := rest }

/-! ### Groups -/

/-- Opens a group, of the given number if its match is told apart, whose inside has the given
flags. -/
def openLevel (r : Reader) (number : Option Nat) (inside : Flags) (rest : List Char) : Reader :=
  { r with
    rest := rest, flags := inside, pieces := [], branches := []
    outer := ⟨number, r.pieces, r.branches, r.flags⟩ :: r.outer }

/-- Opens a group whose match is told apart. -/
def openGroup (r : Reader) (rest : List Char) : Reader :=
  { r with groups := r.groups + 1 }.openLevel (some r.groups) r.flags rest

/-- Closes the innermost group, if one is open. -/
def closeGroup? (r : Reader) (rest : List Char) : Option Reader :=
  match r.outer with
  | [] => none
  | level :: outer =>
    let inside := r.group
    let e := match level.number with
      | some number => .group number inside.expression
      | none => inside.expression
    some { r with
      rest := rest, flags := level.flags, branches := level.branches, outer := outer
      pieces := .part e (inside.depth + 1) :: level.pieces }

/-- A character that the name of a group may have, at its beginning or later. -/
def isNameChar (atStart : Bool) (c : Char) : Bool :=
  c == '_' ||
    if atStart then Unicode.isAlphabetic c
    else c == '.' || c == '[' || c == ']' || Unicode.isAlphanumeric c

/-- Opens a named group. Each name may be given once. -/
def openNamed? (r : Reader) (cs : List Char) : Option Reader :=
  let name := cs.takeWhile (· != '>')
  match cs.drop name.length with
  | [] => none
  | _ :: rest =>
    if (name.take 1).all (isNameChar true) && (name.drop 1).all (isNameChar false) &&
        !name.isEmpty && !r.names.contains name then
      some ({ r with names := name :: r.names }.openGroup rest)
    else none

/-- Reads flags in a group: up to a closing parenthesis they hold from here on, up to a colon inside
the group that they open. -/
def openFlags? (r : Reader) (cs : List Char) : Option Reader :=
  let letters := cs.takeWhile fun c => c != ':' && c != ')'
  (r.flags.read? letters).bind fun flags =>
    match cs.drop letters.length with
    | ':' :: rest => some (r.openLevel none flags rest)
    | ')' :: rest =>
      if letters.isEmpty then none
      else some { r with rest := rest, flags := flags, pieces := .setting :: r.pieces }
    | _ => none

/-- Reads the beginning of a group after its parenthesis. -/
def open? (r : Reader) (cs : List Char) : Option Reader :=
  match r.flags.skip cs with
  | '?' :: '=' :: _ => none
  | '?' :: '!' :: _ => none
  | '?' :: '<' :: '=' :: _ => none
  | '?' :: '<' :: '!' :: _ => none
  | '?' :: 'P' :: '<' :: rest => r.openNamed? rest
  | '?' :: '<' :: rest => r.openNamed? rest
  | '?' :: rest => r.openFlags? rest
  | rest => some (r.openGroup rest)

/-! ### Repetition -/

/-- The counts of a repetition. -/
structure Counts where
  least : Nat
  most : Option Nat
  isLazy : Bool

/-- Repeats the last piece, which there must be. -/
def repeat? (r : Reader) (counts : Counts) (rest : List Char) : Option Reader :=
  match r.pieces with
  | .part e depth :: pieces =>
    let e := e.times counts.least counts.most counts.isLazy
    some { r with rest := rest, pieces := .part e (depth + 1) :: pieces }
  | _ => none

/-- Reads the mark behind counts, which turns laziness to the contrary. -/
def readMark (flags : Flags) (least : Nat) (most : Option Nat) (cs : List Char) :
    Counts × List Char :=
  match cs with
  | '?' :: rest => (⟨least, most, !flags.lazy⟩, rest)
  | _ => (⟨least, most, flags.lazy⟩, cs)

/-- Reads the counts of a repetition after its brace. -/
def readCounts? (flags : Flags) (cs : List Char) : Option (Counts × List Char) := do
  let (least, rest) ← readCount? flags (flags.skip cs)
  match rest with
  | '\x7d' :: rest => some (readMark flags least (some least) (flags.skip rest))
  | ',' :: rest => match flags.skip rest with
    | '\x7d' :: rest => some (readMark flags least none (flags.skip rest))
    | rest =>
      let (most, rest) ← readCount? flags rest
      match rest with
      | '\x7d' :: rest =>
        if least ≤ most then some (readMark flags least (some most) (flags.skip rest)) else none
      | _ => none
  | _ => none

/-- Repeats the last piece by a sign that is followed by the given characters. -/
def repeatSign? (r : Reader) (least : Nat) (most : Option Nat) (cs : List Char) : Option Reader :=
  let (counts, rest) := readMark r.flags least most cs
  r.repeat? counts rest

/-! ### The whole pattern -/

/-- A literal character. -/
def literal (flags : Flags) (c : Char) : Expression :=
  .one (flags.cases (.single c))

/-- The dot: every character, or every one that does not end a line. Without the tables of Unicode it would
be a byte. -/
def dot? (flags : Flags) : Option CharSet :=
  let lineEnds : CharSet :=
    if flags.dotAll then .none
    else if flags.anyLineEnd then (CharSet.single '\n').union (.single '\r')
    else .single '\n'
  flags.complement? true lineEnds

/-- The anchor at the beginning of a text or line. -/
def startAnchor (flags : Flags) : Look :=
  if !flags.multiline then .textStart
  else if flags.anyLineEnd then .anyLineStart else .lineStart

/-- The anchor at the end of a text or line. -/
def endAnchor (flags : Flags) : Look :=
  if !flags.multiline then .textEnd
  else if flags.anyLineEnd then .anyLineEnd else .lineEnd

/-- Reads one element of the pattern, whose first character is given. -/
def step? (r : Reader) (c : Char) (cs : List Char) : Option Reader :=
  match c with
  | '(' => r.open? cs
  | ')' => r.closeGroup? cs
  | '|' => some { r with rest := cs, pieces := [], branches := r.branch :: r.branches }
  | '[' => (readBracketed? r.flags cs).map fun (item, rest) =>
      r.add (.one item.set) rest item.depth
  | '?' => r.repeatSign? 0 (some 1) cs
  | '*' => r.repeatSign? 0 none cs
  | '+' => r.repeatSign? 1 none cs
  | '\x7b' => (readCounts? r.flags cs).bind fun (counts, rest) => r.repeat? counts rest
  | '\\' => (readEscape? r.flags cs).map fun (p, rest) =>
      match p with
      | .literal c => r.add (literal r.flags c) rest 0
      | .chars s => r.add (.one s) rest 0
      | .look l => r.add (.look l) rest 0
  | '.' => (dot? r.flags).map fun s => r.add (.one s) cs 0
  | '^' => some (r.add (.look (startAnchor r.flags)) cs 0)
  | '$' => some (r.add (.look (endAnchor r.flags)) cs 0)
  | _ => some (r.add (literal r.flags c) cs 0)

/-- Reads elements to the end of the pattern. The fuel bounds their number. -/
def run? : Nat → Reader → Option Reader
  | 0, _ => none
  | fuel + 1, r =>
    match r.flags.skip r.rest with
    | [] => some r
    | c :: cs => (r.step? c cs).bind (run? fuel)

end Reader

/-- The greatest depth of nesting in a pattern. -/
def depthLimit : Nat := 250

/-- An expression that can be searched for. -/
def Expression.isSearchable (e : Expression) : Bool := e.fits || e.isWordSearch

/-- Reads a pattern. -/
def parse? (pattern : String) : Option Expression := do
  let text := pattern.toList
  let r ← Reader.run? (text.length + 1) { rest := text }
  let whole := r.group
  if r.outer.isEmpty && whole.depth ≤ depthLimit && whole.expression.isSearchable then
    some whole.expression
  else none

end RecordQuery.Pattern
