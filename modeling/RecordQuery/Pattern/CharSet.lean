import RecordQuery.Unicode.Age
import RecordQuery.Unicode.Casing

/-!
Sets of characters as closed ranges of code points: the operations between them, and the sets that
patterns have names for.
-/

namespace RecordQuery.Pattern

/-- A closed range of code points. -/
abbrev CodeRange := Nat × Nat

/-- A set of characters: ranges in ascending order with a gap after each. -/
structure CharSet where
  ranges : List CodeRange
  deriving DecidableEq, Repr

namespace CharSet

/-- Membership of a code point. -/
def holds (s : CharSet) (n : Nat) : Bool := s.ranges.any fun r => r.1 ≤ n && n ≤ r.2

/-- Membership. -/
def mem (s : CharSet) (c : Char) : Bool := s.holds c.toNat

/-! ### Building -/

/-- Puts a range in front of ranges that begin no earlier, and joins those that leave no gap. -/
def absorb (r : CodeRange) : List CodeRange → List CodeRange
  | [] => [r]
  | s :: rest => if s.1 ≤ r.2 + 1 then absorb (r.1, max r.2 s.2) rest else r :: absorb s rest

/-- The set of all members of some ranges. -/
def ofRanges (ranges : List CodeRange) : CharSet :=
  match ranges.mergeSort fun a b => a.1 ≤ b.1 with
  | [] => ⟨[]⟩
  | r :: rest => ⟨absorb r rest⟩

/-- No character. -/
def none : CharSet := ⟨[]⟩

/-- The characters from one to another. -/
def range (first last : Char) : CharSet := ⟨[(first.toNat, last.toNat)]⟩

/-- One character. -/
def single (c : Char) : CharSet := range c c

/-- The members of either set. -/
def union (a b : CharSet) : CharSet := ofRanges (a.ranges ++ b.ranges)

/-- The union of some sets. -/
def unions (sets : List CharSet) : CharSet := ofRanges (sets.flatMap ranges)

/-! ### Complement -/

/-- The code points that are no characters, kept for pairs of units. -/
def surrogates : CharSet := ⟨[(0xD800, 0xDFFF)]⟩

/-- The code points from `start` on that are in none of the ranges. -/
def gapsFrom (start : Nat) : List CodeRange → List CodeRange
  | [] => if start ≤ 0x10FFFF then [(start, 0x10FFFF)] else []
  | r :: rest => if start < r.1 then (start, r.1 - 1) :: gapsFrom (r.2 + 1) rest
      else gapsFrom (r.2 + 1) rest

/-- The characters that are not members. -/
def negated (a : CharSet) : CharSet := ⟨gapsFrom 0 (a.union surrogates).ranges⟩

/-- Every character. -/
def any : CharSet := none.negated

/-- The members of both sets. -/
def inter (a b : CharSet) : CharSet := (a.negated.union b.negated).negated

/-- The members of either set that are not members of the other. -/
def symmDiff (a b : CharSet) : CharSet := (a.inter b.negated).union (b.inter a.negated)

/-! ### Case -/

/-- The folding of the characters that patterns know. -/
def foldPairs : List (Nat × Nat) :=
  Unicode.foldPairs.filter fun p => !Unicode.isRecent p.1 && !Unicode.isRecent p.2

/-- With each member, all characters that differ from it in case only. -/
def folded (a : CharSet) : CharSet :=
  let point (n : Nat) : CodeRange := (n, n)
  let b := ofRanges (a.ranges ++ (foldPairs.filter (a.holds ·.1)).map (point ·.2))
  ofRanges (b.ranges ++ (foldPairs.filter (b.holds ·.2)).map (point ·.1))

/-! ### Named sets -/

/-- The code points of a run whose category is one of those given. -/
def ofRun (ks : List Unicode.Category) (r : Unicode.Run) : List CodeRange :=
  match r with
  | .solid first last k => if ks.contains k then [(first, last)] else []
  | .cased first last =>
    if ks.contains .lu && ks.contains .ll then [(first, last)]
    else (List.range (last - first + 1)).filterMap fun i =>
      if ks.contains (if i % 2 = 0 then .lu else .ll) then some (first + i, first + i)
      else Option.none

/-- The characters that patterns know by one of some categories. -/
def ofCategories (ks : List Unicode.Category) : CharSet :=
  (ofRanges (Unicode.categoryBlocks.flatMap fun b => b.runs.flatMap (ofRun ks))).inter
    (negated (ofRanges Unicode.recent))

/-- Decimal digits. -/
def digit : CharSet := ofCategories [.nd]

/-- White space: the separators, the five layout controls and the next-line control. -/
def space : CharSet := (ofCategories [.zs, .zl, .zp]).union ⟨[(0x9, 0xD), (0x85, 0x85)]⟩

/-- Letters, marks, decimal digits, connectors and joiners: the characters of words. -/
def word : CharSet :=
  unions [ofCategories [.lu, .ll, .lt, .lm, .lo, .mn, .mc, .me, .nd, .nl, .pc],
    (ofRanges Unicode.otherAlphabetic).inter (negated (ofRanges Unicode.recent)),
    ⟨[(0x200C, 0x200D)]⟩]

/-- The named classes of ASCII. -/
def ascii? (name : String) : Option CharSet :=
  let lower := range 'a' 'z'
  let upper := range 'A' 'Z'
  let digits := range '0' '9'
  let alpha := union upper lower
  match name with
  | "alnum" => some (union digits alpha)
  | "alpha" => some alpha
  | "ascii" => some (range '\x00' '\x7f')
  | "blank" => some (union (single '\t') (single ' '))
  | "cntrl" => some (union (range '\x00' '\x1f') (single '\x7f'))
  | "digit" => some digits
  | "graph" => some (range '!' '~')
  | "lower" => some lower
  | "print" => some (range ' ' '~')
  | "punct" => some (unions [range '!' '/', range ':' '@', range '[' '\x60', range '\x7b' '~'])
  | "space" => some (union (range '\t' '\r') (single ' '))
  | "upper" => some upper
  | "word" => some (unions [digits, alpha, single '_'])
  | "xdigit" => some (unions [digits, range 'A' 'F', range 'a' 'f'])
  | _ => Option.none

/-- A name without the differences that do not count: case, blanks, low lines, hyphens, and a leading
`is`. -/
def looseName (name : List Char) : String :=
  let letters := (name.filter fun c => c != ' ' && c != '_' && c != '-').map Char.toLower
  match letters with
  | 'i' :: 's' :: rest => String.ofList rest
  | _ => String.ofList letters

/-- The classes of general categories, by abbreviation or by name. -/
def category? (name : String) : Option CharSet :=
  let all (ks : List Unicode.Category) := some (ofCategories ks)
  let other (ks : List Unicode.Category) := some (ofCategories ks).negated
  let visible : List Unicode.Category := [.lu, .ll, .lt, .lm, .lo, .mn, .mc, .me, .nd, .nl, .no, .pc, .pd,
    .ps, .pe, .pi, .pf, .po, .sm, .sc, .sk, .so, .zs, .zl, .zp]
  match name with
  | "any" => some any
  | "ascii" => some (range '\x00' '\x7f')
  | "assigned" => all (visible ++ [.cc, .cf, .co])
  | "l" | "letter" => all [.lu, .ll, .lt, .lm, .lo]
  | "lc" | "casedletter" => all [.lu, .ll, .lt]
  | "lu" | "uppercaseletter" => all [.lu]
  | "ll" | "lowercaseletter" => all [.ll]
  | "lt" | "titlecaseletter" => all [.lt]
  | "lm" | "modifierletter" => all [.lm]
  | "lo" | "otherletter" => all [.lo]
  | "m" | "mark" | "combiningmark" => all [.mn, .mc, .me]
  | "mn" | "nonspacingmark" => all [.mn]
  | "mc" | "spacingmark" => all [.mc]
  | "me" | "enclosingmark" => all [.me]
  | "n" | "number" => all [.nd, .nl, .no]
  | "nd" | "decimalnumber" | "digit" => all [.nd]
  | "nl" | "letternumber" => all [.nl]
  | "no" | "othernumber" => all [.no]
  | "p" | "punctuation" | "punct" => all [.pc, .pd, .ps, .pe, .pi, .pf, .po]
  | "pc" | "connectorpunctuation" => all [.pc]
  | "pd" | "dashpunctuation" => all [.pd]
  | "ps" | "openpunctuation" => all [.ps]
  | "pe" | "closepunctuation" => all [.pe]
  | "pi" | "initialpunctuation" => all [.pi]
  | "pf" | "finalpunctuation" => all [.pf]
  | "po" | "otherpunctuation" => all [.po]
  | "s" | "symbol" => all [.sm, .sc, .sk, .so]
  | "sm" | "mathsymbol" => all [.sm]
  | "sc" | "currencysymbol" => all [.sc]
  | "sk" | "modifiersymbol" => all [.sk]
  | "so" | "othersymbol" => all [.so]
  | "z" | "separator" => all [.zs, .zl, .zp]
  | "zs" | "spaceseparator" => all [.zs]
  | "zl" | "lineseparator" => all [.zl]
  | "zp" | "paragraphseparator" => all [.zp]
  | "c" | "other" => other visible
  | "cc" | "control" | "cntrl" => all [.cc]
  | "cf" | "format" => all [.cf]
  | "co" | "privateuse" => all [.co]
  | "cn" | "unassigned" => other (visible ++ [.cc, .cf, .co])
  | _ => Option.none

end CharSet

end RecordQuery.Pattern
