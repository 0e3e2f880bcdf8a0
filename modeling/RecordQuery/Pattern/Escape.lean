import RecordQuery.Pattern.Expression

/-!
The lexical parts of patterns: flags, blanks in extended layout, and escapes.
-/

namespace RecordQuery.Pattern

/-! ### Flags -/

/-- The flags in force at a point of a pattern. -/
structure Flags where
  /-- `i`: case does not count. -/
  caseless : Bool := false
  /-- `m`: anchors match at line ends too. -/
  multiline : Bool := false
  /-- `s`: the dot matches a line end too. -/
  dotAll : Bool := false
  /-- `x`: blanks and comments are layout. -/
  extended : Bool := false
  /-- `R`: a carriage return is part of a line end. -/
  anyLineEnd : Bool := false
  /-- `U`: repetitions are lazy unless they are marked. -/
  lazy : Bool := false
  /-- `u`: classes and cases are those of Unicode, and not those of ASCII alone. -/
  unicode : Bool := true
  deriving Repr, DecidableEq

/-- Sets one flag by its letter. -/
def Flags.set? (flags : Flags) (on : Bool) : Char → Option Flags
  | 'i' => some { flags with caseless := on }
  | 'm' => some { flags with multiline := on }
  | 's' => some { flags with dotAll := on }
  | 'x' => some { flags with extended := on }
  | 'R' => some { flags with anyLineEnd := on }
  | 'U' => some { flags with lazy := on }
  | 'u' => some { flags with unicode := on }
  | _ => none

/-- Reads flag letters: none twice, and at most one minus, after which flags are taken away and
which may not stand last. -/
def Flags.read? (flags : Flags) (letters : List Char) : Option Flags :=
  if letters.eraseDups.length = letters.length ∧ letters.getLast? ≠ some '-' then
    (letters.takeWhile (· != '-')).foldlM (fun f c => f.set? true c) flags >>= fun f =>
      (letters.dropWhile (· != '-')).tail.foldlM (fun f c => f.set? false c) f
  else none

/-! ### Blanks -/

/-- Passes over white space and over comments up to the end of their line. -/
def skipLayout : Bool → List Char → List Char
  | _, [] => []
  | true, c :: cs => skipLayout (c != '\n') cs
  | false, c :: cs =>
    if Unicode.isWhitespace c then skipLayout false cs
    else if c = '#' then skipLayout true cs
    else c :: cs

/-- Passes over layout where the flags make it so. -/
def Flags.skip (flags : Flags) (cs : List Char) : List Char :=
  if flags.extended then skipLayout false cs else cs

/-! ### Numbers -/

/-- The value of a hexadecimal digit. -/
def hexDigit? (c : Char) : Option Nat :=
  if '0' ≤ c ∧ c ≤ '9' then some (c.toNat - '0'.toNat)
  else if 'a' ≤ c ∧ c ≤ 'f' then some (c.toNat - 'a'.toNat + 10)
  else if 'A' ≤ c ∧ c ≤ 'F' then some (c.toNat - 'A'.toNat + 10)
  else none

/-- The character of a code point that is one. -/
def charOf? (n : Nat) : Option Char := if n.isValidChar then some (Char.ofNat n) else none

/-- Reads the given number of hexadecimal digits. -/
def readHex? (flags : Flags) : Nat → Nat → List Char → Option (Nat × List Char)
  | 0, value, cs => some (value, cs)
  | _ + 1, _, [] => none
  | n + 1, value, c :: cs =>
    (hexDigit? c).bind fun d => readHex? flags n (16 * value + d) (flags.skip cs)

/-- Reads hexadecimal digits up to a closing brace, at least one. The fuel bounds their number. -/
def readBracedHex? (flags : Flags) : Nat → Option Nat → List Char → Option (Nat × List Char)
  | 0, _, _ => none
  | _ + 1, _, [] => none
  | fuel + 1, value, c :: cs =>
    if c = '\x7d' then value.map (·, flags.skip cs)
    else (hexDigit? c).bind fun d =>
      readBracedHex? flags fuel (some (16 * value.getD 0 + d)) (flags.skip cs)

/-- Reads the code point after `\x`, `\u` or `\U`: so many digits, or any number in braces. -/
def readCodePoint? (flags : Flags) (digits : Nat) (cs : List Char) : Option (Char × List Char) := do
  let (value, rest) ← match flags.skip cs with
    | '\x7b' :: more => readBracedHex? flags (more.length + 1) none (flags.skip more)
    | more => readHex? flags digits 0 more
  return (← charOf? value, rest)

/-- Reads a run of decimal digits, between which layout is passed over. -/
def readDigits (flags : Flags) : Nat → Option Nat → List Char → Option Nat × List Char
  | fuel + 1, value, c :: cs =>
    if c.isDigit then
      readDigits flags fuel (some (10 * value.getD 0 + (c.toNat - '0'.toNat))) (flags.skip cs)
    else (value, c :: cs)
  | _, value, cs => (value, cs)

/-- Reads a decimal count of 32 bits, which white space may surround. -/
def readCount? (flags : Flags) (cs : List Char) : Option (Nat × List Char) :=
  let (value, rest) := readDigits flags (cs.length + 1) none (cs.dropWhile Unicode.isWhitespace)
  value.bind fun n =>
    if n < UInt32.size then some (n, rest.dropWhile Unicode.isWhitespace) else none

/-! ### Escapes -/

/-- What a character or an escape stands for. -/
inductive Primitive where
  | literal (c : Char)
  | chars (s : CharSet)
  | look (l : Look)

/-- Characters that mean something in patterns. -/
def isMeta (c : Char) : Bool := "\\.+*?()|[]\x7b\x7d^$#&-~".toList.contains c

/-- ASCII characters that stand for themselves after a backslash. -/
def isEscapable (c : Char) : Bool :=
  isMeta c || (c.toNat < 0x80 && !c.isAlphanum && c != '<' && c != '>')

/-- Reads a word boundary that is named in braces after `\b`. Braces that hold no name are left for
a repetition. -/
def readBoundary? (flags : Flags) (cs : List Char) : Option (Look × List Char) :=
  let isNameChar (c : Char) : Bool := c.isAlpha || c == '-'
  match cs with
  | '\x7b' :: more =>
    let more := flags.skip more
    match more with
    | [] => none
    | c :: _ =>
      if !isNameChar c then some (.wordBoundary, cs)
      else
        let name := more.takeWhile fun c => isNameChar c || (flags.extended && c.isWhitespace)
        match more.drop name.length with
        | '\x7d' :: rest =>
          match String.ofList (name.filter isNameChar) with
          | "start" => some (.wordStart, rest)
          | "end" => some (.wordEnd, rest)
          | "start-half" => some (.wordStartHalf, rest)
          | "end-half" => some (.wordEndHalf, rest)
          | _ => none
        | _ => none
  | _ => some (.wordBoundary, cs)

/-- Reads the general category after `\p`: one letter, or a name in braces. -/
def readCategory? (flags : Flags) (cs : List Char) : Option (CharSet × List Char) :=
  match flags.skip cs with
  | '\x7b' :: more =>
    let name := more.takeWhile (· != '\x7d')
    match more.drop name.length with
    | _ :: rest =>
      let (isNegated, name) := match name with
        | '^' :: name => (true, name)
        | name => (false, name)
      (CharSet.category? (CharSet.looseName name)).map fun s =>
        (if isNegated then s.negated else s, rest)
    | [] => none
  | c :: rest => (CharSet.category? (CharSet.looseName [c])).map (·, rest)
  | [] => none

/-- Takes up the variants in case where case does not count. -/
def Flags.cases (flags : Flags) (s : CharSet) : CharSet :=
  let ascii := CharSet.range '\x00' '\x7f'
  if !flags.caseless then s
  else if flags.unicode then s.folded
  else s.union ((s.inter ascii).folded.inter ascii)

/-- The complement of a set, if it is asked for. What is not of ASCII is no character on its own without
the tables of Unicode, so there is no complement there. -/
def Flags.complement? (flags : Flags) (isNegated : Bool) (s : CharSet) : Option CharSet :=
  if !isNegated then some s
  else if flags.unicode then some s.negated
  else none

/-- A class that has a name, or its complement: the one of Unicode, or the one of ASCII. -/
def Flags.class? (flags : Flags) (isNegated : Bool) (s : CharSet) (ascii : String) : Option Primitive :=
  (if flags.unicode then some s else CharSet.ascii? ascii).bind fun s =>
    (flags.complement? isNegated s).map .chars

/-- Reads the general category of an escape. The categories are tables of Unicode. -/
def readCategoryEscape? (flags : Flags) (isNegated : Bool) (cs : List Char) : Option (Primitive × List Char) := do
  let (s, rest) ← if flags.unicode then readCategory? flags cs else none
  return (.chars (← flags.complement? isNegated (flags.cases s)), rest)

/-- Reads the character of two hexadecimal digits. Without the tables of Unicode they are a byte, which is
a character in ASCII alone. -/
def readByte? (flags : Flags) (cs : List Char) : Option (Primitive × List Char) := do
  let (c, rest) ← readCodePoint? flags 2 cs
  if flags.unicode || c.toNat < 0x80 || cs.head? == some '\x7b' then return (.literal c, rest)
  else none

/-- A condition on words: those of Unicode, or those of ASCII. -/
def Flags.look (flags : Flags) (l : Look) : Primitive := .look (if flags.unicode then l else .ascii l)

/-- Reads what follows a backslash. Back-references are refused. -/
def readEscape? (flags : Flags) : List Char → Option (Primitive × List Char)
  | [] => none
  | c :: cs =>
    match c with
    | 'x' => readByte? flags cs
    | 'u' => (readCodePoint? flags 4 cs).map fun r => (.literal r.1, r.2)
    | 'U' => (readCodePoint? flags 8 cs).map fun r => (.literal r.1, r.2)
    | 'p' => readCategoryEscape? flags false cs
    | 'P' => readCategoryEscape? flags true cs
    | 'd' => (flags.class? false .digit "digit").map (·, cs)
    | 'D' => (flags.class? true .digit "digit").map (·, cs)
    | 's' => (flags.class? false .space "space").map (·, cs)
    | 'S' => (flags.class? true .space "space").map (·, cs)
    | 'w' => (flags.class? false .word "word").map (·, cs)
    | 'W' => (flags.class? true .word "word").map (·, cs)
    | 'a' => some (.literal '\x07', cs)
    | 'f' => some (.literal '\x0c', cs)
    | 't' => some (.literal '\t', cs)
    | 'n' => some (.literal '\n', cs)
    | 'r' => some (.literal '\r', cs)
    | 'v' => some (.literal '\x0b', cs)
    | 'A' => some (.look .textStart, cs)
    | 'z' => some (.look .textEnd, cs)
    | 'b' => (readBoundary? flags cs).map fun r => (flags.look r.1, r.2)
    | 'B' => some (flags.look .notWordBoundary, cs)
    | '<' => some (flags.look .wordStart, cs)
    | '>' => some (flags.look .wordEnd, cs)
    | _ => if isEscapable c then some (.literal c, cs) else none

end RecordQuery.Pattern
