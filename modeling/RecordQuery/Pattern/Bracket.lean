import RecordQuery.Pattern.Escape

/-!
Reading a character class in brackets: ranges, named classes, nested classes and the operations
between them, which group from the left.
-/

namespace RecordQuery.Pattern

/-- An operation between the sets of a class. -/
inductive SetOperation where
  | inter
  | diff
  | symmDiff

/-- A part of a class, and how deep brackets and operations are nested in it. -/
structure Item where
  set : CharSet
  depth : Nat := 0

/-- Items that stand side by side. Two or more are a level of nesting. -/
def Item.gather : List Item → Item
  | [] => ⟨.none, 0⟩
  | [item] => item
  | items => ⟨.unions (items.map set), 1 + (items.map depth).foldl max 0⟩

/-- The item that an operation makes of its two sides. -/
def SetOperation.apply (flags : Flags) (op : SetOperation) (left right : Item) : Item :=
  let a := flags.cases left.set
  let b := flags.cases right.set
  let set := match op with
    | .inter => a.inter b
    | .diff => a.inter b.negated
    | .symmDiff => a.symmDiff b
  ⟨set, 1 + max left.depth right.depth⟩

/-- The item of a bracket around another. -/
def Item.enclosed? (flags : Flags) (isNegated : Bool) (inner : Item) : Option Item :=
  (flags.complement? isNegated (flags.cases inner.set)).map (⟨·, 1 + inner.depth⟩)

/-- What is still open inside a class: a bracket with the items of the class around it, or an
operation that waits for its right side. -/
inductive Pending where
  | bracket (isNegated : Bool) (outer : List Item)
  | operation (op : SetOperation) (left : Item)

/-- The item read since the last bracket, with a waiting operation applied. -/
def closeOperation (flags : Flags) (items : List Item) : List Pending → Item × List Pending
  | .operation op left :: pending => (op.apply flags left (.gather items), pending)
  | pending => (.gather items, pending)

/-- Hyphens at the beginning of a class stand for themselves. -/
def readHyphens (flags : Flags) : Nat → List Char → List Item × List Char
  | fuel + 1, '-' :: cs =>
    let (items, rest) := readHyphens flags fuel (flags.skip cs)
    (⟨.single '-', 0⟩ :: items, rest)
  | _, cs => ([], cs)

/-- Reads the beginning of a class after its bracket: the sign of complement, and a hyphen or
closing bracket that stands for itself. -/
def readOpening? (flags : Flags) (cs : List Char) : Option (Bool × List Item × List Char) :=
  let (isNegated, cs) := match flags.skip cs with
    | '^' :: more => (true, flags.skip more)
    | more => (false, more)
  let (items, cs) := readHyphens flags (cs.length + 1) cs
  match items, cs with
  | _, [] => none
  | [], ']' :: more => match flags.skip more with
    | [] => none
    | more => some (isNegated, [⟨.single ']', 0⟩], more)
  | items, cs => some (isNegated, items, cs)

/-- Reads a named class such as `[:alpha:]` after its first bracket, with the sign of complement. -/
def readNamed? (cs : List Char) : Option (Bool × CharSet × List Char) :=
  match cs with
  | ':' :: more =>
    let (isNegated, more) := match more with
      | '^' :: more => (true, more)
      | more => (false, more)
    let name := more.takeWhile (· != ':')
    match more.drop name.length with
    | ':' :: ']' :: rest =>
      (CharSet.ascii? (String.ofList name)).map fun s => (isNegated, s, rest)
    | _ => none
  | _ => none

/-- Reads one character or escape of a class. Without the tables of Unicode a class has characters of
ASCII only. -/
def readItem? (flags : Flags) (cs : List Char) : Option (Primitive × List Char) := do
  let (item, rest) ← match cs with
    | [] => none
    | '\\' :: cs => readEscape? flags cs
    | c :: cs => some (.literal c, cs)
  match item with
  | .literal c => if flags.unicode || c.toNat < 0x80 then return (item, rest) else none
  | _ => return (item, rest)

/-- Reads an item, or a range of two characters around a hyphen. A hyphen before a closing bracket
or another hyphen makes no range. -/
def readRange? (flags : Flags) (cs : List Char) : Option (CharSet × List Char) := do
  let (first, rest) ← readItem? flags cs
  let alone : Option (CharSet × List Char) := match first with
    | .literal c => some (.single c, flags.skip rest)
    | .chars s => some (s, flags.skip rest)
    | .look _ => none
  match flags.skip rest with
  | '-' :: more => match flags.skip more with
    | ']' :: _ => alone
    | '-' :: _ => alone
    | more =>
      let (second, rest) ← readItem? flags more
      match first, second with
      | .literal a, .literal b => if a ≤ b then some (.range a b, rest) else none
      | _, _ => none
  | _ => alone

/-- Reads the rest of a class up to the bracket that closes it. The fuel bounds the steps. -/
def readClass? (flags : Flags) :
    Nat → List Pending → List Item → List Char → Option (Item × List Char)
  | 0, _, _, _ => none
  | fuel + 1, pending, items, cs =>
    let operation (op : SetOperation) (rest : List Char) :=
      let (left, pending) := closeOperation flags items pending
      readClass? flags fuel (.operation op left :: pending) [] rest
    match flags.skip cs with
    | [] => none
    | '[' :: more =>
      match readNamed? more with
      | some (isNegated, s, rest) => (flags.complement? isNegated (flags.cases s)).bind fun s =>
        readClass? flags fuel pending (⟨s, 0⟩ :: items) rest
      | none => (readOpening? flags more).bind fun (isNegated, inner, rest) =>
        readClass? flags fuel (.bracket isNegated items :: pending) inner rest
    | ']' :: rest =>
      match closeOperation flags items pending with
      | (inner, .bracket isNegated outer :: pending) =>
        (inner.enclosed? flags isNegated).bind fun item =>
        if pending.isEmpty then some (item, rest)
        else readClass? flags fuel pending (item :: outer) rest
      | (_, _) => none
    | '&' :: '&' :: rest => operation .inter rest
    | '-' :: '-' :: rest => operation .diff rest
    | '~' :: '~' :: rest => operation .symmDiff rest
    | more => (readRange? flags more).bind fun (s, rest) =>
        readClass? flags fuel pending (⟨s, 0⟩ :: items) rest

/-- Reads a whole class after its first bracket. -/
def readBracketed? (flags : Flags) (cs : List Char) : Option (Item × List Char) :=
  (readOpening? flags cs).bind fun (isNegated, items, rest) =>
    readClass? flags (cs.length + 1) [.bracket isNegated []] items rest

end RecordQuery.Pattern
