import RecordQuery.Unicode.Property

/-!
Attributes of declarations. An item of an attribute is named by a path of identifiers, and all the
names of an attribute have to be well formed before any item is looked at. Names are made of tokens,
so blanks may stand inside a path, between its segments, but are no part of a name at its ends. A list
may end with a comma, so an empty last item or name stands for nothing.
-/

namespace RecordQuery

/-! ### Attributes and their items -/

/-- A literal in an attribute. -/
inductive Literal where
  | text (s : String)
  | other
  deriving DecidableEq, Repr

/-- An item of an attribute: a word, a word with a literal, or a word with a list of names. -/
inductive AttributeItem where
  | word (name : String)
  | assign (name : String) (value : Literal)
  | list (name : String) (names : List String)
  deriving DecidableEq, Repr

/-- An attribute with its items, or with no list of items at all. -/
structure Attribute where
  name : String
  items : Option (List AttributeItem)
  deriving DecidableEq, Repr

/-- The name of an item. -/
def AttributeItem.name : AttributeItem → String
  | word name => name
  | assign name _ => name
  | list name _ => name

/-! ### Errors -/

/-- Why a name cannot be read. What is missing may be missing because all ends there. -/
inductive NameError where
  | keyword (word : String)
  | identifierMissing (atEnd : Bool)
  | segmentMissing (atEnd : Bool)
  | commaMissing
  deriving DecidableEq, Repr

/-- The message of an error. -/
def NameError.message : NameError → String
  | keyword word => "expected identifier, found keyword `" ++ word ++ "`"
  | identifierMissing atEnd => ending atEnd ++ "expected identifier"
  | segmentMissing atEnd => ending atEnd ++ "expected path segment after `::`"
  | commaMissing => "expected `,`"
where
  /-- The beginning of a message about what is missing. -/
  ending (atEnd : Bool) : String := if atEnd then "unexpected end of input, " else ""

/-! ### Identifiers -/

/-- A character that may begin an identifier. -/
def isNameStart (c : Char) : Bool := c == '_' || Unicode.isIdentifierStart c

/-- A text is an identifier. -/
def isIdentifier (name : String) : Bool :=
  match name.toList with
  | [] => false
  | c :: cs => isNameStart c && cs.all Unicode.isIdentifierContinue

/-- The identifiers that declarations may not use as names. -/
def keywords : List String := [
  "_", "abstract", "as", "async", "await", "become", "box", "break", "const", "continue", "crate",
  "do", "dyn", "else", "enum", "extern", "false", "final", "fn", "for", "if", "impl", "in", "let",
  "loop", "macro", "match", "mod", "move", "mut", "override", "priv", "pub", "ref", "return",
  "Self", "self", "static", "struct", "super", "trait", "true", "try", "type", "typeof", "unsafe",
  "unsized", "use", "virtual", "where", "while", "yield"]

/-- The keywords that may stand in a path. -/
def pathKeywords : List String := ["super", "self", "Self", "crate"]

/-- Passes over blanks. -/
def skipBlanks (cs : List Char) : List Char := cs.dropWhile Unicode.isWhitespace

/-- Reads the longest identifier at the beginning of a text. -/
def readPlain? : List Char → Option (List Char × List Char)
  | [] => none
  | c :: cs => if isNameStart c then
      some (c :: cs.takeWhile Unicode.isIdentifierContinue,
        cs.dropWhile Unicode.isIdentifierContinue)
    else none

/-- Reads a word at the beginning of a text: an identifier, which a mark in front may keep from being
a keyword. -/
def readWord? (cs : List Char) : Option (String × List Char) :=
  let raw? := match cs with
    | 'r' :: '#' :: rest => (readPlain? rest).map fun r => ('r' :: '#' :: r.1, r.2)
    | _ => none
  (raw? <|> readPlain? cs).map fun r => (String.ofList r.1, r.2)

/-! ### Paths -/

/-- Reads the segments of a path, and gives what is left of the text. `isFirst` tells whether this is
the first segment, and `isLast` whether nothing follows the text. The fuel bounds the number of
segments. -/
def readSegments (isLast : Bool) : Bool → Nat → List Char → Except NameError (List Char)
  | _, 0, cs => .ok cs
  | isFirst, fuel + 1, cs =>
    let word? := readWord? cs
    match word?.filter fun w => !keywords.contains w.1 || pathKeywords.contains w.1 with
    | some (_, rest) =>
      match skipBlanks rest with
      | ':' :: ':' :: more => readSegments isLast false fuel (skipBlanks more)
      | _ => .ok rest
    | none =>
      if isFirst then match word? with
        | some (word, _) => .error (.keyword word)
        | none => .error (.identifierMissing (isLast && cs.isEmpty))
      else .error (.segmentMissing (isLast && cs.isEmpty))

/-- Reads a path, which two colons may lead in. One keyword is a path of its own. -/
def readPath (isLast : Bool) (cs : List Char) : Except NameError (List Char) :=
  match readWord? cs, cs with
  | some ("unsafe", rest), _ => .ok rest
  | _, ':' :: ':' :: rest => readSegments isLast true (rest.length + 1) (skipBlanks rest)
  | _, _ => readSegments isLast true (cs.length + 1) cs

/-- The name of an item is a path and nothing more. -/
def AttributeItem.check (isLast : Bool) (item : AttributeItem) : Except NameError Unit := do
  let isWord := match item with
    | word _ => true
    | _ => false
  match ← readPath (isLast && isWord) item.name.toList with
  | [] => return ()
  | _ => .error .commaMissing

/-- The items of a list whose names are well formed. -/
def checkItems : List AttributeItem → Except NameError (List AttributeItem)
  | [] => .ok []
  | item :: items => do
    if item = .word "" ∧ items = [] then return []
    item.check items.isEmpty
    return item :: (← checkItems items)

/-! ### Lists of names -/

/-- A text is one name that is no keyword. -/
def checkName (cs : List Char) : Except NameError Unit :=
  match readWord? cs with
  | none => .error (.identifierMissing false)
  | some (word, rest) =>
    if keywords.contains word then .error (.keyword word)
    else if rest.isEmpty then .ok ()
    else .error .commaMissing

/-- The names of a list, which have to be identifiers. -/
def checkNames : List String → Except NameError (List String)
  | [] => .ok []
  | name :: names => do
    if name = "" ∧ names = [] then return []
    checkName name.toList
    return name :: (← checkNames names)

end RecordQuery
