import RecordQuery.Access
import RecordQuery.Text.Cut
import RecordQuery.Text.Quoted
import RecordQuery.Value.Compare

/-!
Tables of cases: labelled rows of named values, which are checked against the names of arguments and
lined up in their order.
-/

namespace RecordQuery

/-! ### Argument names -/

/-- Text without white space at its ends. -/
def trim (cs : List Char) : List Char :=
  ((cs.dropWhile Unicode.isWhitespace).reverse.dropWhile Unicode.isWhitespace).reverse

/-- The names in a text that separates them by commas. Blank parts are no names. -/
def argumentNames (text : String) : List String :=
  (((Text.cut [','] text.toList).map trim).filter fun name => !name.isEmpty).map String.ofList

/-! ### Cases -/

/-- A row of named values, which may have a label. -/
structure Case where
  label : Option String := none
  fields : Dictionary Value := []

namespace Case

/-- Puts a value under a name, in place of the one that is there. -/
def set (c : Case) (name : String) (v : Value) : Case :=
  { c with fields := Dictionary.insert name v c.fields }

/-- Two cases have the same label and equal values. -/
def same (a b : Case) : Bool := a.label == b.label && sameFields a.fields b.fields

end Case

/-- Why a case does not fit the names. -/
inductive CaseError where
  | missing (label : Option String) (names : List String)
  | unexpected (label : Option String) (names : List String)
  deriving DecidableEq, Repr

/-- The message of an error. -/
def CaseError.message (e : CaseError) : String :=
  let shown (label : Option String) (names : List String) (complaint : String) :=
    "case with id=" ++ (label.map Text.quoted).getD "None" ++ " " ++ complaint ++ ": " ++
      Text.bracketed (names.map Text.quoted)
  match e with
  | missing label names => shown label names "is missing these fields"
  | unexpected label names => shown label names "received unexpected fields"

/-! ### Rows -/

/-- The values of a case, in the order of the names. -/
structure Row where
  label : Option String
  names : List String
  values : List Value

namespace Row

/-- The value that stands where a name first stands. -/
def get? (row : Row) (name : String) : Option Value :=
  (row.names.findIdx? (· == name)).bind fun i => row.values[i]?

/-- The value under a name that the row is to have. -/
def value (row : Row) (name : String) : Except AccessError Value :=
  match row.get? name with
  | some v => .ok v
  | none => .error (.unknownName name)

/-- The value at a place. -/
def nth (row : Row) (i : Nat) : Except AccessError Value := elementAt row.values i

/-- Two rows have the same label, the same names and equal values. -/
def same (a b : Row) : Bool :=
  a.label == b.label && a.names == b.names && sameItems a.values b.values

end Row

/-- Takes values out of a dictionary under one name after the other. A name that is not there, or not
there any more, gives no value. -/
def takeValues : List String → Dictionary Value → List Value
  | [], _ => []
  | name :: names, fields =>
    match Dictionary.find? name fields with
    | some v => v :: takeValues names (Dictionary.erase name fields)
    | none => takeValues names fields

/-- Names in ascending order, each once. -/
def sortedNames (names : List String) : List String :=
  Dictionary.keys (Dictionary.ofList (names.map fun name => (name, ())))

/-- The row of a case that has exactly the given names. Missing names are reported first. -/
def Case.row (names : List String) (c : Case) : Except CaseError Row :=
  let missing := names.filter fun name => !Dictionary.has name c.fields
  let unexpected := (Dictionary.keys c.fields).filter fun name => !names.contains name
  if !missing.isEmpty then .error (.missing c.label (sortedNames missing))
  else if !unexpected.isEmpty then .error (.unexpected c.label (sortedNames unexpected))
  else .ok ⟨c.label, names, takeValues names c.fields⟩

/-- The rows of some cases; the first that does not fit decides the error. -/
def tabulate (names : List String) (cases : List Case) : Except CaseError (List Row) :=
  cases.mapM (Case.row names)

end RecordQuery
