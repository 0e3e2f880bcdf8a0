import RecordQuery.Text.Quoted
import RecordQuery.Value.Basic

/-!
Values as text: the plain text shown to readers, and the tagged text that names the kind of every
part. A record has tagged text only.
-/

namespace RecordQuery

/-- The text of a truth value. -/
def boolText : Bool → String
  | true => "true"
  | false => "false"

mutual

/-- Text that names the kind of a value and of all its parts. -/
def Value.taggedText : Value → String
  | .null => "Null"
  | .bool b => "Bool(" ++ boolText b ++ ")"
  | .number n => "Number(" ++ n.taggedText ++ ")"
  | .string s => "String(" ++ Text.quoted s ++ ")"
  | .list items => "List(" ++ Text.bracketed (taggedItems items) ++ ")"
  | .record r => "Record(" ++ r.taggedText ++ ")"

/-- A map record shows its fields in braces, an object only the name of its type. -/
def Record.taggedText : Record → String
  | .map _ fields => "\x7b" ++ ", ".intercalate (taggedFields fields) ++ "\x7d"
  | .object _ typeName _ => typeName ++ " \x7b .. \x7d"

/-- The tagged texts of some values. -/
def taggedItems : List Value → List String
  | [] => []
  | v :: vs => v.taggedText :: taggedItems vs

/-- The tagged texts of some fields, each after its quoted name. -/
def taggedFields : List (String × Value) → List String
  | [] => []
  | (name, v) :: rest => (Text.quoted name ++ ": " ++ v.taggedText) :: taggedFields rest

end

mutual

/-- Plain text. -/
def Value.text : Value → String
  | .null => "null"
  | .bool b => boolText b
  | .number n => n.text
  | .string s => Text.quoted s
  | .list items => Text.bracketed (itemTexts items)
  | .record r => r.taggedText

/-- The plain texts of some values. -/
def itemTexts : List Value → List String
  | [] => []
  | v :: vs => v.text :: itemTexts vs

end

end RecordQuery
