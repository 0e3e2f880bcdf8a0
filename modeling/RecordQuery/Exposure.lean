import RecordQuery.Attribute

/-!
Exposure of a declared type to queries: which of its fields and methods answer under which names, and
the constants that spell the names of fields. What is exposed is written in attributes.
-/

namespace RecordQuery

/-! ### Declarations -/

/-- A named field of a declaration. -/
structure DeclaredField where
  name : String
  attributes : List Attribute
  deriving DecidableEq, Repr

/-- What kind of type a declaration declares. -/
inductive Shape where
  | namedFields
  | unnamedFields
  | alternatives
  deriving DecidableEq, Repr

/-- The declaration of a type. -/
structure Declaration where
  name : String
  shape : Shape
  attributes : List Attribute
  fields : List DeclaredField
  deriving DecidableEq, Repr

/-! ### Errors -/

/-- Why a declaration cannot be exposed. -/
inductive ExposureError where
  | fieldsUnnamed
  | notStructure
  | itemsMissing
  | malformedName (e : NameError)
  | unknownTypeItem
  | unknownFieldItem
  | emptyName
  | nameNotText
  | hiddenAndRenamed
  | duplicateName (name : String)
  | invalidConstant (name : String)
  deriving DecidableEq, Repr

/-- The message of an error. -/
def ExposureError.message : ExposureError → String
  | fieldsUnnamed => "Queryable can only be derived for structs with named fields"
  | notStructure => "Queryable can only be derived for structs"
  | itemsMissing => "expected attribute arguments in parentheses: #[query(...)]"
  | malformedName e => e.message
  | unknownTypeItem => "unknown query attribute. Expected: accessors(...)"
  | unknownFieldItem => "unknown query attribute. Expected: skip or rename = \"...\""
  | emptyName => "rename must not be empty"
  | nameNotText => "rename must be a string literal"
  | hiddenAndRenamed => "skip and rename cannot be combined"
  | duplicateName name => "duplicate query field name '" ++ name ++ "'"
  | invalidConstant name => "'" ++ name ++ "' is not an identifier"

/-! ### Attributes -/

/-- The attribute is one about queries. -/
def Attribute.isQuery (a : Attribute) : Bool := a.name == "query"

/-- The items of an attribute, which must have some list of them. -/
def Attribute.arguments (a : Attribute) : Except ExposureError (List AttributeItem) :=
  match a.items with
  | some items => (checkItems items).mapError .malformedName
  | none => .error .itemsMissing

/-- The methods that an item of a type exposes. -/
def typeItem : AttributeItem → Except ExposureError (List String)
  | .list "accessors" names => (checkNames names).mapError .malformedName
  | _ => .error .unknownTypeItem

/-- The methods that the attributes of a type expose, all attributes taken together. -/
def accessors (attributes : List Attribute) : Except ExposureError (List String) := do
  let lists ← (attributes.filter Attribute.isQuery).mapM fun a => do
    let items ← a.arguments
    return (← items.mapM typeItem).flatten
  return lists.flatten

/-- What attributes ask for a field. -/
structure FieldOptions where
  hidden : Bool := false
  rename : Option String := none
  deriving DecidableEq, Repr

/-- Takes an item of a field into account. -/
def FieldOptions.add (o : FieldOptions) : AttributeItem → Except ExposureError FieldOptions
  | .word "skip" => .ok { o with hidden := true }
  | .assign "rename" (.text "") => .error .emptyName
  | .assign "rename" (.text name) => .ok { o with rename := some name }
  | .assign "rename" .other => .error .nameNotText
  | _ => .error .unknownFieldItem

/-- The options that a list of items asks for. -/
def fieldOptions (items : List AttributeItem) : Except ExposureError FieldOptions := do
  let o ← items.foldlM FieldOptions.add {}
  if o.hidden && o.rename.isSome then .error .hiddenAndRenamed else .ok o

/-- The options of a field, which its first attribute about queries decides. -/
def DeclaredField.options (f : DeclaredField) : Except ExposureError FieldOptions :=
  match f.attributes.find? Attribute.isQuery with
  | some a => a.arguments >>= fieldOptions
  | none => .ok {}

/-! ### Constants -/

/-- A name in capitals: a low line goes before a capital that follows a small letter or digit, and in
place of a hyphen. -/
def screamingSnake : Bool → List Char → List Char
  | _, [] => []
  | afterSmall, c :: cs =>
    if Unicode.isUppercase c then
      (if afterSmall then ['_', c] else [c]) ++ screamingSnake false cs
    else if c = '_' ∨ c = '-' then '_' :: screamingSnake false cs
    else c.toUpper :: screamingSnake (Unicode.isAlphanumeric c) cs

/-- The constant that spells a name. -/
def constantName (name : String) : String := String.ofList (screamingSnake false name.toList)

/-! ### Exposure -/

/-- What answers under a name. -/
inductive Source where
  | field (name : String)
  | method (name : String)
  deriving DecidableEq, Repr

/-- The exposure of a type: constants with the names they spell, and what answers under each name. -/
structure Exposure where
  typeName : String
  constants : List (String × String)
  sources : List (String × Source)
  deriving DecidableEq, Repr

namespace Exposure

/-- The name is exposed already. -/
def has (e : Exposure) (name : String) : Bool := e.sources.any (·.1 == name)

/-- Exposes one more name. -/
def addSource (e : Exposure) (name : String) (source : Source) : Except ExposureError Exposure :=
  if e.has name then .error (.duplicateName name)
  else .ok { e with sources := e.sources ++ [(name, source)] }

/-- Exposes a field, unless it is hidden. -/
def addField (e : Exposure) (f : DeclaredField) : Except ExposureError Exposure := do
  let options ← f.options
  if options.hidden then return e
  let name := options.rename.getD f.name
  let e ← e.addSource name (.field f.name)
  if isIdentifier (constantName name) then
    return { e with constants := e.constants ++ [(constantName name, name)] }
  else .error (.invalidConstant (constantName name))

/-- The exposure of a declaration: its fields in their order, and then its methods. -/
def ofDeclaration (d : Declaration) : Except ExposureError Exposure := do
  match d.shape with
  | .namedFields => pure ()
  | .unnamedFields => .error .fieldsUnnamed
  | .alternatives => .error .notStructure
  let methods ← accessors d.attributes
  let e ← d.fields.foldlM addField ⟨d.name, [], []⟩
  methods.foldlM (fun e m => e.addSource m (.method m)) e

/-- What answers under a name. -/
def source? (e : Exposure) (name : String) : Option Source :=
  (e.sources.find? (·.1 == name)).map (·.2)

/-- The field function of an instance, which is given by the values of its fields and methods. -/
def field {α : Type} (e : Exposure) (read : Source → α) (name : String) : Option α :=
  (e.source? name).map read

end Exposure

end RecordQuery
