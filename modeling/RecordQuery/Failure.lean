/-!
The causes for which a query fails, and the message of each.
-/

namespace RecordQuery

/-- Why a query fails. -/
inductive Failure where
  /-- A segment of a path leads nowhere from the value reached so far. -/
  | unresolved (path segment : String)
  /-- An operator that was named has no comparator. -/
  | unknownOperator (name : String)
  /-- A pattern cannot be read, for the reason that is given. -/
  | invalidPattern (reason : String)
  /-- A key or ordering has an empty segment. -/
  | emptyPath (key : String)
  /-- No record matches where one is wanted. -/
  | noMatch
  /-- More than one record matches where one is wanted. -/
  | manyMatches (count : Nat)
  /-- Two keys of records cannot be ordered. -/
  | incomparable (ordering left right : String)
  /-- A document to be read as a record is of another kind. -/
  | notRecord (kind : String)
  deriving DecidableEq, Repr

/-- The message of an error. -/
def Failure.message : Failure → String
  | unresolved path segment =>
    "cannot resolve '" ++ segment ++ "' while following path '" ++ path ++ "'"
  | unknownOperator name => "unknown operator '" ++ name ++ "'"
  | invalidPattern reason => "invalid regex pattern: " ++ reason
  | emptyPath key => "empty field path in '" ++ key ++ "'"
  | noMatch => "matching record does not exist"
  | manyMatches count =>
    "get() returned more than one record: it returned " ++ toString count
  | incomparable ordering left right =>
    "cannot order by '" ++ ordering ++ "': " ++ left ++ " and " ++ right ++
      " values are not comparable"
  | notRecord kind => "expected a JSON object for every record, got " ++ kind

end RecordQuery
