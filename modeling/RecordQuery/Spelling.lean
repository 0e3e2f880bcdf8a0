import RecordQuery.Text.Cut
import RecordQuery.Text.Quoted

/-!
The spelling of lookups: the delimiter between the segments of a path, and the mark in front of an
ordering that makes it descend.
-/

namespace RecordQuery

/-- The direction of an ordering. -/
inductive Direction where
  | ascending
  | descending
  deriving DecidableEq, Repr, Inhabited

namespace Direction

/-- The direction applied to the outcome of a comparison. -/
def apply : Direction → Ordering → Ordering
  | ascending, o => o
  | descending, o => o.swap

theorem apply_swap (d : Direction) (o : Ordering) : d.apply o.swap = (d.apply o).swap := by
  cases d <;> rfl

theorem apply_eq_eq_iff {d : Direction} {o : Ordering} : d.apply o = .eq ↔ o = .eq := by
  cases d <;> cases o <;> simp [apply]

/-- The short name of a direction. -/
def text : Direction → String
  | ascending => "asc"
  | descending => "desc"

end Direction

/-- How lookups and orderings are spelled. -/
structure Spelling where
  delimiter : String
  mark : Char
  deriving DecidableEq, Repr

namespace Spelling

/-- Two low lines between segments and a hyphen for descent. -/
def standard : Spelling := ⟨"__", '-'⟩

/-- The segments of a key. -/
def split (s : Spelling) (key : String) : List String := Text.split s.delimiter key

/-- The key of some segments. -/
def join (s : Spelling) (segments : List String) : String := Text.join s.delimiter segments

/-- The direction of an ordering and its text without the mark. -/
def direction (s : Spelling) (text : String) : Direction × String :=
  match text.toList with
  | c :: cs => if c = s.mark then (.descending, String.ofList cs) else (.ascending, text)
  | [] => (.ascending, text)

/-- A spelling shows its delimiter and its mark. -/
def text (s : Spelling) : String :=
  "LookupSyntax \x7b delimiter: " ++ Text.quoted s.delimiter ++ ", descending_prefix: " ++
    Text.quotedChar s.mark ++ " \x7d"

end Spelling

end RecordQuery
