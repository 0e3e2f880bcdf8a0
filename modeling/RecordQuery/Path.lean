import RecordQuery.Failure
import RecordQuery.Registry
import RecordQuery.Spelling

/-!
Paths to values, and how a path is followed from a record. Each segment is a transform that is
applied to the value reached so far, or a field of the record reached so far.
-/

namespace RecordQuery

/-- A path: segments of which there is one at least and none is empty. -/
structure Path where
  segments : List String
  nonempty : segments ≠ []
  segment_nonempty : ∀ s ∈ segments, s ≠ ""

namespace Path

/-- The path of some segments, if they make one. -/
def ofSegments? (segments : List String) : Option Path :=
  if h : segments ≠ [] ∧ ∀ s ∈ segments, s ≠ "" then some ⟨segments, h.1, h.2⟩ else none

theorem ofSegments?_eq_some_iff {segments : List String} {path : Path} :
    ofSegments? segments = some path ↔ path.segments = segments := by
  unfold ofSegments?
  split
  · next h =>
    constructor
    · exact fun same => Option.some.inj same ▸ rfl
    · exact fun same => by cases path; cases same; rfl
  · next h =>
    refine ⟨fun same => (nomatch same), fun same => (h ?_).elim⟩
    exact same ▸ ⟨path.nonempty, path.segment_nonempty⟩

/-- Reads a path; its text is the key of the error. -/
def parse (spelling : Spelling) (key : String) : Except Failure Path :=
  match ofSegments? (spelling.split key) with
  | some path => .ok path
  | none => .error (.emptyPath key)

/-- Paths are shown in the standard spelling. -/
def text (path : Path) : String := Spelling.standard.join path.segments

instance : DecidableEq Path := fun a b =>
  if h : a.segments = b.segments then isTrue (by cases a; cases b; cases h; rfl)
  else isFalse fun e => h (e ▸ rfl)

/-! ### Following a path -/

/-- One step from a value. A transform goes before a field, except at the last segment, where a field
of that name goes first. -/
def advance (registry : Registry) (current : Value) (segment : String) (isLast : Bool) :
    Option Value :=
  let field := current.record?.bind (·.get? segment)
  match registry.transform? segment with
  | none => field
  | some transform =>
    if isLast then match field with
      | some v => some v
      | none => transform current
    else transform current

/-- Follows segments from a value; the error is the segment that leads nowhere. -/
def follow (registry : Registry) : Value → List String → Except String Value
  | current, [] => .ok current
  | current, segment :: rest =>
    match advance registry current segment rest.isEmpty with
    | some next => follow registry next rest
    | none => .error segment

/-- Follows a path from a record. -/
def resolve (registry : Registry) (path : Path) (r : Record) : Except Failure Value :=
  match follow registry (.record r) path.segments with
  | .ok v => .ok v
  | .error segment => .error (.unresolved path.text segment)

theorem resolve_eq (registry : Registry) (path : Path) (r : Record) :
    path.resolve registry r = (follow registry (.record r) path.segments).mapError (.unresolved path.text) := by
  unfold resolve
  cases follow registry (.record r) path.segments <;> rfl

theorem mem_of_follow_error {registry : Registry} {v : Value} {segments : List String} {segment : String}
    (failed : follow registry v segments = .error segment) : segment ∈ segments := by
  induction segments generalizing v with
  | nil => cases failed
  | cons head rest ih =>
    rw [follow] at failed
    split at failed
    · exact List.mem_cons_of_mem _ (ih failed)
    · cases failed
      exact List.mem_cons_self

/-- A path that does not resolve is named in the error, with one of its segments. -/
theorem exists_segment_of_resolve_error {registry : Registry} {path : Path} {r : Record} {e : Failure}
    (failed : path.resolve registry r = .error e) :
    ∃ segment ∈ path.segments, e = .unresolved path.text segment := by
  unfold resolve at failed
  split at failed
  · cases failed
  · next segment stuck =>
    cases failed
    exact ⟨segment, mem_of_follow_error stuck, rfl⟩

end Path

end RecordQuery
