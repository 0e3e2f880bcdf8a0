import RecordQuery.Proofs.Selection.Places
import RecordQuery.Proofs.Value.Replaced

/-!
Queries on records in place of others. A path from a record and the path from one that stands for it go the
same way: fields lead to values that are one but for such records, and transforms see no difference as long
as they are applied to values without records. So they end at one segment, or at such values again, and
conditions that look at values without records are met by both or by neither.
-/

namespace RecordQuery

/-! ### Paths -/

namespace Path

/-- The step applies a transform: one has the name of the segment, and no field of that name goes first. -/
def derives (registry : Registry) (current : Value) (segment : String) (isLast : Bool) : Bool :=
  registry.hasTransform segment && !(isLast && (current.record?.bind (·.get? segment)).isSome)

/-- Along the segments, transforms are applied to values without records only. -/
def DerivesRecordFree (registry : Registry) : Value → List String → Prop
  | _, [] => True
  | current, segment :: rest =>
    (derives registry current segment rest.isEmpty = true → current.records = []) ∧
    ∀ next, advance registry current segment rest.isEmpty = some next → DerivesRecordFree registry next rest

section
variable {registry : Registry} {stands : Record → Record → Prop} {v w : Value}

theorem advance_eq (v : Value) (segment : String) (isLast : Bool) : advance registry v segment isLast =
    if derives registry v segment isLast then (registry.transform? segment).bind (· v)
    else v.record?.bind (·.get? segment) := by
  unfold advance derives Registry.hasTransform
  dsimp only
  cases registry.transform? segment with
  | none => rfl
  | some transform =>
    cases isLast with
    | false => rfl
    | true => cases v.record?.bind (·.get? segment) <;> rfl

theorem derives_eq_of_replaced (replacement : Replacement stands) (h : v.Replaced stands w) (segment : String)
    (isLast : Bool) : derives registry v segment isLast = derives registry w segment isLast := by
  have field := replacement.field h segment
  unfold derives
  generalize v.record?.bind (·.get? segment) = x at field ⊢
  generalize w.record?.bind (·.get? segment) = y at field ⊢
  cases field <;> rfl

/-- One step from values that are one but for records in place of others. -/
theorem advance_replaced (replacement : Replacement stands) (h : v.Replaced stands w) {segment : String}
    {isLast : Bool} (free : derives registry v segment isLast = true → v.records = []) :
    Option.Rel (Value.Replaced stands) (advance registry v segment isLast)
      (advance registry w segment isLast) := by
  rw [advance_eq, advance_eq, ← derives_eq_of_replaced replacement h]
  split
  · next derived =>
    rw [h.eq (free derived)]
    exact Value.Replaced.rel_self _
  · exact replacement.field h segment

theorem follow_replaced (replacement : Replacement stands) (h : v.Replaced stands w) {segments : List String}
    (free : DerivesRecordFree registry v segments) :
    Parallel (Value.Replaced stands) (follow registry v segments) (follow registry w segments) := by
  induction segments generalizing v w with
  | nil => exact .ok h
  | cons segment rest ih =>
    obtain ⟨here, later⟩ := free
    exact parallel_follow_cons (advance_replaced replacement h here) fun v' _ led replaced =>
      ih replaced (later v' led)

theorem resolve_replaced (replacement : Replacement stands) {r s : Record}
    (h : (Value.record r).Replaced stands (.record s)) {path : Path}
    (free : DerivesRecordFree registry (.record r) path.segments) :
    Parallel (Value.Replaced stands) (path.resolve registry r) (path.resolve registry s) :=
  parallel_resolve (follow_replaced replacement h free)

end

end Path

/-! ### Conditions -/

/-- The condition looks at no record: its path applies transforms to values without records only, and leads
to such a value where it resolves. -/
structure Condition.RecordFree [PatternEngine] (registry : Registry) (condition : Condition) (r : Record) : Prop where
  path : Path.DerivesRecordFree registry (.record r) condition.path.segments
  value : ∀ v, condition.path.resolve registry r = .ok v → v.records = []

theorem Condition.evaluate_replaced [PatternEngine] {registry : Registry} {stands : Record → Record → Prop}
    {r s : Record} (replacement : Replacement stands) {condition : Condition}
    (h : (Value.record r).Replaced stands (.record s)) (free : condition.RecordFree registry r) :
    condition.evaluate registry r = condition.evaluate registry s := by
  unfold evaluate
  cases registry.comparator? condition.operator with
  | none => rfl
  | some comparator =>
    dsimp only
    rcases (Path.resolve_replaced replacement h free.path).cases_ok_error with
      ⟨e, left, right⟩ | ⟨v, w, left, right, replaced⟩
    · rw [left, right]
    · rw [left, right, replaced.eq (free.value v left)]

namespace RecordList

/-- Maps of any choice, made objects at any depth, leave records that can stand for those before. Records in
place of others make no difference to a path that applies transforms to values without records only, apart
from such records where it leads; and none to selections by conditions that look at no record, which are of
the same places. -/
theorem queries_of_replaced [PatternEngine] :
    (∀ chosen, Replacement (Record.Recasts chosen)) ∧
    ∀ stands, Replacement stands → ∀ registry,
      (∀ (path : Path) r s, (Value.record r).Replaced stands (.record s) →
        Path.DerivesRecordFree registry (.record r) path.segments →
        Parallel (Value.Replaced stands) (path.resolve registry r) (path.resolve registry s)) ∧
      ∀ (list other : RecordList) (lookups : List Lookup), list.spelling = other.spelling →
        List.Forall₂ (fun r s => (Value.record r).Replaced stands (.record s)) list.records other.records →
        (∀ conditions, conditionsOf list.spelling registry lookups = .ok conditions →
          ∀ r ∈ list.records, ∀ condition ∈ conditions, condition.RecordFree registry r) →
        (∃ e, list.filter registry lookups = .error e ∧ list.exclude registry lookups = .error e ∧
          other.filter registry lookups = .error e ∧ other.exclude registry lookups = .error e) ∨
        ∃ met : Nat → Bool,
          list.filter registry lookups = .ok (list.atPlaces fun i => met i) ∧
          list.exclude registry lookups = .ok (list.atPlaces fun i => !met i) ∧
          other.filter registry lookups = .ok (other.atPlaces fun i => met i) ∧
          other.exclude registry lookups = .ok (other.atPlaces fun i => !met i) := by
  refine ⟨replacement_recast, fun stands replacement registry =>
    ⟨fun path r s h free => Path.resolve_replaced replacement h free, ?_⟩⟩
  intro list other lookups spelled replaced free
  cases read : conditionsOf list.spelling registry lookups with
  | error e =>
    have otherRead := spelled ▸ read
    exact Or.inl ⟨e, keeping_eq_error read true, keeping_eq_error read false, keeping_eq_error otherRead true,
      keeping_eq_error otherRead false⟩
  | ok conditions =>
    refine selections_of_answers read (spelled ▸ read) ?_
    have each := (List.forall₂_and_left _ _).mpr ⟨free conditions read, replaced⟩
    refine each.imp fun r s ⟨freeHere, h⟩ => meetsAll_congr (List.forall₂_same.mpr fun condition mem => ?_)
    exact Condition.evaluate_replaced replacement h (freeHere condition mem)

/-- A record with a record in a field and another one in a list. -/
def befriended : Record := .map 1 [("friend", .record (.map 2 [("owner", .string "Robin")])),
  ("pets", .list [.record (.map 3 [("owner", .null)])])]

/-- The path to the length of the owner's name of a friend. -/
def friendOwnerLength : Path := ⟨["friend", "owner", "len"], by decide, by decide⟩

/-- The lookup of that length above three. -/
def friendOwnerLong : List Lookup := [⟨.spelled "friend__owner__len__gt", .ofNat 3⟩]

theorem derivesRecordFree_friendOwnerLength :
    Path.DerivesRecordFree .standard (.record befriended) friendOwnerLength.segments := by
  refine ⟨fun derived => ?_, fun next step => ?_⟩
  · cases derived
  · cases step
    refine ⟨fun derived => ?_, fun next step => ?_⟩
    · cases derived
    · cases step
      exact ⟨fun _ => rfl, fun _ _ => trivial⟩

theorem queries_of_replaced_befriended :
    let object := befriended.recast fun _ => true
    let list : RecordList := { records := [befriended] }
    let other : RecordList := { records := [object] }
    object.isObject = true ∧ friendOwnerLength.resolve .standard object = .ok (.ofNat 5) ∧
    ∃ met : Nat → Bool, list.filter .standard friendOwnerLong = .ok (list.atPlaces fun i => met i) ∧
      other.filter .standard friendOwnerLong = .ok (other.atPlaces fun i => met i) := by
  intro object list other
  obtain ⟨recasts, queries⟩ := queries_of_replaced
  obtain ⟨paths, selections⟩ := queries _ (recasts fun _ => true) .standard
  have replaced : (Value.record befriended).Replaced (Record.Recasts fun _ => true) (.record object) := .record rfl
  have five : friendOwnerLength.resolve .standard befriended = .ok (.ofNat 5) := rfl
  refine ⟨rfl, ?_, ?_⟩
  · rcases (paths _ _ _ replaced derivesRecordFree_friendOwnerLength).cases_ok_error with
      ⟨e, failed, -⟩ | ⟨v, w, done, otherDone, same⟩
    · cases five.symm.trans failed
    · cases five.symm.trans done
      rw [otherDone, ← same.eq rfl]
  · have read : conditionsOf .standard .standard friendOwnerLong =
        .ok [⟨friendOwnerLength, "gt", .ofNat 3, none⟩] := rfl
    have free : ∀ conditions, conditionsOf list.spelling .standard friendOwnerLong = .ok conditions →
        ∀ r ∈ list.records, ∀ condition ∈ conditions, condition.RecordFree .standard r := by
      intro conditions known r hr condition mem
      cases read.symm.trans known
      cases List.mem_singleton.mp hr
      cases List.mem_singleton.mp mem
      refine ⟨derivesRecordFree_friendOwnerLength, fun v done => ?_⟩
      cases five.symm.trans done
      rfl
    rcases selections list other friendOwnerLong rfl (.cons replaced .nil) free with
      ⟨e, failed, -⟩ | ⟨met, kept, -, otherKept, -⟩
    · cases failed.symm.trans (keeping_eq_atPlaces Registry.hasComparator_standard read true)
    · exact ⟨met, kept, otherKept⟩

end RecordList

end RecordQuery
