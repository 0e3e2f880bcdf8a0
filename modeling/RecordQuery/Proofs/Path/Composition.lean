import RecordQuery.Path
import RecordQuery.Pattern.Engine
import RecordQuery.Proofs.Traversal

/-!
Paths in two parts. A path goes on from where its first part leads as a path of its own would, as long as the last
segment of that part is no transform: at the end of a path a field goes before a transform, further inside it does
not. So cutting a path at a record changes neither the value that it leads to nor the segment at which it fails.
-/

namespace RecordQuery

namespace Path

/-- One path behind another. -/
instance : Append Path where
  append p q :=
    { segments := p.segments ++ q.segments
      nonempty := List.append_ne_nil_of_left_ne_nil p.nonempty q.segments
      segment_nonempty := List.forall_mem_append.mpr ⟨p.segment_nonempty, q.segment_nonempty⟩ }

/-! ### Places -/

/-- Follows segments from a value; the error is the place of the segment that leads nowhere. -/
def followPlaced (registry : Registry) : Value → List String → Except Nat Value
  | current, [] => .ok current
  | current, segment :: rest =>
    match advance registry current segment rest.isEmpty with
    | some next => (followPlaced registry next rest).mapError (· + 1)
    | none => .error 0

section
variable {registry : Registry} {v w next : Value} {segment : String} {segments rest first : List String}
  {place : Nat}

theorem follow_step (step : advance registry v segment rest.isEmpty = some next) :
    follow registry v (segment :: rest) = follow registry next rest := by
  rw [follow, step]

theorem follow_stuck (stuck : advance registry v segment rest.isEmpty = none) :
    follow registry v (segment :: rest) = .error segment := by
  rw [follow, stuck]

theorem followPlaced_step (step : advance registry v segment rest.isEmpty = some next) :
    followPlaced registry v (segment :: rest) = (followPlaced registry next rest).mapError (· + 1) := by
  rw [followPlaced, step]

theorem followPlaced_stuck (stuck : advance registry v segment rest.isEmpty = none) :
    followPlaced registry v (segment :: rest) = .error 0 := by
  rw [followPlaced, stuck]

theorem follow_of_placed_ok (done : followPlaced registry v segments = .ok w) :
    follow registry v segments = .ok w := by
  induction segments generalizing v with
  | nil => exact congrArg Except.ok (Except.ok.inj done)
  | cons segment rest ih =>
    cases step : advance registry v segment rest.isEmpty with
    | none => cases (followPlaced_stuck step).symm.trans done
    | some next =>
      rw [followPlaced_step step] at done
      rw [follow_step step, ih (mapError_eq_ok_iff.mp done)]

/-- The error of segments that lead nowhere is the one at the place. -/
theorem follow_of_placed_error (failed : followPlaced registry v segments = .error place) :
    ∃ segment, segments[place]? = some segment ∧ follow registry v segments = .error segment := by
  induction segments generalizing v place with
  | nil => cases failed
  | cons segment rest ih =>
    cases step : advance registry v segment rest.isEmpty with
    | none =>
      cases (followPlaced_stuck step).symm.trans failed
      exact ⟨segment, rfl, follow_stuck step⟩
    | some next =>
      rw [followPlaced_step step] at failed
      obtain ⟨later, stuck, rfl⟩ := mapError_eq_error_iff.mp failed
      rw [follow_step step]
      exact ih stuck

/-! ### Segments that are no transforms -/

/-- A segment that is no transform leads to a field, at the end of a path as inside it. -/
theorem advance_of_plain (plain : registry.hasTransform segment = false) (v : Value) (isLast : Bool) :
    advance registry v segment isLast = v.record?.bind (·.get? segment) := by
  have none : registry.transform? segment = none :=
    Option.isNone_iff_eq_none.mp (Option.isSome_eq_false_iff.mp plain)
  rw [advance, none]

/-- Behind segments of which the last is no transform, others are followed as they are by themselves. -/
theorem followPlaced_append (nonempty : first ≠ []) (plain : registry.hasTransform (first.getLast nonempty) = false)
    (second : List String) (v : Value) : followPlaced registry v (first ++ second) =
      (followPlaced registry v first >>= fun w => (followPlaced registry w second).mapError (first.length + ·)) := by
  induction first generalizing v with
  | nil => exact absurd rfl nonempty
  | cons segment rest ih =>
    cases rest with
    | nil =>
      -- The one segment that is the last of the first part, and is not the last of the whole.
      have field (isLast : Bool) : advance registry v segment isLast = v.record?.bind (·.get? segment) :=
        advance_of_plain plain v isLast
      rw [List.singleton_append]
      cases found : v.record?.bind (·.get? segment) with
      | none =>
        rw [followPlaced_stuck ((field _).trans found), followPlaced_stuck ((field _).trans found)]
        rfl
      | some next =>
        rw [followPlaced_step ((field _).trans found), followPlaced_step ((field _).trans found)]
        change _ = (followPlaced registry next second).mapError (1 + ·)
        simp only [Nat.add_comm]
    | cons inner rest =>
      rw [List.cons_append]
      cases step : advance registry v segment false with
      | none =>
        rw [followPlaced_stuck step, followPlaced_stuck step]
        rfl
      | some next =>
        rw [followPlaced_step step, followPlaced_step step, ih (by simp) plain next]
        cases followPlaced registry next (inner :: rest) with
        | error place => rfl
        | ok w =>
          change ((followPlaced registry w second).mapError _).mapError _ = (followPlaced registry w second).mapError _
          cases followPlaced registry w second with
          | ok value => rfl
          | error place => exact congrArg Except.error (Nat.add_right_comm _ place 1)

/-- From a value that is no record, a segment that is no transform leads nowhere. -/
theorem followPlaced_of_no_record (plain : registry.hasTransform segment = false) (none : v.record? = none) :
    followPlaced registry v (segment :: rest) = .error 0 :=
  followPlaced_stuck (by rw [advance_of_plain plain, none]; rfl)

end

/-! ### Where a path fails -/

/-- The path leads from the record as far as to the place; the segment there leads nowhere and is named in the
failure, with the path. -/
def FailsAt (registry : Registry) (path : Path) (r : Record) (place : Nat) : Prop :=
  followPlaced registry (.record r) path.segments = .error place ∧
    ∃ segment, path.segments[place]? = some segment ∧
      path.resolve registry r = .error (.unresolved path.text segment)

section
variable {registry : Registry} {path : Path} {r : Record} {v : Value} {place : Nat}

theorem failsAt_iff : path.FailsAt registry r place ↔
    followPlaced registry (.record r) path.segments = .error place := by
  refine and_iff_left_of_imp fun failed => ?_
  obtain ⟨segment, here, stuck⟩ := follow_of_placed_error failed
  exact ⟨segment, here, by rw [resolve, stuck]⟩

theorem resolve_of_placed_ok (done : followPlaced registry (.record r) path.segments = .ok v) :
    path.resolve registry r = .ok v := by
  rw [resolve, follow_of_placed_ok done]

/-- A path leads to a value or fails at a place. -/
theorem resolve_or_failsAt (registry : Registry) (path : Path) (r : Record) :
    (∃ v, path.resolve registry r = .ok v) ∨ ∃ place, path.FailsAt registry r place := by
  cases placed : followPlaced registry (.record r) path.segments with
  | ok v => exact Or.inl ⟨v, resolve_of_placed_ok placed⟩
  | error place => exact Or.inr ⟨place, failsAt_iff.mpr placed⟩

theorem resolve_eq_ok_iff : path.resolve registry r = .ok v ↔
    followPlaced registry (.record r) path.segments = .ok v := by
  refine ⟨fun done => ?_, resolve_of_placed_ok⟩
  cases placed : followPlaced registry (.record r) path.segments with
  | ok w =>
    cases done.symm.trans (resolve_of_placed_ok placed)
    rfl
  | error place =>
    obtain ⟨-, segment, -, failed⟩ := failsAt_iff.mpr placed
    cases done.symm.trans failed

end

/-- Of two paths, the first with a last segment that is no transform: where it leads to a record, both together lead
to the value to which the second leads from there, or fail at the segment of the second at which that fails; where it
leads to a value that is no record, both fail at the first segment of the second, unless this is a transform; and
where it fails, both fail there. -/
theorem resolve_append {registry : Registry} {p : Path}
    (plain : registry.hasTransform (p.segments.getLast p.nonempty) = false) (q : Path) (r : Record) :
    ((∃ v, p.resolve registry r = .ok v) ∨ ∃ place, p.FailsAt registry r place) ∧
    (∀ s, p.resolve registry r = .ok (.record s) →
      (∀ v, (p ++ q).resolve registry r = .ok v ↔ q.resolve registry s = .ok v) ∧
      ∀ place, (p ++ q).FailsAt registry r (p.segments.length + place) ↔ q.FailsAt registry s place) ∧
    (∀ v, p.resolve registry r = .ok v → v.record? = none →
      registry.hasTransform (q.segments.head q.nonempty) = false →
      (p ++ q).FailsAt registry r p.segments.length) ∧
    ∀ place, p.FailsAt registry r place → (p ++ q).FailsAt registry r place := by
  have whole : followPlaced registry (.record r) (p ++ q).segments = _ :=
    followPlaced_append p.nonempty plain q.segments (.record r)
  refine ⟨resolve_or_failsAt registry p r, fun s leads => ?_, fun v leads none plainNext => ?_, fun place fails => ?_⟩
  · rw [resolve_eq_ok_iff.mp leads] at whole
    constructor
    · intro v
      rw [resolve_eq_ok_iff, resolve_eq_ok_iff, whole]
      exact mapError_eq_ok_iff
    · intro place
      rw [failsAt_iff, failsAt_iff, whole]
      refine mapError_eq_error_iff.trans ?_
      simp
  · have stuck : followPlaced registry v (q.segments.head q.nonempty :: q.segments.tail) = .error 0 :=
      followPlaced_of_no_record plainNext none
    rw [List.cons_head_tail] at stuck
    rw [resolve_eq_ok_iff.mp leads] at whole
    refine failsAt_iff.mpr (whole.trans ?_)
    change (followPlaced registry v q.segments).mapError _ = _
    rw [stuck]
    rfl
  · rw [failsAt_iff.mp fails] at whole
    exact failsAt_iff.mpr whole

/-- A record with a record in one field and a list in another. -/
def host : Record :=
  .map 1 [("friend", .record (.map 2 [("owner", .string "Robin")])), ("tags", .list [])]

theorem resolve_append_host :
    let friend : Path := ⟨["friend"], by decide, by decide⟩
    let tags : Path := ⟨["tags"], by decide, by decide⟩
    let owner : Path := ⟨["owner"], by decide, by decide⟩
    let ownerLength : Path := ⟨["owner", "len"], by decide, by decide⟩
    (friend ++ ownerLength).resolve .standard host = .ok (.ofNat 5) ∧
    (friend ++ tags).FailsAt .standard host 1 ∧
    (tags ++ ownerLength).FailsAt .standard host 1 ∧
    (owner ++ ownerLength).FailsAt .standard host 0 := by
  intro friend tags owner ownerLength
  have friendPlain : Registry.standard.hasTransform (friend.segments.getLast friend.nonempty) = false := rfl
  have tagsPlain : Registry.standard.hasTransform (tags.segments.getLast tags.nonempty) = false := rfl
  have ownerPlain : Registry.standard.hasTransform (owner.segments.getLast owner.nonempty) = false := rfl
  obtain ⟨-, friendLeads, -, -⟩ := resolve_append friendPlain ownerLength host
  obtain ⟨-, friendLeadsToo, -, -⟩ := resolve_append friendPlain tags host
  obtain ⟨-, -, noRecord, -⟩ := resolve_append tagsPlain ownerLength host
  obtain ⟨-, -, -, fails⟩ := resolve_append ownerPlain ownerLength host
  refine ⟨((friendLeads _ rfl).1 _).mpr rfl, ((friendLeadsToo _ rfl).2 0).mpr ?_, noRecord _ rfl rfl ownerPlain,
    fails 0 ?_⟩
  · exact failsAt_iff.mpr rfl
  · exact failsAt_iff.mpr rfl

end Path

end RecordQuery
