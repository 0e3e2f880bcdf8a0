import RecordQuery.Proofs.Operator.Faithful
import RecordQuery.Proofs.Registry.History

/-!
Paths from records that are equal. Under a registry of faithful operators a path leads to alike values
from them, or fails from both at the same segment. The standard registry is of this sort.
-/

namespace RecordQuery

/-- All operators of the registry go by what values are. -/
structure Registry.Faithful (around : Record → Prop) (registry : Registry) : Prop where
  comparator : ∀ name c, registry.comparator? name = some c → c.Faithful around
  transform : ∀ name t, registry.transform? name = some t → t.Faithful around

section
variable {around : Record → Prop} {registry : Registry}

theorem Registry.faithful_standard [PatternEngine] (population : Population around) : standard.Faithful around where
  comparator _ _ found := faithful_of_mem_comparators population _ (mem_of_comparator?_standard found)
  transform _ _ found := faithful_of_mem_transforms population _ (mem_of_transform?_standard found)

/-! ### Paths -/

namespace Path
variable (population : Population around) (faithful : registry.Faithful around) {v w : Value}
include population

theorem field_alike (h : v.Alike around w) (segment : String) :
    Option.Rel (Value.Alike around) (v.record?.bind (·.get? segment)) (w.record?.bind (·.get? segment)) := by
  cases h with
  | record alike => exact population.get?_alike alike segment
  | _ => exact .none

include faithful

theorem advance_alike (h : v.Alike around w) (segment : String) (isLast : Bool) :
    Option.Rel (Value.Alike around) (advance registry v segment isLast) (advance registry w segment isLast) := by
  have field := field_alike population h segment
  unfold advance
  dsimp only
  generalize v.record?.bind (·.get? segment) = x at field ⊢
  generalize w.record?.bind (·.get? segment) = y at field ⊢
  cases found : registry.transform? segment with
  | none => exact field
  | some transform =>
    have derived := faithful.transform segment transform found v w h
    cases isLast with
    | false => exact derived
    | true =>
      cases field with
      | none => exact derived
      | some alike => exact .some alike

theorem follow_parallel (h : v.Alike around w) (segments : List String) :
    Parallel (Value.Alike around) (follow registry v segments) (follow registry w segments) := by
  induction segments generalizing v w with
  | nil => exact .ok h
  | cons segment rest ih =>
    exact parallel_follow_cons (advance_alike population faithful h segment rest.isEmpty) fun _ _ _ alike => ih alike

/-- From equal records a path leads to alike values, or fails at the same segment. -/
theorem resolve_parallel {r s : Record} (h : r.Alike around s) (path : Path) :
    Parallel (Value.Alike around) (path.resolve registry r) (path.resolve registry s) :=
  parallel_resolve (follow_parallel population faithful (.record h) path.segments)

end Path

end

end RecordQuery
