import RecordQuery.Registry

/-!
What the standard registry holds. Its roles are those that are built in, each under its own name and no other, and of
its names only that of the search for a pattern has the mark.
-/

namespace RecordQuery.Registry

/-! ### Entries one after the other -/

/-- Where each entry writes a role under its name, the last entry of a name counts. -/
theorem lookup_foldl {α : Type} (role : Registry → String → Option α) (write : Registry → String → α → Registry)
    (step : ∀ r name a other, role (write r name a) other = if other = name then some a else role r other)
    (entries : List (String × α)) (r : Registry) (name : String) :
    role (entries.foldl (fun r entry => write r entry.1 entry.2) r) name =
      (entries.reverse.lookup name).or (role r name) := by
  induction entries generalizing r with
  | nil => rfl
  | cons entry entries ih =>
    have head : role (write r entry.1 entry.2) name = ([entry].lookup name).or (role r name) := by
      rw [step]
      by_cases same : name = entry.1
      · rw [if_pos same, List.lookup_cons, beq_iff_eq.mpr same]
        rfl
      · rw [if_neg same, List.lookup_cons, beq_eq_false_iff_ne.mpr same]
        rfl
    rw [List.foldl_cons, ih, head, List.reverse_cons, List.lookup_append, Option.or_assoc]

theorem mem_of_lookup_reverse {α : Type} {entries : List (String × α)} {name : String} {a : α}
    (found : entries.reverse.lookup name = some a) : (name, a) ∈ entries := by
  obtain ⟨before, after, split, -⟩ := List.lookup_eq_some_iff.mp found
  rw [← List.mem_reverse, split]
  exact List.mem_append_right before List.mem_cons_self

theorem isSome_find?_of_comparator? {r : Registry} {name : String} {c : Comparator}
    (found : r.comparator? name = some c) : (Dictionary.find? name r.operators).isSome = true := by
  unfold comparator? operator at found
  cases known : Dictionary.find? name r.operators with
  | some operator => rfl
  | none =>
    rw [known] at found
    cases found

/-! ### Roles and mark -/

section
variable [PatternEngine] {name : String}

/-- What the built-in roles have when it holds of no roles and every registration keeps it. -/
theorem builtinRoles_induction {motive : Registry → Prop} (start : motive empty)
    (comparator : ∀ r name c, motive r → motive (r.withComparator name c))
    (transform : ∀ r name t, motive r → motive (r.withTransform name t)) : motive builtinRoles := by
  refine List.foldlRecOn _ _ ?_ fun r kept t _ => transform r t.1 t.2 kept
  exact List.foldlRecOn _ _ start fun r kept c _ => comparator r c.1 c.2 kept

theorem comparator?_builtinRoles (name : String) :
    builtinRoles.comparator? name = Comparator.builtin.reverse.lookup name := by
  let comparators := Comparator.builtin.foldl (fun r c => r.withComparator c.1 c.2) empty
  have kept : builtinRoles.comparator? name = comparators.comparator? name :=
    List.foldlRecOn (motive := fun r : Registry => r.comparator? name = comparators.comparator? name) _ _ rfl
      fun r same t _ => (comparator?_withTransform r t.1 t.2 name).trans same
  rw [kept, lookup_foldl comparator? withComparator comparator?_withComparator]
  exact Option.or_none

theorem comparator?_standard (name : String) :
    standard.comparator? name = Comparator.builtin.reverse.lookup name :=
  (comparator?_withPattern _ _ name).trans (comparator?_builtinRoles name)

theorem transform?_standard (name : String) :
    standard.transform? name = Transform.builtin.reverse.lookup name := by
  have none : (Comparator.builtin.foldl (fun r c => r.withComparator c.1 c.2) empty).transform? name = none :=
    List.foldlRecOn (motive := fun r : Registry => r.transform? name = none) _ _ rfl
      fun r same c _ => (transform?_withComparator r c.1 c.2 name).trans same
  rw [standard, transform?_withPattern, builtinRoles,
    lookup_foldl transform? withTransform transform?_withTransform, none, Option.or_none]

theorem mem_of_comparator?_standard {c : Comparator} (found : standard.comparator? name = some c) :
    (name, c) ∈ Comparator.builtin :=
  mem_of_lookup_reverse ((comparator?_standard name).symm.trans found)

theorem mem_of_transform?_standard {t : Transform} (found : standard.transform? name = some t) :
    (name, t) ∈ Transform.builtin :=
  mem_of_lookup_reverse ((transform?_standard name).symm.trans found)

theorem hasPattern_builtinRoles : builtinRoles.hasPattern name = false := by
  refine builtinRoles_induction (motive := fun r => r.hasPattern name = false) rfl ?_ ?_
  · intro r other c unmarked
    rw [hasPattern_withComparator, unmarked, ite_self]
  · intro r other t unmarked
    rw [hasPattern_withTransform, unmarked]

theorem hasPattern_standard : standard.hasPattern name = true ↔ name = "regex" := by
  have known : (Dictionary.find? patternOperator builtinRoles.operators).isSome = true :=
    isSome_find?_of_comparator? (comparator?_builtinRoles patternOperator)
  rw [standard, hasPattern, operator_withPattern]
  by_cases called : name = patternOperator
  · rw [if_pos ⟨called, known⟩]
    exact iff_of_true rfl called
  · rw [if_neg fun marked => called marked.1]
    exact iff_of_false (Bool.eq_false_iff.mp hasPattern_builtinRoles) called

theorem comparator?_standard_regex : standard.comparator? "regex" = some Value.matchesPattern :=
  comparator?_standard "regex"

end

end RecordQuery.Registry
