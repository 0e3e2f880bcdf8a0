import RecordQuery.Lookup
import RecordQuery.Pattern.Engine
import RecordQuery.Proofs.Registry.Standard

/-!
Registries after a history of registrations. Names are added and their roles replaced, but no name
loses a role: of each role the last registration counts, apart from the other. The mark of the search for
a pattern is set once, on the standard one, and every comparator that is registered takes it off its name;
so where the mark is found, the comparator is the standard search still.
-/

namespace RecordQuery

/-- What a caller can make known: a test as the comparator of a name, or a transform. -/
inductive Registration where
  | test (name : String) (holds : Value → Value → Bool)
  | transform (name : String) (derive : Transform)

namespace Registration

/-- The name that becomes known. -/
def name : Registration → String
  | .test name _ => name
  | .transform name _ => name

/-- The comparator that becomes known under a name. -/
def comparatorUnder? (name : String) : Registration → Option Comparator
  | .test other holds => if other = name then some holds else none
  | .transform .. => none

theorem comparatorUnder?_eq_none {registration : Registration} {name : String}
    (apart : ∀ holds, registration ≠ .test name holds) : registration.comparatorUnder? name = none := by
  cases registration with
  | test other holds => exact if_neg fun same => apart holds (congrArg (Registration.test · holds) same)
  | transform other derive => rfl

/-- The transform that becomes known under a name. -/
def transformUnder? (name : String) : Registration → Option Transform
  | .test .. => none
  | .transform other derive => if other = name then some derive else none

end Registration

namespace Registry

/-- One registration. -/
def register (r : Registry) : Registration → Registry
  | .test name holds => r.withComparator name holds
  | .transform name derive => r.withTransform name derive

/-- The registrations of a history, one after the other. -/
def after (start : Registry) (history : List Registration) : Registry := history.foldl register start

theorem after_cons (start : Registry) (registration : Registration) (history : List Registration) :
    start.after (registration :: history) = (start.register registration).after history := rfl

/-! ### Roles -/

section
variable {r start : Registry} {name : String}

theorem comparator?_register (r : Registry) (registration : Registration) (name : String) :
    (r.register registration).comparator? name =
      (registration.comparatorUnder? name).or (r.comparator? name) := by
  cases registration with
  | test other holds =>
    rw [register, comparator?_withComparator, Registration.comparatorUnder?]
    by_cases h : name = other
    · rw [if_pos h, if_pos h.symm, Option.some_or]
    · rw [if_neg h, if_neg (Ne.symm h), Option.none_or]
  | transform other derive => exact comparator?_withTransform r other derive name

theorem transform?_register (r : Registry) (registration : Registration) (name : String) :
    (r.register registration).transform? name =
      (registration.transformUnder? name).or (r.transform? name) := by
  cases registration with
  | test other holds => exact transform?_withComparator r other holds name
  | transform other derive =>
    rw [register, transform?_withTransform, Registration.transformUnder?]
    by_cases h : name = other
    · rw [if_pos h, if_pos h.symm, Option.some_or]
    · rw [if_neg h, if_neg (Ne.symm h), Option.none_or]

theorem hasComparator_register (known : r.hasComparator name) (registration : Registration) :
    (r.register registration).hasComparator name := by
  rw [hasComparator, comparator?_register, Option.isSome_or, Bool.or_eq_true]
  exact Or.inr known

/-- A comparator can be replaced but not taken away. -/
theorem hasComparator_after (known : start.hasComparator name) (history : List Registration) :
    (start.after history).hasComparator name := by
  induction history generalizing start with
  | nil => exact known
  | cons registration history ih => exact ih (hasComparator_register known registration)

/-- Where each registration writes a role or leaves it, the last that writes it counts. -/
theorem last_counts {α : Type} (role : Registry → Option α) (written : Registration → Option α)
    (step : ∀ r registration, role (r.register registration) = (written registration).or (role r))
    (start : Registry) (history : List Registration) :
    role (start.after history) = (history.filterMap written).getLast?.or (role start) := by
  induction history generalizing start with
  | nil => rfl
  | cons registration history ih =>
    rw [after_cons, ih, step, List.filterMap_cons]
    cases written registration with
    | none => rfl
    | some value => rw [List.getLast?_cons, ← Option.or_assoc, Option.or_some]

/-! ### Patterns -/

theorem hasPattern_register {registration : Registration} : (r.register registration).hasPattern name = true ↔
    (∀ holds, registration ≠ .test name holds) ∧ r.hasPattern name = true := by
  cases registration with
  | test other holds =>
    rw [register, hasPattern_withComparator]
    by_cases same : name = other <;> simp [same, eq_comm (a := other)]
  | transform other derive => simp [register, hasPattern_withTransform]

/-- The mark is never set by a registration, and is lost with the first comparator of its name. -/
theorem hasPattern_after (history : List Registration) : (start.after history).hasPattern name = true ↔
    (∀ holds, .test name holds ∉ history) ∧ start.hasPattern name = true := by
  induction history generalizing start with
  | nil => simp [after]
  | cons registration history ih =>
    rw [after_cons, ih, hasPattern_register, ← and_assoc, ← forall_and]
    simp only [List.mem_cons, not_or, ne_comm, and_comm]

/-! ### Names -/

theorem ascending_withPattern (sorted : Dictionary.Ascending r.operators) (name : String) :
    Dictionary.Ascending (r.withPattern name).operators := by
  unfold withPattern
  split
  · exact Dictionary.ascending_insert sorted _ _
  · exact sorted

theorem mem_names_register {registration : Registration} :
    name ∈ (r.register registration).names ↔ name = registration.name ∨ name ∈ r.names := by
  cases registration <;> exact Dictionary.mem_keys_insert

theorem mem_names_after (history : List Registration) : name ∈ (start.after history).names ↔
    name ∈ start.names ∨ ∃ registration ∈ history, registration.name = name := by
  induction history generalizing start with
  | nil => simp [after]
  | cons registration history ih =>
    simp only [after_cons, ih, mem_names_register, List.mem_cons, exists_eq_or_imp, or_assoc, or_left_comm,
      eq_comm (a := name)]

end

section
variable [PatternEngine]

theorem hasComparator_standard : standard.hasComparator defaultOperator :=
  congrArg Option.isSome (comparator?_standard defaultOperator)

/-- A key that spells no operator asks for one that is known, whatever has been registered. -/
theorem hasComparator_default (history : List Registration) :
    (standard.after history).hasComparator defaultOperator :=
  hasComparator_after hasComparator_standard history

/-! ### The registries there are -/

/-- A registry comes from the empty or the standard one by registrations. -/
inductive Reachable : Registry → Prop
  | empty : Reachable .empty
  | standard : Reachable .standard
  | register {r : Registry} (registration : Registration) : Reachable r → Reachable (r.register registration)

namespace Reachable
variable {r start : Registry} {name : String}

theorem after (reachable : r.Reachable) (history : List Registration) : (r.after history).Reachable := by
  induction history generalizing r with
  | nil => exact reachable
  | cons registration history ih => exact ih (reachable.register registration)

theorem after_start (begun : start = .empty ∨ start = .standard) (history : List Registration) :
    (start.after history).Reachable := by
  cases begun with
  | inl same => exact same ▸ Reachable.empty.after history
  | inr same => exact same ▸ Reachable.standard.after history

theorem ascending (reachable : r.Reachable) : Dictionary.Ascending r.operators := by
  induction reachable with
  | empty => exact List.Pairwise.nil
  | standard =>
    have roles : Dictionary.Ascending builtinRoles.operators :=
      builtinRoles_induction (motive := fun r => Dictionary.Ascending r.operators) List.Pairwise.nil
        (fun _ _ _ sorted => Dictionary.ascending_insert sorted _ _)
        fun _ _ _ sorted => Dictionary.ascending_insert sorted _ _
    exact ascending_withPattern roles patternOperator
  | register registration _ sorted => cases registration <;> exact Dictionary.ascending_insert sorted _ _

theorem names_ascending (reachable : r.Reachable) : r.names.Pairwise (· < ·) :=
  List.pairwise_map.mpr reachable.ascending

theorem hasPattern (reachable : r.Reachable) (marked : r.hasPattern name = true) : name = "regex" := by
  induction reachable with
  | empty => cases marked
  | standard => exact hasPattern_standard.mp marked
  | register registration _ ih => exact ih (hasPattern_register.mp marked).2

/-- The mark stays with the comparator that it was set for. A registration that leaves the one leaves the other. -/
theorem comparator?_of_hasPattern (reachable : r.Reachable) (marked : r.hasPattern name = true) :
    r.comparator? name = some Value.matchesPattern := by
  induction reachable with
  | empty => cases marked
  | standard =>
    obtain rfl : name = "regex" := hasPattern_standard.mp marked
    exact comparator?_standard_regex
  | register registration _ ih =>
    obtain ⟨apart, before⟩ := hasPattern_register.mp marked
    rw [comparator?_register, Registration.comparatorUnder?_eq_none apart, Option.none_or]
    exact ih before

end Reachable

theorem hasPattern_after_start {start : Registry} {name : String} (begun : start = .empty ∨ start = .standard)
    (history : List Registration) : (start.after history).hasPattern name = true ↔
      start = .standard ∧ name = "regex" ∧ ∀ holds, .test "regex" holds ∉ history := by
  rw [hasPattern_after]
  constructor
  · rintro ⟨kept, marked⟩
    cases begun with
    | inl same =>
      rw [same] at marked
      cases marked
    | inr same =>
      rw [same, hasPattern_standard] at marked
      exact ⟨same, marked, marked ▸ kept⟩
  · rintro ⟨same, called, kept⟩
    rw [same, hasPattern_standard, called]
    exact ⟨kept, rfl⟩

/-- What registrations make of the empty or of the standard registry. Under each name the last comparator
counts and the last transform, whatever became of the other role; the names are those of the start and
those registered, each once and in order; and the mark of the search for a pattern is on the standard name
of it as long as no test has taken its place, so that the comparator found with the mark is that search. -/
theorem state_after_history {start : Registry} (begun : start = empty ∨ start = standard)
    (history : List Registration) :
    let registry := start.after history
    (∀ name, registry.comparator? name =
      (history.filterMap (·.comparatorUnder? name)).getLast?.or (start.comparator? name)) ∧
    (∀ name, registry.transform? name =
      (history.filterMap (·.transformUnder? name)).getLast?.or (start.transform? name)) ∧
    (∀ name holds other, (registry.withComparator name holds).transform? other = registry.transform? other) ∧
    (∀ name derive other, (registry.withTransform name derive).comparator? other = registry.comparator? other) ∧
    registry.names.Pairwise (· < ·) ∧
    (∀ name, name ∈ registry.names ↔ name ∈ start.names ∨ ∃ registration ∈ history, registration.name = name) ∧
    (∀ name, registry.hasPattern name = true ↔
      start = standard ∧ name = "regex" ∧ ∀ holds, .test "regex" holds ∉ history) ∧
    ∀ name, registry.hasPattern name = true → registry.comparator? name = some Value.matchesPattern ∧
      standard.comparator? "regex" = some Value.matchesPattern := by
  intro registry
  have reachable : registry.Reachable := .after_start begun history
  refine ⟨fun name => ?_, fun name => ?_, fun name holds other => ?_, fun name derive other => ?_,
    reachable.names_ascending, fun name => mem_names_after history, fun name => hasPattern_after_start begun history,
    fun name marked => ⟨reachable.comparator?_of_hasPattern marked, comparator?_standard_regex⟩⟩
  · exact last_counts (·.comparator? name) (·.comparatorUnder? name)
      (fun r registration => comparator?_register r registration name) start history
  · exact last_counts (·.transform? name) (·.transformUnder? name)
      (fun r registration => transform?_register r registration name) start history
  · exact transform?_withComparator registry name holds other
  · exact comparator?_withTransform registry name derive other

end

/-- A comparator that is replaced, and a transform under the name of another comparator. -/
def sameTwice : List Registration :=
  [.test "same" fun _ _ => false, .transform "regex" some, .test "same" Value.same]

theorem state_after_history_sameTwice :
    (standard.after sameTwice).comparator? "same" = some Value.same ∧
      (standard.after sameTwice).hasPattern "regex" = true ∧ "same" ∈ (standard.after sameTwice).names := by
  obtain ⟨comparators, -, -, -, -, names, patterns, -⟩ := state_after_history (Or.inr rfl) sameTwice
  refine ⟨(comparators "same").trans rfl, (patterns "regex").mpr ⟨rfl, rfl, ?_⟩, (names "same").mpr (Or.inr ?_)⟩
  · simp [sameTwice]
  · exact ⟨_, List.mem_cons_self, rfl⟩

end Registry

end RecordQuery
