import RecordQuery.Proofs.Parallel
import RecordQuery.Proofs.Selection.Conjunction

/-!
What a registration leaves as it is. Lookups are read by the comparators of the names in them, and
conditions are evaluated by one comparator and the transforms of a path; so a new comparator changes
nothing for lookups that do not ask for its name, and a new transform nothing for paths without it.
-/

namespace RecordQuery

/-! ### What reading depends on -/

/-- The name by which a key asks for an operator: the last segment of one that is spelled, whether or not
it turns out to be an operator. -/
def LookupKey.named (spelling : Spelling) : LookupKey → Option String
  | spelled key => (spelling.split key).getLast?
  | explicit _ operator => some operator

section
variable {r s : Registry} {spelling : Spelling}

theorem splitOperator_congr {segments : List String}
    (same : ∀ last, segments.getLast? = some last → r.hasComparator last = s.hasComparator last) :
    splitOperator r segments = splitOperator s segments := by
  unfold splitOperator
  cases last : segments.getLast? with
  | none => rfl
  | some name => simp only [same name last]

theorem splitOperator_default_or_last (segments : List String) :
    (splitOperator r segments).2 = defaultOperator ∨ segments.getLast? = some (splitOperator r segments).2 := by
  rcases splitOperator_cases r segments with whole | ⟨front, last, some, known, rfl⟩
  · exact Or.inl (congrArg Prod.snd (splitOperator_whole whole))
  · rw [splitOperator_concat some known]
    exact Or.inr List.getLast?_concat

theorem LookupKey.target_congr {key : LookupKey}
    (same : ∀ name, key.named spelling = some name → r.hasComparator name = s.hasComparator name) :
    key.target spelling r = key.target spelling s := by
  cases key with
  | spelled text => rw [target, target, splitOperator_congr same]
  | explicit path operator => rw [target, target, same operator rfl]

theorem LookupKey.target_default_or_named {key : LookupKey} {path : Path} {operator : String}
    (found : key.target spelling r = .ok (path, operator)) :
    operator = defaultOperator ∨ key.named spelling = some operator := by
  cases key with
  | spelled text =>
    have either := splitOperator_default_or_last (r := r) (spelling.split text)
    rwa [target_spelled_eq_ok_iff.mp found] at either
  | explicit text name =>
    obtain ⟨-, rfl, -⟩ := target_explicit_eq_ok_iff.mp found
    exact Or.inr rfl

section
variable [PatternEngine]

theorem expectedPattern_congr {operator : String} (same : r.hasPattern operator = s.hasPattern operator)
    (expected : Value) : expectedPattern r operator expected = expectedPattern s operator expected := by
  cases expected with
  | string source => rw [expectedPattern, expectedPattern, same]
  | _ => rfl

theorem Lookup.condition_congr {lookup : Lookup}
    (target : lookup.key.target spelling r = lookup.key.target spelling s)
    (pattern : ∀ path operator, lookup.key.target spelling s = .ok (path, operator) →
      r.hasPattern operator = s.hasPattern operator) :
    lookup.condition spelling r = lookup.condition spelling s := by
  rw [condition, condition, target]
  cases found : lookup.key.target spelling s with
  | error e => rfl
  | ok place =>
    change (expectedPattern r place.2 lookup.expected >>= _) = expectedPattern s place.2 lookup.expected >>= _
    rw [expectedPattern_congr (pattern place.1 place.2 found)]

theorem conditionsOf_congr {lookups : List Lookup}
    (same : ∀ lookup ∈ lookups, lookup.condition spelling r = lookup.condition spelling s) :
    conditionsOf spelling r lookups = conditionsOf spelling s lookups := by
  induction lookups with
  | nil => rfl
  | cons lookup lookups ih =>
    obtain ⟨head, later⟩ := List.forall_mem_cons.mp same
    rw [conditionsOf, conditionsOf, head, ih later]

end

/-! ### What evaluation depends on -/

theorem Path.advance_congr {segment : String} (same : r.transform? segment = s.transform? segment) (v : Value)
    (isLast : Bool) : advance r v segment isLast = advance s v segment isLast := by
  rw [advance, advance, same]

theorem Path.follow_congr {segments : List String}
    (same : ∀ segment ∈ segments, r.transform? segment = s.transform? segment) (v : Value) :
    follow r v segments = follow s v segments := by
  induction segments generalizing v with
  | nil => rfl
  | cons segment rest ih =>
    obtain ⟨head, later⟩ := List.forall_mem_cons.mp same
    rw [follow, follow, advance_congr head]
    cases advance s v segment rest.isEmpty with
    | none => rfl
    | some next => exact ih later next

theorem Condition.evaluate_congr [PatternEngine] {condition : Condition}
    (comparator : r.comparator? condition.operator = s.comparator? condition.operator)
    (transforms : ∀ segment ∈ condition.path.segments, r.transform? segment = s.transform? segment)
    (record : Record) : condition.evaluate r record = condition.evaluate s record := by
  rw [evaluate, evaluate, comparator, Path.resolve, Path.resolve, Path.follow_congr transforms]

end

/-! ### A new comparator -/

section
variable {registry : Registry} {spelling : Spelling} {name operator : String}
  {holds : Comparator}

theorem Registry.comparator?_withComparator_of_ne (apart : operator ≠ name) :
    (registry.withComparator name holds).comparator? operator = registry.comparator? operator := by
  rw [comparator?_withComparator, if_neg apart]

theorem Registry.comparator?_withComparator_self :
    (registry.withComparator name holds).comparator? name = some holds := by
  rw [comparator?_withComparator, if_pos rfl]

theorem Registry.hasComparator_withComparator_of_ne (apart : operator ≠ name) :
    (registry.withComparator name holds).hasComparator operator = registry.hasComparator operator := by
  rw [hasComparator, hasComparator, comparator?_withComparator_of_ne apart]

theorem Registry.hasPattern_withComparator_of_ne (apart : operator ≠ name) :
    (registry.withComparator name holds).hasPattern operator = registry.hasPattern operator := by
  rw [hasPattern_withComparator, if_neg apart]

theorem Registry.hasPattern_withComparator_self : (registry.withComparator name holds).hasPattern name = false := by
  rw [hasPattern_withComparator, if_pos rfl]

variable [PatternEngine]

/-- A lookup that does not name the new comparator is read as before, also where it is read with the
operator that is meant when none is named: that one searches for no pattern, before and after. -/
theorem Lookup.condition_withComparator {lookup : Lookup} (reachable : registry.Reachable)
    (apart : lookup.key.named spelling ≠ some name) :
    lookup.condition spelling (registry.withComparator name holds) = lookup.condition spelling registry := by
  refine condition_congr (LookupKey.target_congr fun other named => ?_) fun path operator found => ?_
  · exact Registry.hasComparator_withComparator_of_ne fun same => apart (same ▸ named)
  · by_cases same : operator = name
    · subst same
      have meant := (LookupKey.target_default_or_named found).resolve_right apart
      rw [Registry.hasPattern_withComparator_self, eq_comm, Bool.eq_false_iff]
      intro searches
      have called := reachable.hasPattern searches
      rw [meant] at called
      exact absurd called (by decide)
    · exact Registry.hasPattern_withComparator_of_ne same

/-- A lookup that names the new comparator explicitly and could be read before can be read still. -/
theorem Lookup.exists_condition_withComparator {lookup : Lookup} {path : String} {condition : Condition}
    (named : lookup.key = .explicit path name) (read : lookup.condition spelling registry = .ok condition) :
    condition.operator = name ∧
      ∃ other, lookup.condition spelling (registry.withComparator name holds) = .ok other := by
  have target := (condition_eq_ok_iff.mp read).1
  rw [named] at target
  obtain ⟨-, meant, cut⟩ := LookupKey.target_explicit_eq_ok_iff.mp target
  refine ⟨meant, ⟨condition.path, name, lookup.expected, none⟩, condition_eq_ok_iff.mpr ⟨?_, ?_, rfl⟩⟩
  · have known : (registry.withComparator name holds).hasComparator name = true := by
      rw [Registry.hasComparator, Registry.comparator?_withComparator_self]
      rfl
    rw [named]
    exact LookupKey.target_explicit_eq_ok_iff.mpr ⟨known, rfl, cut⟩
  · dsimp only
    cases lookup.expected with
    | string source => rw [expectedPattern, Registry.hasPattern_withComparator_self]; rfl
    | _ => rfl

/-- The lookups leave a name aside: no key spells it last, no explicit lookup of it fails to be read, and
none is read as the operator of a condition. -/
structure LeaveAside (name : String) (registry : Registry) (spelling : Spelling) (lookups : List Lookup) : Prop where
  spelled : ∀ lookup ∈ lookups, ∀ key, lookup.key = .spelled key → (spelling.split key).getLast? ≠ some name
  explicit : ∀ lookup ∈ lookups, ∀ path, lookup.key = .explicit path name →
    ∃ condition, lookup.condition spelling registry = .ok condition
  read : ∀ conditions, conditionsOf spelling registry lookups = .ok conditions →
    ∀ condition ∈ conditions, condition.operator ≠ name

theorem LeaveAside.condition_parallel {lookups : List Lookup} (reachable : registry.Reachable)
    (aside : LeaveAside name registry spelling lookups) {lookup : Lookup} (mem : lookup ∈ lookups) :
    Parallel (fun before after => before.operator ≠ name → before = after)
      (lookup.condition spelling registry) (lookup.condition spelling (registry.withComparator name holds)) := by
  by_cases apart : lookup.key.named spelling = some name
  · cases key : lookup.key with
    | spelled text =>
      rw [key] at apart
      exact absurd apart (aside.spelled lookup mem text key)
    | explicit path operator =>
      rw [key] at apart
      cases apart
      obtain ⟨condition, read⟩ := aside.explicit lookup mem path key
      obtain ⟨called, other, readAfter⟩ := Lookup.exists_condition_withComparator key read
      rw [read, readAfter]
      exact .ok fun different => absurd called different
  · rw [Lookup.condition_withComparator reachable apart]
    cases lookup.condition spelling registry with
    | error e => exact .error e
    | ok condition => exact .ok fun _ => rfl

theorem eq_of_alike_apart {conditions others : List Condition}
    (alike : List.Forall₂ (fun before after => before.operator ≠ name → before = after) conditions others)
    (none : ∀ condition ∈ conditions, condition.operator ≠ name) : conditions = others := by
  induction alike with
  | nil => rfl
  | cons head _ ih =>
    obtain ⟨apart, later⟩ := List.forall_mem_cons.mp none
    rw [head apart, ih later]

/-- Lookups that leave the new comparator aside are read as before. An explicit lookup of it may be among
them, if an earlier or a later one cannot be read: that one decides before and after. -/
theorem LeaveAside.conditionsOf_withComparator {lookups : List Lookup} (reachable : registry.Reachable)
    (aside : LeaveAside name registry spelling lookups) :
    conditionsOf spelling (registry.withComparator name holds) lookups = conditionsOf spelling registry lookups := by
  have whole : Parallel (List.Forall₂ fun before after => before.operator ≠ name → before = after)
      (conditionsOf spelling registry lookups)
      (conditionsOf spelling (registry.withComparator name holds) lookups) := by
    rw [conditionsOf_eq_mapM, conditionsOf_eq_mapM]
    have each : List.Forall₂ (fun a b => a = b ∧ a ∈ lookups) lookups lookups :=
      List.forall₂_same.mpr fun lookup mem => ⟨rfl, mem⟩
    refine .mapM each ?_
    rintro lookup _ ⟨rfl, mem⟩
    exact aside.condition_parallel reachable mem
  rcases whole.cases_ok_error with ⟨e, before, after⟩ | ⟨conditions, others, before, after, alike⟩
  · rw [before, after]
  · rw [before, after, eq_of_alike_apart alike (aside.read conditions before)]

end

/-! ### A new transform -/

section
variable {registry : Registry} {spelling : Spelling} {name : String} {derive : Transform}

theorem Registry.hasComparator_withTransform (operator : String) :
    (registry.withTransform name derive).hasComparator operator = registry.hasComparator operator := by
  rw [hasComparator, hasComparator, comparator?_withTransform]

theorem conditionsOf_withTransform [PatternEngine] (lookups : List Lookup) :
    conditionsOf spelling (registry.withTransform name derive) lookups = conditionsOf spelling registry lookups :=
  conditionsOf_congr fun _ _ =>
    Lookup.condition_congr (LookupKey.target_congr fun other _ => Registry.hasComparator_withTransform other)
      fun _ operator _ => Registry.hasPattern_withTransform registry name derive operator

end

/-! ### Registrations -/

/-- A new comparator changes neither the reading of lookups that leave its name aside nor the evaluation
of the conditions they are read as. A new transform changes the reading of no lookup, and the evaluation of
no condition whose path goes without its name. -/
theorem registration_frame [PatternEngine] {registry : Registry} (reachable : registry.Reachable) (name : String)
    (spelling : Spelling) :
    (∀ holds lookups, LeaveAside name registry spelling lookups →
      conditionsOf spelling (registry.withComparator name holds) lookups = conditionsOf spelling registry lookups ∧
      ∀ conditions, conditionsOf spelling registry lookups = .ok conditions → ∀ condition ∈ conditions,
        ∀ r, condition.evaluate (registry.withComparator name holds) r = condition.evaluate registry r) ∧
    ∀ derive,
      (∀ lookups, conditionsOf spelling (registry.withTransform name derive) lookups =
        conditionsOf spelling registry lookups) ∧
      ∀ condition : Condition, name ∉ condition.path.segments →
        ∀ r, condition.evaluate (registry.withTransform name derive) r = condition.evaluate registry r := by
  refine ⟨fun holds lookups aside => ⟨aside.conditionsOf_withComparator reachable, ?_⟩, fun derive =>
    ⟨fun lookups => conditionsOf_withTransform lookups, fun condition absent r => ?_⟩⟩
  · intro conditions read condition mem r
    refine Condition.evaluate_congr ?_ (fun segment _ => ?_) r
    · exact Registry.comparator?_withComparator_of_ne (aside.read conditions read condition mem)
    · exact Registry.transform?_withComparator registry name holds segment
  · refine Condition.evaluate_congr ?_ (fun segment mem => ?_) r
    · exact Registry.comparator?_withTransform registry name derive condition.operator
    · rw [Registry.transform?_withTransform, if_neg (ne_of_mem_of_not_mem mem absent)]

/-- The lookup of a field whose length is to be above one. -/
def longerThanOne : List Lookup := [⟨.spelled "s__len__gt", .ofNat 1⟩]

/-- The condition that it is read as. -/
def isLongerThanOne : Condition := ⟨⟨["s", "len"], by decide, by decide⟩, "gt", .ofNat 1, none⟩

theorem registration_frame_longerThanOne :
    conditionsOf .standard (Registry.standard.withComparator "len" Value.same) longerThanOne = .ok [isLongerThanOne] ∧
      isLongerThanOne.evaluate (Registry.standard.withComparator "len" Value.same) (.map 1 [("s", .string "ab")]) =
        .ok true := by
  have read : conditionsOf .standard .standard longerThanOne = .ok [isLongerThanOne] := rfl
  have aside : LeaveAside "len" .standard .standard longerThanOne := by
    refine ⟨fun lookup mem key spelled => ?_, fun lookup mem path named => ?_, fun conditions known => ?_⟩
    · cases List.mem_singleton.mp mem
      cases spelled
      decide
    · cases List.mem_singleton.mp mem
      cases named
    · cases read.symm.trans known
      exact fun condition mem => by cases List.mem_singleton.mp mem; decide
  obtain ⟨reading, evaluating⟩ :=
    (registration_frame .standard "len" .standard).1 Value.same longerThanOne aside
  exact ⟨reading.trans read, (evaluating _ read _ (List.mem_singleton_self _) _).trans rfl⟩

/-- The explicit lookup of an operator that the standard registry does not know. -/
def askFresh : List Lookup := [⟨.explicit "n" "fresh", .ofNat 0⟩]

/-- An explicit lookup of a name that is not known fails, and with that leaves no condition whose operator
it could be; yet it is read once a comparator of the name is registered. -/
theorem fresh_operator_becomes_known :
    (∀ lookup ∈ askFresh, ∀ key, lookup.key = .spelled key →
      (Spelling.standard.split key).getLast? ≠ some "fresh") ∧
    (∀ conditions, conditionsOf .standard .standard askFresh = .ok conditions →
      ∀ condition ∈ conditions, condition.operator ≠ "fresh") ∧
    conditionsOf .standard (Registry.standard.withComparator "fresh" Value.same) askFresh ≠
      conditionsOf .standard .standard askFresh := by
  have before : conditionsOf .standard .standard askFresh = .error (.unknownOperator "fresh") := rfl
  have after : conditionsOf .standard (Registry.standard.withComparator "fresh" Value.same) askFresh =
      .ok [⟨⟨["n"], by decide, by decide⟩, "fresh", .ofNat 0, none⟩] := rfl
  refine ⟨?_, fun conditions read => ?_, fun same => ?_⟩
  · simp [askFresh]
  · cases before.symm.trans read
  · cases after.symm.trans (same.trans before)

end RecordQuery
