import Mathlib.Data.List.Perm.Subperm
import RecordQuery.Cases
import RecordQuery.Proofs.Traversal

/-!
How the values of a row stand to its names. Values are moved out of the case one by one, so a name that stands
a second time finds nothing, and the values behind it move up. A row has the values of its distinct names, in
the order in which these first stand, and lines up with the names just where no name stands twice.
-/

namespace RecordQuery

/-! ### Lists -/

theorem map_some_filterMap {α β : Type} {f : α → Option β} {items : List α} (each : ∀ a ∈ items, (f a).isSome) :
    (items.filterMap f).map some = items.map f := by
  induction items with
  | nil => rfl
  | cons a items ih =>
    obtain ⟨head, tail⟩ := List.forall_mem_cons.mp each
    obtain ⟨b, answer⟩ := Option.isSome_iff_exists.mp head
    rw [List.filterMap_cons_some answer, List.map_cons, List.map_cons, ih tail, answer]

theorem isEmpty_filter_not {α : Type} (p : α → Bool) (items : List α) :
    (items.filter fun a => !p a).isEmpty = items.all p := by
  induction items with
  | nil => rfl
  | cons a items ih =>
    rw [List.filter_cons, List.all_cons, ← ih]
    cases p a <;> rfl

/-! ### Distinct names -/

section
variable {α : Type} [BEq α]

theorem eraseDups_sublist : ∀ items : List α, items.eraseDups.Sublist items
  | [] => List.nil_sublist _
  | a :: items => by
    have shorter := List.length_filter_le (fun b => !b == a) items
    rw [List.eraseDups_cons]
    exact ((eraseDups_sublist _).trans List.filter_sublist).cons_cons a
termination_by items => items.length

theorem eraseDups_eq_self_of_length {items : List α} (same : items.eraseDups.length = items.length) :
    items.eraseDups = items :=
  (eraseDups_sublist items).eq_of_length same

variable [LawfulBEq α]

theorem nodup_eraseDups : ∀ items : List α, items.eraseDups.Nodup
  | [] => List.nodup_nil
  | a :: items => by
    have shorter := List.length_filter_le (fun b => !b == a) items
    rw [List.eraseDups_cons, List.nodup_cons]
    exact ⟨by simp [List.mem_eraseDups], nodup_eraseDups _⟩
termination_by items => items.length

theorem eraseDups_eq_self_iff {items : List α} : items.eraseDups = items ↔ items.Nodup := by
  refine ⟨fun same => same ▸ nodup_eraseDups items, fun distinct => ?_⟩
  have all : items ⊆ items.eraseDups := fun a ha => List.mem_eraseDups.mpr ha
  exact eraseDups_eq_self_of_length
    (Nat.le_antisymm (eraseDups_sublist items).length_le (List.subperm_of_subset distinct all).length_le)

end

/-! ### Values taken one by one -/

section
variable {fields : Dictionary Value} {names : List String} {name : String}

theorem takeValues_cons :
    takeValues (name :: names) fields =
      (Dictionary.find? name fields).toList ++ takeValues names (Dictionary.erase name fields) := by
  rw [takeValues]
  cases found : Dictionary.find? name fields with
  | some v => rfl
  | none => rw [Dictionary.erase_eq_self found]; rfl

/-- A name whose value has been taken is passed over. -/
theorem takeValues_erase (ascending : fields.Ascending) :
    takeValues names (Dictionary.erase name fields) = takeValues (names.filter (!· == name)) fields := by
  -- Over all dictionaries: a value taken under another name first leaves a smaller one.
  induction names generalizing fields with
  | nil => rfl
  | cons other names ih =>
    by_cases same : other = name
    · subst same
      rw [takeValues_cons, Dictionary.find?_erase_self ascending,
        Dictionary.erase_eq_self (Dictionary.find?_erase_self ascending other), ih ascending]
      simp
    · have kept : (!other == name) = true := by simpa using same
      rw [List.filter_cons, if_pos kept, takeValues_cons, takeValues_cons, Dictionary.find?_erase_of_ne same,
        Dictionary.erase_comm, ih (Dictionary.ascending_erase ascending other)]

/-- The values taken are those of the distinct names that are there. -/
theorem takeValues_eq (ascending : fields.Ascending) : ∀ names : List String,
    takeValues names fields = names.eraseDups.filterMap (Dictionary.find? · fields)
  | [] => rfl
  | name :: names => by
    have shorter := List.length_filter_le (fun other => !other == name) names
    rw [takeValues_cons, takeValues_erase ascending, takeValues_eq ascending, List.eraseDups_cons,
      List.filterMap_cons]
    cases Dictionary.find? name fields <;> rfl
termination_by names => names.length

end

/-! ### Rows -/

/-- A row lines up with a case: it has one value per name, at the place of each name the value of the case, and
under each name too. -/
structure Row.LinesUp (row : Row) (names : List String) (c : Case) : Prop where
  counted : row.values.length = names.length
  placed : ∀ i (h : i < names.length), ∃ v, Dictionary.find? names[i] c.fields = some v ∧ row.values[i]? = some v
  named : ∀ name ∈ names, ∃ v, Dictionary.find? name c.fields = some v ∧ row.get? name = some v

section
variable {names : List String} {c : Case} {row : Row} {name : String}

theorem Case.ascending_set (ascending : c.fields.Ascending) {v : Value} : (c.set name v).fields.Ascending :=
  Dictionary.ascending_insert ascending name v

/-- A row comes of a case that has just the names. -/
theorem Case.row_eq_ok_iff : c.row names = .ok row ↔
    (∀ name ∈ names, Dictionary.has name c.fields = true) ∧ (∀ name ∈ Dictionary.keys c.fields, name ∈ names) ∧
      row = ⟨c.label, names, takeValues names c.fields⟩ := by
  have there : names.all (Dictionary.has · c.fields) = true ↔ ∀ name ∈ names, Dictionary.has name c.fields = true :=
    List.all_eq_true
  have known : (Dictionary.keys c.fields).all (names.contains ·) = true ↔
      ∀ name ∈ Dictionary.keys c.fields, name ∈ names := by
    simp only [List.all_eq_true, List.contains_iff_mem]
  rw [← there, ← known]
  simp only [Case.row, isEmpty_filter_not]
  cases names.all (Dictionary.has · c.fields) with
  | false => simp
  | true =>
    cases (Dictionary.keys c.fields).all (names.contains ·) with
    | false => simp
    | true => simp only [Bool.not_true, Bool.false_eq_true, if_false, true_and, Except.ok.injEq, eq_comm]

/-- The values of a row are those of the distinct names. -/
theorem Case.row_values (ascending : c.fields.Ascending) (done : c.row names = .ok row) :
    row.values.map some = names.eraseDups.map (Dictionary.find? · c.fields) := by
  obtain ⟨there, -, rfl⟩ := Case.row_eq_ok_iff.mp done
  rw [takeValues_eq ascending]
  exact map_some_filterMap fun name member => there name (List.mem_eraseDups.mp member)

theorem Case.row_getElem? (ascending : c.fields.Ascending) (done : c.row names = .ok row) (i : Nat) :
    row.values[i]? = names.eraseDups[i]?.bind (Dictionary.find? · c.fields) := by
  have place := congrArg (·[i]?) (Case.row_values ascending done)
  simp only [List.getElem?_map] at place
  cases found : row.values[i]? <;> cases distinct : names.eraseDups[i]? <;> simp_all

/-- A name reads what stands where it first stands among all the names, repeated ones counted too. -/
theorem Case.row_get? (ascending : c.fields.Ascending) (done : c.row names = .ok row) (name : String) :
    row.get? name =
      (names.findIdx? (· == name)).bind fun i => names.eraseDups[i]?.bind (Dictionary.find? · c.fields) := by
  have same : row.names = names := by
    obtain ⟨-, -, rfl⟩ := Case.row_eq_ok_iff.mp done
    rfl
  simp only [Row.get?, same, Case.row_getElem? ascending done]

theorem linesUp_iff (ascending : c.fields.Ascending) (done : c.row names = .ok row) :
    row.LinesUp names c ↔ names.Nodup := by
  have counted : row.values.length = names.eraseDups.length := by
    simpa using congrArg List.length (Case.row_values ascending done)
  constructor
  · intro aligned
    exact eraseDups_eq_self_iff.mp (eraseDups_eq_self_of_length (counted.symm.trans aligned.counted))
  · intro distinct
    have same : names.eraseDups = names := eraseDups_eq_self_iff.mpr distinct
    have there : ∀ name ∈ names, ∃ v, Dictionary.find? name c.fields = some v := fun name member =>
      Option.isSome_iff_exists.mp ((Case.row_eq_ok_iff.mp done).1 name member)
    refine ⟨by rw [counted, same], fun i h => ?_, fun name member => ?_⟩
    · obtain ⟨v, found⟩ := there names[i] (List.getElem_mem h)
      refine ⟨v, found, ?_⟩
      rw [Case.row_getElem? ascending done, same, List.getElem?_eq_getElem h, Option.bind_some, found]
    · obtain ⟨v, found⟩ := there name member
      obtain ⟨i, first⟩ : ∃ i, names.findIdx? (· == name) = some i := by
        rw [← Option.isSome_iff_exists, List.findIdx?_isSome, List.any_eq_true]
        exact ⟨name, member, beq_self_eq_true name⟩
      obtain ⟨h, here, -⟩ := List.findIdx?_eq_some_iff_getElem.mp first
      refine ⟨v, found, ?_⟩
      rw [Case.row_get? ascending done, same, first, Option.bind_some, List.getElem?_eq_getElem h,
        Option.bind_some, beq_iff_eq.mp here, found]

/-- Each row of a table has its case's label and the values of the distinct names, in the order in which these
first stand; a name reads what stands where it first stands among all the names. So a row lines up with the
names just where no name stands twice. -/
theorem tabulate_linesUp_iff {cases : List Case} {rows : List Row} (ascending : ∀ c ∈ cases, c.fields.Ascending)
    (done : tabulate names cases = .ok rows) :
    List.Forall₂ (fun c row => row.label = c.label ∧ row.names = names ∧
      row.values.map some = names.eraseDups.map (Dictionary.find? · c.fields) ∧
      (∀ name, row.get? name =
        (names.findIdx? (· == name)).bind fun i => names.eraseDups[i]?.bind (Dictionary.find? · c.fields)) ∧
      (row.LinesUp names c ↔ names.Nodup)) cases rows := by
  refine ((List.forall₂_and_left _ _).mpr ⟨ascending, mapM_eq_ok_iff.mp done⟩).imp fun c row ⟨ascending, done⟩ => ?_
  obtain ⟨-, -, same⟩ := Case.row_eq_ok_iff.mp done
  exact ⟨congrArg Row.label same, congrArg Row.names same, Case.row_values ascending done,
    Case.row_get? ascending done, linesUp_iff ascending done⟩

/-- A case of two fields, set in descending order. -/
def oneTwo : Case := (({} : Case).set "b" (.number (.signed 2))).set "a" (.number (.signed 1))

theorem tabulate_linesUp_iff_distinct :
    ∃ row, tabulate ["b", "a"] [oneTwo] = .ok [row] ∧ row.LinesUp ["b", "a"] oneTwo := by
  have empty : ({} : Case).fields.Ascending := List.Pairwise.nil
  have ascending : ∀ c ∈ [oneTwo], c.fields.Ascending :=
    List.forall_mem_singleton.mpr (Case.ascending_set (Case.ascending_set empty))
  have done : tabulate ["b", "a"] [oneTwo] =
      .ok [⟨none, ["b", "a"], [.number (.signed 2), .number (.signed 1)]⟩] := rfl
  obtain ⟨⟨-, -, -, -, linesUp⟩, -⟩ := List.forall₂_cons.mp (tabulate_linesUp_iff ascending done)
  exact ⟨_, done, linesUp.mpr (by decide)⟩

/-- The second place of a repeated name has no value of its own: the value behind it moves up, the row is one
value short, and the last name reads nothing. -/
theorem tabulate_repeated :
    ∃ row, tabulate ["a", "a", "b"] [oneTwo] = .ok [row] ∧
      row.values = [.number (.signed 1), .number (.signed 2)] ∧ row.get? "b" = none ∧
      ¬ row.LinesUp ["a", "a", "b"] oneTwo := by
  refine ⟨_, rfl, rfl, rfl, fun aligned => ?_⟩
  have counted : 2 = 3 := aligned.counted
  exact absurd counted (by decide)

end

end RecordQuery
