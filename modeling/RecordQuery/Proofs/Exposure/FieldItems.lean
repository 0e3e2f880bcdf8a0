import RecordQuery.Exposure
import RecordQuery.Proofs.Traversal

/-!
The items of a field. A field may be hidden or be given a name, and nothing else may be asked of it. What its items
ask for together does not depend on how they are grouped: it is hidden if one of them hides it, and has the last of
the names that they give. Both at once are refused.
-/

namespace RecordQuery

/-- What may be asked of a field: that it is hidden, or that it has another name. -/
inductive AttributeItem.ForField : AttributeItem → Prop
  | skip : ForField (.word "skip")
  | rename {name : String} (nonempty : name ≠ "") : ForField (.assign "rename" (.text name))

/-- The name that an item gives to a field. -/
def AttributeItem.rename? : AttributeItem → Option String
  | .assign "rename" (.text name) => some name
  | _ => none

/-- What items ask for: to hide the field if one of them does, and the last of the names that they give. -/
def asked (items : List AttributeItem) : FieldOptions :=
  ⟨items.contains (.word "skip"), (items.filterMap AttributeItem.rename?).getLast?⟩

namespace FieldOptions

/-- What is asked for later is added to what is asked for, and a later name goes before. -/
def merge (o later : FieldOptions) : FieldOptions := ⟨o.hidden || later.hidden, later.rename.or o.rename⟩

/-- A field that is hidden has no name to be given. -/
def Conflicting (o : FieldOptions) : Prop := o.hidden = true ∧ o.rename.isSome = true

instance (o : FieldOptions) : Decidable o.Conflicting := inferInstanceAs (Decidable (_ ∧ _))

/-- Nothing is asked for later that is not asked for already. -/
def Covers (o later : FieldOptions) : Prop :=
  (later.hidden = true → o.hidden = true) ∧ ∀ name, later.rename = some name → o.rename = some name

section
variable {o later : FieldOptions}

@[simp] theorem merge_empty (o : FieldOptions) : o.merge {} = o := by
  simp [merge]

@[simp] theorem empty_merge (o : FieldOptions) : FieldOptions.merge {} o = o := by
  simp [merge]

theorem merge_assoc (a b c : FieldOptions) : (a.merge b).merge c = a.merge (b.merge c) := by
  simp only [merge, Bool.or_assoc, Option.or_assoc]

theorem merge_eq_self_iff : o.merge later = o ↔ o.Covers later := by
  obtain ⟨hidden, rename⟩ := o
  obtain ⟨hidden', rename'⟩ := later
  rw [merge, FieldOptions.mk.injEq, Covers]
  refine and_congr ?_ ?_
  · cases hidden <;> cases hidden' <;> simp
  · cases rename' with
    | none => simp
    | some name => simp [eq_comm]

/-- More is asked for with a conflict, as long as there was one. -/
theorem Conflicting.merge (conflict : o.Conflicting) (later : FieldOptions) : (o.merge later).Conflicting := by
  obtain ⟨hidden, renamed⟩ := conflict
  refine ⟨?_, ?_⟩
  · rw [FieldOptions.merge, hidden, Bool.true_or]
  · rw [FieldOptions.merge, Option.isSome_or, renamed, Bool.or_true]

end

end FieldOptions

section
variable {o o' : FieldOptions} {item : AttributeItem} {items first second : List AttributeItem} {e : ExposureError}

theorem asked_append (first second : List AttributeItem) :
    asked (first ++ second) = (asked first).merge (asked second) := by
  rw [asked, List.filterMap_append, List.getLast?_append, List.contains_append]
  rfl

/-! ### Items in turn -/

theorem add_eq_ok_iff : o.add item = .ok o' ↔ item.ForField ∧ o' = o.merge (asked [item]) := by
  constructor
  · intro done
    unfold FieldOptions.add at done
    split at done
    · cases done
      exact ⟨.skip, by simp [FieldOptions.merge, asked, AttributeItem.rename?]⟩
    · cases done
    · next name nonempty =>
      cases done
      exact ⟨.rename nonempty, by simp [FieldOptions.merge, asked, AttributeItem.rename?]⟩
    · cases done
    · cases done
  · rintro ⟨asks, rfl⟩
    cases asks with
    | skip => simp [FieldOptions.add, FieldOptions.merge, asked, AttributeItem.rename?]
    | rename nonempty =>
      rw [FieldOptions.add]
      · simp [FieldOptions.merge, asked, AttributeItem.rename?]
      · exact nonempty

theorem add_ne_hiddenAndRenamed : o.add item ≠ .error .hiddenAndRenamed := by
  unfold FieldOptions.add
  split <;> rintro ⟨⟩

theorem foldlM_add_eq_ok_iff :
    items.foldlM FieldOptions.add o = .ok o' ↔ (∀ item ∈ items, item.ForField) ∧ o' = o.merge (asked items) := by
  induction items generalizing o with
  | nil =>
    have nothing : asked [] = {} := rfl
    rw [nothing, FieldOptions.merge_empty]
    simp [pure, Except.pure, eq_comm]
  | cons item items ih =>
    have split : asked (item :: items) = (asked [item]).merge (asked items) := asked_append [item] items
    simp only [List.foldlM_cons, bind_eq_ok_iff, add_eq_ok_iff, ih, List.forall_mem_cons, split]
    constructor
    · rintro ⟨_, ⟨asks, rfl⟩, later, rfl⟩
      exact ⟨⟨asks, later⟩, FieldOptions.merge_assoc _ _ _⟩
    · rintro ⟨⟨asks, later⟩, rfl⟩
      exact ⟨_, ⟨asks, rfl⟩, later, (FieldOptions.merge_assoc _ _ _).symm⟩

/-- Items that are refused are so for one of them, whatever is asked for by the others. -/
theorem exists_foldlM_add_error (refused : ¬ ∀ item ∈ items, item.ForField) :
    ∃ e, items.foldlM FieldOptions.add {} = .error e ∧ e ≠ .hiddenAndRenamed := by
  cases outcome : items.foldlM FieldOptions.add {} with
  | ok o => exact absurd (foldlM_add_eq_ok_iff.mp outcome).1 refused
  | error e =>
    refine ⟨e, rfl, ?_⟩
    rintro rfl
    obtain ⟨_, _, _, _, -, -, step⟩ := foldlM_eq_error_iff.mp outcome
    exact add_ne_hiddenAndRenamed step

/-! ### Options -/

theorem fieldOptions_of_forField (asks : ∀ item ∈ items, item.ForField) :
    fieldOptions items = if (asked items).Conflicting then .error .hiddenAndRenamed else .ok (asked items) := by
  have collected : items.foldlM FieldOptions.add {} = .ok (asked items) :=
    foldlM_add_eq_ok_iff.mpr ⟨asks, (FieldOptions.empty_merge _).symm⟩
  rw [fieldOptions, collected]
  exact if_congr Bool.and_eq_true_iff rfl rfl

theorem fieldOptions_of_error (failed : items.foldlM FieldOptions.add {} = .error e) :
    fieldOptions items = .error e := by
  rw [fieldOptions, failed]
  rfl

theorem fieldOptions_eq_ok_iff : fieldOptions items = .ok o ↔
    (∀ item ∈ items, item.ForField) ∧ ¬ (asked items).Conflicting ∧ o = asked items := by
  by_cases asks : ∀ item ∈ items, item.ForField
  · rw [fieldOptions_of_forField asks, and_iff_right asks]
    by_cases conflict : (asked items).Conflicting
    · simp [conflict]
    · simp [conflict, eq_comm]
  · obtain ⟨e, failed, -⟩ := exists_foldlM_add_error asks
    simp [fieldOptions_of_error failed, asks]

/-- More items change nothing just where an item before them is refused, or none of them is and they ask for nothing
more; a conflict stays one in any case. -/
theorem fieldOptions_append_eq_iff : fieldOptions first = fieldOptions (first ++ second) ↔
    (∃ item ∈ first, ¬ item.ForField) ∨
      (∀ item ∈ second, item.ForField) ∧ ((asked first).Conflicting ∨ (asked first).Covers (asked second)) := by
  by_cases refused : ∃ item ∈ first, ¬ item.ForField
  · obtain ⟨e, failed, -⟩ := exists_foldlM_add_error (by simpa using refused)
    have failedToo : (first ++ second).foldlM FieldOptions.add {} = .error e := by
      rw [List.foldlM_append, failed]
      rfl
    rw [fieldOptions_of_error failed, fieldOptions_of_error failedToo]
    exact iff_of_true rfl (Or.inl refused)
  · rw [or_iff_right refused]
    have asks : ∀ item ∈ first, item.ForField := by simpa using refused
    rw [fieldOptions_of_forField asks]
    by_cases asksLater : ∀ item ∈ second, item.ForField
    · rw [fieldOptions_of_forField (List.forall_mem_append.mpr ⟨asks, asksLater⟩), asked_append,
        and_iff_right asksLater]
      by_cases conflict : (asked first).Conflicting
      · rw [if_pos conflict, if_pos (conflict.merge _)]
        exact iff_of_true rfl (Or.inl conflict)
      · rw [if_neg conflict, or_iff_right conflict, ← FieldOptions.merge_eq_self_iff]
        constructor
        · intro same
          split at same
          · cases same
          · exact (Except.ok.inj same).symm
        · intro same
          rw [same, if_neg conflict]
    · obtain ⟨e, failed, other⟩ := exists_foldlM_add_error
        (fun all => asksLater (List.forall_mem_append.mp all).2 : ¬ ∀ item ∈ first ++ second, item.ForField)
      rw [fieldOptions_of_error failed]
      refine iff_of_false ?_ fun ⟨all, _⟩ => asksLater all
      split
      · rintro ⟨⟩
        exact other rfl
      · rintro ⟨⟩

end

end RecordQuery
