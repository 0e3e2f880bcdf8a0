import RecordQuery.Proofs.Exposure.Spread

/-!
What an attribute of a field may say. It is accepted just where its items are all for a field and do not both hide and
rename it, so the order of the items makes no difference to that, nor to whether the field is hidden. It does make one
to the name: of several the last counts.
-/

namespace RecordQuery

/-- The attribute has these items in its list, with or without a comma at the end, which leaves an empty word behind. -/
def Attribute.Lists (a : Attribute) (items : List AttributeItem) : Prop :=
  .word "" ∉ items ∧ (a.items = some items ∨ a.items = some (items ++ [.word ""]))

section
variable {a : Attribute} {item : AttributeItem} {items others : List AttributeItem} {o : FieldOptions}
  {name : String}

/-! ### Items of a list -/

theorem wellFormed_of_forField (asks : item.ForField) : item.WellFormed := by
  cases asks with
  | skip => exact check_eq_ok_iff.mpr (by decide +kernel)
  | @rename name nonempty =>
    have read : (readPath false "rename".toList).toOption = some [] := by decide +kernel
    exact check_eq_ok_iff.mpr read

theorem Attribute.Lists.arguments_eq_ok_iff (lists : a.Lists items) :
    a.arguments = .ok others ↔ (∀ item ∈ items, item.WellFormed) ∧ others = items := by
  obtain ⟨shown, written⟩ := lists
  obtain ⟨ending, ends, written⟩ : ∃ ending, (ending = [] ∨ ending = [.word ""]) ∧
      a.items = some (items ++ ending) := by
    obtain exact | behind := written
    · exact ⟨[], .inl rfl, by rw [exact, List.append_nil]⟩
    · exact ⟨_, .inr rfl, behind⟩
  rw [Attribute.arguments, written]
  exact mapError_eq_ok_iff.trans (checkItems_append_eq_ok_iff shown ends)

theorem Attribute.Lists.options_eq_ok_iff (lists : a.Lists items) : a.arguments >>= fieldOptions = .ok o ↔
    (∀ item ∈ items, item.ForField) ∧ ¬ (asked items).Conflicting ∧ o = asked items := by
  simp only [bind_eq_ok_iff, lists.arguments_eq_ok_iff, ← fieldOptions_eq_ok_iff]
  constructor
  · rintro ⟨_, ⟨-, rfl⟩, done⟩
    exact done
  · intro done
    have asks := (fieldOptions_eq_ok_iff.mp done).1
    exact ⟨items, ⟨fun item mem => wellFormed_of_forField (asks item mem), rfl⟩, done⟩

/-! ### What the items ask for -/

theorem rename?_eq_some_iff : item.rename? = some name ↔ item = .assign "rename" (.text name) := by
  unfold AttributeItem.rename?
  split
  · simp
  · next other =>
    refine iff_of_false (fun same => nomatch same) ?_
    rintro rfl
    exact other name rfl

theorem asked_hidden_iff : (asked items).hidden = true ↔ .word "skip" ∈ items := List.contains_iff_mem

/-- The last name that is given counts. -/
theorem asked_rename_eq_some_iff : (asked items).rename = some name ↔
    ∃ before after, items = before ++ .assign "rename" (.text name) :: after ∧
      ∀ other, .assign "rename" (.text other) ∉ after := by
  have none : ∀ {item : AttributeItem}, item.rename? = none ↔ ∀ other, item ≠ .assign "rename" (.text other) := by
    intro item
    rw [Option.eq_none_iff_forall_ne_some]
    exact forall_congr' fun other => rename?_eq_some_iff.not
  rw [asked, List.getLast?_filterMap, List.findSome?_eq_some_iff]
  constructor
  · rintro ⟨after, item, before, split, gives, unnamed⟩
    obtain rfl := rename?_eq_some_iff.mp gives
    refine ⟨before.reverse, after.reverse, by simpa using congrArg List.reverse split, fun other mem => ?_⟩
    exact none.mp (unnamed _ (List.mem_reverse.mp mem)) other rfl
  · rintro ⟨before, after, rfl, last⟩
    refine ⟨after.reverse, _, before.reverse, by simp, rename?_eq_some_iff.mpr rfl, fun item mem => ?_⟩
    refine none.mpr ?_
    rintro other rfl
    exact last other (List.mem_reverse.mp mem)

theorem asked_conflicting_iff : (asked items).Conflicting ↔
    .word "skip" ∈ items ∧ ∃ name, .assign "rename" (.text name) ∈ items := by
  have named : (asked items).rename.isSome = true ↔ ∃ item ∈ items, item.rename?.isSome = true := by simp [asked]
  rw [FieldOptions.Conflicting, asked_hidden_iff, named]
  refine and_congr_right fun _ => ?_
  constructor
  · rintro ⟨item, mem, gives⟩
    obtain ⟨name, gives⟩ := Option.isSome_iff_exists.mp gives
    exact ⟨name, rename?_eq_some_iff.mp gives ▸ mem⟩
  · rintro ⟨name, mem⟩
    exact ⟨_, mem, rfl⟩

/-! ### Acceptance -/

theorem exists_options_iff (lists : a.Lists items) : (∃ o, a.arguments >>= fieldOptions = .ok o) ↔
    (∀ item ∈ items, item.ForField) ∧ ¬ (.word "skip" ∈ items ∧ ∃ name, .assign "rename" (.text name) ∈ items) := by
  simp only [lists.options_eq_ok_iff, asked_conflicting_iff]
  constructor
  · rintro ⟨_, asks, apart, rfl⟩
    exact ⟨asks, apart⟩
  · rintro ⟨asks, apart⟩
    exact ⟨_, asks, apart, rfl⟩

/-- An attribute of a field is accepted just where each of its items hides the field or gives it a name that is not
empty, and there are not items of both kinds. The field is then hidden if an item hides it, and has the last name that
is given. Items in another order are accepted too, and hide the field or do not as before. -/
theorem options_of_items (lists : a.Lists items) :
    ((∃ o, a.arguments >>= fieldOptions = .ok o) ↔ (∀ item ∈ items, item.ForField) ∧
      ¬ (.word "skip" ∈ items ∧ ∃ name, .assign "rename" (.text name) ∈ items)) ∧
    (∀ o, a.arguments >>= fieldOptions = .ok o → (o.hidden = true ↔ .word "skip" ∈ items) ∧
      ∀ name, o.rename = some name ↔ ∃ before after, items = before ++ .assign "rename" (.text name) :: after ∧
        ∀ other, .assign "rename" (.text other) ∉ after) ∧
    (∀ (b : Attribute) (others : List AttributeItem), b.Lists others → items.Perm others →
      ((∃ o, a.arguments >>= fieldOptions = .ok o) ↔ ∃ o, b.arguments >>= fieldOptions = .ok o) ∧
      ∀ o o', a.arguments >>= fieldOptions = .ok o → b.arguments >>= fieldOptions = .ok o' →
        o.hidden = o'.hidden) := by
  refine ⟨exists_options_iff lists, fun o done => ?_, fun b others listsOthers perm => ⟨?_, fun o o' done done' => ?_⟩⟩
  · obtain ⟨-, -, rfl⟩ := lists.options_eq_ok_iff.mp done
    exact ⟨asked_hidden_iff, fun name => asked_rename_eq_some_iff⟩
  · rw [exists_options_iff lists, exists_options_iff listsOthers]
    simp only [perm.mem_iff]
  · obtain ⟨-, -, rfl⟩ := lists.options_eq_ok_iff.mp done
    obtain ⟨-, -, rfl⟩ := listsOthers.options_eq_ok_iff.mp done'
    rw [Bool.eq_iff_iff, asked_hidden_iff, asked_hidden_iff, perm.mem_iff]

end

/-- Two names, with a comma behind the last. -/
theorem options_of_items_namedTwice :
    Attribute.Lists (.query [.assign "rename" (.text "id"), .assign "rename" (.text "code"), .word ""])
      [.assign "rename" (.text "id"), .assign "rename" (.text "code")] ∧
    ∃ o, (Attribute.query [.assign "rename" (.text "id"), .assign "rename" (.text "code"), .word ""]).arguments >>=
      fieldOptions = .ok o ∧ o.hidden = false ∧ o.rename = some "code" := by
  have lists : Attribute.Lists (.query [.assign "rename" (.text "id"), .assign "rename" (.text "code"), .word ""])
      [.assign "rename" (.text "id"), .assign "rename" (.text "code")] :=
    ⟨by simp, Or.inr rfl⟩
  have asks : ∀ item ∈ [AttributeItem.assign "rename" (.text "id"), .assign "rename" (.text "code")],
      item.ForField := by
    have id : (AttributeItem.assign "rename" (.text "id")).ForField := .rename (by decide)
    have code : (AttributeItem.assign "rename" (.text "code")).ForField := .rename (by decide)
    simp [id, code]
  obtain ⟨accepted, outcome, -⟩ := options_of_items lists
  obtain ⟨o, done⟩ := accepted.mpr ⟨asks, by simp⟩
  obtain ⟨hidden, rename⟩ := outcome o done
  refine ⟨lists, o, done, ?_, (rename "code").mpr ⟨[.assign "rename" (.text "id")], [], rfl, by simp⟩⟩
  rw [← Bool.not_eq_true, hidden]
  simp

end RecordQuery
