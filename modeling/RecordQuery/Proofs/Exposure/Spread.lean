import RecordQuery.Proofs.Exposure.Constants
import RecordQuery.Proofs.Exposure.FieldItems

/-!
Items that are spread over several attributes. The attributes of a type are taken together, so that it makes no
difference how its items are spread. Of the attributes of a field the first one decides alone, and what the others ask
for is lost: such a field may be exposed although one of them hides it.
-/

namespace RecordQuery

/-- The name of the item is a path and nothing more. -/
def AttributeItem.WellFormed (item : AttributeItem) : Prop := item.check false = .ok ()

instance (item : AttributeItem) : Decidable item.WellFormed := inferInstanceAs (Decidable (_ = _))

/-- An attribute about queries with a list of items. -/
def Attribute.query (items : List AttributeItem) : Attribute := ⟨"query", some items⟩

/-- The attributes about queries have these lists of items. There may be other attributes between them. -/
def ItemsIn (attributes : List Attribute) (parts : List (List AttributeItem)) : Prop :=
  attributes.filter Attribute.isQuery = parts.map Attribute.query

instance (attributes : List Attribute) (parts : List (List AttributeItem)) : Decidable (ItemsIn attributes parts) :=
  inferInstanceAs (Decidable (_ = _))

/-! ### Well-formed items -/

section
variable {item : AttributeItem} {items others : List AttributeItem}

/-- Whether anything follows a text makes a difference to errors only. -/
theorem toOption_readSegments (isLast isFirst : Bool) (fuel : Nat) (cs : List Char) :
    (readSegments isLast isFirst fuel cs).toOption = (readSegments false isFirst fuel cs).toOption := by
  induction fuel generalizing isFirst cs with
  | zero => rfl
  | succ fuel ih =>
    rw [readSegments, readSegments]
    split
    · split
      · exact ih _ _
      · rfl
    · split
      · split <;> rfl
      · rfl

theorem toOption_readPath (isLast : Bool) (cs : List Char) :
    (readPath isLast cs).toOption = (readPath false cs).toOption := by
  unfold readPath
  split
  · rfl
  · exact toOption_readSegments _ _ _ _
  · exact toOption_readSegments _ _ _ _

theorem check_eq_ok_iff {isLast : Bool} :
    item.check isLast = .ok () ↔ (readPath false item.name.toList).toOption = some [] := by
  unfold AttributeItem.check
  simp only [bind_eq_ok_iff]
  rw [← toOption_readPath, toOption_eq_some_iff]
  constructor
  · rintro ⟨rest, read, ended⟩
    split at ended
    · exact read
    · cases ended
  · exact fun read => ⟨[], read, rfl⟩

theorem not_wellFormed_empty : ¬ (AttributeItem.word "").WellFormed := by
  rw [AttributeItem.WellFormed, check_eq_ok_iff]
  rintro ⟨⟩

theorem checkItems_cons_eq_ok_iff (shown : item ≠ .word "") : checkItems (item :: items) = .ok others ↔
    item.WellFormed ∧ ∃ rest, checkItems items = .ok rest ∧ item :: rest = others := by
  have step : checkItems (item :: items) =
      (item.check items.isEmpty >>= fun _ => (checkItems items).map (item :: ·)) := by
    rw [checkItems, if_neg fun ended => shown ended.1]
    rfl
  have wellFormed : item.check items.isEmpty = .ok () ↔ item.WellFormed := check_eq_ok_iff.trans check_eq_ok_iff.symm
  rw [step]
  simp only [bind_eq_ok_iff, map_eq_ok_iff, ← wellFormed]
  constructor
  · rintro ⟨_, read⟩
    exact read
  · intro read
    exact ⟨(), read⟩

/-- A list, with a comma at its end or without, is read as the items that it has, if these are all well formed. -/
theorem checkItems_append_eq_ok_iff {ending : List AttributeItem} (shown : .word "" ∉ items)
    (ends : ending = [] ∨ ending = [.word ""]) :
    checkItems (items ++ ending) = .ok others ↔ (∀ item ∈ items, item.WellFormed) ∧ others = items := by
  induction items generalizing others with
  | nil =>
    have nothing : checkItems ending = .ok [] := by
      obtain rfl | rfl := ends <;> rfl
    simp [nothing, eq_comm]
  | cons item items ih =>
    obtain ⟨here, later⟩ := List.ne_and_not_mem_of_not_mem_cons shown
    rw [List.cons_append, checkItems_cons_eq_ok_iff here.symm, List.forall_mem_cons, and_assoc]
    simp [ih later, eq_comm]

theorem checkItems_of_wellFormed (wellFormed : ∀ item ∈ items, item.WellFormed) : checkItems items = .ok items := by
  have shown : .word "" ∉ items := fun mem => not_wellFormed_empty (wellFormed _ mem)
  simpa using (checkItems_append_eq_ok_iff shown (.inl rfl)).mpr ⟨wellFormed, rfl⟩

theorem arguments_query (wellFormed : ∀ item ∈ items, item.WellFormed) :
    (Attribute.query items).arguments = .ok items := by
  change (checkItems items).mapError _ = _
  rw [checkItems_of_wellFormed wellFormed]
  rfl

end

/-! ### Attributes of a type -/

section
variable {attributes : List Attribute} {parts : List (List AttributeItem)}

/-- The attributes of a type are read as one attribute with all their items. -/
theorem accessors_eq (spread : ItemsIn attributes parts) (wellFormed : ∀ item ∈ parts.flatten, item.WellFormed) :
    accessors attributes = (parts.flatten.mapM typeItem).map List.flatten := by
  rw [accessors, spread, List.mapM_map]
  refine mapM_flatten fun items member => ?_
  have read := arguments_query fun item inside => wellFormed item (List.mem_flatten_of_mem member inside)
  rw [Function.comp_apply, read]
  rfl

end

/-! ### Attributes of a field -/

section
variable {f g : DeclaredField} {first : List AttributeItem} {later : List (List AttributeItem)}

/-- The first attribute alone decides. -/
theorem options_eq (spread : ItemsIn f.attributes (first :: later)) (wellFormed : ∀ item ∈ first, item.WellFormed) :
    f.options = fieldOptions first := by
  have found : f.attributes.find? Attribute.isQuery = some (.query first) := by
    rw [← List.head?_filter, spread]
    rfl
  rw [DeclaredField.options, found]
  change (Attribute.query first).arguments >>= fieldOptions = _
  rw [arguments_query wellFormed]
  rfl

/-- A field is exposed as long as its first attribute is accepted and does not hide it, whatever others ask for. -/
theorem entry_eq_some_iff {entry : String × Source} (spread : ItemsIn f.attributes (first :: later))
    (wellFormed : ∀ item ∈ first, item.WellFormed) : f.entry = .ok (some entry) ↔
      (∀ item ∈ first, item.ForField) ∧ .word "skip" ∉ first ∧
        entry = ((asked first).rename.getD f.name, .field f.name) := by
  have hidden : (asked first).hidden = true ↔ .word "skip" ∈ first := List.contains_iff_mem
  rw [DeclaredField.entry, map_eq_ok_iff, options_eq spread wellFormed]
  simp only [fieldOptions_eq_ok_iff]
  constructor
  · rintro ⟨_, ⟨asks, -, rfl⟩, shown⟩
    split at shown
    · cases shown
    · next visible => exact ⟨asks, mt hidden.mpr visible, (Option.some.inj shown).symm⟩
  · rintro ⟨asks, visible, rfl⟩
    refine ⟨_, ⟨asks, fun conflict => visible (hidden.mp conflict.1), rfl⟩, ?_⟩
    rw [if_neg (mt hidden.mp visible)]

/-- Items of a type may be spread over attributes in any way. Of those of a field only the first attribute counts: what
it asks for is what all of them ask for just where one of its items is refused, or where the later ones are accepted
and it has a conflict already or asks for all that they do. A field is hidden by its first attribute alone. -/
theorem options_spread_iff {f g : DeclaredField} {first : List AttributeItem} {later : List (List AttributeItem)}
    (spread : ItemsIn f.attributes (first :: later)) (together : ItemsIn g.attributes [first ++ later.flatten])
    (wellFormed : ∀ item ∈ first ++ later.flatten, item.WellFormed) :
    f.options = fieldOptions first ∧ g.options = fieldOptions (first ++ later.flatten) ∧
    (f.options = g.options ↔ (∃ item ∈ first, ¬ item.ForField) ∨
      (∀ item ∈ later.flatten, item.ForField) ∧
        ((asked first).Conflicting ∨ (asked first).Covers (asked later.flatten))) ∧
    (∀ entry, f.entry = .ok (some entry) ↔ (∀ item ∈ first, item.ForField) ∧ .word "skip" ∉ first ∧
      entry = ((asked first).rename.getD f.name, .field f.name)) ∧
    (∀ apart whole, ItemsIn apart (first :: later) → ItemsIn whole [first ++ later.flatten] →
      accessors apart = accessors whole) := by
  have early := fun item inside => wellFormed item (List.mem_append_left _ inside)
  have ofFirst := options_eq spread early
  have ofAll := options_eq together wellFormed
  refine ⟨ofFirst, ofAll, ?_, fun entry => entry_eq_some_iff spread early, fun apart whole parts one => ?_⟩
  · rw [ofFirst, ofAll, fieldOptions_append_eq_iff]
  · have flat : [first ++ later.flatten].flatten = (first :: later).flatten := by simp
    have inParts : ∀ item ∈ (first :: later).flatten, item.WellFormed := by simpa using wellFormed
    rw [accessors_eq parts inParts, accessors_eq one (flat ▸ inParts), flat]

end

/-- A field with a name in its first attribute about queries and another one in a later attribute. -/
def namedTwice : DeclaredField where
  name := "key"
  attributes := [⟨"doc", none⟩, .query [.assign "rename" (.text "id")], ⟨"doc", none⟩,
    .query [.assign "rename" (.text "code")]]

/-- The field with both names in one attribute. -/
def namedTogether : DeclaredField where
  name := "key"
  attributes := [.query [.assign "rename" (.text "id"), .assign "rename" (.text "code")]]

theorem options_spread_iff_namedTwice :
    ItemsIn namedTwice.attributes [[.assign "rename" (.text "id")], [.assign "rename" (.text "code")]] ∧
    ItemsIn namedTogether.attributes [[.assign "rename" (.text "id"), .assign "rename" (.text "code")]] ∧
    namedTwice.options ≠ namedTogether.options ∧ namedTwice.entry = .ok (some ("id", .field "key")) := by
  have spread : ItemsIn namedTwice.attributes [[.assign "rename" (.text "id")], [.assign "rename" (.text "code")]] := by
    decide
  have together :
      ItemsIn namedTogether.attributes [[.assign "rename" (.text "id"), .assign "rename" (.text "code")]] := by
    decide
  obtain ⟨-, -, same, shown, -⟩ := options_spread_iff spread together (by decide +kernel)
  have asks : ∀ item ∈ [AttributeItem.assign "rename" (.text "id")], item.ForField := by
    simpa using AttributeItem.ForField.rename (by decide)
  refine ⟨spread, together, mt same.mp ?_, (shown _).mpr ⟨asks, by decide, by decide⟩⟩
  rintro (⟨item, member, refused⟩ | ⟨-, conflict | covers⟩)
  · exact refused (asks item member)
  · exact absurd conflict (by decide)
  · exact absurd (covers.2 "code" (by decide)) (by decide)

namespace Exposure

/-- A field that only a later attribute hides is exposed, although one attribute that asks for the same is refused. -/
theorem hiddenLater_exposed :
    ofDeclaration (oneField "secret" [.query [.assign "rename" (.text "code")], .query [.word "skip"]]) =
      .ok ⟨"Dog", [("CODE", "code")], [("code", .field "secret")]⟩ ∧
    ofDeclaration (oneField "secret" [.query [.assign "rename" (.text "code"), .word "skip"]]) =
      .error .hiddenAndRenamed := by
  decide +kernel

end Exposure

end RecordQuery
