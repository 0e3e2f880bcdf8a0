import RecordQuery.Proofs.Exposure.Names

/-!
The constants that spell the names of fields. A name makes a constant just where it is an identifier once its
hyphens are low lines; at any other name that it comes to, exposure breaks off. All other failures are found before a
constant is made, or have nothing to do with constants.
-/

namespace RecordQuery

/-! ### Letters in capitals -/

/-- The letters whose capitals constants are written in. -/
def smallLetters : List Char := (List.range 26).map fun n => Char.ofNat ('a'.toNat + n)

section
variable {c d : Char} {cs : List Char}

theorem toUpper_eq_self_or_small (c : Char) : c.toUpper = c ∨ c ∈ smallLetters := by
  unfold Char.toUpper
  split
  · next bounds =>
    have low : 'a'.toNat ≤ c.toNat := bounds.1
    have high : c.toNat < 'a'.toNat + 26 := Nat.lt_succ_of_le bounds.2
    refine Or.inr (List.mem_map.mpr ⟨c.toNat - 'a'.toNat, List.mem_range.mpr (by omega), ?_⟩)
    rw [Nat.add_sub_cancel' low, Char.ofNat_toNat]
  · exact Or.inl rfl

-- The letters are run through by `List.all`: to decide `∀ c ∈ smallLetters` may mean to try all characters.
theorem small_isUppercase (small : c ∈ smallLetters) :
    Unicode.isUppercase c = false ∧ Unicode.isUppercase c.toUpper = true := by
  have all : smallLetters.all fun c => !Unicode.isUppercase c && Unicode.isUppercase c.toUpper := by decide +kernel
  simpa using List.all_eq_true.mp all c small

theorem small_isIdentifier (small : c ∈ smallLetters) : isNameStart c.toUpper = isNameStart c ∧
    Unicode.isIdentifierContinue c.toUpper = Unicode.isIdentifierContinue c := by
  have all : smallLetters.all fun c => isNameStart c.toUpper == isNameStart c &&
      Unicode.isIdentifierContinue c.toUpper == Unicode.isIdentifierContinue c := by decide +kernel
  simpa using List.all_eq_true.mp all c small

theorem small_injective (hc : c ∈ smallLetters) (hd : d ∈ smallLetters) (same : c.toUpper = d.toUpper) : c = d := by
  have distinct : (smallLetters.map Char.toUpper).Nodup := by decide +kernel
  exact List.inj_on_of_nodup_map distinct hc hd same

theorem isNameStart_toUpper (c : Char) : isNameStart c.toUpper = isNameStart c := by
  rcases toUpper_eq_self_or_small c with same | small
  · rw [same]
  · exact (small_isIdentifier small).1

theorem isIdentifierContinue_toUpper (c : Char) :
    Unicode.isIdentifierContinue c.toUpper = Unicode.isIdentifierContinue c := by
  rcases toUpper_eq_self_or_small c with same | small
  · rw [same]
  · exact (small_isIdentifier small).2

theorem toUpper_of_isUppercase (capital : Unicode.isUppercase c = true) : c.toUpper = c := by
  refine (toUpper_eq_self_or_small c).resolve_right fun small => ?_
  rw [(small_isUppercase small).1] at capital
  cases capital

/-- Characters that are no capitals themselves have different capitals. -/
theorem eq_of_toUpper_eq (hc : Unicode.isUppercase c = false) (hd : Unicode.isUppercase d = false)
    (same : c.toUpper = d.toUpper) : c = d := by
  rcases toUpper_eq_self_or_small c with sc | small
  · rcases toUpper_eq_self_or_small d with sd | small
    · rw [← sc, same, sd]
    · have capital := (small_isUppercase small).2
      rw [← same, sc, hc] at capital
      cases capital
  · rcases toUpper_eq_self_or_small d with sd | small'
    · have capital := (small_isUppercase small).2
      rw [same, sd, hd] at capital
      cases capital
    · exact small_injective small small' same

/-! ### Spelling -/

theorem hyphen_facts : Unicode.isUppercase '-' = false ∧ isNameStart '-' = false ∧
    Unicode.isIdentifierContinue '-' = false ∧ Unicode.isIdentifierContinue '_' = true := by
  decide +kernel

theorem all_screamingSnake (afterSmall : Bool) (cs : List Char) :
    (screamingSnake afterSmall cs).all Unicode.isIdentifierContinue =
      cs.all fun c => c == '-' || Unicode.isIdentifierContinue c := by
  obtain ⟨small, -, -, lowLine⟩ := hyphen_facts
  induction cs generalizing afterSmall with
  | nil => rfl
  | cons c cs ih =>
    rw [screamingSnake]
    split
    · next capital =>
      have other : (c == '-') = false := by
        rw [beq_eq_false_iff_ne]
        rintro rfl
        cases small.symm.trans capital
      cases afterSmall <;> simp [ih, other, lowLine]
    · split
      · next mark =>
        rcases mark with rfl | rfl <;> simp [ih, lowLine]
      · next unmarked =>
        have other : (c == '-') = false := beq_eq_false_iff_ne.mpr fun hyphen => unmarked (Or.inr hyphen)
        simp [ih, other, isIdentifierContinue_toUpper]

/-- A name is an identifier, once its hyphens are low lines. -/
def SpellsConstant (name : String) : Prop :=
  isIdentifier (String.ofList (name.toList.map fun c => if c = '-' then '_' else c)) = true

instance (name : String) : Decidable (SpellsConstant name) := inferInstanceAs (Decidable (_ = true))

theorem isIdentifier_ofList_cons (c : Char) (cs : List Char) :
    isIdentifier (String.ofList (c :: cs)) = (isNameStart c && cs.all Unicode.isIdentifierContinue) := by
  rw [isIdentifier, String.toList_ofList]

theorem spellsConstant_cons_iff {name : String} (spelled : name.toList = c :: cs) : SpellsConstant name ↔
    (c = '-' ∨ isNameStart c = true) ∧ ∀ d ∈ cs, d = '-' ∨ Unicode.isIdentifierContinue d = true := by
  obtain ⟨-, -, -, lowLine⟩ := hyphen_facts
  rw [SpellsConstant, spelled, List.map_cons, isIdentifier_ofList_cons, Bool.and_eq_true, List.all_map,
    List.all_eq_true]
  refine and_congr ?_ (forall₂_congr fun d _ => ?_)
  · by_cases hyphen : c = '-'
    · simp [hyphen, isNameStart]
    · simp [hyphen]
  · by_cases hyphen : d = '-'
    · simp [hyphen, lowLine]
    · simp [hyphen]

/-- A name makes a constant just where it is an identifier, once its hyphens are low lines. -/
theorem isIdentifier_constantName_iff (name : String) :
    isIdentifier (constantName name) = true ↔ SpellsConstant name := by
  obtain ⟨small, -, -, -⟩ := hyphen_facts
  cases spelled : name.toList with
  | nil =>
    rw [SpellsConstant, constantName, spelled]
    rfl
  | cons c cs =>
    have rest : ∀ afterSmall, (screamingSnake afterSmall cs).all Unicode.isIdentifierContinue = true ↔
        ∀ d ∈ cs, d = '-' ∨ Unicode.isIdentifierContinue d = true := by
      intro afterSmall
      simp [all_screamingSnake]
    rw [spellsConstant_cons_iff spelled, constantName, spelled, screamingSnake]
    split
    · next capital =>
      have other : c ≠ '-' := by
        rintro rfl
        cases small.symm.trans capital
      -- No low line goes before a capital that comes first.
      rw [if_neg Bool.false_ne_true, List.singleton_append, isIdentifier_ofList_cons, Bool.and_eq_true, rest,
        or_iff_right other]
    · split
      · next mark =>
        rw [isIdentifier_ofList_cons, Bool.and_eq_true, rest]
        refine and_congr_left fun _ => ?_
        rcases mark with rfl | rfl <;> simp [isNameStart]
      · next unmarked =>
        rw [isIdentifier_ofList_cons, Bool.and_eq_true, rest, isNameStart_toUpper,
          or_iff_right fun hyphen => unmarked (Or.inr hyphen)]

/-- An identifier makes a constant. -/
theorem spellsConstant_of_isIdentifier {name : String} (plain : isIdentifier name = true) : SpellsConstant name := by
  cases spelled : name.toList with
  | nil =>
    rw [isIdentifier, spelled] at plain
    cases plain
  | cons c cs =>
    rw [isIdentifier, spelled, Bool.and_eq_true, List.all_eq_true] at plain
    exact (spellsConstant_cons_iff spelled).mpr ⟨Or.inr plain.1, fun d member => Or.inr (plain.2 d member)⟩

/-- A word that is marked to be no keyword makes none. -/
theorem not_spellsConstant_raw (word : String) : ¬ SpellsConstant ("r#" ++ word) := by
  have spelled : ("r#" ++ word).toList = 'r' :: '#' :: word.toList := String.toList_append
  intro spells
  rcases ((spellsConstant_cons_iff spelled).mp spells).2 '#' List.mem_cons_self with hyphen | continues
  · exact absurd hyphen (by decide)
  · exact absurd continues (by decide +kernel)

end

/-! ### What is reported -/

/-- The result is no failure of a name to make a constant. -/
def Reported {α : Type} (x : Except ExposureError α) : Prop := ∀ constant, x ≠ .error (.invalidConstant constant)

section
variable {α β : Type} {x : Except ExposureError α}

theorem reported_ok (a : α) : Reported (.ok a : Except ExposureError α) := by
  rintro _ ⟨⟩

theorem Reported.bind {f : α → Except ExposureError β} (hx : Reported x) (hf : ∀ a, Reported (f a)) :
    Reported (x >>= f) := by
  intro constant failed
  rcases bind_eq_error_iff.mp failed with head | ⟨a, -, tail⟩
  · exact hx constant head
  · exact hf a constant tail

theorem Reported.map {f : α → β} (hx : Reported x) : Reported (x.map f) :=
  fun constant failed => hx constant (map_eq_error_iff.mp failed)

theorem Reported.mapM {f : β → Except ExposureError α} (hf : ∀ b, Reported (f b)) (bs : List β) :
    Reported (bs.mapM f) := by
  induction bs with
  | nil => exact reported_ok []
  | cons b bs ih =>
    rw [List.mapM_cons]
    exact (hf b).bind fun _ => ih.bind fun _ => reported_ok _

theorem Reported.foldlM {f : α → β → Except ExposureError α} (hf : ∀ a b, Reported (f a b)) (bs : List β) (a : α) :
    Reported (bs.foldlM f a) := by
  intro constant failed
  obtain ⟨-, b, -, a', -, -, step⟩ := foldlM_eq_error_iff.mp failed
  exact hf a' b constant step

theorem reported_malformedName (y : Except NameError α) : Reported (y.mapError .malformedName) := by
  cases y with
  | error e => rintro _ ⟨⟩
  | ok a => exact reported_ok a

theorem reported_arguments (a : Attribute) : Reported a.arguments := by
  unfold Attribute.arguments
  split
  · exact reported_malformedName _
  · rintro _ ⟨⟩

theorem reported_typeItem (item : AttributeItem) : Reported (typeItem item) := by
  unfold typeItem
  split
  · exact reported_malformedName _
  · rintro _ ⟨⟩

theorem reported_accessors (attributes : List Attribute) : Reported (accessors attributes) := by
  refine (Reported.mapM (fun a => ?_) _).bind fun _ => reported_ok _
  exact (reported_arguments a).bind fun items => (Reported.mapM reported_typeItem items).bind fun _ => reported_ok _

theorem reported_add (o : FieldOptions) (item : AttributeItem) : Reported (o.add item) := by
  unfold FieldOptions.add
  split <;> rintro _ ⟨⟩

theorem reported_options (f : DeclaredField) : Reported f.options := by
  unfold DeclaredField.options
  split
  · refine (reported_arguments _).bind fun items => (Reported.foldlM reported_add items _).bind fun o => ?_
    split
    · rintro _ ⟨⟩
    · exact reported_ok o
  · exact reported_ok _

end

/-! ### Where exposure breaks off -/

/-- In turn, the fields come to a name that is not taken yet, and all names before it make constants. -/
def ComeTo (fields : List DeclaredField) (name : String) : Prop :=
  ∃ before f after taken source, fields = before ++ f :: after ∧ fieldEntries before = .ok taken ∧
    (∀ x ∈ taken, SpellsConstant x.1) ∧ f.entry = .ok (some (name, source)) ∧ (name :: taken.map Prod.fst).Nodup

/-- Exposure of the declaration comes to a name of a field that is not taken yet. -/
structure Declaration.Reaches (d : Declaration) (name : String) : Prop where
  shape : d.shape = .namedFields
  methods : ∃ methods, accessors d.attributes = .ok methods
  fields : ComeTo d.fields name

namespace Exposure

section
variable {d : Declaration} {fields : List DeclaredField} {typeName constant : String}

theorem foldlM_addField_eq_invalidConstant_iff :
    fields.foldlM addField ⟨typeName, [], []⟩ = .error (.invalidConstant constant) ↔
      ∃ name, ComeTo fields name ∧ ¬ SpellsConstant name ∧ constant = constantName name := by
  have names : ∀ taken, ((⟨typeName, [], []⟩ : Exposure).withFields taken).names = taken.map Prod.fst :=
    fun taken => names_withFields _ taken
  simp only [foldlM_eq_error_iff, foldlM_addField_first_eq_ok_iff, addField_eq_error_iff,
    isIdentifier_constantName_iff]
  constructor
  · rintro ⟨before, f, after, _, cut, ⟨taken, read, distinct, valid, rfl⟩,
      unread | ⟨name, source, here, ⟨-, ⟨⟩⟩ | ⟨fresh, unspelled, same⟩⟩⟩
    · exact absurd unread ((reported_options f).map constant)
    · rw [names] at fresh
      refine ⟨name, ⟨before, f, after, taken, source, cut, read, valid, here, ?_⟩, unspelled, ?_⟩
      · exact List.nodup_cons.mpr ⟨fresh, distinct⟩
      · exact ExposureError.invalidConstant.inj same
  · rintro ⟨name, ⟨before, f, after, taken, source, cut, read, valid, here, distinct⟩, unspelled, rfl⟩
    obtain ⟨fresh, distinct⟩ := List.nodup_cons.mp distinct
    rw [← names taken] at fresh
    exact ⟨before, f, after, _, cut, ⟨taken, read, distinct, valid, rfl⟩,
      Or.inr ⟨name, source, here, Or.inr ⟨fresh, unspelled, rfl⟩⟩⟩

theorem reported_addMethod (e : Exposure) (m : String) : Reported (e.addMethod m) := by
  rw [addMethod, addSource_eq]
  split
  · rintro _ ⟨⟩
  · exact reported_ok _

/-- Exposure breaks off just where it comes to a name that makes no constant. -/
theorem ofDeclaration_eq_invalidConstant_iff : ofDeclaration d = .error (.invalidConstant constant) ↔
    ∃ name, d.Reaches name ∧ ¬ SpellsConstant name ∧ constant = constantName name := by
  constructor
  · intro failed
    rcases ofDeclaration_cases d with ⟨-, other⟩ | ⟨-, other⟩ | ⟨shape, ⟨err, unread, other⟩ | ⟨methods, read, run⟩⟩
    · cases other.symm.trans failed
    · cases other.symm.trans failed
    · cases other.symm.trans failed
      exact absurd unread (reported_accessors d.attributes constant)
    · rcases bind_eq_error_iff.mp (run.symm.trans failed) with inFields | ⟨e, -, inMethods⟩
      · obtain ⟨name, reached, unspelled, same⟩ := foldlM_addField_eq_invalidConstant_iff.mp inFields
        exact ⟨name, ⟨shape, ⟨methods, read⟩, reached⟩, unspelled, same⟩
      · exact absurd inMethods (Reported.foldlM reported_addMethod methods e constant)
  · rintro ⟨name, ⟨shape, ⟨methods, read⟩, reached⟩, unspelled, same⟩
    rw [ofDeclaration_eq shape read]
    exact bind_eq_error_iff.mpr
      (Or.inl (foldlM_addField_eq_invalidConstant_iff.mpr ⟨name, reached, unspelled, same⟩))

end

/-- Exposure breaks off just where it comes to a name that makes no constant. So it never does where all names are
identifiers, and it does at each name that is marked to be no keyword. -/
theorem invalidConstant_iff_unspelled (d : Declaration) :
    (∀ constant, ofDeclaration d = .error (.invalidConstant constant) ↔
      ∃ name, d.Reaches name ∧ ¬ SpellsConstant name ∧ constant = constantName name) ∧
    ((∀ f ∈ d.fields, ∀ name source, f.entry = .ok (some (name, source)) → isIdentifier name = true) →
      ∀ constant, ofDeclaration d ≠ .error (.invalidConstant constant)) ∧
    ∀ word, d.Reaches ("r#" ++ word) →
      ofDeclaration d = .error (.invalidConstant (constantName ("r#" ++ word))) := by
  refine ⟨fun constant => ofDeclaration_eq_invalidConstant_iff, fun plain constant failed => ?_, fun word reached => ?_⟩
  · obtain ⟨name, ⟨-, -, before, f, after, -, source, cut, -, -, here, -⟩, unspelled, -⟩ :=
      ofDeclaration_eq_invalidConstant_iff.mp failed
    have member : f ∈ d.fields := cut ▸ List.mem_append_right _ List.mem_cons_self
    exact unspelled (spellsConstant_of_isIdentifier (plain f member name source here))
  · exact ofDeclaration_eq_invalidConstant_iff.mpr ⟨_, reached, not_spellsConstant_raw word, rfl⟩

/-- A declaration of one field. -/
def oneField (name : String) (attributes : List Attribute) : Declaration where
  name := "Dog"
  shape := .namedFields
  attributes := []
  fields := [⟨name, attributes⟩]

theorem invalidConstant_iff_unspelled_type :
    (oneField "r#type" []).Reaches "r#type" ∧
    ofDeclaration (oneField "r#type" []) = .error (.invalidConstant "R#TYPE") ∧
    (∀ constant, ofDeclaration (oneField "kind" []) ≠ .error (.invalidConstant constant)) := by
  have reached : (oneField "r#type" []).Reaches "r#type" :=
    ⟨rfl, ⟨[], rfl⟩, [], _, [], [], _, rfl, rfl, by simp, rfl, by simp⟩
  refine ⟨reached, ?_, (invalidConstant_iff_unspelled _).2.1 ?_⟩
  · have breaks := (invalidConstant_iff_unspelled _).2.2 "type" reached
    rw [breaks]
    decide +kernel
  · intro f member name source here
    obtain rfl : f = ⟨"kind", []⟩ := List.mem_singleton.mp member
    obtain ⟨rfl, -⟩ : "kind" = name ∧ _ := by simpa [DeclaredField.entry, DeclaredField.options, Except.map] using here
    decide +kernel

/-- A field may be given a name of two words. -/
theorem invalidConstant_twoWords :
    ofDeclaration (oneField "owner" [⟨"query", some [.assign "rename" (.text "owner name")]⟩]) =
      .error (.invalidConstant "OWNER NAME") := by
  decide +kernel

end Exposure

end RecordQuery
