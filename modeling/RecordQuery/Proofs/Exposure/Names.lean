import Mathlib.Data.List.Nodup
import Mathlib.Data.List.ReduceOption
import RecordQuery.Exposure
import RecordQuery.Proofs.Traversal

/-!
The names under which a declaration is exposed. Fields are taken in their order and methods after them, and a name
that is taken already is refused. So a declaration is exposed just where all its names are distinct, and then each
name answers with the field or the method that it was declared for.
-/

namespace RecordQuery

/-! ### What is declared -/

/-- What a field exposes: itself, under the name that its attributes give it or its own. A hidden field exposes
nothing. -/
def DeclaredField.entry (f : DeclaredField) : Except ExposureError (Option (String × Source)) :=
  f.options.map fun o => if o.hidden then none else some (o.rename.getD f.name, .field f.name)

/-- What fields expose, in their order. -/
def fieldEntries (fields : List DeclaredField) : Except ExposureError (List (String × Source)) :=
  (fields.mapM DeclaredField.entry).map List.reduceOption

/-- What methods expose, each under its own name. -/
def methodEntries (methods : List String) : List (String × Source) := methods.map fun m => (m, .method m)

/-- The attributes of a declaration with named fields are well formed, and ask for these fields and methods. -/
structure Declaration.Declares (d : Declaration) (fields : List (String × Source)) (methods : List String) :
    Prop where
  shape : d.shape = .namedFields
  fields : fieldEntries d.fields = .ok fields
  methods : accessors d.attributes = .ok methods

section
variable {f : DeclaredField} {fields before after : List DeclaredField} {entries : List (String × Source)}

theorem fieldEntries_cons_eq_ok_iff : fieldEntries (f :: fields) = .ok entries ↔
    ∃ entry, f.entry = .ok entry ∧ ∃ rest, fieldEntries fields = .ok rest ∧ entries = entry.toList ++ rest := by
  simp only [fieldEntries, map_eq_ok_iff, mapM_cons_eq_ok_iff]
  constructor
  · rintro ⟨_, ⟨entry, head, rest, tail, rfl⟩, rfl⟩
    refine ⟨entry, head, _, ⟨rest, tail, rfl⟩, ?_⟩
    cases entry <;> rfl
  · rintro ⟨entry, head, _, ⟨rest, tail, rfl⟩, rfl⟩
    refine ⟨_, ⟨entry, head, rest, tail, rfl⟩, ?_⟩
    cases entry <;> rfl

theorem fieldEntries_append_eq_ok_iff : fieldEntries (before ++ after) = .ok entries ↔
    ∃ front, fieldEntries before = .ok front ∧ ∃ rest, fieldEntries after = .ok rest ∧ entries = front ++ rest := by
  induction before generalizing entries with
  | nil =>
    constructor
    · exact fun read => ⟨[], rfl, entries, read, rfl⟩
    · rintro ⟨front, read, rest, later, rfl⟩
      cases read
      exact later
  | cons f before ih =>
    simp only [List.cons_append, fieldEntries_cons_eq_ok_iff, ih]
    constructor
    · rintro ⟨entry, head, _, ⟨front, earlier, rest, later, rfl⟩, rfl⟩
      exact ⟨_, ⟨entry, head, front, earlier, rfl⟩, rest, later, (List.append_assoc _ _ _).symm⟩
    · rintro ⟨_, ⟨entry, head, front, earlier, rfl⟩, rest, later, rfl⟩
      exact ⟨entry, head, _, ⟨front, earlier, rest, later, rfl⟩, List.append_assoc _ _ _⟩

theorem map_fst_methodEntries (methods : List String) : (methodEntries methods).map Prod.fst = methods := by
  simp [methodEntries, Function.comp_def]

end

namespace Exposure

section
variable {e e' : Exposure} {name : String} {source : Source} {f : DeclaredField} {err : ExposureError}

/-! ### One name more -/

/-- The names that are exposed. -/
def names (e : Exposure) : List String := e.sources.map Prod.fst

/-- Exposes more sources. -/
def withSources (e : Exposure) (entries : List (String × Source)) : Exposure :=
  { e with sources := e.sources ++ entries }

/-- Exposes more fields, which come with constants. -/
def withFields (e : Exposure) (entries : List (String × Source)) : Exposure :=
  { e with
    sources := e.sources ++ entries
    constants := e.constants ++ entries.map fun entry => (constantName entry.1, entry.1) }

@[simp] theorem names_withSources (e : Exposure) (entries : List (String × Source)) :
    (e.withSources entries).names = e.names ++ entries.map Prod.fst :=
  List.map_append

@[simp] theorem names_withFields (e : Exposure) (entries : List (String × Source)) :
    (e.withFields entries).names = e.names ++ entries.map Prod.fst :=
  List.map_append

@[simp] theorem withSources_nil (e : Exposure) : e.withSources [] = e := by
  simp [withSources]

@[simp] theorem withFields_nil (e : Exposure) : e.withFields [] = e := by
  simp [withFields]

@[simp] theorem withSources_append (e : Exposure) (xs ys : List (String × Source)) :
    (e.withSources xs).withSources ys = e.withSources (xs ++ ys) := by
  simp [withSources]

@[simp] theorem withFields_append (e : Exposure) (xs ys : List (String × Source)) :
    (e.withFields xs).withFields ys = e.withFields (xs ++ ys) := by
  simp [withFields]

theorem has_iff : e.has name = true ↔ name ∈ e.names := by
  simp [has, names]

theorem addSource_eq : e.addSource name source =
    if name ∈ e.names then .error (.duplicateName name) else .ok (e.withSources [(name, source)]) := by
  rw [addSource]
  by_cases taken : name ∈ e.names
  · rw [if_pos (has_iff.mpr taken), if_pos taken]
  · rw [if_neg fun h => taken (has_iff.mp h), if_neg taken]
    rfl

theorem addField_hidden (read : f.entry = .ok none) : e.addField f = .ok e := by
  obtain ⟨o, options, entry⟩ := map_eq_ok_iff.mp read
  have hidden : o.hidden = true := by
    by_contra shown
    rw [if_neg shown] at entry
    cases entry
  rw [addField, options]
  change (if o.hidden = true then _ else _) = _
  rw [if_pos hidden]
  rfl

/-- A name that is taken is noticed before the constant is looked at. -/
theorem addField_shown (read : f.entry = .ok (some (name, source))) : e.addField f =
    if name ∈ e.names then .error (.duplicateName name)
    else if isIdentifier (constantName name) then .ok (e.withFields [(name, source)])
    else .error (.invalidConstant (constantName name)) := by
  obtain ⟨o, options, entry⟩ := map_eq_ok_iff.mp read
  have shown : ¬ o.hidden = true := by
    intro hidden
    rw [if_pos hidden] at entry
    cases entry
  rw [if_neg shown] at entry
  cases entry
  rw [addField, options]
  change (if o.hidden = true then _ else _) = _
  rw [if_neg shown, addSource_eq]
  by_cases taken : o.rename.getD f.name ∈ e.names
  · rw [if_pos taken, if_pos taken]
    rfl
  · rw [if_neg taken, if_neg taken]
    rfl

theorem addField_unread (unread : f.entry = .error err) : e.addField f = .error err := by
  rw [addField, map_eq_error_iff.mp unread]
  rfl

theorem addField_eq_ok_iff : e.addField f = .ok e' ↔ ∃ entry, f.entry = .ok entry ∧
    (∀ x ∈ entry, x.1 ∉ e.names ∧ isIdentifier (constantName x.1) = true) ∧ e' = e.withFields entry.toList := by
  constructor
  · intro done
    cases read : f.entry with
    | error err =>
      rw [addField_unread read] at done
      cases done
    | ok entry =>
      refine ⟨entry, rfl, ?_⟩
      cases entry with
      | none =>
        rw [addField_hidden read] at done
        cases done
        exact ⟨(fun _ member => nomatch member), e.withFields_nil.symm⟩
      | some x =>
        rw [addField_shown read] at done
        split at done
        · cases done
        · next fresh =>
          split at done
          · next valid =>
            cases done
            refine ⟨fun y member => ?_, rfl⟩
            cases member
            exact ⟨fresh, valid⟩
          · cases done
  · rintro ⟨entry, read, each, rfl⟩
    cases entry with
    | none => rw [addField_hidden read, Option.toList_none, withFields_nil]
    | some x =>
      obtain ⟨fresh, valid⟩ := each x rfl
      rw [addField_shown read, if_neg fresh, if_pos valid]
      rfl

theorem addField_eq_error_iff : e.addField f = .error err ↔ f.entry = .error err ∨
    ∃ name source, f.entry = .ok (some (name, source)) ∧ (name ∈ e.names ∧ err = .duplicateName name ∨
      name ∉ e.names ∧ ¬ isIdentifier (constantName name) = true ∧ err = .invalidConstant (constantName name)) := by
  constructor
  · intro failed
    cases read : f.entry with
    | error err' =>
      rw [addField_unread read] at failed
      cases failed
      exact Or.inl rfl
    | ok entry =>
      cases entry with
      | none =>
        rw [addField_hidden read] at failed
        cases failed
      | some x =>
        refine Or.inr ⟨x.1, x.2, rfl, ?_⟩
        rw [addField_shown read] at failed
        split at failed
        · next taken =>
          cases failed
          exact Or.inl ⟨taken, rfl⟩
        · next fresh =>
          split at failed
          · cases failed
          · next invalid =>
            cases failed
            exact Or.inr ⟨fresh, invalid, rfl⟩
  · rintro (unread | ⟨name, source, read, ⟨taken, rfl⟩ | ⟨fresh, invalid, rfl⟩⟩)
    · exact addField_unread unread
    · rw [addField_shown read, if_pos taken]
    · rw [addField_shown read, if_neg fresh, if_neg invalid]

/-! ### All names in turn -/

section
variable {fields : List DeclaredField} {methods : List String}

theorem nodup_names_append_toList_iff {entry : Option (String × Source)} :
    (e.names ++ entry.toList.map Prod.fst).Nodup ↔ e.names.Nodup ∧ ∀ x ∈ entry, x.1 ∉ e.names := by
  cases entry with
  | none => simp
  | some x =>
    rw [Option.toList_some, List.map_singleton, ← List.concat_eq_append, List.nodup_concat, and_comm]
    simp

/-- Fields are exposed just where their attributes are well formed, their names are new and distinct, and each name
makes a constant. -/
theorem foldlM_addField_eq_ok_iff (distinct : e.names.Nodup) : fields.foldlM addField e = .ok e' ↔
    ∃ entries, fieldEntries fields = .ok entries ∧ (e.names ++ entries.map Prod.fst).Nodup ∧
      (∀ x ∈ entries, isIdentifier (constantName x.1) = true) ∧ e' = e.withFields entries := by
  induction fields generalizing e with
  | nil =>
    constructor
    · intro done
      cases done
      exact ⟨[], rfl, by simpa using distinct, by simp, (withFields_nil _).symm⟩
    · rintro ⟨entries, read, -, -, rfl⟩
      cases read
      exact congrArg Except.ok e.withFields_nil.symm
  | cons f fields ih =>
    simp only [List.foldlM_cons, bind_eq_ok_iff, addField_eq_ok_iff, fieldEntries_cons_eq_ok_iff]
    constructor
    · rintro ⟨_, ⟨entry, head, each, rfl⟩, run⟩
      have next : (e.withFields entry.toList).names.Nodup := by
        rw [names_withFields, nodup_names_append_toList_iff]
        exact ⟨distinct, fun x member => (each x member).1⟩
      obtain ⟨rest, tail, fresh, valid, rfl⟩ := (ih next).mp run
      rw [names_withFields, List.append_assoc, ← List.map_append] at fresh
      refine ⟨_, ⟨entry, head, rest, tail, rfl⟩, fresh, fun x member => ?_, withFields_append _ _ _⟩
      rcases List.mem_append.mp member with here | later
      · exact (each x (Option.mem_toList.mp here)).2
      · exact valid x later
    · rintro ⟨_, ⟨entry, head, rest, tail, rfl⟩, fresh, valid, rfl⟩
      rw [List.map_append, ← List.append_assoc] at fresh
      have next := fresh.of_append_left
      have new := (nodup_names_append_toList_iff.mp next).2
      rw [← names_withFields] at next fresh
      refine ⟨_, ⟨entry, head, fun x member => ⟨new x member, ?_⟩, rfl⟩, (ih next).mpr ⟨rest, tail, fresh, ?_, ?_⟩⟩
      · exact valid x (List.mem_append_left _ (Option.mem_toList.mpr member))
      · exact fun x member => valid x (List.mem_append_right _ member)
      · exact (withFields_append _ _ _).symm

/-- Fields that are exposed first are exposed where their own names are distinct. -/
theorem foldlM_addField_first_eq_ok_iff {typeName : String} :
    fields.foldlM addField ⟨typeName, [], []⟩ = .ok e ↔
      ∃ entries, fieldEntries fields = .ok entries ∧ (entries.map Prod.fst).Nodup ∧
        (∀ x ∈ entries, isIdentifier (constantName x.1) = true) ∧
        e = (⟨typeName, [], []⟩ : Exposure).withFields entries :=
  foldlM_addField_eq_ok_iff List.nodup_nil

/-- Exposes a method. -/
def addMethod (e : Exposure) (m : String) : Except ExposureError Exposure := e.addSource m (.method m)

theorem foldlM_addMethod_eq_ok_iff (distinct : e.names.Nodup) : methods.foldlM addMethod e = .ok e' ↔
    (e.names ++ methods).Nodup ∧ e' = e.withSources (methodEntries methods) := by
  induction methods generalizing e with
  | nil =>
    rw [List.append_nil, and_iff_right distinct]
    constructor
    · intro done
      cases done
      exact (withSources_nil _).symm
    · rintro rfl
      exact congrArg Except.ok e.withSources_nil.symm
  | cons m methods ih =>
    simp only [List.foldlM_cons, bind_eq_ok_iff, addMethod, addSource_eq]
    constructor
    · rintro ⟨_, step, run⟩
      split at step
      · cases step
      · next fresh =>
        cases step
        have next : (e.withSources [(m, .method m)]).names.Nodup := by
          rw [names_withSources, List.map_singleton, ← List.concat_eq_append, List.nodup_concat]
          exact ⟨fresh, distinct⟩
        obtain ⟨all, rfl⟩ := (ih next).mp run
        rw [names_withSources, List.append_assoc] at all
        exact ⟨all, withSources_append _ _ _⟩
    · rintro ⟨all, rfl⟩
      have fresh : m ∉ e.names := fun taken => (List.nodup_append.mp all).2.2 m taken m List.mem_cons_self rfl
      rw [List.append_cons] at all
      have next : (e.withSources [(m, .method m)]).names.Nodup := by
        rw [names_withSources]
        exact all.of_append_left
      refine ⟨_, if_neg fresh, (ih next).mpr ⟨?_, (withSources_append _ [(m, .method m)] _).symm⟩⟩
      rwa [names_withSources]

theorem foldlM_addMethod_last_eq_ok_iff {typeName : String} {entries : List (String × Source)}
    (distinct : (entries.map Prod.fst).Nodup) :
    methods.foldlM addMethod ((⟨typeName, [], []⟩ : Exposure).withFields entries) = .ok e ↔
      (entries.map Prod.fst ++ methods).Nodup ∧
        e = ((⟨typeName, [], []⟩ : Exposure).withFields entries).withSources (methodEntries methods) :=
  foldlM_addMethod_eq_ok_iff distinct

end

/-! ### Answers -/

theorem isSome_source?_iff : (e.source? name).isSome ↔ name ∈ e.names := by
  rw [source?, Option.isSome_map, List.find?_isSome]
  simp [names]

theorem source?_of_mem (distinct : e.names.Nodup) (member : (name, source) ∈ e.sources) :
    e.source? name = some source := by
  obtain ⟨other, found⟩ := Option.isSome_iff_exists.mp
    (isSome_source?_iff.mpr (List.mem_map_of_mem (f := Prod.fst) member))
  obtain ⟨entry, first, rfl⟩ := Option.map_eq_some_iff.mp found
  have here : entry.1 = name := by simpa using List.find?_some first
  have same : entry = (name, source) :=
    List.inj_on_of_nodup_map distinct (List.mem_of_find?_eq_some first) member here
  rw [found, same]

/-! ### Declarations -/

section
variable {d : Declaration} {entries : List (String × Source)} {methods : List String}

/-- The attributes of the type are read before any field is looked at. -/
theorem ofDeclaration_eq (named : d.shape = .namedFields) (read : accessors d.attributes = .ok methods) :
    ofDeclaration d = d.fields.foldlM addField ⟨d.name, [], []⟩ >>= methods.foldlM addMethod := by
  rw [ofDeclaration, named, read]
  rfl

/-- What becomes of a declaration: another shape is refused first, and ill-formed attributes of the type next. -/
theorem ofDeclaration_cases (d : Declaration) :
    (d.shape = .unnamedFields ∧ ofDeclaration d = .error .fieldsUnnamed) ∨
    (d.shape = .alternatives ∧ ofDeclaration d = .error .notStructure) ∨
    d.shape = .namedFields ∧ ((∃ err, accessors d.attributes = .error err ∧ ofDeclaration d = .error err) ∨
      ∃ methods, accessors d.attributes = .ok methods ∧
        ofDeclaration d = d.fields.foldlM addField ⟨d.name, [], []⟩ >>= methods.foldlM addMethod) := by
  cases shape : d.shape with
  | unnamedFields =>
    refine Or.inl ⟨rfl, ?_⟩
    rw [ofDeclaration, shape]
    rfl
  | alternatives =>
    refine Or.inr (Or.inl ⟨rfl, ?_⟩)
    rw [ofDeclaration, shape]
    rfl
  | namedFields =>
    refine Or.inr (Or.inr ⟨rfl, ?_⟩)
    cases read : accessors d.attributes with
    | error err =>
      refine Or.inl ⟨err, rfl, ?_⟩
      rw [ofDeclaration, shape, read]
      rfl
    | ok methods => exact Or.inr ⟨methods, rfl, ofDeclaration_eq shape read⟩

/-- A declaration that is exposed has named fields and well-formed attributes. -/
theorem declares_of_ofDeclaration (exposed : ofDeclaration d = .ok e) :
    ∃ fields methods, d.Declares fields methods := by
  rcases ofDeclaration_cases d with ⟨-, failed⟩ | ⟨-, failed⟩ | ⟨shape, ⟨err, -, failed⟩ | ⟨methods, read, run⟩⟩
  · cases failed.symm.trans exposed
  · cases failed.symm.trans exposed
  · cases failed.symm.trans exposed
  · obtain ⟨_, inFields, -⟩ := bind_eq_ok_iff.mp (run.symm.trans exposed)
    obtain ⟨fields, declared, -⟩ := foldlM_addField_first_eq_ok_iff.mp inFields
    exact ⟨fields, methods, shape, declared, read⟩

theorem ofDeclaration_eq_ok_iff (declares : d.Declares entries methods) : ofDeclaration d = .ok e ↔
    (entries.map Prod.fst ++ methods).Nodup ∧ (∀ x ∈ entries, isIdentifier (constantName x.1) = true) ∧
      e = ((⟨d.name, [], []⟩ : Exposure).withFields entries).withSources (methodEntries methods) := by
  simp only [ofDeclaration_eq declares.shape declares.methods, bind_eq_ok_iff, foldlM_addField_first_eq_ok_iff,
    declares.fields]
  constructor
  · rintro ⟨_, ⟨_, ⟨⟩, fresh, valid, rfl⟩, run⟩
    obtain ⟨all, rfl⟩ := (foldlM_addMethod_last_eq_ok_iff fresh).mp run
    exact ⟨all, valid, rfl⟩
  · rintro ⟨all, valid, rfl⟩
    have fresh : ((⟨d.name, [], []⟩ : Exposure).withFields entries).names.Nodup := all.of_append_left
    exact ⟨_, ⟨entries, rfl, fresh, valid, rfl⟩, (foldlM_addMethod_last_eq_ok_iff fresh).mpr ⟨all, rfl⟩⟩

/-- Where the names repeat, the first one that has been taken before it is refused. -/
theorem ofDeclaration_of_repeated (declares : d.Declares entries methods)
    (valid : ∀ x ∈ entries, isIdentifier (constantName x.1) = true)
    (repeated : ¬ (entries.map Prod.fst ++ methods).Nodup) :
    ∃ before name after, entries.map Prod.fst ++ methods = before ++ name :: after ∧ before.Nodup ∧ name ∈ before ∧
      ofDeclaration d = .error (.duplicateName name) := by
  cases outcome : ofDeclaration d with
  | ok e => exact absurd ((ofDeclaration_eq_ok_iff declares).mp outcome).1 repeated
  | error err =>
    have failed := outcome
    rw [ofDeclaration_eq declares.shape declares.methods] at failed
    rcases bind_eq_error_iff.mp failed with inFields | ⟨e, run, inMethods⟩
    · obtain ⟨front, f, behind, c, cut, run, step⟩ := foldlM_eq_error_iff.mp inFields
      obtain ⟨taken, read, fresh, -, rfl⟩ := foldlM_addField_first_eq_ok_iff.mp run
      have all := declares.fields
      rw [cut, fieldEntries_append_eq_ok_iff] at all
      obtain ⟨taken', read', _, later, rfl⟩ := all
      obtain ⟨entry, head, rest, tail, rfl⟩ := fieldEntries_cons_eq_ok_iff.mp later
      obtain rfl : taken = taken' := Except.ok.inj (read.symm.trans read')
      rcases addField_eq_error_iff.mp step with unread | ⟨name, source, here, ⟨again, rfl⟩ | ⟨-, invalid, -⟩⟩
      · cases head.symm.trans unread
      · obtain rfl : entry = some (name, source) := Except.ok.inj (head.symm.trans here)
        refine ⟨taken.map Prod.fst, name, rest.map Prod.fst ++ methods, ?_, fresh, again, rfl⟩
        simp
      · obtain rfl : entry = some (name, source) := Except.ok.inj (head.symm.trans here)
        exact absurd (valid (name, source) (by simp)) invalid
    · obtain ⟨_, read, fresh, -, rfl⟩ := foldlM_addField_first_eq_ok_iff.mp run
      obtain rfl := Except.ok.inj (declares.fields.symm.trans read)
      obtain ⟨front, m, behind, c, rfl, run, step⟩ := foldlM_eq_error_iff.mp inMethods
      obtain ⟨all, rfl⟩ := (foldlM_addMethod_last_eq_ok_iff fresh).mp run
      rw [addMethod, addSource_eq] at step
      split at step
      · next again =>
        cases step
        refine ⟨entries.map Prod.fst ++ front, m, behind, (List.append_assoc _ _ _).symm, all, ?_, rfl⟩
        rwa [names_withSources, map_fst_methodEntries] at again
      · cases step

/-- A hidden field may as well not be declared. -/
theorem ofDeclaration_hidden {before after : List DeclaredField} {f : DeclaredField}
    (cut : d.fields = before ++ f :: after) (hidden : f.entry = .ok none) :
    ofDeclaration { d with fields := before ++ after } = ofDeclaration d := by
  have same : ∀ e : Exposure, (before ++ f :: after).foldlM addField e = (before ++ after).foldlM addField e := by
    intro e
    simp only [List.foldlM_append, List.foldlM_cons, addField_hidden hidden]
    rfl
  rw [ofDeclaration, ofDeclaration, cut]
  simp only [same]

end

end

/-- A declaration whose attributes are well formed, and whose names of fields make constants, is exposed just where
the names of the fields that are not hidden and of the methods are distinct. Then those names answer, each with its
own field or method, and no other name does. Else the first name that is taken already is refused. A hidden field
makes no difference. -/
theorem exposes_declared_names {d : Declaration} {fields : List (String × Source)} {methods : List String}
    (declares : d.Declares fields methods)
    (valid : ∀ entry ∈ fields, isIdentifier (constantName entry.1) = true) :
    let entries := fields ++ methodEntries methods
    let names := entries.map Prod.fst
    ((∃ e, ofDeclaration d = .ok e) ↔ names.Nodup) ∧
    (∀ e, ofDeclaration d = .ok e → e.typeName = d.name ∧ e.sources = entries ∧
      ∀ (α : Type) (read : Source → α) (name : String), ((e.field read name).isSome ↔ name ∈ names) ∧
        ∀ source, (name, source) ∈ entries → e.field read name = some (read source)) ∧
    (¬ names.Nodup → ∃ before name after, names = before ++ name :: after ∧ before.Nodup ∧ name ∈ before ∧
      ofDeclaration d = .error (.duplicateName name)) ∧
    ∀ before f after o, d.fields = before ++ f :: after → f.options = .ok o → o.hidden = true →
      ofDeclaration { d with fields := before ++ after } = ofDeclaration d := by
  intro entries names
  have split : names = fields.map Prod.fst ++ methods := by
    rw [← map_fst_methodEntries methods]
    exact List.map_append
  refine ⟨?_, fun e exposed => ?_, fun repeated => ?_, fun before f after o cut options hidden => ?_⟩
  · rw [split]
    constructor
    · rintro ⟨e, exposed⟩
      exact ((ofDeclaration_eq_ok_iff declares).mp exposed).1
    · intro distinct
      exact ⟨_, (ofDeclaration_eq_ok_iff declares).mpr ⟨distinct, valid, rfl⟩⟩
  · obtain ⟨distinct, -, same⟩ := (ofDeclaration_eq_ok_iff declares).mp exposed
    have sources : e.sources = entries := congrArg Exposure.sources same
    have answering : e.names = names := congrArg (List.map Prod.fst) sources
    refine ⟨congrArg Exposure.typeName same, sources, fun α read name => ⟨?_, fun source member => ?_⟩⟩
    · rw [field, Option.isSome_map, isSome_source?_iff, answering]
    · rw [← split, ← answering] at distinct
      rw [field, source?_of_mem distinct (sources ▸ member), Option.map_some]
  · rw [split] at repeated ⊢
    exact ofDeclaration_of_repeated declares valid repeated
  · refine ofDeclaration_hidden cut (map_eq_ok_iff.mpr ⟨o, options, ?_⟩)
    rw [if_pos hidden]

/-- A type with a renamed field, a hidden one and an accessor, which may be the name of a field. -/
def pet (accessor : String) : Declaration where
  name := "Pet"
  shape := .namedFields
  attributes := [⟨"query", some [.list "accessors" [accessor]]⟩]
  fields := [⟨"name", []⟩, ⟨"owner", [⟨"query", some [.assign "rename" (.text "owner_name")]⟩]⟩,
    ⟨"chip_id", [⟨"query", some [.word "skip"]⟩]⟩]

/-- The fields that the type exposes. -/
def petFields : List (String × Source) := [("name", .field "name"), ("owner_name", .field "owner")]

theorem exposes_declared_names_pet :
    (pet "chip_id").Declares petFields ["chip_id"] ∧
    (∃ e, ofDeclaration (pet "chip_id") = .ok e ∧ e.field id "owner_name" = some (.field "owner") ∧
      e.field id "chip_id" = some (.method "chip_id") ∧ (e.field id "owner").isNone) ∧
    (pet "owner_name").Declares petFields ["owner_name"] ∧
    ofDeclaration (pet "owner_name") = .error (.duplicateName "owner_name") := by
  have fresh : (pet "chip_id").Declares petFields ["chip_id"] := ⟨rfl, by decide +kernel, by decide +kernel⟩
  have clash : (pet "owner_name").Declares petFields ["owner_name"] := ⟨rfl, by decide +kernel, by decide +kernel⟩
  have valid : ∀ entry ∈ petFields, isIdentifier (constantName entry.1) = true := by decide +kernel
  refine ⟨fresh, ?_, clash, ?_⟩
  · obtain ⟨exposed, answers, -, -⟩ := exposes_declared_names fresh valid
    obtain ⟨e, done⟩ := exposed.mpr (by decide)
    obtain ⟨-, -, each⟩ := answers e done
    refine ⟨e, done, (each _ id "owner_name").2 _ (by decide), (each _ id "chip_id").2 _ (by decide), ?_⟩
    rw [Option.isNone_iff_eq_none, ← Option.not_isSome_iff_eq_none, (each _ id "owner").1]
    decide
  · obtain ⟨-, -, refused, -⟩ := exposes_declared_names clash valid
    obtain ⟨before, name, after, cut, -, taken, failed⟩ := refused (by decide)
    change ["name", "owner_name", "owner_name"] = _ at cut
    simp only [List.cons_eq_append_iff, List.cons.injEq, List.nil_eq, List.append_eq_nil_iff] at cut
    rcases cut with ⟨rfl, -⟩ | ⟨_, rfl, ⟨rfl, rfl, -⟩ | ⟨_, rfl, ⟨rfl, rfl, -⟩ | ⟨_, -, -, cut, -⟩⟩⟩
    · cases taken
    · exact absurd taken (by decide)
    · exact failed

end Exposure

end RecordQuery
