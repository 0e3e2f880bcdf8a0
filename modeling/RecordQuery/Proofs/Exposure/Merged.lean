import RecordQuery.Proofs.Exposure.Constants

/-!
Names that share a constant. Only names are checked to be distinct. Names without capitals and hyphens keep their
constants apart, but a capital or a hyphen may stand where another name has a low line or a small letter, and two
such names have one constant.
-/

namespace RecordQuery

/-! ### Spelling -/

/-- A name without capitals and hyphens. -/
def Plain (name : String) : Prop := ∀ c ∈ name.toList, Unicode.isUppercase c = false ∧ c ≠ '-'

instance (name : String) : Decidable (Plain name) := List.decidableBAll _ _

/-- The characters of a name but for low lines and hyphens, with letters as capitals. -/
def constantLetters (name : String) : List Char :=
  (name.toList.filter fun c => c ≠ '_' ∧ c ≠ '-').map Char.toUpper

section
variable {c : Char} {cs : List Char} {a b : String}

theorem screamingSnake_of_plain (plain : ∀ c ∈ cs, Unicode.isUppercase c = false ∧ c ≠ '-') (afterSmall : Bool) :
    screamingSnake afterSmall cs = cs.map Char.toUpper := by
  induction cs generalizing afterSmall with
  | nil => rfl
  | cons c cs ih =>
    obtain ⟨⟨small, unmarked⟩, later⟩ := List.forall_mem_cons.mp plain
    rw [screamingSnake, if_neg (by simp [small]), List.map_cons]
    split
    · next mark =>
      obtain rfl := mark.resolve_right unmarked
      rw [ih later]
      rfl
    · rw [ih later]

theorem eq_of_map_toUpper_eq {xs ys : List Char} (hx : ∀ c ∈ xs, Unicode.isUppercase c = false)
    (hy : ∀ c ∈ ys, Unicode.isUppercase c = false) (same : xs.map Char.toUpper = ys.map Char.toUpper) : xs = ys := by
  induction xs generalizing ys with
  | nil => exact (List.map_eq_nil_iff.mp same.symm).symm
  | cons x xs ih =>
    obtain ⟨y, ys, rfl, head, tail⟩ := List.map_eq_cons_iff.mp same.symm
    obtain ⟨smallX, laterX⟩ := List.forall_mem_cons.mp hx
    obtain ⟨smallY, laterY⟩ := List.forall_mem_cons.mp hy
    rw [eq_of_toUpper_eq smallX smallY head.symm, ih laterX laterY tail.symm]

/-- Names without capitals and hyphens keep their constants apart. -/
theorem constantName_injective_of_plain (ha : Plain a) (hb : Plain b) (same : constantName a = constantName b) :
    a = b := by
  have images : a.toList.map Char.toUpper = b.toList.map Char.toUpper := by
    rw [← screamingSnake_of_plain ha false, ← screamingSnake_of_plain hb false]
    exact String.ofList_injective same
  exact String.toList_injective (eq_of_map_toUpper_eq (fun c hc => (ha c hc).1) (fun c hc => (hb c hc).1) images)

theorem toUpper_ne_lowLine (other : c ≠ '_') : c.toUpper ≠ '_' := by
  rcases toUpper_eq_self_or_small c with same | small
  · rwa [same]
  · intro line
    have capital := (small_isUppercase small).2
    rw [line] at capital
    exact absurd capital (by decide +kernel)

theorem filter_screamingSnake (afterSmall : Bool) (cs : List Char) :
    (screamingSnake afterSmall cs).filter (· ≠ '_') =
      (cs.filter fun c => c ≠ '_' ∧ c ≠ '-').map Char.toUpper := by
  obtain ⟨smallHyphen, -, -, -⟩ := hyphen_facts
  have smallLine : Unicode.isUppercase '_' = false := by decide +kernel
  induction cs generalizing afterSmall with
  | nil => rfl
  | cons c cs ih =>
    rw [screamingSnake]
    split
    · next capital =>
      have unmarked : c ≠ '_' ∧ c ≠ '-' := by
        constructor
        · rintro rfl
          cases smallLine.symm.trans capital
        · rintro rfl
          cases smallHyphen.symm.trans capital
      -- The low line that may go before a capital is filtered out again.
      rw [List.filter_cons_of_pos (by simpa using unmarked), List.map_cons, toUpper_of_isUppercase capital, ← ih false]
      cases afterSmall <;> simp [unmarked.1]
    · split
      · next mark =>
        rw [List.filter_cons_of_neg (by simp), List.filter_cons_of_neg (by simpa [or_iff_not_imp_left] using mark), ih]
      · next unmarked =>
        rw [not_or] at unmarked
        rw [List.filter_cons_of_pos (by simpa using toUpper_ne_lowLine unmarked.1),
          List.filter_cons_of_pos (by simpa using unmarked), List.map_cons, ih]

/-- A constant tells the letters of its name. -/
theorem constantLetters_eq (name : String) :
    constantLetters name = (constantName name).toList.filter (· ≠ '_') := by
  rw [constantName, String.toList_ofList, filter_screamingSnake, constantLetters]

end

/-! ### Constants of an exposure -/

namespace Exposure

/-- The constants of an exposure are those of its fields' names, which are distinct. Two of them are one just where
two names make one, and then one of the names has a capital or a hyphen, and both have the same letters. -/
theorem constants_distinct_unless_merged {d : Declaration} {e : Exposure} (exposed : ofDeclaration d = .ok e) :
    let names := e.constants.map Prod.snd
    names.Nodup ∧
    (∃ fields, fieldEntries d.fields = .ok fields ∧ names = fields.map Prod.fst) ∧
    e.constants.map Prod.fst = names.map constantName ∧
    ((∀ name ∈ names, Plain name) → (e.constants.map Prod.fst).Nodup) ∧
    ((e.constants.map Prod.fst).Nodup ↔ ∀ a ∈ names, ∀ b ∈ names, constantName a = constantName b → a = b) ∧
    ∀ a b, constantName a = constantName b → a ≠ b → ¬ (Plain a ∧ Plain b) ∧ constantLetters a = constantLetters b := by
  intro names
  obtain ⟨fields, methods, declares⟩ := declares_of_ofDeclaration exposed
  obtain ⟨distinct, -, same⟩ := (ofDeclaration_eq_ok_iff declares).mp exposed
  have constants : e.constants = fields.map fun entry => (constantName entry.1, entry.1) :=
    congrArg Exposure.constants same
  have own : names = fields.map Prod.fst := by
    simp [names, constants, Function.comp_def]
  have images : e.constants.map Prod.fst = names.map constantName := by
    simp [names, constants, Function.comp_def]
  have fresh : names.Nodup := own ▸ distinct.of_append_left
  have apart : (e.constants.map Prod.fst).Nodup ↔
      ∀ a ∈ names, ∀ b ∈ names, constantName a = constantName b → a = b := by
    rw [images, List.nodup_map_iff_inj_on fresh]
  refine ⟨fresh, ⟨fields, declares.fields, own⟩, images, fun plain => ?_, apart, fun a b one other => ⟨?_, ?_⟩⟩
  · exact apart.mpr fun a ha b hb => constantName_injective_of_plain (plain a ha) (plain b hb)
  · exact fun plain => other (constantName_injective_of_plain plain.1 plain.2 one)
  · rw [constantLetters_eq, constantLetters_eq, one]

theorem constants_distinct_unless_merged_pet : ∃ e, ofDeclaration (pet "chip_id") = .ok e ∧
    e.constants.map Prod.fst = ["NAME", "OWNER_NAME"] ∧ (e.constants.map Prod.fst).Nodup := by
  have declares : (pet "chip_id").Declares petFields ["chip_id"] := ⟨rfl, by decide +kernel, by decide +kernel⟩
  have exposed := (ofDeclaration_eq_ok_iff declares).mpr ⟨by decide, by decide +kernel, rfl⟩
  obtain ⟨-, -, images, distinct, -, -⟩ := constants_distinct_unless_merged exposed
  refine ⟨_, exposed, images.trans (by decide +kernel), distinct (by decide +kernel)⟩

/-- Words may be parted by a low line, or by a capital. -/
def ownedDog : Declaration where
  name := "Dog"
  shape := .namedFields
  attributes := []
  fields := [⟨"owner_name", []⟩, ⟨"ownerName", []⟩]

theorem constants_merged_ownerName : ∃ e, ofDeclaration ownedDog = .ok e ∧
    e.constants.map Prod.fst = ["OWNER_NAME", "OWNER_NAME"] ∧ ¬ (e.constants.map Prod.fst).Nodup := by
  refine ⟨⟨"Dog", [("OWNER_NAME", "owner_name"), ("OWNER_NAME", "ownerName")],
    [("owner_name", .field "owner_name"), ("ownerName", .field "ownerName")]⟩, ?_, rfl, ?_⟩
  · decide +kernel
  · decide

end Exposure

end RecordQuery
