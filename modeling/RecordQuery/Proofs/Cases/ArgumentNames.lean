import Mathlib.Data.List.TakeWhile
import RecordQuery.Cases
import RecordQuery.Proofs.Spelling.RoundTrip

/-!
The names in a text. White space around a name and blank parts leave no trace, so a text has just the names that its
parts hold. Of all texts with some names, the one that joins the names by commas and nothing else is the normal form.
-/

namespace RecordQuery

/-! ### Trimming -/

/-- White space and nothing else. -/
def Blank (cs : List Char) : Prop := ∀ c ∈ cs, Unicode.isWhitespace c = true

/-- There is no white space at either end. -/
def Bare (cs : List Char) : Prop :=
  (∀ c ∈ cs.head?, Unicode.isWhitespace c = false) ∧ ∀ c ∈ cs.getLast?, Unicode.isWhitespace c = false

instance (cs : List Char) : Decidable (Blank cs) := List.decidableBAll _ cs

instance (cs : List Char) : Decidable (Bare cs) :=
  @instDecidableAnd _ _ (Option.decidableForallMem _) (Option.decidableForallMem _)

section
variable {α : Type} {p : α → Bool} {xs rest : List α}

/-- What is left begins where the property first fails. -/
theorem dropWhile_eq_iff : xs.dropWhile p = rest ↔
    (∀ a ∈ rest.head?, p a = false) ∧ ∃ front, (∀ a ∈ front, p a = true) ∧ xs = front ++ rest := by
  constructor
  · rintro rfl
    refine ⟨fun a first => ?_, xs.takeWhile p, fun _ => List.mem_takeWhile_imp, List.takeWhile_append_dropWhile.symm⟩
    have fails := List.head?_dropWhile_not p xs
    rwa [Option.mem_def.mp first] at fails
  · rintro ⟨fails, front, holds, rfl⟩
    rw [List.dropWhile_append_of_pos holds]
    cases rest with
    | nil => rfl
    | cons a rest => rw [List.dropWhile_cons_of_neg (by simp [fails a rfl])]

end

section
variable {cs name left right : List Char}

theorem Blank.reverse (blank : Blank cs) : Blank cs.reverse :=
  fun c mem => blank c (List.mem_reverse.mp mem)

/-- Trimming takes white space away, and all of it that is at the ends. -/
theorem trim_cases (cs : List Char) :
    Bare (trim cs) ∧ ∃ left right, Blank left ∧ Blank right ∧ cs = left ++ trim cs ++ right := by
  obtain ⟨head, left, blankLeft, split⟩ := dropWhile_eq_iff.mp (Eq.refl (cs.dropWhile Unicode.isWhitespace))
  obtain ⟨last, right, blankRight, splitLast⟩ := dropWhile_eq_iff.mp
    (Eq.refl ((cs.dropWhile Unicode.isWhitespace).reverse.dropWhile Unicode.isWhitespace))
  -- Turned round, the white space at the front of the second pass stands behind what is left.
  have behind : cs.dropWhile Unicode.isWhitespace = trim cs ++ right.reverse := by
    rw [trim, ← List.reverse_append, ← splitLast, List.reverse_reverse]
  refine ⟨⟨fun c first => head c ?_, fun c final => last c ?_⟩, left, right.reverse, blankLeft,
    Blank.reverse blankRight, ?_⟩
  · rw [behind, Option.mem_def, List.head?_append, Option.mem_def.mp first, Option.some_or]
  · rwa [trim, List.getLast?_reverse] at final
  · rw [List.append_assoc, ← behind]
    exact split

theorem trim_blank (blank : Blank cs) : trim cs = [] := by
  rw [trim, List.dropWhile_eq_nil_iff.mpr blank]
  rfl

theorem trim_padded (before : Blank left) (after : Blank right) (bare : Bare name) (some : name ≠ []) :
    trim (left ++ name ++ right) = name := by
  obtain ⟨head, last⟩ := bare
  obtain ⟨c, cs, rfl⟩ := List.exists_cons_of_ne_nil some
  have front : (left ++ c :: cs ++ right).dropWhile Unicode.isWhitespace = c :: cs ++ right :=
    dropWhile_eq_iff.mpr ⟨head, left, before, List.append_assoc _ _ _⟩
  have back : (c :: cs ++ right).reverse.dropWhile Unicode.isWhitespace = (c :: cs).reverse :=
    dropWhile_eq_iff.mpr ⟨fun d first => last d (by rwa [List.head?_reverse] at first), right.reverse,
      after.reverse, List.reverse_append⟩
  rw [trim, front, back, List.reverse_reverse]

theorem trim_ne_nil (some : ¬ Blank cs) : trim cs ≠ [] := by
  intro nothing
  obtain ⟨-, left, right, before, after, split⟩ := trim_cases cs
  rw [nothing, List.append_nil] at split
  exact some (split ▸ List.forall_mem_append.mpr ⟨before, after⟩)

end

/-! ### Names and parts -/

/-- What can be a name in a text: it is not empty, has no comma, and no white space at its ends. -/
structure IsArgumentName (name : String) : Prop where
  nonempty : name ≠ ""
  commaFree : ',' ∉ name.toList
  bare : Bare name.toList

/-- The parts carry the names: each name stands in a part of its own with any white space around it, and the other
parts are blank. -/
inductive Carries : List String → List String → Prop
  | none : Carries [] []
  | blank {part : String} {parts names : List String} (white : Blank part.toList) (rest : Carries parts names) :
      Carries (part :: parts) names
  | name {left name right : String} {parts names : List String} (before : Blank left.toList)
      (after : Blank right.toList) (rest : Carries parts names) :
      Carries ((left ++ name ++ right) :: parts) (name :: names)

/-- The names that are left of parts. -/
def partNames (parts : List (List Char)) : List String :=
  ((parts.map trim).filter fun name => !name.isEmpty).map String.ofList

section
variable {part : List Char} {pieces : List (List Char)} {parts names : List String}

theorem partNames_of_nil (nothing : trim part = []) : partNames (part :: pieces) = partNames pieces := by
  simp [partNames, nothing]

theorem partNames_of_ne_nil (some : trim part ≠ []) :
    partNames (part :: pieces) = String.ofList (trim part) :: partNames pieces := by
  simp [partNames, some]

theorem partNames_of_carries (carries : Carries parts names) (named : ∀ name ∈ names, IsArgumentName name) :
    partNames (parts.map String.toList) = names := by
  induction carries with
  | none => rfl
  | blank white rest ih =>
    rw [List.map_cons, partNames_of_nil (trim_blank white)]
    exact ih named
  | @name left name right parts names before after rest ih =>
    obtain ⟨here, later⟩ := List.forall_mem_cons.mp named
    have some := Spelling.toList_ne_nil here.nonempty
    have trimmed : trim (left ++ name ++ right).toList = name.toList := by
      rw [String.toList_append, String.toList_append]
      exact trim_padded before after here.bare some
    rw [List.map_cons, partNames_of_ne_nil (trimmed ▸ some), trimmed, ih later, String.ofList_toList]

/-- Parts carry the names that are left of them. -/
theorem carries_partNames (parts : List String) : Carries parts (partNames (parts.map String.toList)) := by
  induction parts with
  | nil => exact .none
  | cons part parts ih =>
    rw [List.map_cons]
    by_cases blank : Blank part.toList
    · rw [partNames_of_nil (trim_blank blank)]
      exact .blank blank ih
    · rw [partNames_of_ne_nil (trim_ne_nil blank)]
      obtain ⟨-, left, right, before, after, split⟩ := trim_cases part.toList
      have whole : part = String.ofList left ++ String.ofList (trim part.toList) ++ String.ofList right := by
        rw [← String.toList_inj]
        simpa using split
      have carried : Carries ((String.ofList left ++ String.ofList (trim part.toList) ++ String.ofList right) :: parts)
          (String.ofList (trim part.toList) :: partNames (parts.map String.toList)) :=
        .name (by simpa using before) (by simpa using after) ih
      rwa [← whole] at carried

theorem isArgumentName_of_mem_partNames (commaFree : ∀ piece ∈ pieces, ',' ∉ piece) :
    ∀ name ∈ partNames pieces, IsArgumentName name := by
  intro name mem
  simp only [partNames, List.mem_map, List.mem_filter] at mem
  obtain ⟨_, ⟨⟨piece, inside, rfl⟩, kept⟩, rfl⟩ := mem
  obtain ⟨bare, left, right, -, -, split⟩ := trim_cases piece
  refine ⟨by simpa using kept, fun comma => commaFree piece inside ?_, by simpa using bare⟩
  rw [String.toList_ofList] at comma
  rw [split]
  exact List.mem_append_left _ (List.mem_append_right _ comma)

theorem carries_self (names : List String) : Carries names names := by
  induction names with
  | nil => exact .none
  | cons name names ih =>
    have bare : Carries (("" ++ name ++ "") :: names) (name :: names) := .name (by simp [Blank]) (by simp [Blank]) ih
    simpa using bare

/-- Neither white space nor a name has a comma. -/
theorem Carries.commaFree (carries : Carries parts names) (named : ∀ name ∈ names, IsArgumentName name) :
    ∀ piece ∈ parts.map String.toList, ',' ∉ piece := by
  have notBlank : ∀ {cs : List Char}, Blank cs → ',' ∉ cs := fun blank comma => absurd (blank _ comma) (by decide)
  induction carries with
  | none => simp
  | blank white rest ih => exact List.forall_mem_cons.mpr ⟨notBlank white, ih named⟩
  | name before after rest ih =>
    obtain ⟨here, later⟩ := List.forall_mem_cons.mp named
    refine List.forall_mem_cons.mpr ⟨?_, ih later⟩
    simp [notBlank before, notBlank after, here.commaFree]

/-! ### Cuts at commas -/

theorem Text.onlyAtEnd_singleton_iff {d : Char} : Text.OnlyAtEnd [d] (part ++ [d]) ↔ d ∉ part := by
  rw [Text.onlyAtEnd_iff, List.dropLast_concat, ← Bool.not_eq_true, Text.occurs_iff, List.singleton_infix_iff]
  simp

/-- A single character keeps pieces apart if none of them has it. -/
theorem Text.keptApart_singleton_iff {d : Char} :
    Text.KeptApart [d] pieces ↔ pieces ≠ [] ∧ ∀ piece ∈ pieces, d ∉ piece := by
  rcases List.eq_nil_or_concat pieces with rfl | ⟨front, last, rfl⟩
  · exact iff_of_false (fun apart => apart.ne_nil rfl) (fun ⟨nonempty, _⟩ => nonempty rfl)
  · simp only [List.concat_eq_append, Text.keptApart_concat_iff, List.singleton_infix_iff, Text.onlyAtEnd_singleton_iff]
    simp [or_imp, forall_and, and_comm]

theorem argumentNames_eq (text : String) : argumentNames text = partNames (Text.cut [','] text.toList) := rfl

theorem argumentNames_join (commaFree : ∀ piece ∈ parts.map String.toList, ',' ∉ piece) :
    argumentNames (Text.join "," parts) = partNames (parts.map String.toList) := by
  rw [argumentNames_eq, Text.join, String.toList_ofList]
  change partNames (Text.cut [','] (Text.glue [','] (parts.map String.toList))) = _
  -- No parts make the empty text, which is cut into one part, and a blank one.
  by_cases nothing : parts.map String.toList = []
  · rw [nothing]
    rfl
  · rw [(Text.keptApart_singleton_iff.mpr ⟨nothing, commaFree⟩).cut_glue (by simp)]

end

/-! ### The normal form -/

section
variable {text : String} {names : List String}

/-- A text has just the names that its parts carry. -/
theorem argumentNames_eq_iff : argumentNames text = names ↔
    (∀ name ∈ names, IsArgumentName name) ∧ ∃ parts, Carries parts names ∧ Text.join "," parts = text := by
  constructor
  · rintro rfl
    obtain ⟨apart, glued⟩ := (Text.cut_eq_iff (by simp)).mp (Eq.refl (Text.cut [','] text.toList))
    have pieces := Spelling.map_toList_map_ofList (Text.cut [','] text.toList)
    have carries := carries_partNames ((Text.cut [','] text.toList).map String.ofList)
    rw [pieces] at carries
    refine ⟨isArgumentName_of_mem_partNames (Text.keptApart_singleton_iff.mp apart).2, _, carries, ?_⟩
    rw [Text.join, pieces]
    exact (congrArg String.ofList glued).trans String.ofList_toList
  · rintro ⟨named, parts, carries, rfl⟩
    rw [argumentNames_join (carries.commaFree named), partNames_of_carries carries named]

/-- The names of a text are names that a text can have, and a text has some names just where its parts carry them: each
in a part of its own, in their order and with any white space around it, and blank parts anywhere between. So names
that are joined by commas are read as they were. -/
theorem argumentNames_normalForm (text : String) :
    (∀ name ∈ argumentNames text, IsArgumentName name) ∧
    (∀ names, argumentNames text = names ↔
      (∀ name ∈ names, IsArgumentName name) ∧ ∃ parts, Carries parts names ∧ Text.join "," parts = text) ∧
    argumentNames (Text.join "," (argumentNames text)) = argumentNames text := by
  obtain ⟨named, -⟩ := argumentNames_eq_iff.mp (Eq.refl (argumentNames text))
  exact ⟨named, fun names => argumentNames_eq_iff, argumentNames_eq_iff.mpr ⟨named, _, carries_self _, rfl⟩⟩

end

/-- White space of several kinds around two names, and two blank parts between them. -/
theorem argumentNames_normalForm_padded :
    (∀ name ∈ ["a b", "ü"], IsArgumentName name) ∧
    Carries ["\u00a0" ++ "a b" ++ "\t", "", "\u3000", "\u0085" ++ "ü" ++ "\r\n"] ["a b", "ü"] ∧
    argumentNames "\u00a0a b\t,,\u3000,\u0085ü\r\n" = ["a b", "ü"] := by
  have first : IsArgumentName "a b" := ⟨by decide, by decide, by decide⟩
  have second : IsArgumentName "ü" := ⟨by decide, by decide, by decide⟩
  have named : ∀ name ∈ ["a b", "ü"], IsArgumentName name := by simp [first, second]
  have carries : Carries ["\u00a0" ++ "a b" ++ "\t", "", "\u3000", "\u0085" ++ "ü" ++ "\r\n"] ["a b", "ü"] :=
    .name (by decide) (by decide) (.blank (by decide) (.blank (by decide) (.name (by decide) (by decide) .none)))
  obtain ⟨-, exactly, -⟩ := argumentNames_normalForm "\u00a0a b\t,,\u3000,\u0085ü\r\n"
  exact ⟨named, carries, (exactly _).mpr ⟨named, _, carries, rfl⟩⟩

end RecordQuery
