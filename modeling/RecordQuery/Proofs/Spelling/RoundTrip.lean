import Mathlib.Data.List.Infix
import RecordQuery.Spelling

/-!
Keys and their segments. Joining undoes splitting, whatever the key. Splitting undoes joining where no delimiter
stands in the last segment, and where a delimiter put behind an earlier one is the first to stand there. So a
segment that ends as the delimiter begins can be the last of a key, but cannot stand in front of another one.
-/

namespace RecordQuery

namespace Text

section
variable {delimiter text piece last : List Char} {pieces : List (List Char)}

/-! ### Where a delimiter stands -/

theorem occurs_iff {needle : List Char} : occurs needle text = true ↔ needle <:+: text := by
  induction text with
  | nil => simp [occurs]
  | cons c cs ih => rw [occurs, Bool.or_eq_true, ih, List.isPrefixOf_iff_prefix, List.infix_cons_iff]

/-- Where the needle stands in the text, nothing follows it. -/
def OnlyAtEnd (needle text : List Char) : Prop :=
  ∀ before after, text = before ++ needle ++ after → after = []

/-- Something follows the needle where it stands in the text without its last character. -/
theorem onlyAtEnd_iff {needle : List Char} :
    OnlyAtEnd needle text ↔ text = [] ∨ occurs needle text.dropLast = false := by
  rw [← Bool.not_eq_true, occurs_iff]
  constructor
  · intro only
    refine or_iff_not_imp_left.mpr fun some ⟨before, after, same⟩ => ?_
    have nothing := only before (after ++ [text.getLast some]) (by
      rw [← List.append_assoc, same, List.dropLast_concat_getLast])
    exact absurd nothing (by simp)
  · rintro either before after rfl
    by_contra some
    have whole : before ++ needle ++ after ≠ [] := fun none => some (List.append_eq_nil_iff.mp none).2
    refine either.resolve_left whole ⟨before, after.dropLast, ?_⟩
    rw [List.dropLast_append_of_ne_nil some]

theorem onlyAtEnd_self : OnlyAtEnd delimiter delimiter := by
  intro before after same
  have lengths := congrArg List.length same
  simp only [List.length_append] at lengths
  exact List.length_eq_zero_iff.mp (by omega)

theorem OnlyAtEnd.tail {c : Char} (only : OnlyAtEnd delimiter (c :: text)) : OnlyAtEnd delimiter text :=
  fun before after same => only (c :: before) after (by rw [same]; rfl)

/-- A delimiter that is the first to stand behind a piece does not stand in the piece. -/
theorem OnlyAtEnd.absent (nonempty : delimiter ≠ []) (only : OnlyAtEnd delimiter (piece ++ delimiter)) :
    ¬ delimiter <:+: piece := by
  rintro ⟨before, after, rfl⟩
  have nothing := only before (after ++ delimiter) (by rw [List.append_assoc])
  exact nonempty (List.append_eq_nil_iff.mp nothing).2

/-- Nor does it stand at the beginning of a longer text, unless the piece is empty. -/
theorem OnlyAtEnd.not_prefix {c : Char} (only : OnlyAtEnd delimiter (c :: piece ++ delimiter)) (rest : List Char) :
    ¬ delimiter <+: c :: piece ++ delimiter ++ rest := by
  intro start
  have shorter : delimiter.length ≤ (c :: piece ++ delimiter).length := by
    rw [List.length_append]
    omega
  obtain ⟨after, same⟩ := List.prefix_of_prefix_length_le start (List.prefix_append _ rest) shorter
  have nothing : after = [] := only [] after same.symm
  have lengths := congrArg List.length same
  simp only [nothing, List.length_append, List.length_cons, List.length_nil] at lengths
  omega

/-! ### Pieces and cuts -/

/-- The delimiter keeps the pieces apart: it does not stand in the last one, and behind each earlier one it is
the first to stand there. -/
inductive KeptApart (delimiter : List Char) : List (List Char) → Prop
  | last {piece : List Char} (absent : ¬ delimiter <:+: piece) : KeptApart delimiter [piece]
  | before {piece : List Char} {pieces : List (List Char)} (only : OnlyAtEnd delimiter (piece ++ delimiter))
      (rest : KeptApart delimiter pieces) : KeptApart delimiter (piece :: pieces)

theorem KeptApart.ne_nil (apart : KeptApart delimiter pieces) : pieces ≠ [] := by
  cases apart <;> simp

theorem KeptApart.absent (nonempty : delimiter ≠ []) (apart : KeptApart delimiter pieces) :
    ∀ piece ∈ pieces, ¬ delimiter <:+: piece := by
  induction apart with
  | last absent => exact List.forall_mem_singleton.mpr absent
  | before only _ ih => exact List.forall_mem_cons.mpr ⟨only.absent nonempty, ih⟩

theorem keptApart_cons_iff (some : pieces ≠ []) : KeptApart delimiter (piece :: pieces) ↔
    OnlyAtEnd delimiter (piece ++ delimiter) ∧ KeptApart delimiter pieces := by
  constructor
  · rintro (absent | ⟨only, rest⟩)
    · exact absurd rfl some
    · exact ⟨only, rest⟩
  · exact fun ⟨only, rest⟩ => .before only rest

theorem keptApart_concat_iff : KeptApart delimiter (pieces ++ [last]) ↔
    ¬ delimiter <:+: last ∧ ∀ piece ∈ pieces, OnlyAtEnd delimiter (piece ++ delimiter) := by
  induction pieces with
  | nil =>
    constructor
    · rintro (absent | ⟨-, rest⟩)
      · exact ⟨absent, fun _ mem => nomatch mem⟩
      · exact absurd rfl rest.ne_nil
    · exact fun ⟨absent, _⟩ => .last absent
  | cons piece pieces ih =>
    rw [List.cons_append, keptApart_cons_iff (by simp), ih, List.forall_mem_cons, and_left_comm]

theorem cut_eq_cutFrom (nonempty : delimiter ≠ []) (text : List Char) : cut delimiter text = cutFrom delimiter 0 text :=
  if_neg fun none => nonempty (List.isEmpty_iff.mp none)

theorem cutFrom_drop (skip : Nat) (text : List Char) :
    cutFrom delimiter skip text = cutFrom delimiter 0 (text.drop skip) := by
  induction text generalizing skip with
  | nil => cases skip <;> rfl
  | cons c cs ih =>
    cases skip with
    | zero => rfl
    | succ skip => exact ih skip

theorem cutFrom_absent (absent : ¬ delimiter <:+: text) : cutFrom delimiter 0 text = [text] := by
  induction text with
  | nil => rfl
  | cons c cs ih =>
    rw [List.infix_cons_iff, not_or] at absent
    rw [cutFrom, if_neg fun found => absent.1 (List.isPrefixOf_iff_prefix.mp found), ih absent.2]
    rfl

theorem cutFrom_before (nonempty : delimiter ≠ []) (only : OnlyAtEnd delimiter (piece ++ delimiter))
    (rest : List Char) : cutFrom delimiter 0 (piece ++ delimiter ++ rest) = piece :: cutFrom delimiter 0 rest := by
  induction piece with
  | nil =>
    obtain ⟨d, ds, rfl⟩ := List.exists_cons_of_ne_nil nonempty
    have found : (d :: ds).isPrefixOf (d :: (ds ++ rest)) = true :=
      List.isPrefixOf_iff_prefix.mpr (List.prefix_append (d :: ds) rest)
    change cutFrom (d :: ds) 0 (d :: (ds ++ rest)) = _
    rw [cutFrom, if_pos found, cutFrom_drop]
    simp
  | cons c piece ih =>
    have missing : ¬ delimiter.isPrefixOf (c :: (piece ++ delimiter ++ rest)) = true :=
      fun found => only.not_prefix rest (List.isPrefixOf_iff_prefix.mp found)
    change cutFrom delimiter 0 (c :: (piece ++ delimiter ++ rest)) = _
    rw [cutFrom, if_neg missing, ih only.tail]
    rfl

/-- Pieces that the delimiter keeps apart are cut as they were glued. -/
theorem KeptApart.cut_glue (nonempty : delimiter ≠ []) (apart : KeptApart delimiter pieces) :
    cut delimiter (glue delimiter pieces) = pieces := by
  rw [cut_eq_cutFrom nonempty]
  induction apart with
  | last absent => exact cutFrom_absent absent
  | before only rest ih => rw [glue_cons _ rest.ne_nil, cutFrom_before nonempty only, ih]

theorem KeptApart.consFirst {c : Char} (apart : KeptApart delimiter pieces)
    (missing : ¬ delimiter <+: c :: glue delimiter pieces) : KeptApart delimiter (consFirst c pieces) := by
  cases apart with
  | last absent => exact .last fun found => (List.infix_cons_iff.mp found).elim missing absent
  | @before piece pieces only rest =>
    refine .before (fun before after same => ?_) rest
    cases before with
    | nil =>
      refine absurd ?_ missing
      rw [glue_cons piece rest.ne_nil]
      exact (List.prefix_append delimiter after).trans (same ▸ List.prefix_append (c :: piece ++ delimiter) _)
    | cons _ before => exact only before after (List.cons.inj same).2

/-- The pieces of a text are kept apart, wherever the cutting sets in. -/
theorem keptApart_cutFrom (nonempty : delimiter ≠ []) (skip : Nat) (text : List Char) :
    KeptApart delimiter (cutFrom delimiter skip text) := by
  fun_induction cutFrom delimiter skip text with
  | case1 => exact .last fun found => nonempty (List.infix_nil.mp found)
  | case2 skip c cs ih => exact ih
  | case3 c cs found ih => exact .before onlyAtEnd_self ih
  | case4 c cs missing ih =>
    -- Glued, the pieces are the text behind `c` again, so a delimiter at `c` would have been found there.
    refine ih.consFirst fun start => missing (List.isPrefixOf_iff_prefix.mpr ?_)
    rwa [glue_cutFrom nonempty, List.drop_zero] at start

/-- A cut is known by its pieces: they are kept apart, and glued they make the text. -/
theorem cut_eq_iff (nonempty : delimiter ≠ []) :
    cut delimiter text = pieces ↔ KeptApart delimiter pieces ∧ glue delimiter pieces = text := by
  constructor
  · rintro rfl
    exact ⟨cut_eq_cutFrom nonempty text ▸ keptApart_cutFrom nonempty 0 text, glue_cut delimiter text⟩
  · rintro ⟨apart, rfl⟩
    exact apart.cut_glue nonempty

end

/-- The text holds the needle just where it has it as a stretch of its own. -/
theorem contains_iff {text needle : String} : contains text needle = true ↔ needle.toList <:+: text.toList :=
  occurs_iff

end Text

/-! ### Keys -/

namespace Spelling

/-- The segment can stand in front of another one: a delimiter that is put behind it stands there and nowhere
before. -/
def CanPrecede (s : Spelling) (segment : String) : Prop :=
  ∀ before after, segment ++ s.delimiter = before ++ s.delimiter ++ after → after = ""

section
variable {s : Spelling} {key segment last : String} {segments : List String}

theorem toList_ne_nil {text : String} (nonempty : text ≠ "") : text.toList ≠ [] :=
  fun none => nonempty (String.toList_eq_nil_iff.mp none)

theorem canPrecede_iff : s.CanPrecede segment ↔
    Text.OnlyAtEnd s.delimiter.toList (segment.toList ++ s.delimiter.toList) := by
  constructor
  · intro can before after same
    have nothing : String.ofList after = "" := by
      refine can (String.ofList before) (String.ofList after) (String.toList_inj.mp ?_)
      simpa only [String.toList_append, String.toList_ofList] using same
    simpa using congrArg String.toList nothing
  · intro only before after same
    refine String.toList_eq_nil_iff.mp (only before.toList after.toList ?_)
    simpa only [String.toList_append] using congrArg String.toList same

instance : Decidable (s.CanPrecede segment) :=
  decidable_of_iff _ (Text.onlyAtEnd_iff.symm.trans canPrecede_iff.symm)

theorem map_toList_map_ofList (pieces : List (List Char)) :
    (pieces.map String.ofList).map String.toList = pieces := by
  simp

/-- Joining undoes splitting. -/
theorem join_split (s : Spelling) (key : String) : s.join (s.split key) = key := by
  rw [join, split, Text.join, Text.split, map_toList_map_ofList, Text.glue_cut, String.ofList_toList]

theorem split_ne_nil (s : Spelling) (key : String) : s.split key ≠ [] := by
  intro none
  have pieces := List.map_eq_nil_iff.mp none
  unfold Text.cut at pieces
  split at pieces
  · cases pieces
  · exact Text.cutFrom_ne_nil _ _ _ pieces

/-- What a key is split into: the segments that the delimiter keeps apart and that make the key. -/
theorem split_eq_iff (nonempty : s.delimiter ≠ "") : s.split key = segments ↔
    Text.KeptApart s.delimiter.toList (segments.map String.toList) ∧ s.join segments = key := by
  have pieces : s.split key = segments ↔
      Text.cut s.delimiter.toList key.toList = segments.map String.toList := by
    constructor
    · rintro rfl
      exact (map_toList_map_ofList _).symm
    · intro same
      rw [split, Text.split, same]
      simp
  have glued : s.join segments = key ↔
      Text.glue s.delimiter.toList (segments.map String.toList) = key.toList := by
    rw [join, Text.join, ← String.toList_inj, String.toList_ofList]
  rw [pieces, glued, Text.cut_eq_iff (toList_ne_nil nonempty)]

/-- The segments of a key before its last one can all stand in front of another, and no delimiter stands in the
last. -/
theorem split_join_concat_iff (nonempty : s.delimiter ≠ "") :
    s.split (s.join (segments ++ [last])) = segments ++ [last] ↔
      Text.contains last s.delimiter = false ∧ ∀ segment ∈ segments, s.CanPrecede segment := by
  rw [split_eq_iff nonempty, and_iff_left rfl, List.map_append, List.map_singleton, Text.keptApart_concat_iff,
    List.forall_mem_map, ← Text.contains_iff, Bool.not_eq_true]
  simp only [canPrecede_iff]

/-- Where nothing delimits, a key is one segment. -/
theorem split_eq_singleton (none : s.delimiter = "") (key : String) : s.split key = [key] := by
  rw [split, none, Text.split, Text.cut]
  simp

theorem delimiter_nonempty (some : segments ≠ []) (cut : s.split key = segments ++ [last]) : s.delimiter ≠ "" := by
  intro none
  have lengths := congrArg List.length ((split_eq_singleton none key).symm.trans cut)
  have several := List.length_pos_of_ne_nil some
  simp only [List.length_append, List.length_singleton] at lengths
  omega

/-- What stands before the last segment of a key can stand there. -/
theorem canPrecede_of_split (cut : s.split key = segments ++ [last]) (mem : segment ∈ segments) :
    s.CanPrecede segment := by
  have nonempty := delimiter_nonempty (List.ne_nil_of_mem mem) cut
  have again : s.split (s.join (segments ++ [last])) = segments ++ [last] := by rw [← cut, join_split]
  exact ((split_join_concat_iff nonempty).mp again).2 segment mem

theorem CanPrecede.not_contains (nonempty : s.delimiter ≠ "") (can : s.CanPrecede segment) :
    Text.contains segment s.delimiter = false := by
  rw [← Bool.not_eq_true, Text.contains_iff]
  exact (canPrecede_iff.mp can).absent (toList_ne_nil nonempty)

/-- Segments that are kept apart with another one behind them are so without it. -/
theorem split_join_of_concat (some : segments ≠ [])
    (cut : s.split (s.join (segments ++ [last])) = segments ++ [last]) : s.split (s.join segments) = segments := by
  have nonempty := delimiter_nonempty some cut
  have precede := ((split_join_concat_iff nonempty).mp cut).2
  obtain ⟨front, before, rfl⟩ := (List.eq_nil_or_concat segments).resolve_left some
  rw [List.concat_eq_append] at precede ⊢
  refine (split_join_concat_iff nonempty).mpr ⟨(precede before (by simp)).not_contains nonempty, ?_⟩
  exact fun segment mem => precede segment (List.mem_append_left _ mem)

theorem not_contains_of_mem_split (nonempty : s.delimiter ≠ "") (mem : segment ∈ s.split key) :
    Text.contains segment s.delimiter = false := by
  obtain ⟨apart, -⟩ := (split_eq_iff nonempty).mp (Eq.refl (s.split key))
  rw [← Bool.not_eq_true, Text.contains_iff]
  exact apart.absent (toList_ne_nil nonempty) _ (List.mem_map_of_mem mem)

end

/-- Joining undoes splitting of every key. With a delimiter, none of it is left in a segment, and splitting undoes
joining just where it is not in the last segment and each earlier one can stand in front of another. Without one,
splitting undoes joining of single segments only. -/
theorem split_join_inverse (s : Spelling) :
    (∀ key, s.join (s.split key) = key) ∧
    (s.delimiter ≠ "" →
      (∀ key, ∀ segment ∈ s.split key, Text.contains segment s.delimiter = false) ∧
      ∀ (segments : List String) (some : segments ≠ []), s.split (s.join segments) = segments ↔
        Text.contains (segments.getLast some) s.delimiter = false ∧
          ∀ segment ∈ segments.dropLast, s.CanPrecede segment) ∧
    (s.delimiter = "" → ∀ segments, s.split (s.join segments) = segments ↔ segments.length = 1) := by
  refine ⟨join_split s, fun nonempty => ⟨fun key segment => not_contains_of_mem_split nonempty, ?_⟩, ?_⟩
  · intro segments some
    rw [← split_join_concat_iff nonempty, List.dropLast_concat_getLast]
  · intro none segments
    rw [split_eq_singleton none, List.length_eq_one_iff]
    constructor
    · exact fun same => ⟨_, same.symm⟩
    · rintro ⟨segment, rfl⟩
      rw [join, Text.join, List.map_singleton, Text.glue, String.ofList_toList]

/-- A low line at the end of a segment goes with the delimiter behind it, unless the segment is the last. -/
theorem split_join_inverse_lowLine :
    Spelling.standard.join (Spelling.standard.split "a___b") = "a___b" ∧
    Spelling.standard.split (Spelling.standard.join ["b", "a_"]) = ["b", "a_"] ∧
    Spelling.standard.split (Spelling.standard.join ["a_", "b"]) ≠ ["a_", "b"] ∧
    Spelling.split ⟨"", '-'⟩ (Spelling.join ⟨"", '-'⟩ ["a__b"]) = ["a__b"] := by
  obtain ⟨undone, delimited, -⟩ := split_join_inverse .standard
  obtain ⟨-, exactly⟩ := delimited (by decide)
  obtain ⟨-, -, single⟩ := split_join_inverse ⟨"", '-'⟩
  refine ⟨undone "a___b", (exactly ["b", "a_"] (by decide)).mpr (by decide), fun same => ?_, ?_⟩
  · have precede := (exactly ["a_", "b"] (by decide)).mp same
    exact absurd precede (by decide)
  · exact (single rfl ["a__b"]).mpr rfl

end Spelling

end RecordQuery
