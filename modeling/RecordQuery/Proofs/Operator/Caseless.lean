import Mathlib.Data.List.TakeWhile
import RecordQuery.Pattern.Engine
import RecordQuery.Proofs.Spelling.RoundTrip
import RecordQuery.Proofs.Value.Equality

/-!
The comparators that leave case out of account, beside those that do not. Equal values are equal without case. A
text that stands in another need not be found there without case: the lower case of a capital sigma depends on the
characters around it, and the needle is lowered apart from the text that it stands in. That makes a difference
where the needle cuts a word at a capital sigma, and nowhere else.
-/

namespace RecordQuery

namespace Unicode

section
variable {before after before' after' front behind : List Char}

/-! ### Lower case of a part -/

/-- Lower case of text between other characters, those before it in reverse. -/
def lowerBetween (before : List Char) : List Char → List Char → List Char
  | [], _ => []
  | c :: cs, after =>
    (if c = 'Σ' then [lowerSigma before (cs ++ after)] else lowerChar c) ++ lowerBetween (c :: before) cs after

theorem lowerFrom_eq (before cs : List Char) : lowerFrom before cs = lowerBetween before cs [] := by
  induction cs generalizing before with
  | nil => rfl
  | cons c cs ih => rw [lowerFrom, lowerBetween, List.append_nil, ih]

theorem lowerBetween_append (before xs ys after : List Char) : lowerBetween before (xs ++ ys) after =
    lowerBetween before xs (ys ++ after) ++ lowerBetween (xs.reverse ++ before) ys after := by
  induction xs generalizing before with
  | nil => rfl
  | cons x xs ih =>
    simp only [List.cons_append, lowerBetween, ih, List.append_assoc, List.reverse_cons, List.nil_append]

/-- Two surroundings lower a text alike just where they lower each capital sigma alike. -/
theorem lowerBetween_eq_iff {cs : List Char} : lowerBetween before cs after = lowerBetween before' cs after' ↔
    ∀ x y, cs = x ++ 'Σ' :: y →
      lowerSigma (x.reverse ++ before) (y ++ after) = lowerSigma (x.reverse ++ before') (y ++ after') := by
  induction cs generalizing before before' with
  | nil => simp [lowerBetween]
  | cons c cs ih =>
    have later : lowerBetween (c :: before) cs after = lowerBetween (c :: before') cs after' ↔
        ∀ x y, c :: cs = c :: x ++ 'Σ' :: y → lowerSigma ((c :: x).reverse ++ before) (y ++ after) =
          lowerSigma ((c :: x).reverse ++ before') (y ++ after') := by
      simp only [ih, List.cons_append, List.cons.injEq, true_and, List.reverse_cons, List.append_assoc,
        List.nil_append]
    constructor
    · intro same x y cut
      by_cases sigma : c = 'Σ'
      · subst sigma
        simp only [lowerBetween, if_true, List.cons_append, List.nil_append, List.cons.injEq] at same
        cases x with
        | nil =>
          obtain rfl : cs = y := (List.cons.inj cut).2
          exact same.1
        | cons d x =>
          obtain rfl : 'Σ' = d := (List.cons.inj cut).1
          exact later.mp same.2 x y cut
      · cases x with
        | nil => exact absurd (List.cons.inj cut).1 sigma
        | cons d x =>
          obtain rfl : c = d := (List.cons.inj cut).1
          rw [lowerBetween, lowerBetween, if_neg sigma, if_neg sigma] at same
          exact later.mp (List.append_cancel_left same) x y cut
    · intro each
      have tail := later.mpr fun x y cut => each (c :: x) y cut
      rw [lowerBetween, lowerBetween, tail]
      by_cases sigma : c = 'Σ'
      · subst sigma
        have head := each [] cs rfl
        rw [List.reverse_nil, List.nil_append, List.nil_append] at head
        rw [head]
      · rw [if_neg sigma, if_neg sigma]

theorem length_lowerBetween (before before' cs after after' : List Char) :
    (lowerBetween before cs after).length = (lowerBetween before' cs after').length := by
  induction cs generalizing before before' with
  | nil => rfl
  | cons c cs ih =>
    rw [lowerBetween, lowerBetween, List.length_append, List.length_append, ih (c :: before) (c :: before')]
    by_cases sigma : c = 'Σ'
    · rw [if_pos sigma, if_pos sigma, List.length_singleton, List.length_singleton]
    · rw [if_neg sigma, if_neg sigma]

/-! ### Words that are cut -/

/-- Casing looks through all the characters. -/
def Transparent (cs : List Char) : Prop := ∀ c ∈ cs, isCaseIgnorable c = true

theorem casedNext_append_of_transparent (through : Transparent front) (behind : List Char) :
    casedNext (front ++ behind) = casedNext behind := by
  rw [casedNext, List.dropWhile_append_of_pos through, casedNext]

theorem casedNext_append_of_not_transparent (stopped : ¬ Transparent front) (behind : List Char) :
    casedNext (front ++ behind) = casedNext front := by
  have some : (front.dropWhile isCaseIgnorable).isEmpty = false := by
    rw [List.isEmpty_eq_false_iff, Ne, List.dropWhile_eq_nil_iff]
    exact stopped
  obtain ⟨c, cs, rest⟩ := List.exists_cons_of_ne_nil (List.isEmpty_eq_false_iff.mp some)
  rw [casedNext, casedNext, List.dropWhile_append, if_neg (by simp [some]), rest]
  rfl

theorem Transparent.casedNext_eq_false (through : Transparent front) : casedNext front = false := by
  rw [← List.append_nil front, casedNext_append_of_transparent through]
  rfl

theorem transparent_reverse_iff : Transparent front.reverse ↔ Transparent front := by
  simp only [Transparent, List.mem_reverse]

/-- A part of a text cuts a word at a capital sigma. Either the sigma ends the word as far as the part goes, and
the word goes on behind; or it ends the word in the text, and all that makes it stand in a word is in front. -/
def CutsSigma (before part after : List Char) : Prop :=
  ∃ front behind, part = front ++ 'Σ' :: behind ∧
    (casedNext front.reverse = true ∧ Transparent behind ∧ casedNext after = true ∨
      Transparent front ∧ casedNext before.reverse = true ∧ casedNext (behind ++ after) = false)

/-- A capital sigma at an edge of a text, where what follows or goes before the text decides its lower case. -/
def SigmaAtEdge (part : List Char) : Prop :=
  ∃ front behind, part = front ++ 'Σ' :: behind ∧
    (casedNext front.reverse = true ∧ Transparent behind ∨ Transparent front ∧ casedNext behind = false)

theorem lowerSigma_eq_iff : lowerSigma before after = lowerSigma before' after' ↔
    ((casedNext before && !casedNext after) = (casedNext before' && !casedNext after')) := by
  unfold lowerSigma
  cases casedNext before && !casedNext after <;> cases casedNext before' && !casedNext after' <;> decide

theorem lowerSigma_apart_iff :
    lowerSigma (front.reverse ++ before.reverse) (behind ++ after) ≠ lowerSigma front.reverse behind ↔
    casedNext front.reverse = true ∧ Transparent behind ∧ casedNext after = true ∨
      Transparent front ∧ casedNext before.reverse = true ∧ casedNext (behind ++ after) = false := by
  rw [Ne, lowerSigma_eq_iff]
  -- What is looked through on a side shows what stands beyond; all else hides it.
  by_cases ahead : Transparent front
  · have looked := transparent_reverse_iff.mpr ahead
    rw [casedNext_append_of_transparent looked, looked.casedNext_eq_false]
    simp [ahead]
  · have hidden := fun through => ahead (transparent_reverse_iff.mp through)
    rw [casedNext_append_of_not_transparent hidden]
    by_cases rest : Transparent behind
    · rw [casedNext_append_of_transparent rest, rest.casedNext_eq_false]
      simp [ahead, rest]
    · rw [casedNext_append_of_not_transparent rest]
      simp [ahead, rest]

/-- A part is lowered as the same text alone, just where it does not cut a word at a capital sigma. -/
theorem lowerBetween_eq_alone_iff (before part after : List Char) :
    lowerBetween before.reverse part after = lowerFrom [] part ↔ ¬ CutsSigma before part after := by
  simp only [lowerFrom_eq, lowerBetween_eq_iff, CutsSigma, not_exists, not_and, ← lowerSigma_apart_iff,
    List.append_nil, Ne, not_not]

theorem CutsSigma.sigmaAtEdge {part : List Char} (cut : CutsSigma before part after) : SigmaAtEdge part := by
  obtain ⟨front, behind, same, ⟨word, through, -⟩ | ⟨through, -, ends⟩⟩ := cut
  · exact ⟨front, behind, same, Or.inl ⟨word, through⟩⟩
  · refine ⟨front, behind, same, Or.inr ⟨through, ?_⟩⟩
    by_cases rest : Transparent behind
    · exact rest.casedNext_eq_false
    · rwa [casedNext_append_of_not_transparent rest] at ends

/-! ### Texts that are missed -/

/-- Some letter is its own lower case, and not a given one. -/
theorem exists_letter (c : Option Char) :
    ∃ l : Char, c ≠ some l ∧ l ≠ 'Σ' ∧ lowerChar l = [l] ∧ casedNext [l] = true := by
  by_cases a : c = some 'a'
  · refine ⟨'b', ?_, by decide, by decide +kernel, by decide +kernel⟩
    rw [a]
    decide
  · exact ⟨'a', a, by decide, by decide +kernel, by decide +kernel⟩

theorem not_infix_cons {cs ds : List Char} {l : Char} (length : cs.length = ds.length) (apart : cs ≠ ds)
    (start : cs.head? ≠ some l) : ¬ cs <:+: l :: ds := by
  intro found
  rcases List.infix_cons_iff.mp found with ahead | inside
  · rcases List.prefix_cons_iff.mp ahead with rfl | ⟨rest, rfl, -⟩
    · exact apart (List.length_eq_zero_iff.mp length.symm).symm
    · exact start rfl
  · exact apart (inside.eq_of_length length)

theorem not_infix_concat {cs ds : List Char} {l : Char} (length : cs.length = ds.length) (apart : cs ≠ ds)
    (ending : cs.getLast? ≠ some l) : ¬ cs <:+: ds ++ [l] := by
  rw [← List.reverse_infix, List.reverse_concat]
  refine not_infix_cons ?_ (mt List.reverse_inj.mp apart) ?_
  · rw [List.length_reverse, List.length_reverse, length]
  · rwa [List.head?_reverse]

/-- A text with a capital sigma at an edge is not found in lower case next to some letter. -/
theorem SigmaAtEdge.exists_missed {part : List Char} (edge : SigmaAtEdge part) :
    ∃ before after, ¬ lowerFrom [] part <:+: lowerFrom [] (before ++ part ++ after) := by
  obtain ⟨front, behind, same, ⟨word, through⟩ | ⟨through, ends⟩⟩ := edge
  · obtain ⟨l, other, notSigma, itself, cased⟩ := exists_letter (lowerFrom [] part).getLast?
    have cut : CutsSigma [] part [l] := ⟨front, behind, same, Or.inl ⟨word, through, cased⟩⟩
    have apart : lowerBetween [] part [l] ≠ lowerFrom [] part := fun alone =>
      (lowerBetween_eq_alone_iff [] part [l]).mp alone cut
    refine ⟨[], [l], ?_⟩
    have whole : lowerFrom [] ([] ++ part ++ [l]) = lowerBetween [] part [l] ++ [l] := by
      rw [lowerFrom_eq, List.nil_append, lowerBetween_append, List.append_nil, lowerBetween, if_neg notSigma, itself]
      rfl
    rw [whole]
    refine not_infix_concat ?_ apart.symm other
    rw [lowerFrom_eq]
    exact length_lowerBetween _ _ _ _ _
  · obtain ⟨l, other, notSigma, itself, cased⟩ := exists_letter (lowerFrom [] part).head?
    have cut : CutsSigma [l] part [] :=
      ⟨front, behind, same, Or.inr ⟨through, cased, by rwa [List.append_nil]⟩⟩
    have apart : lowerBetween [l] part [] ≠ lowerFrom [] part := fun alone =>
      (lowerBetween_eq_alone_iff [l] part []).mp alone cut
    refine ⟨[l], [], ?_⟩
    have whole : lowerFrom [] ([l] ++ part ++ []) = l :: lowerBetween [l] part [] := by
      rw [lowerFrom_eq, List.append_nil, List.singleton_append, lowerBetween, if_neg notSigma, itself]
      rfl
    rw [whole]
    refine not_infix_cons ?_ apart.symm other
    rw [lowerFrom_eq]
    exact length_lowerBetween _ _ _ _ _

end

end Unicode

/-! ### Comparators -/

theorem sameCaseless_of_same {v w : Value} (same : v.same w = true) : sameCaseless v w = true := by
  cases v with
  | string a =>
    cases w with
    | string e =>
      obtain rfl : a = e := beq_iff_eq.mp same
      exact beq_self_eq_true _
    | _ => exact same
  | _ => exact same

theorem Text.contains_toLower_iff {text needle : String} :
    contains (Unicode.toLower text) (Unicode.toLower needle) = true ↔
      Unicode.lowerFrom [] needle.toList <:+: Unicode.lowerFrom [] text.toList := by
  simp only [contains_iff, Unicode.toLower, String.toList_ofList]

/-- A text that stands in another without cutting a word at a capital sigma stands there in lower case too. -/
theorem Text.contains_toLower_of_not_cuts {text needle : String} {before after : List Char}
    (stands : text.toList = before ++ needle.toList ++ after)
    (whole : ¬ Unicode.CutsSigma before needle.toList after) :
    contains (Unicode.toLower text) (Unicode.toLower needle) = true := by
  rw [contains_toLower_iff, stands, ← (Unicode.lowerBetween_eq_alone_iff _ _ _).mpr whole, Unicode.lowerFrom_eq,
    Unicode.lowerBetween_append, Unicode.lowerBetween_append, List.append_nil, List.append_nil]
  exact List.infix_append _ _ _

theorem Value.containsCaseless_of_contains {v w : Value} (found : v.contains w = true) :
    v.containsCaseless w = true ∨ ∃ text needle, v = .string text ∧ w = .string needle ∧
      ∀ before after, text.toList = before ++ needle.toList ++ after →
        Unicode.CutsSigma before needle.toList after := by
  cases v with
  | string text =>
    cases w with
    | string needle =>
      by_cases cut : ∀ before after, text.toList = before ++ needle.toList ++ after →
          Unicode.CutsSigma before needle.toList after
      · exact Or.inr ⟨text, needle, rfl, rfl, cut⟩
      · simp only [not_forall] at cut
        obtain ⟨before, after, stands, whole⟩ := cut
        exact Or.inl (Text.contains_toLower_of_not_cuts stands whole)
    | _ => exact Or.inl found
  | _ => exact Or.inl found

/-- Values that are equal are equal without case. What a value contains it contains without case, unless both are
texts and the needle cuts a word at a capital sigma wherever it stands. So the needles that are found without case
wherever they are found with it are those without a capital sigma at an edge. -/
theorem caseless_holds_unless_cut [PatternEngine] (v w : Value) :
    (standardHolds "exact" v w = true → standardHolds "iexact" v w = true) ∧
    (standardHolds "contains" v w = true → standardHolds "icontains" v w = true ∨
      ∃ text needle, v = .string text ∧ w = .string needle ∧
        ∀ before after, text.toList = before ++ needle.toList ++ after →
          Unicode.CutsSigma before needle.toList after) ∧
    ∀ needle, w = .string needle →
      ((∀ u, standardHolds "contains" u w = true → standardHolds "icontains" u w = true) ↔
        ¬ Unicode.SigmaAtEdge needle.toList) := by
  have exact : standardHolds "exact" = Value.same := standardHolds_eq rfl
  have iexact : standardHolds "iexact" = sameCaseless := standardHolds_eq rfl
  have contains : standardHolds "contains" = Value.contains := standardHolds_eq rfl
  have icontains : standardHolds "icontains" = Value.containsCaseless := standardHolds_eq rfl
  rw [exact, iexact, contains, icontains]
  refine ⟨sameCaseless_of_same, Value.containsCaseless_of_contains, ?_⟩
  rintro needle rfl
  constructor
  · intro each edge
    obtain ⟨before, after, missed⟩ := edge.exists_missed
    obtain ⟨text, stands⟩ : ∃ text : String, text.toList = before ++ needle.toList ++ after :=
      ⟨String.ofList (before ++ needle.toList ++ after), String.toList_ofList⟩
    have found : Text.contains text needle = true := by
      rw [Text.contains_iff, stands]
      exact List.infix_append _ _ _
    have lowered := Text.contains_toLower_iff.mp (each (.string text) found)
    rw [stands] at lowered
    exact missed lowered
  · intro inner u found
    refine (Value.containsCaseless_of_contains found).resolve_right ?_
    rintro ⟨text, needle', rfl, same, cut⟩
    obtain rfl : needle = needle' := Value.string.inj same
    obtain ⟨before, after, stands⟩ := Text.contains_iff.mp found
    exact inner (cut before after stands.symm).sigmaAtEdge

/-- The needle cuts the first word at its sigma, and is the whole of the second one. -/
theorem caseless_holds_unless_cut_secondWord :
    standardHolds "exact" (.string "ΑΣ") (.string "ΑΣ") = true ∧
    standardHolds "iexact" (.string "ΑΣ") (.string "ΑΣ") = true ∧
    standardHolds "contains" (.string "ΑΣΑ ΑΣ") (.string "ΑΣ") = true ∧
    standardHolds "icontains" (.string "ΑΣΑ ΑΣ") (.string "ΑΣ") = true := by
  have same : standardHolds "exact" (.string "ΑΣ") (.string "ΑΣ") = true := by decide
  have contained : standardHolds "contains" (.string "ΑΣΑ ΑΣ") (.string "ΑΣ") = true := by decide
  refine ⟨same, (caseless_holds_unless_cut _ _).1 same, contained,
    ((caseless_holds_unless_cut _ _).2.1 contained).resolve_right ?_⟩
  rintro ⟨text, needle, ⟨⟩, ⟨⟩, cut⟩
  have whole : ¬ Unicode.CutsSigma "ΑΣΑ ".toList "ΑΣ".toList [] :=
    (Unicode.lowerBetween_eq_alone_iff _ _ _).mp (by decide +kernel)
  exact whole (cut _ _ (by decide))

/-- A text contains a part of its only word, which ends in a capital sigma, but does not contain it without case. -/
theorem caseless_misses_sigma :
    standardHolds "contains" (.string "ΑΣΑ") (.string "ΑΣ") = true ∧
      standardHolds "icontains" (.string "ΑΣΑ") (.string "ΑΣ") = false :=
  ⟨by decide, by decide +kernel⟩

end RecordQuery
