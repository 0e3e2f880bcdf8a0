/-!
Cutting text at a delimiter and joining the pieces again, and the search for one text in another.
-/

namespace RecordQuery.Text

/-! ### Cutting -/

/-- Puts a character in front of the first piece. -/
def consFirst (c : Char) : List (List Char) → List (List Char)
  | [] => [[c]]
  | piece :: pieces => (c :: piece) :: pieces

/-- Cuts text at the leftmost occurrences of the delimiter that do not overlap, after passing over
the given number of characters. -/
def cutFrom (delimiter : List Char) : Nat → List Char → List (List Char)
  | _, [] => [[]]
  | skip + 1, _ :: cs => cutFrom delimiter skip cs
  | 0, c :: cs =>
    if delimiter.isPrefixOf (c :: cs) then [] :: cutFrom delimiter (delimiter.length - 1) cs
    else consFirst c (cutFrom delimiter 0 cs)

/-- The pieces of a text between the occurrences of a delimiter. An empty delimiter occurs nowhere. -/
def cut (delimiter text : List Char) : List (List Char) :=
  if delimiter.isEmpty then [text] else cutFrom delimiter 0 text

/-- Pieces with the delimiter between them. -/
def glue (delimiter : List Char) : List (List Char) → List Char
  | [] => []
  | [piece] => piece
  | piece :: pieces => piece ++ delimiter ++ glue delimiter pieces

theorem cutFrom_ne_nil (delimiter : List Char) (skip : Nat) (text : List Char) :
    cutFrom delimiter skip text ≠ [] := by
  fun_induction cutFrom delimiter skip text <;> simp_all [consFirst]
  split <;> simp

theorem glue_cons {delimiter : List Char} (piece : List Char) {pieces : List (List Char)}
    (h : pieces ≠ []) :
    glue delimiter (piece :: pieces) = piece ++ delimiter ++ glue delimiter pieces := by
  match pieces, h with
  | _ :: _, _ => rfl

theorem glue_consFirst {delimiter : List Char} (c : Char) {pieces : List (List Char)}
    (h : pieces ≠ []) : glue delimiter (consFirst c pieces) = c :: glue delimiter pieces := by
  match pieces, h with
  | [_], _ => rfl
  | _ :: _ :: _, _ => rfl

theorem glue_cutFrom {delimiter : List Char} (h : delimiter ≠ []) (skip : Nat) (text : List Char) :
    glue delimiter (cutFrom delimiter skip text) = text.drop skip := by
  fun_induction cutFrom delimiter skip text with
  | case1 => simp [glue]
  | case2 skip c cs ih => simpa using ih
  | case3 c cs found ih =>
    obtain ⟨rest, split⟩ := List.isPrefixOf_iff_prefix.1 found
    obtain ⟨d, ds, rfl⟩ := List.exists_cons_of_ne_nil h
    obtain ⟨rfl, same⟩ := List.cons.inj split
    rw [glue_cons [] (cutFrom_ne_nil _ _ cs), ih]
    simp [← same]
  | case4 c cs _ ih => rw [glue_consFirst c (cutFrom_ne_nil _ _ cs), ih, List.drop_zero, List.drop_zero]

/-- Gluing undoes cutting. -/
theorem glue_cut (delimiter text : List Char) : glue delimiter (cut delimiter text) = text := by
  unfold cut
  split
  · rfl
  · next h => exact glue_cutFrom (fun e => h (by simp [e])) 0 text

/-- The pieces of a string. -/
def split (delimiter text : String) : List String :=
  (cut delimiter.toList text.toList).map String.ofList

/-- A string of pieces with the delimiter between them. -/
def join (delimiter : String) (pieces : List String) : String :=
  String.ofList (glue delimiter.toList (pieces.map String.toList))

/-! ### Searching -/

/-- The text begins with the given start. -/
def startsWith (text start : String) : Bool := start.toList.isPrefixOf text.toList

/-- The text ends with the given end. -/
def endsWith (text ending : String) : Bool := ending.toList.isSuffixOf text.toList

/-- The needle stands somewhere in the text. -/
def occurs (needle : List Char) : List Char → Bool
  | [] => needle.isEmpty
  | c :: cs => needle.isPrefixOf (c :: cs) || occurs needle cs

/-- The text contains the needle. -/
def contains (text needle : String) : Bool := occurs needle.toList text.toList

end RecordQuery.Text
