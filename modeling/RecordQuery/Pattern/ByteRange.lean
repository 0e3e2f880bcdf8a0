import RecordQuery.Pattern.CharSet

/-!
Sets of characters in UTF-8: each is the union of some sequences of byte ranges, which come in
ascending order and do not overlap.
-/

namespace RecordQuery.Pattern

/-- A closed range of bytes. -/
abbrev ByteRange := Nat × Nat

/-- Bytes from one range after another. -/
abbrev ByteSequence := List ByteRange

/-- The number of values of the given number of continuation bytes. -/
def continuations : Nat → Nat
  | 0 => 1
  | k + 1 => 64 * continuations k

/-- The sequences for the values from `first` to `last`, which take a byte that begins at `lead` and
the given number of continuation bytes. The values under the first and under the last leading byte
are split further, where they are not all there. -/
def split (k lead first last : Nat) : List ByteSequence :=
  match k with
  | 0 => [[(lead + first, lead + last)]]
  | k + 1 =>
    let unit := continuations (k + 1)
    let under (b first last : Nat) : List ByteSequence :=
      (split k 0x80 first last).map ((lead + b, lead + b) :: ·)
    let a := first / unit
    let b := last / unit
    if a = b then under a (first % unit) (last % unit)
    else
      let isOpenLeft := first % unit != 0
      let isOpenRight := last % unit != unit - 1
      let next := if isOpenLeft then a + 1 else a
      let stop := if isOpenRight then b else b + 1
      (if isOpenLeft then under a (first % unit) (unit - 1) else []) ++
        (if next < stop then
          [(lead + next, lead + stop - 1) :: List.replicate (k + 1) (0x80, 0xBF)] else []) ++
        (if isOpenRight then under b 0 (last % unit) else [])

/-- The characters that take the same number of bytes: how many continuation bytes, what the leading
byte begins at, and the code points, of which surrogates are none. -/
def encodings : List (Nat × Nat × CodeRange) := [
  (0, 0x00, (0x0, 0x7F)), (1, 0xC0, (0x80, 0x7FF)), (2, 0xE0, (0x800, 0xD7FF)),
  (2, 0xE0, (0xE000, 0xFFFF)), (3, 0xF0, (0x10000, 0x10FFFF))]

/-- The sequences of a range of code points. -/
def sequencesOfRange (r : CodeRange) : List ByteSequence :=
  encodings.flatMap fun (k, lead, form) =>
    let first := max r.1 form.1
    let last := min r.2 form.2
    if first ≤ last then split k lead first last else []

/-- The sequences of a set. -/
def CharSet.sequences (s : CharSet) : List ByteSequence := s.ranges.flatMap sequencesOfRange

/-! ### Trees -/

/-- Byte sequences by their first ranges: each range with what may follow under it, and then the next
range beside it. -/
inductive ByteTree where
  | nil
  | branch (r : ByteRange) (under next : ByteTree)

/-- The tree of sequences up to a length. Neighbours that begin with the same range share it. -/
def ByteTree.ofSequences : Nat → List ByteSequence → ByteTree
  | 0, _ => nil
  | n + 1, seqs =>
    ((seqs.filter (!·.isEmpty)).splitBy fun a b => a.head? == b.head?).foldr
      (fun group next => match group.head? >>= List.head? with
        | some r => branch r (ofSequences n (group.map List.tail)) next
        | none => next) nil

/-- The tree of a set. -/
def CharSet.tree (s : CharSet) : ByteTree := .ofSequences 4 s.sequences

end RecordQuery.Pattern
