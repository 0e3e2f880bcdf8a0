import RecordQuery.Ordering
import RecordQuery.Proofs.Lookup.Target
import RecordQuery.Proofs.Spelling.RoundTrip

/-!
Sort keys as they are spelled. One mark at most is taken off the front of a text, and what is left is a path if none
of its segments is empty. Nothing is lost in reading: the mark and the segments make the text again. Sort keys and
paths are shown in the standard spelling, so those that were read in it are shown as they were written.
-/

namespace RecordQuery

namespace Spelling
variable {s : Spelling} {text rest rest' : String} {d d' : Direction}

/-- What stands in front of the path of a sort key. -/
def lead (s : Spelling) : Direction → String
  | .ascending => ""
  | .descending => String.singleton s.mark

/-- The text is that of a direction with the rest behind it. It ascends only if it does not begin with the mark. -/
def Leads (s : Spelling) (text : String) (d : Direction) (rest : String) : Prop :=
  text = s.lead d ++ rest ∧ (d = .ascending → ∀ other, text ≠ s.lead .descending ++ other)

theorem toList_lead_descending : (s.lead .descending ++ rest).toList = s.mark :: rest.toList := by
  simp [lead]

theorem leads_direction (s : Spelling) (text : String) : s.Leads text (s.direction text).1 (s.direction text).2 := by
  unfold direction
  split
  · next c cs chars =>
    split
    · next marked =>
      refine ⟨?_, fun same => nomatch same⟩
      rw [← String.toList_inj, chars, toList_lead_descending, String.toList_ofList, marked]
    · next unmarked =>
      refine ⟨by simp [lead], fun _ other same => unmarked ?_⟩
      rw [same, toList_lead_descending] at chars
      exact (List.cons.inj chars).1.symm
  · next chars =>
    refine ⟨by simp [lead], fun _ other same => ?_⟩
    rw [same, toList_lead_descending] at chars
    cases chars

theorem Leads.unique (first : s.Leads text d rest) (second : s.Leads text d' rest') : d = d' ∧ rest = rest' := by
  obtain ⟨whole, unmarked⟩ := first
  obtain ⟨whole', unmarked'⟩ := second
  have same := whole.symm.trans whole'
  -- A text that ascends in one reading and descends in the other begins with the mark and does not.
  cases d <;> cases d'
  · exact ⟨rfl, by simpa [lead] using same⟩
  · exact absurd whole' (unmarked rfl rest')
  · exact absurd whole (unmarked' rfl rest)
  · have chars := congrArg String.toList same
    rw [toList_lead_descending, toList_lead_descending] at chars
    exact ⟨rfl, String.toList_inj.mp (List.cons.inj chars).2⟩

theorem direction_eq_iff : s.direction text = (d, rest) ↔ s.Leads text d rest := by
  have leads := s.leads_direction text
  constructor
  · intro read
    rwa [read] at leads
  · intro leads'
    obtain ⟨direction, behind⟩ := leads.unique leads'
    exact Prod.ext direction behind

end Spelling

namespace SortKey
variable {s : Spelling} {text : String} {key : SortKey} {path : Path} {e : Failure}

/-! ### Reading -/

theorem parse_eq_ok_iff : parse s text = .ok key ↔
    key.direction = (s.direction text).1 ∧ key.path.segments = s.split (s.direction text).2 := by
  obtain ⟨path, d⟩ := key
  rw [← Path.ofSegments?_eq_some_iff, parse]
  cases s.direction text with | mk d' rest
  dsimp only
  cases Path.ofSegments? (s.split rest) <;> simp [eq_comm, and_comm]

theorem parse_eq_error_iff : parse s text = .error e ↔ "" ∈ s.split (s.direction text).2 ∧ e = .emptyPath text := by
  have refused : "" ∈ s.split (s.direction text).2 ↔ Path.ofSegments? (s.split (s.direction text).2) = none := by
    rw [Path.ofSegments?_eq_none_iff, or_iff_right (s.split_ne_nil _)]
  rw [refused, parse]
  cases s.direction text with | mk d rest
  dsimp only
  cases Path.ofSegments? (s.split rest) <;> simp [eq_comm]

theorem exists_parse_iff : (∃ key, parse s text = .ok key) ↔ "" ∉ s.split (s.direction text).2 := by
  cases outcome : parse s text with
  | ok key =>
    have clean : "" ∉ s.split (s.direction text).2 := fun empty => by
      have failed := parse_eq_error_iff.mpr ⟨empty, rfl⟩
      rw [outcome] at failed
      cases failed
    simp [clean]
  | error e => simp [(parse_eq_error_iff.mp outcome).1]

/-- The mark and the segments of a sort key make its text again. -/
theorem spelled_of_parse (read : parse s text = .ok key) :
    text = s.lead key.direction ++ s.join key.path.segments := by
  obtain ⟨direction, segments⟩ := parse_eq_ok_iff.mp read
  rw [direction, segments, Spelling.join_split]
  exact (s.leads_direction text).1

/-! ### Showing -/

theorem text_eq (key : SortKey) :
    key.text = Spelling.standard.lead key.direction ++ Spelling.standard.join key.path.segments := by
  obtain ⟨path, d⟩ := key
  cases d with
  | ascending => simp [text, Path.text, Spelling.lead]
  | descending => rfl

theorem text_of_parse (read : parse .standard text = .ok key) : key.text = text := by
  rw [text_eq, ← spelled_of_parse read]

end SortKey

theorem Path.text_of_parse {text : String} {path : Path} (read : Path.parse .standard text = .ok path) :
    path.text = text := by
  rw [Path.text, Path.parse_eq_ok_iff.mp read, Spelling.join_split]

namespace SortKey

/-- A text is a sort key just where no segment is empty behind one mark at most, and the failure names the whole text
otherwise. A key that was read is its mark and its joined segments. In the standard spelling it is shown as it was
written, and so is a path, and what is shown is read as the same. -/
theorem spelled_exactly (s : Spelling) (text : String) :
    (∃ d rest, s.Leads text d rest) ∧
    (∀ d rest, s.Leads text d rest →
      ((∃ key, parse s text = .ok key) ↔ "" ∉ s.split rest) ∧
      (∀ key, parse s text = .ok key ↔ key.direction = d ∧ key.path.segments = s.split rest) ∧
      (∀ e, parse s text = .error e ↔ "" ∈ s.split rest ∧ e = .emptyPath text)) ∧
    (∀ key, parse s text = .ok key → text = s.lead key.direction ++ s.join key.path.segments) ∧
    (∀ key, parse .standard text = .ok key → key.text = text ∧ parse .standard key.text = .ok key) ∧
    (∀ path, Path.parse .standard text = .ok path → path.text = text ∧ Path.parse .standard path.text = .ok path) := by
  refine ⟨⟨_, _, s.leads_direction text⟩, ?_, fun key => spelled_of_parse, fun key read => ?_, fun path read => ?_⟩
  · intro d rest leads
    have read := Spelling.direction_eq_iff.mpr leads
    rw [exists_parse_iff, read]
    refine ⟨Iff.rfl, fun key => ?_, fun e => ?_⟩
    · rw [parse_eq_ok_iff, read]
    · rw [parse_eq_error_iff, read]
  · rw [text_of_parse read]
    exact ⟨rfl, read⟩
  · rw [Path.text_of_parse read]
    exact ⟨rfl, read⟩

/-- One of two marks is taken off, and the low lines between the segments are cut from the left. -/
theorem spelled_exactly_twoMarks :
    Spelling.standard.Leads "--a___b" .descending "-a___b" ∧
    ∃ key, parse .standard "--a___b" = .ok key ∧ key.path.segments = ["-a", "_b"] ∧ key.text = "--a___b" := by
  obtain ⟨-, exactly, -, shown, -⟩ := spelled_exactly .standard "--a___b"
  have leads : Spelling.standard.Leads "--a___b" .descending "-a___b" := ⟨by decide, by simp⟩
  obtain ⟨accepted, read, -⟩ := exactly _ _ leads
  obtain ⟨key, done⟩ := accepted.mpr (by decide)
  exact ⟨leads, key, done, (read key).mp done |>.2, (shown key done).1⟩

end SortKey

end RecordQuery
