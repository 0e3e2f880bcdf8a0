import RecordQuery.Proofs.Difference.Search

/-!
Where the difference comes from that is found between two maps of the same names. It comes from the first name
whose values do not agree, and from inside of these where both are maps. Values that agree are equal, but not the
other way round: one map in two places is equal to itself whatever it holds, and its contents need not be. So the
first name of unequal values is the one that is reported, unless a map that stands in both in front of it holds
what is not equal to itself.
-/

namespace RecordQuery

/-- The name is the first under which two maps have values that are not alike. -/
structure FirstApart (alike : Value → Value → Bool) (as bs : Dictionary Value) (name : String) (a b : Value) :
    Prop where
  left : as.find? name = some a
  right : bs.find? name = some b
  apart : alike a b = false
  before : ∀ other < name, ∀ x y, as.find? other = some x → bs.find? other = some y → alike x y = true

/-- What is reported of a name: the difference inside of two maps, and else the two values. -/
def reportUnder (name : String) : Value → Value → Option Difference
  | .record (.map _ as), .record (.map _ bs) => firstDifference? as bs
  | a, b => some (.value name a b)

/-! ### The first of some names -/

section
variable {names : List String} {name : String}

theorem exists_first {p : String → Prop} (ascending : names.Pairwise (· < ·)) (some : ∃ name ∈ names, p name) :
    ∃ name ∈ names, p name ∧ ∀ other ∈ names, other < name → ¬ p other := by
  induction names with
  | nil =>
    obtain ⟨name, mem, -⟩ := some
    cases mem
  | cons head names ih =>
    obtain ⟨first, later⟩ := List.pairwise_cons.mp ascending
    by_cases here : p head
    · refine ⟨head, List.mem_cons_self, here, fun other mem earlier => ?_⟩
      rcases List.mem_cons.mp mem with rfl | mem
      · exact absurd earlier (String.lt_irrefl other)
      · exact absurd earlier (String.lt_asymm (first other mem))
    · obtain ⟨found, mem, there⟩ := some
      have behind : found ∈ names := (List.mem_cons.mp mem).resolve_left fun same => here (same ▸ there)
      obtain ⟨name, mem, there, clear⟩ := ih later ⟨found, behind, there⟩
      refine ⟨name, List.mem_cons_of_mem _ mem, there, fun other mem earlier => ?_⟩
      rcases List.mem_cons.mp mem with rfl | mem
      · exact here
      · exact clear other mem earlier

theorem findSome?_of_first {α : Type} {f : String → Option α} {d : α} (ascending : names.Pairwise (· < ·))
    (mem : name ∈ names) (found : f name = some d) (before : ∀ other ∈ names, other < name → f other = none) :
    names.findSome? f = some d := by
  obtain ⟨earlier, later, rfl⟩ := List.append_of_mem mem
  refine List.findSome?_eq_some_iff.mpr ⟨earlier, name, later, rfl, found, fun other member => ?_⟩
  refine before other (List.mem_append_left _ member) ?_
  exact (List.pairwise_append.mp ascending).2.2 other member name List.mem_cons_self

end

section
variable {as bs : Dictionary Value} {name : String} {a b : Value}

/-! ### Values apart -/

/-- Values that are equal and do not agree are one map in two places. -/
theorem shared_of_same_of_not_agrees (same : a.same b = true) (apart : a.agrees b = false) :
    ∃ h inner inner', a = .record (.map h inner) ∧ b = .record (.map h inner') := by
  fun_cases Value.agrees a b with
  | case1 h inner h' inner' =>
    change sameFields inner inner' = false at apart
    change (h == h' || sameFields inner inner') = true at same
    rw [apart, Bool.or_false, beq_iff_eq] at same
    exact ⟨h, inner, inner', rfl, same ▸ rfl⟩
  | case2 a b other =>
    rw [agrees_of_not_maps other, same] at apart
    cases apart

/-- Values that do not agree are reported. -/
theorem valueDifference?_of_apart (apart : a.agrees b = false) :
    valueDifference? name a b = reportUnder name a b := by
  fun_cases Value.agrees a b with
  | case1 h inner h' inner' => rfl
  | case2 a b other =>
    rw [agrees_of_not_maps other] at apart
    rw [valueDifference?_of_not_maps other, apart, reportUnder]
    · rfl
    · exact other

theorem exists_firstApart (alike : Value → Value → Bool) (ha : as.Ascending)
    (some : ∃ name a b, as.find? name = some a ∧ bs.find? name = some b ∧ alike a b = false) :
    ∃ name a b, FirstApart alike as bs name a b := by
  obtain ⟨name, a, b, left, right, apart⟩ := some
  obtain ⟨name, -, ⟨a, b, left, right, apart⟩, clear⟩ :=
    exists_first (p := fun name => ∃ a b, as.find? name = .some a ∧ bs.find? name = .some b ∧ alike a b = false)
      (List.pairwise_map.mpr ha) ⟨name, Dictionary.mem_keys_iff.mpr ⟨a, left⟩, a, b, left, right, apart⟩
  refine ⟨name, a, b, left, right, apart, fun other earlier x y foundX foundY => ?_⟩
  have alikeThere := clear other (Dictionary.mem_keys_iff.mpr ⟨x, foundX⟩) earlier
  exact (Bool.not_eq_false _).mp fun differ => alikeThere ⟨x, y, foundX, foundY, differ⟩

theorem exists_unequal (ha : as.Ascending) (names : as.keys = bs.keys) (unequal : sameFields as bs = false) :
    ∃ name a b, as.find? name = some a ∧ bs.find? name = some b ∧ a.same b = false := by
  by_contra none
  have equal : sameFields as bs = true := by
    refine (sameFields_iff ha).mpr ⟨names, fun name a b foundA foundB => (Bool.not_eq_false _).mp fun differ => ?_⟩
    exact none ⟨name, a, b, foundA, foundB, differ⟩
  exact Bool.false_ne_true (unequal.symm.trans equal)

/-! ### The first name apart -/

theorem differenceUnder?_eq_none_iff (ha : as.AscendingThroughout) (hb : bs.AscendingThroughout)
    (foundA : as.find? name = some a) (foundB : bs.find? name = some b) :
    differenceUnder? as bs name = none ↔ a.agrees b = true := by
  rw [differenceUnder?_of_found foundA foundB]
  refine valueDifference?_eq_none_iff ?_
  rintro h inner h' inner' rfl rfl
  exact firstDifference?_eq_none_iff (ha.inside foundA) (hb.inside foundB)

/-- The first name whose values do not agree is the one that is reported. -/
theorem FirstApart.firstDifference?_eq (ha : as.AscendingThroughout) (hb : bs.AscendingThroughout)
    (names : as.keys = bs.keys) (unequal : sameFields as bs = false)
    (first : FirstApart Value.agrees as bs name a b) : firstDifference? as bs = reportUnder name a b := by
  have under : differenceUnder? as bs name = reportUnder name a b :=
    (differenceUnder?_of_found first.left first.right).trans (valueDifference?_of_apart first.apart)
  obtain ⟨d, found⟩ : ∃ d, differenceUnder? as bs name = some d := by
    refine Option.ne_none_iff_exists'.mp fun nothing => ?_
    have agree := (differenceUnder?_eq_none_iff ha hb first.left first.right).mp nothing
    exact Bool.false_ne_true (first.apart.symm.trans agree)
  rw [firstDifference?_of_names ha.ascending names unequal, ← under, found]
  refine findSome?_of_first (List.pairwise_map.mpr ha.ascending) (Dictionary.mem_keys_iff.mpr ⟨a, first.left⟩) found
    fun other mem earlier => ?_
  obtain ⟨x, foundX⟩ := Dictionary.mem_keys_iff.mp mem
  obtain ⟨y, foundY⟩ := Dictionary.mem_keys_iff.mp (names ▸ mem)
  exact (differenceUnder?_eq_none_iff ha hb foundX foundY).mpr (first.before other earlier x y foundX foundY)

/-- Unequal maps of the same names have a first name of unequal values. That one is reported, or from inside of
it, unless there is a name in front of it under which both have one map whose contents are not equal to
themselves: the first of these is then reported from inside, though equal in both. -/
theorem firstDifference?_first_or_shared (ha : as.AscendingThroughout) (hb : bs.AscendingThroughout)
    (names : ∀ name, name ∈ as.keys ↔ name ∈ bs.keys) (unequal : sameFields as bs = false) :
    (∃ name a b, FirstApart Value.same as bs name a b) ∧
    ∀ name a b, FirstApart Value.same as bs name a b →
      (FirstApart Value.agrees as bs name a b ∧ firstDifference? as bs = reportUnder name a b) ∨
      ∃ other < name, ∃ h inner inner',
        FirstApart Value.agrees as bs other (.record (.map h inner)) (.record (.map h inner')) ∧
          firstDifference? as bs = firstDifference? inner inner' := by
  have keys : as.keys = bs.keys := (keys_eq_iff ha.ascending hb.ascending).mpr names
  refine ⟨exists_firstApart _ ha.ascending (exists_unequal ha.ascending keys unequal), fun name a b first => ?_⟩
  have apart : a.agrees b = false := (Bool.not_eq_true _).mp fun agree =>
    Bool.false_ne_true (first.apart.symm.trans (same_of_agrees agree))
  obtain ⟨other, x, y, reported⟩ := exists_firstApart Value.agrees ha.ascending
    ⟨name, a, b, first.left, first.right, apart⟩
  -- What is reported is not behind the first unequal values, for these do not agree.
  by_cases here : other = name
  · left
    subst here
    cases Option.some.inj (reported.left.symm.trans first.left)
    cases Option.some.inj (reported.right.symm.trans first.right)
    exact ⟨reported, reported.firstDifference?_eq ha hb keys unequal⟩
  · have earlier : other < name := by
      refine Std.lt_of_le_of_ne (String.not_lt.mp fun later => ?_) here
      have agree := reported.before name later a b first.left first.right
      exact Bool.false_ne_true (apart.symm.trans agree)
    right
    have same := first.before other earlier x y reported.left reported.right
    obtain ⟨h, inner, inner', rfl, rfl⟩ := shared_of_same_of_not_agrees same reported.apart
    exact ⟨other, earlier, h, inner, inner', reported, reported.firstDifference?_eq ha hb keys unequal⟩

end

/-- A number beside a map that is one and the same wherever it stands. -/
def besideShared (inner : Value) (n : Nat) : Dictionary Value :=
  .ofList [("x", .ofNat n), ("m", .record (.ofPairs 1 [("n", inner)]))]

theorem besideShared_eq (inner : Value) (n : Nat) :
    besideShared inner n = [("m", .record (.ofPairs 1 [("n", inner)])), ("x", .ofNat n)] :=
  if_pos (by decide : "m" < "x")

theorem ascendingThroughout_besideShared {inner : Value} (flat : ∀ h fields, inner ≠ .record (.map h fields))
    (n : Nat) : (besideShared inner n).AscendingThroughout :=
  ascendingThroughout_of_nested "x" "m" "n" n 1 fun h fields same => absurd same (flat h fields)

theorem find?_besideShared {inner : Value} {n : Nat} {name : String} {v : Value} (earlier : name < "x")
    (found : (besideShared inner n).find? name = some v) : v = .record (.ofPairs 1 [("n", inner)]) := by
  rw [besideShared_eq, Dictionary.find?, Dictionary.find?] at found
  split at found
  · exact (Option.some.inj found).symm
  · split at found
    · next same => exact absurd earlier (same ▸ String.lt_irrefl _)
    · cases found

theorem firstApart_besideShared (inner : Value) :
    FirstApart Value.same (besideShared inner 1) (besideShared inner 2) "x" (.ofNat 1) (.ofNat 2) := by
  refine ⟨besideShared_eq .. ▸ rfl, besideShared_eq .. ▸ rfl, rfl, fun other earlier x y foundX foundY => ?_⟩
  obtain rfl := find?_besideShared earlier foundX
  obtain rfl := find?_besideShared earlier foundY
  rfl

theorem firstDifference?_first_or_shared_null :
    firstDifference? (besideShared .null 1) (besideShared .null 2) = some (.value "x" (.ofNat 1) (.ofNat 2)) := by
  have ordered (n : Nat) : (besideShared .null n).AscendingThroughout :=
    ascendingThroughout_besideShared (fun _ _ same => by cases same) n
  obtain ⟨-, each⟩ := firstDifference?_first_or_shared (ordered 1) (ordered 2) (fun name => Iff.rfl) rfl
  rcases each "x" _ _ (firstApart_besideShared .null) with ⟨-, reported⟩ | ⟨other, earlier, h, inner, inner', first, -⟩
  · exact reported
  · cases find?_besideShared earlier first.left
    cases find?_besideShared earlier first.right
    cases first.apart

/-- Under the first name the maps have one map, which is equal in both, and the numbers under the second name are
the first values that are not. Yet the difference that is found is one inside of the shared map. -/
theorem firstDifference?_inside_shared :
    (besideShared notANumber 1).AscendingThroughout ∧ (besideShared notANumber 2).AscendingThroughout ∧
      (besideShared notANumber 1).keys = (besideShared notANumber 2).keys ∧
      sameFields (besideShared notANumber 1) (besideShared notANumber 2) = false ∧
      FirstApart Value.same (besideShared notANumber 1) (besideShared notANumber 2) "x" (.ofNat 1) (.ofNat 2) ∧
      firstDifference? (besideShared notANumber 1) (besideShared notANumber 2) =
        some (.value "n" notANumber notANumber) ∧
      firstDifference? (besideShared notANumber 1) (besideShared notANumber 2) ≠
        reportUnder "x" (.ofNat 1) (.ofNat 2) := by
  have ordered (n : Nat) : (besideShared notANumber n).AscendingThroughout :=
    ascendingThroughout_besideShared (fun _ _ same => by cases same) n
  have found : firstDifference? (besideShared notANumber 1) (besideShared notANumber 2) =
      some (.value "n" notANumber notANumber) := rfl
  refine ⟨ordered 1, ordered 2, rfl, rfl, firstApart_besideShared notANumber, found, fun same => ?_⟩
  have name : "n" = "x" := (Difference.value.inj (Option.some.inj (found.symm.trans same))).1
  exact absurd name (by decide)

end RecordQuery
