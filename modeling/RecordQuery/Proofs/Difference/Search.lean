import RecordQuery.Proofs.Difference.Sets
import RecordQuery.Proofs.Value.Equality

/-!
The search for a difference between two maps. It goes through the names of the maps and into the maps that
stand under one name in both, and finds nothing just where the maps are equal. Exchanged maps have the
exchanged difference.
-/

namespace RecordQuery

/-- The names of a map stand in ascending order, and so do those of every map inside of it. -/
inductive Dictionary.AscendingThroughout : Dictionary Value → Prop
  | intro {fields : Dictionary Value} (ascending : fields.Ascending)
      (inside : ∀ name h inner, (name, Value.record (.map h inner)) ∈ fields → AscendingThroughout inner) :
      AscendingThroughout fields

/-- Values under one name agree: two maps by their contents, whatever their handles, and all else by equality. -/
def Value.agrees : Value → Value → Bool
  | .record (.map _ as), .record (.map _ bs) => sameFields as bs
  | a, b => a.same b

/-- The difference the other way round. -/
def Difference.swapped : Difference → Difference
  | keys names => keys names
  | value name left right => value name right left

/-- The difference between what two maps hold under a name. -/
def differenceUnder? (as bs : Dictionary Value) (name : String) : Option Difference :=
  (as.find? name).bind fun a => (bs.find? name).bind fun b => valueDifference? name a b

section
variable {as bs : Dictionary Value} {name : String} {a b : Value}

/-! ### Names in order -/

namespace Dictionary.AscendingThroughout

theorem ascending (h : as.AscendingThroughout) : as.Ascending := by
  cases h with
  | intro ascending inside => exact ascending

theorem inside (ascending : as.AscendingThroughout) {h : Nat} {inner : Dictionary Value}
    (found : as.find? name = some (.record (.map h inner))) : inner.AscendingThroughout := by
  cases ascending with
  | intro _ inside => exact inside name h inner (mem_of_find? found)

theorem insert (ascending : as.AscendingThroughout)
    (deeper : ∀ h inner, a = .record (.map h inner) → AscendingThroughout inner) :
    (as.insert name a).AscendingThroughout := by
  obtain ⟨ordered, inside⟩ := ascending
  refine .intro (ascending_insert ordered name a) fun other h inner mem => ?_
  rcases mem_of_mem_insert mem with new | old
  · exact deeper h inner (Prod.mk.inj new).2.symm
  · exact inside other h inner old

/-- Maps that are built of such maps have their names in order throughout. -/
theorem ofList {pairs : List (String × Value)}
    (deeper : ∀ pair ∈ pairs, ∀ h inner, pair.2 = .record (.map h inner) → AscendingThroughout inner) :
    (ofList pairs).AscendingThroughout :=
  List.foldlRecOn (motive := AscendingThroughout) pairs _ (.intro List.Pairwise.nil fun _ _ _ mem => nomatch mem)
    fun _ built pair mem => built.insert (deeper pair mem)

end Dictionary.AscendingThroughout

/-! ### Maps entry by entry -/

theorem keys_eq_iff (ha : as.Ascending) (hb : bs.Ascending) :
    as.keys = bs.keys ↔ ∀ name, name ∈ as.keys ↔ name ∈ bs.keys := by
  refine ⟨fun same name => by rw [same], fun same => ?_⟩
  exact (List.pairwise_map.mpr ha).eq_of_mem_iff (List.pairwise_map.mpr hb) same

/-- Maps are equal when they have the same names and equal values under each. -/
theorem sameFields_iff (ha : as.Ascending) : sameFields as bs = true ↔
    as.keys = bs.keys ∧ ∀ name a b, as.find? name = some a → bs.find? name = some b → a.same b = true := by
  induction as generalizing bs with
  | nil => cases bs <;> simp [sameFields, Dictionary.keys, Dictionary.find?]
  | cons field as ih =>
    obtain ⟨first, later⟩ := List.pairwise_cons.mp ha
    obtain ⟨k, a⟩ := field
    cases bs with
    | nil => simp [sameFields, Dictionary.keys]
    | cons other bs =>
      obtain ⟨l, b⟩ := other
      -- Ascending names do not come back, so what is found further on is found behind the first entry.
      have apart : ∀ name v, Dictionary.find? name as = some v → k ≠ name := by
        rintro _ v found rfl
        have before := first _ (Dictionary.mem_of_find? found)
        exact String.lt_irrefl _ before
      have heads : Dictionary.keys ((k, a) :: as) = Dictionary.keys ((l, b) :: bs) ↔
          k = l ∧ Dictionary.keys as = Dictionary.keys bs := List.cons_eq_cons
      rw [sameFields, Bool.and_eq_true, Bool.and_eq_true, beq_iff_eq, ih later, heads]
      constructor
      · rintro ⟨⟨rfl, head⟩, names, rest⟩
        refine ⟨⟨rfl, names⟩, fun name x y hx hy => ?_⟩
        rw [Dictionary.find?] at hx hy
        split at hx
        · next same =>
          rw [if_pos same] at hy
          cases hx
          cases hy
          exact head
        · next other =>
          rw [if_neg other] at hy
          exact rest name x y hx hy
      · rintro ⟨⟨rfl, names⟩, each⟩
        refine ⟨⟨rfl, each k a b (if_pos rfl) (if_pos rfl)⟩, names, fun name x y hx hy => ?_⟩
        have other := apart name x hx
        exact each name x y ((if_neg other).trans hx) ((if_neg other).trans hy)

/-! ### The search -/

/-- The search through the entries asks name by name, as long as no name is missing on the other side. -/
theorem fieldDifference?_eq (ha : as.Ascending) (names : as.keys = bs.keys) :
    fieldDifference? as bs = as.keys.findSome? (differenceUnder? as bs) := by
  suffices ∀ fields : Dictionary Value, (∀ field ∈ fields, field ∈ as) →
      fieldDifference? fields bs = fields.keys.findSome? (differenceUnder? as bs) from this as fun _ held => held
  intro fields held
  induction fields with
  | nil => rfl
  | cons field fields ih =>
    obtain ⟨head, later⟩ := List.forall_mem_cons.mp held
    obtain ⟨b, found⟩ : ∃ b, bs.find? field.1 = some b :=
      Dictionary.mem_keys_iff.mp (names ▸ List.mem_map_of_mem head)
    have here : differenceUnder? as bs field.1 = valueDifference? field.1 field.2 b := by
      rw [differenceUnder?, Dictionary.find?_of_mem ha head, found, Option.bind_some, Option.bind_some]
    have step : (Dictionary.keys (field :: fields)).findSome? (differenceUnder? as bs) =
        (differenceUnder? as bs field.1).or ((Dictionary.keys fields).findSome? (differenceUnder? as bs)) := by
      rw [Dictionary.keys, List.map_cons, List.findSome?_cons]
      cases differenceUnder? as bs field.1 <;> rfl
    rw [step, here, ← ih later, fieldDifference?, found]
    dsimp only
    cases valueDifference? field.1 field.2 b <;> rfl

theorem firstDifference?_of_same (same : sameFields as bs = true) : firstDifference? as bs = none :=
  if_pos same

theorem firstDifference?_of_names (ha : as.Ascending) (names : as.keys = bs.keys)
    (unequal : sameFields as bs = false) :
    firstDifference? as bs = as.keys.findSome? (differenceUnder? as bs) := by
  have none : symmetricDifference as.keys bs.keys = [] :=
    symmetricDifference_eq_nil_iff.mpr fun name => by rw [names]
  rw [firstDifference?, mapDifference?, if_neg (by simp [unequal]), none]
  exact fieldDifference?_eq ha names

theorem firstDifference?_of_names_ne (ha : as.Ascending) (hb : bs.Ascending) (names : as.keys ≠ bs.keys) :
    firstDifference? as bs = some (.keys (symmetricDifference as.keys bs.keys)) := by
  have unequal : ¬ sameFields as bs = true := fun same => names ((sameFields_iff ha).mp same).1
  have alone : symmetricDifference as.keys bs.keys ≠ [] := fun none =>
    names ((keys_eq_iff ha hb).mpr (symmetricDifference_eq_nil_iff.mp none))
  rw [firstDifference?, mapDifference?, if_neg unequal]
  split
  · next none => exact absurd none alone
  · rfl

theorem same_of_agrees (agree : a.agrees b = true) : a.same b = true := by
  unfold Value.agrees at agree
  split at agree
  · exact Bool.or_eq_true_iff.mpr (Or.inr agree)
  · exact agree

theorem agrees_of_not_maps
    (other : ∀ h inner h' inner', a = .record (.map h inner) → b = .record (.map h' inner') → False) :
    a.agrees b = a.same b := by
  rw [Value.agrees]
  exact other

theorem valueDifference?_of_not_maps
    (other : ∀ h inner h' inner', a = .record (.map h inner) → b = .record (.map h' inner') → False) :
    valueDifference? name a b = if a.same b then none else some (.value name a b) := by
  rw [valueDifference?]
  exact other

/-- The difference between two values is none where they agree, if this holds of the maps inside. -/
theorem valueDifference?_eq_none_iff
    (inside : ∀ h inner h' inner', a = .record (.map h inner) → b = .record (.map h' inner') →
      (firstDifference? inner inner' = none ↔ sameFields inner inner' = true)) :
    valueDifference? name a b = none ↔ a.agrees b = true := by
  fun_cases Value.agrees a b with
  | case1 h inner h' inner' => exact inside h inner h' inner' rfl rfl
  | case2 a b other =>
    rw [valueDifference?_of_not_maps other]
    cases a.same b <;> simp

theorem differenceUnder?_of_found (ha : as.find? name = some a) (hb : bs.find? name = some b) :
    differenceUnder? as bs name = valueDifference? name a b := by
  rw [differenceUnder?, ha, hb, Option.bind_some, Option.bind_some]

/-! ### Completeness -/

/-- The search finds nothing between equal maps only. -/
theorem same_of_firstDifference? (ha : as.AscendingThroughout) (hb : bs.AscendingThroughout)
    (none : firstDifference? as bs = none) : sameFields as bs = true := by
  -- On the depth of the left map: the maps that stand under a name of it are less deep.
  induction ha generalizing bs with
  | @intro as ascending inside ih =>
    by_contra different
    by_cases names : as.keys = bs.keys
    · rw [firstDifference?_of_names ascending names (Bool.eq_false_of_not_eq_true different),
        List.findSome?_eq_none_iff] at none
      refine different ((sameFields_iff ascending).mpr ⟨names, fun name a b foundA foundB => ?_⟩)
      have clear := none name (Dictionary.mem_keys_iff.mpr ⟨a, foundA⟩)
      rw [differenceUnder?_of_found foundA foundB, valueDifference?_eq_none_iff] at clear
      · exact same_of_agrees clear
      · rintro h inner h' inner' rfl rfl
        exact ⟨ih name h inner (Dictionary.mem_of_find? foundA) (hb.inside foundB), firstDifference?_of_same⟩
    · rw [firstDifference?_of_names_ne ascending hb.ascending names] at none
      cases none

theorem firstDifference?_eq_none_iff (ha : as.AscendingThroughout) (hb : bs.AscendingThroughout) :
    firstDifference? as bs = none ↔ sameFields as bs = true :=
  ⟨same_of_firstDifference? ha hb, firstDifference?_of_same⟩

/-! ### The other way round -/

theorem valueDifference?_swapped
    (inside : ∀ h inner h' inner', a = .record (.map h inner) → b = .record (.map h' inner') →
      firstDifference? inner' inner = (firstDifference? inner inner').map Difference.swapped) :
    valueDifference? name b a = (valueDifference? name a b).map Difference.swapped := by
  fun_cases Value.agrees a b with
  | case1 h inner h' inner' => exact inside h inner h' inner' rfl rfl
  | case2 a b other =>
    rw [valueDifference?_of_not_maps other,
      valueDifference?_of_not_maps fun h inner h' inner' hb ha => other h' inner' h inner ha hb, b.same_comm a]
    cases a.same b <;> rfl

/-- Exchanged maps have the exchanged difference. -/
theorem firstDifference?_swapped (ha : as.AscendingThroughout) (hb : bs.AscendingThroughout) :
    firstDifference? bs as = (firstDifference? as bs).map Difference.swapped := by
  induction ha generalizing bs with
  | @intro as ascending inside ih =>
    by_cases names : as.keys = bs.keys
    · cases equal : sameFields as bs with
      | true => rw [firstDifference?_of_same equal, firstDifference?_of_same (sameFields_comm bs as ▸ equal)]; rfl
      | false =>
        have under : ∀ name, differenceUnder? bs as name = (differenceUnder? as bs name).map Difference.swapped := by
          intro name
          cases foundA : as.find? name with
          | none => cases foundB : bs.find? name <;> simp [differenceUnder?, foundA, foundB]
          | some a =>
            cases foundB : bs.find? name with
            | none => simp [differenceUnder?, foundA, foundB]
            | some b =>
              rw [differenceUnder?_of_found foundA foundB, differenceUnder?_of_found foundB foundA]
              refine valueDifference?_swapped ?_
              rintro h inner h' inner' rfl rfl
              exact ih name h inner (Dictionary.mem_of_find? foundA) (hb.inside foundB)
        rw [firstDifference?_of_names ascending names equal,
          firstDifference?_of_names hb.ascending names.symm (sameFields_comm bs as ▸ equal), ← names,
          List.map_findSome?]
        exact congrArg (List.findSome? · as.keys) (funext under)
    · rw [firstDifference?_of_names_ne ascending hb.ascending names,
        firstDifference?_of_names_ne hb.ascending ascending (Ne.symm names), symmetricDifference_comm]
      rfl

/-- A difference between two maps is found just where they are unequal, at any depth: where the search through
the entries is made, no name is missing on the other side and it does not end without a difference. The other
way round the maps have the same difference with left and right exchanged. -/
theorem firstDifference?_complete_symmetric (ha : as.AscendingThroughout) (hb : bs.AscendingThroughout) :
    (firstDifference? as bs = none ↔ sameFields as bs = true) ∧
    (sameFields as bs = false → symmetricDifference as.keys bs.keys = [] →
      (∀ name ∈ as.keys, (bs.find? name).isSome) ∧ (fieldDifference? as bs).isSome) ∧
    firstDifference? bs as = (firstDifference? as bs).map Difference.swapped := by
  refine ⟨firstDifference?_eq_none_iff ha hb, fun unequal none => ?_, firstDifference?_swapped ha hb⟩
  have names : as.keys = bs.keys :=
    (keys_eq_iff ha.ascending hb.ascending).mpr (symmetricDifference_eq_nil_iff.mp none)
  constructor
  · intro name member
    exact Option.isSome_iff_exists.mpr (Dictionary.mem_keys_iff.mp (names ▸ member))
  · rw [fieldDifference?_eq ha.ascending names, ← firstDifference?_of_names ha.ascending names unequal,
      Option.isSome_iff_ne_none]
    intro nothing
    exact Bool.false_ne_true (unequal.symm.trans (same_of_firstDifference? ha hb nothing))

end

/-- The value that is not equal to itself. -/
def notANumber : Value := .number (.float (Binary.ofMagnitude false Binary.nanBits))

/-- A map within a map, with a value that is to be given. -/
def nestedIn (h : Nat) (v : Value) : Dictionary Value :=
  .ofList [("size", .ofNat 2), ("dog", .record (.ofPairs h [("weight", v)]))]

theorem ascendingThroughout_of_nested (outer inner name : String) (n h : Nat) {v : Value}
    (deeper : ∀ h fields, v = .record (.map h fields) → Dictionary.AscendingThroughout fields) :
    (Dictionary.ofList [(outer, .ofNat n), (inner, .record (.ofPairs h [(name, v)]))]).AscendingThroughout := by
  refine .ofList ?_
  rw [List.forall_mem_cons, List.forall_mem_singleton]
  refine ⟨fun h fields same => (nomatch same), fun h fields same => ?_⟩
  cases same
  refine .ofList ?_
  rw [List.forall_mem_singleton]
  exact deeper

theorem firstDifference?_complete_symmetric_nested :
    firstDifference? (nestedIn 1 notANumber) (nestedIn 2 .null) = some (.value "weight" notANumber .null) ∧
      firstDifference? (nestedIn 2 .null) (nestedIn 1 notANumber) = some (.value "weight" .null notANumber) := by
  have left : (nestedIn 1 notANumber).AscendingThroughout :=
    ascendingThroughout_of_nested "size" "dog" "weight" 2 1 fun _ _ same => nomatch same
  have right : (nestedIn 2 .null).AscendingThroughout :=
    ascendingThroughout_of_nested "size" "dog" "weight" 2 2 fun _ _ same => nomatch same
  have found : firstDifference? (nestedIn 1 notANumber) (nestedIn 2 .null) =
      some (.value "weight" notANumber .null) := rfl
  obtain ⟨-, -, swapped⟩ := firstDifference?_complete_symmetric left right
  exact ⟨found, swapped.trans (congrArg (Option.map Difference.swapped) found)⟩

end RecordQuery
