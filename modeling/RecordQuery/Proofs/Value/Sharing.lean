import RecordQuery.Proofs.Value.Equality
import RecordQuery.Proofs.Value.Numbers

/-!
Handles in the equality of values. Two maps of one handle are equal without a look at what they hold. As long as
one handle stands for one contents, this is a shortcut to what equality in all parts says, but for NaN: it is not
equal to itself, and below a map that both sides share nobody asks.
-/

namespace RecordQuery

/-! ### NaN -/

/-- The number is the double that is no number. -/
def Number.IsNaN : Number → Prop
  | .float x => Binary.parts x = .nan
  | _ => False

instance (n : Number) : Decidable n.IsNaN :=
  match n with
  | .float x => inferInstanceAs (Decidable (Binary.parts x = .nan))
  | .signed _ | .unsigned _ => .isFalse id

theorem Binary.place?_eq_none_iff {x : Float} : place? x = none ↔ parts x = .nan := by
  unfold place? parts
  dsimp only
  split
  · exact iff_of_true rfl rfl
  · refine iff_of_false (by simp) ?_
    split
    · simp
    · split <;> simp

/-- NaN alone is not equal to itself. -/
theorem Number.same_self_iff (n : Number) : n.same n = true ↔ ¬ n.IsNaN := by
  cases n with
  | signed i => exact iff_of_true ((same_iff_of_toInt? rfl rfl).mpr rfl) id
  | unsigned i => exact iff_of_true ((same_iff_of_toInt? rfl rfl).mpr rfl) id
  | float x =>
    rw [same_iff_of_not_both (by simp [toInt?]), IsNaN, ← Binary.place?_eq_none_iff, ← ne_eq,
      Option.ne_none_iff_exists']
    simp only [and_self]
    rfl

/-! ### Parts of values -/

mutual

/-- The values that make up a value: itself, its items and the values in its fields, if it is a map, and what
makes up these in turn. -/
def Value.parts : Value → List Value
  | .list items => .list items :: itemParts items
  | .record r => .record r :: r.parts
  | v => [v]
termination_by structural v => v

/-- The values that make up the values in the fields of a map. What an object answers is not among its parts. -/
def Record.parts : Record → List Value
  | .map _ fields => fieldParts fields
  | .object .. => []
termination_by structural r => r

/-- The values that make up some items. -/
def itemParts : List Value → List Value
  | [] => []
  | v :: vs => v.parts ++ itemParts vs
termination_by structural items => items

/-- The values that make up the values of some fields. -/
def fieldParts : List (String × Value) → List Value
  | [] => []
  | (_, v) :: rest => v.parts ++ fieldParts rest
termination_by structural fields => fields

end

mutual

/-- The numbers that a value is or has in its lists. What records hold does not count. -/
def Value.numbers : Value → List Number
  | .number n => [n]
  | .list items => itemNumbers items
  | _ => []

/-- The numbers that some values are or have in their lists. -/
def itemNumbers : List Value → List Number
  | [] => []
  | v :: vs => v.numbers ++ itemNumbers vs

end

/-- Of the maps among some values those of one handle have one contents. -/
def OneContents (values : List Value) : Prop :=
  ∀ h as bs, .record (.map h as) ∈ values → .record (.map h bs) ∈ values → as = bs

/-- NaN is not among some values. -/
def NaNFree (values : List Value) : Prop := ∀ n, .number n ∈ values → ¬ n.IsNaN

/-! ### Equality in all parts -/

mutual

/-- The values are equal in all their parts: numbers as numbers, objects by their handles, lists item by item and
maps field by field. The handles of maps do not count. -/
inductive Value.Matches : Value → Value → Prop
  | null : Value.Matches .null .null
  | bool (b : Bool) : Value.Matches (.bool b) (.bool b)
  | number {m n : Number} (same : m.same n = true) : Value.Matches (.number m) (.number n)
  | string (s : String) : Value.Matches (.string s) (.string s)
  | list {as bs : List Value} (each : ItemsMatch as bs) : Value.Matches (.list as) (.list bs)
  | map {h h' : Nat} {as bs : List (String × Value)} (each : FieldsMatch as bs) :
      Value.Matches (.record (.map h as)) (.record (.map h' bs))
  | object {h : Nat} {typeName typeName' : String} {field field' : String → Option Value} :
      Value.Matches (.record (.object h typeName field)) (.record (.object h typeName' field'))

/-- Two lists have equal items in turn. -/
inductive ItemsMatch : List Value → List Value → Prop
  | nil : ItemsMatch [] []
  | cons {a b : Value} {as bs : List Value} (head : Value.Matches a b) (rest : ItemsMatch as bs) :
      ItemsMatch (a :: as) (b :: bs)

/-- Two maps have the same names with equal values. -/
inductive FieldsMatch : List (String × Value) → List (String × Value) → Prop
  | nil : FieldsMatch [] []
  | cons {name : String} {a b : Value} {as bs : List (String × Value)} (head : Value.Matches a b)
      (rest : FieldsMatch as bs) : FieldsMatch ((name, a) :: as) ((name, b) :: bs)

end

mutual

theorem Value.Matches.same {v w : Value} (h : v.Matches w) : v.same w = true := by
  match v, w, h with
  | _, _, .null => rfl
  | _, _, .bool b => exact beq_self_eq_true b
  | _, _, .number same => exact same
  | _, _, .string s => exact beq_self_eq_true s
  | .list as, .list bs, .list each => exact each.same
  | .record (.map h as), .record (.map h' bs), .map each => exact Bool.or_eq_true_iff.mpr (Or.inr each.same)
  | _, _, .object => exact beq_self_eq_true _

theorem ItemsMatch.same {as bs : List Value} (h : ItemsMatch as bs) : sameItems as bs = true := by
  match as, bs, h with
  | _, _, .nil => rfl
  | a :: as, b :: bs, .cons head rest =>
    rw [sameItems, head.same, rest.same]
    rfl

theorem FieldsMatch.same {as bs : List (String × Value)} (h : FieldsMatch as bs) : sameFields as bs = true := by
  match as, bs, h with
  | _, _, .nil => rfl
  | (k, a) :: as, (_, b) :: bs, .cons head rest =>
    rw [sameFields, beq_self_eq_true, head.same, rest.same]
    rfl

end

mutual

/-- A value without NaN is equal to itself in all its parts. -/
theorem Value.matches_self {v : Value} (clear : NaNFree v.parts) : v.Matches v := by
  match v with
  | .null => exact .null
  | .bool b => exact .bool b
  | .number n => exact .number (n.same_self_iff.mpr (clear n List.mem_cons_self))
  | .string s => exact .string s
  | .list items => exact .list (itemsMatch_self fun n mem => clear n (List.mem_cons_of_mem _ mem))
  | .record (.map h fields) => exact .map (fieldsMatch_self fun n mem => clear n (List.mem_cons_of_mem _ mem))
  | .record (.object h typeName field) => exact .object

theorem itemsMatch_self {items : List Value} (clear : NaNFree (itemParts items)) : ItemsMatch items items := by
  match items with
  | [] => exact .nil
  | v :: vs =>
    exact .cons (Value.matches_self fun n mem => clear n (List.mem_append_left _ mem))
      (itemsMatch_self fun n mem => clear n (List.mem_append_right _ mem))

theorem fieldsMatch_self {fields : List (String × Value)} (clear : NaNFree (fieldParts fields)) :
    FieldsMatch fields fields := by
  match fields with
  | [] => exact .nil
  | (name, v) :: rest =>
    exact .cons (Value.matches_self fun n mem => clear n (List.mem_append_left _ mem))
      (fieldsMatch_self fun n mem => clear n (List.mem_append_right _ mem))

end

section
variable {around : List Value}

mutual

/-- Equal values are equal in all their parts, where one handle stands for one contents and NaN is not among them. -/
theorem Value.matches_of_same (one : OneContents around) (clear : NaNFree around) {v w : Value}
    (hv : v.parts ⊆ around) (hw : w.parts ⊆ around) (same : v.same w = true) : v.Matches w := by
  match v, w with
  | .null, .null => exact .null
  | .bool a, .bool b =>
    obtain rfl : a = b := beq_iff_eq.mp same
    exact .bool a
  | .number m, .number n => exact .number same
  | .string a, .string b =>
    obtain rfl : a = b := beq_iff_eq.mp same
    exact .string a
  | .list as, .list bs =>
    exact .list (itemsMatch_of_same one clear (List.cons_subset.mp hv).2 (List.cons_subset.mp hw).2 same)
  | .record (.map h as), .record (.map h' bs) =>
    obtain ⟨here, hv⟩ := List.cons_subset.mp hv
    obtain ⟨here', hw⟩ := List.cons_subset.mp hw
    rcases Bool.or_eq_true_iff.mp same with identical | fields
    · -- The shortcut: both maps have one contents, which is equal to itself as it has no NaN.
      obtain rfl : h = h' := beq_iff_eq.mp identical
      obtain rfl := one h as bs here here'
      exact .map (fieldsMatch_self fun n mem => clear n (hv mem))
    · exact .map (fieldsMatch_of_same one clear hv hw fields)
  | .record (.object h _ _), .record (.object h' _ _) =>
    obtain rfl : h = h' := beq_iff_eq.mp same
    exact .object

theorem itemsMatch_of_same (one : OneContents around) (clear : NaNFree around) {as bs : List Value}
    (ha : itemParts as ⊆ around) (hb : itemParts bs ⊆ around) (same : sameItems as bs = true) : ItemsMatch as bs := by
  match as, bs with
  | [], [] => exact .nil
  | a :: as, b :: bs =>
    rw [sameItems, Bool.and_eq_true] at same
    rw [itemParts, List.append_subset] at ha hb
    exact .cons (Value.matches_of_same one clear ha.1 hb.1 same.1) (itemsMatch_of_same one clear ha.2 hb.2 same.2)

theorem fieldsMatch_of_same (one : OneContents around) (clear : NaNFree around) {as bs : List (String × Value)}
    (ha : fieldParts as ⊆ around) (hb : fieldParts bs ⊆ around) (same : sameFields as bs = true) :
    FieldsMatch as bs := by
  match as, bs with
  | [], [] => exact .nil
  | (k, a) :: as, (l, b) :: bs =>
    rw [sameFields, Bool.and_eq_true, Bool.and_eq_true, beq_iff_eq] at same
    rw [fieldParts, List.append_subset] at ha hb
    obtain ⟨⟨rfl, head⟩, rest⟩ := same
    exact .cons (Value.matches_of_same one clear ha.1 hb.1 head) (fieldsMatch_of_same one clear ha.2 hb.2 rest)

end

end

/-! ### Values equal to themselves -/

mutual

theorem Value.same_self_iff (v : Value) : v.same v = true ↔ ∀ n ∈ v.numbers, ¬ n.IsNaN := by
  match v with
  | .null => simp [Value.same, Value.numbers]
  | .bool b => simp [Value.same, Value.numbers]
  | .number n => rw [Value.same, n.same_self_iff, Value.numbers, List.forall_mem_singleton]
  | .string s => simp [Value.same, Value.numbers]
  | .list items => exact sameItems_self_iff items
  -- A record is one and the same as itself, whatever it holds.
  | .record (.map h fields) => simp [Value.same, Record.same, Value.numbers]
  | .record (.object h typeName field) => simp [Value.same, Record.same, Value.numbers]

theorem sameItems_self_iff (items : List Value) :
    sameItems items items = true ↔ ∀ n ∈ itemNumbers items, ¬ n.IsNaN := by
  match items with
  | [] => simp [sameItems, itemNumbers]
  | v :: vs =>
    rw [sameItems, Bool.and_eq_true, v.same_self_iff, sameItems_self_iff vs, itemNumbers, List.forall_mem_append]

end

/-- Values are equal just when they are equal in all their parts, whatever the handles of maps, if one handle stands
for one contents and NaN is not among the parts. A value is equal to itself just when no NaN is in it or in its
lists; one that a record holds is out of sight. -/
theorem Value.same_iff_matches_unless_nan :
    (∀ v w : Value, OneContents (v.parts ++ w.parts) → NaNFree (v.parts ++ w.parts) →
      (v.same w = true ↔ v.Matches w)) ∧
    ∀ v : Value, v.same v = true ↔ ∀ n ∈ v.numbers, ¬ n.IsNaN :=
  ⟨fun _ _ one clear => ⟨matches_of_same one clear (List.subset_append_left _ _) (List.subset_append_right _ _),
    Matches.same⟩, same_self_iff⟩

/-- A list of two maps that each hold one number. -/
def numberedMaps (h h' : Nat) (m n : Number) : Value :=
  .list [.record (.map h [("n", .number m)]), .record (.map h' [("n", .number n)])]

theorem parts_numberedMaps (h h' : Nat) (m n : Number) : (numberedMaps h h' m n).parts =
    [.list [.record (.map h [("n", .number m)]), .record (.map h' [("n", .number n)])],
      .record (.map h [("n", .number m)]), .number m, .record (.map h' [("n", .number n)]), .number n] := rfl

theorem Value.same_iff_matches_unless_nan_numberedMaps :
    let shared := numberedMaps 1 1 (.signed 5) (.signed 5)
    let apart := numberedMaps 1 2 (.signed 5) (.unsigned 5)
    let nan := Number.float (Binary.ofMagnitude false Binary.nanBits)
    (OneContents (shared.parts ++ apart.parts) ∧ NaNFree (shared.parts ++ apart.parts) ∧ shared.Matches apart) ∧
    (numberedMaps 1 2 nan nan).same (numberedMaps 1 2 nan nan) = true ∧
    ¬ (list [number nan]).same (list [number nan]) := by
  intro shared apart nan
  have parts : shared.parts ++ apart.parts = _ := congrArg₂ (· ++ ·) (parts_numberedMaps ..) (parts_numberedMaps ..)
  have one : OneContents (shared.parts ++ apart.parts) := by
    have held : ∀ h as, .record (.map h as) ∈ shared.parts ++ apart.parts →
        as = [("n", .number (if h = 2 then .unsigned 5 else .signed 5))] := by
      intro h as mem
      rw [parts] at mem
      simp only [List.cons_append, List.nil_append, List.mem_cons, List.not_mem_nil, or_false,
        Value.record.injEq, Record.map.injEq, reduceCtorEq, false_or] at mem
      rcases mem with ⟨rfl, rfl⟩ | ⟨rfl, rfl⟩ | ⟨rfl, rfl⟩ | ⟨rfl, rfl⟩ <;> rfl
    exact fun h as bs ha hb => (held h as ha).trans (held h bs hb).symm
  have clear : NaNFree (shared.parts ++ apart.parts) := by
    intro n mem
    rw [parts] at mem
    simp only [List.cons_append, List.nil_append, List.mem_cons, List.not_mem_nil, or_false, Value.number.injEq,
      reduceCtorEq, false_or] at mem
    rcases mem with rfl | rfl | rfl | rfl <;> exact id
  obtain ⟨equal, self⟩ := same_iff_matches_unless_nan
  refine ⟨⟨one, clear, (equal shared apart one clear).mp (by decide)⟩, (self _).mpr fun n mem => (nomatch mem), ?_⟩
  rw [self]
  exact fun free => free nan (List.mem_singleton_self _) (by decide)

end RecordQuery
