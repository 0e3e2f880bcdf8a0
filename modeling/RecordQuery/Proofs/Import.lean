import RecordQuery.RecordList
import RecordQuery.Proofs.Difference.Search
import RecordQuery.Proofs.Operator.Total
import RecordQuery.Proofs.Traversal

/-!
The import of JSON documents. A document is imported as a value that holds what it says, with new handles for the
maps. So values of two imports have no handle in common, and they are equal just where the documents are the same
value, whatever the order of members. A list of records is made of a document of objects, and of no other.
-/

namespace RecordQuery

/-! ### Supplies, integers and lists -/

theorem Fresh.bind_eq_iff {α β : Type} {x : Fresh α} {f : α → Fresh β} {n m : Nat} {b : β} :
    (x >>= f) n = (b, m) ↔ ∃ a k, x n = (a, k) ∧ f a k = (b, m) := by
  constructor
  · exact fun run => ⟨_, _, rfl, run⟩
  · rintro ⟨a, k, head, tail⟩
    change f (x n).1 (x n).2 = _
    rw [head]
    exact tail

/-- An integer that a number holds is held by the number that is made of it. -/
theorem Number.toInt?_ofInt_of_toInt? {n : Number} {k : Int} (holds : n.toInt? = some k) :
    (ofInt k).toInt? = some k := by
  obtain ⟨low, high⟩ := inRange_of_toInt? holds
  exact toInt?_ofInt low high

/-- What is found under one name in two lists whose members correspond. -/
theorem lookup_of_forall₂ {α β : Type} {R : α → β → Prop} {xs : List (String × α)} {ys : List (String × β)}
    {name : String} {a : α} {b : β} (each : List.Forall₂ (fun x y => x.1 = y.1 ∧ R x.2 y.2) xs ys)
    (ha : xs.lookup name = some a) (hb : ys.lookup name = some b) : R a b := by
  induction each with
  | nil => cases ha
  | @cons x y xs ys here later ih =>
    obtain ⟨x, a'⟩ := x
    obtain ⟨y, b'⟩ := y
    obtain ⟨rfl, related⟩ := here
    cases found : name == x with
    | true =>
      simp only [List.lookup_cons, found, Option.some.injEq] at ha hb
      subst ha hb
      exact related
    | false =>
      simp only [List.lookup_cons, found] at ha hb
      exact ih ha hb

theorem exists_getElem?_iff {α β : Type} {xs : List α} {ys : List β} (length : xs.length = ys.length) (i : Nat) :
    (∃ y, ys[i]? = some y) ↔ ∃ x, xs[i]? = some x := by
  simp [List.getElem?_eq_some_iff, length]

/-- Lists are equal when they are as long as each other and equal place by place. -/
theorem sameItems_iff {as bs : List Value} : sameItems as bs = true ↔
    as.length = bs.length ∧ ∀ (i : Nat) a b, as[i]? = some a → bs[i]? = some b → a.same b = true := by
  induction as generalizing bs with
  | nil => cases bs <;> simp [sameItems]
  | cons a as ih =>
    cases bs with
    | nil => simp [sameItems]
    | cons b bs =>
      rw [sameItems, Bool.and_eq_true, ih, List.length_cons, List.length_cons, Nat.add_right_cancel_iff]
      constructor
      · rintro ⟨here, length, later⟩
        refine ⟨length, fun i x y hx hy => ?_⟩
        cases i with
        | zero =>
          cases hx
          cases hy
          exact here
        | succ i => exact later i x y hx hy
      · rintro ⟨length, each⟩
        exact ⟨each 0 a b rfl rfl, length, fun i => each (i + 1)⟩

namespace Json

/-! ### Documents -/

/-- The member of an object under a name; of several the last counts. -/
def member? (name : String) (members : List (String × Json)) : Option Json := members.reverse.lookup name

/-- All numbers of a document are integers. -/
inductive Integral : Json → Prop
  | null : Integral .null
  | bool (b : Bool) : Integral (.bool b)
  | number {n : Number} (integer : n.toInt?.isSome) : Integral (.number n)
  | string (s : String) : Integral (.string s)
  | array {items : List Json} (each : ∀ item ∈ items, Integral item) : Integral (.array items)
  | object {members : List (String × Json)} (each : ∀ m ∈ members, Integral m.2) : Integral (.object members)

/-- Two documents of integers are the same JSON value: arrays item by item, and objects name by name. -/
inductive Same : Json → Json → Prop
  | null : Same .null .null
  | bool (b : Bool) : Same (.bool b) (.bool b)
  | number {m n : Number} {k : Int} (left : m.toInt? = some k) (right : n.toInt? = some k) :
      Same (.number m) (.number n)
  | string (s : String) : Same (.string s) (.string s)
  | array {items items' : List Json} (length : items.length = items'.length)
      (each : ∀ (i : Nat) j k, items[i]? = some j → items'[i]? = some k → Same j k) :
      Same (.array items) (.array items')
  | object {members members' : List (String × Json)}
      (names : ∀ name, name ∈ members.map Prod.fst ↔ name ∈ members'.map Prod.fst)
      (each : ∀ name j k, member? name members = some j → member? name members' = some k → Same j k) :
      Same (.object members) (.object members')

/-- The document is an object. -/
def isObject : Json → Bool
  | .object _ => true
  | _ => false

/-- The name of the kind of value that a document is imported as. -/
def kind : Json → String
  | .null => "null"
  | .bool _ => "bool"
  | .number _ => "number"
  | .string _ => "string"
  | .array _ => "list"
  | .object _ => "record"

/-- The documents that are to become records: the items of an array, or else the document itself. -/
def entries : Json → List Json
  | .array items => items
  | document => [document]

/-- A value that holds what a document says, integers in the representation that fits them, and whose maps have
handles from the first up to the next one. -/
inductive Imports (first next : Nat) : Json → Value → Prop
  | null : Imports first next .null .null
  | bool (b : Bool) : Imports first next (.bool b) (.bool b)
  | integer {n : Number} {k : Int} (holds : n.toInt? = some k) : Imports first next (.number n) (.number (.ofInt k))
  | double (x : Float) : Imports first next (.number (.float x)) (.number (.float x))
  | string (s : String) : Imports first next (.string s) (.string s)
  | array {items : List Json} {values : List Value} (length : items.length = values.length)
      (each : ∀ (i : Nat) j v, items[i]? = some j → values[i]? = some v → Imports first next j v) :
      Imports first next (.array items) (.list values)
  | object {members : List (String × Json)} {handle : Nat} {fields : Dictionary Value}
      (low : first ≤ handle) (high : handle < next) (ascending : fields.Ascending)
      (names : ∀ name, name ∈ fields.keys ↔ name ∈ members.map Prod.fst)
      (each : ∀ name j v, member? name members = some j → fields.find? name = some v → Imports first next j v) :
      Imports first next (.object members) (.record (.map handle fields))

section
variable {first next first' next' : Nat} {j k : Json} {v w : Value}

theorem mem_names_iff {name : String} {members : List (String × Json)} :
    name ∈ members.map Prod.fst ↔ ∃ j, member? name members = some j := by
  rw [member?, ← Option.isSome_iff_exists, List.lookup_isSome_iff]
  simp

theorem exists_find?_iff {fields : Dictionary Value} {members : List (String × Json)}
    (names : ∀ name, name ∈ fields.keys ↔ name ∈ members.map Prod.fst) (name : String) :
    (∃ v, fields.find? name = some v) ↔ ∃ j, member? name members = some j := by
  rw [← Dictionary.mem_keys_iff, names, mem_names_iff]

theorem Integral.member? {name : String} {members : List (String × Json)} (each : ∀ m ∈ members, m.2.Integral)
    (found : member? name members = some j) : j.Integral := by
  obtain ⟨_, _, split, -⟩ := List.lookup_eq_some_iff.mp found
  have inside : (name, j) ∈ members.reverse := split ▸ List.mem_append_right _ List.mem_cons_self
  exact each _ (List.mem_reverse.mp inside)

/-! ### What an import holds -/

namespace Imports

theorem mono (earlier : first' ≤ first) (later : next ≤ next') (imported : Imports first next j v) :
    Imports first' next' j v := by
  induction imported with
  | null => exact .null
  | bool b => exact .bool b
  | integer holds => exact .integer holds
  | double x => exact .double x
  | string s => exact .string s
  | array length each ih => exact .array length ih
  | object low high ascending names each ih =>
    exact .object (earlier.trans low) (high.trans_le later) ascending names ih

theorem array_of_forall₂ {items : List Json} {values : List Value}
    (each : List.Forall₂ (Imports first next) items values) : Imports first next (.array items) (.list values) := by
  obtain ⟨length, each⟩ := List.forall₂_iff_get.mp each
  refine .array length fun i j v here there => ?_
  obtain ⟨hi, rfl⟩ := List.getElem?_eq_some_iff.mp here
  obtain ⟨hi', rfl⟩ := List.getElem?_eq_some_iff.mp there
  exact each i hi hi'

theorem object_of_forall₂ {members : List (String × Json)} {pairs : List (String × Value)} {handle : Nat}
    (low : first ≤ handle) (high : handle < next)
    (each : List.Forall₂ (fun m pair => m.1 = pair.1 ∧ Imports first next m.2 pair.2) members pairs) :
    Imports first next (.object members) (.record (.ofPairs handle pairs)) := by
  have names : members.map Prod.fst = pairs.map Prod.fst := by
    rw [← List.forall₂_eq_eq_eq, List.forall₂_map_left_iff, List.forall₂_map_right_iff]
    exact each.imp fun _ _ part => part.1
  refine .object low high (Dictionary.ascending_ofList pairs) (fun name => ?_) fun name j v here there => ?_
  · rw [Dictionary.mem_keys_ofList, names]
  · rw [Dictionary.find?_ofList] at there
    exact lookup_of_forall₂ (List.forall₂_reverse_iff.mpr each) here there

end Imports

end

mutual

theorem toValue_imports {j : Json} {n m : Nat} {v : Value} (run : j.toValue n = (v, m)) :
    n ≤ m ∧ Imports n m j v := by
  cases j with
  | null =>
    cases run
    exact ⟨le_rfl, .null⟩
  | bool b =>
    cases run
    exact ⟨le_rfl, .bool b⟩
  | number number =>
    cases run
    cases number with
    | signed => exact ⟨le_rfl, .integer rfl⟩
    | unsigned => exact ⟨le_rfl, .integer rfl⟩
    | float x => exact ⟨le_rfl, .double x⟩
  | string s =>
    cases run
    exact ⟨le_rfl, .string s⟩
  | array items =>
    rw [toValue, Fresh.bind_eq_iff] at run
    obtain ⟨values, k, head, tail⟩ := run
    cases tail
    obtain ⟨le, each⟩ := jsonItems_imports head
    exact ⟨le, .array_of_forall₂ each⟩
  | object members =>
    rw [toValue, Fresh.bind_eq_iff] at run
    obtain ⟨pairs, k, head, tail⟩ := run
    cases tail
    obtain ⟨le, each⟩ := jsonMembers_imports head
    refine ⟨le.trans (Nat.le_succ k), .object_of_forall₂ le (Nat.lt_succ_self k) (each.imp fun m pair part => ?_)⟩
    exact ⟨part.1, part.2.mono le_rfl (Nat.le_succ k)⟩

theorem jsonItems_imports {items : List Json} {n m : Nat} {values : List Value}
    (run : jsonItems items n = (values, m)) :
    n ≤ m ∧ List.Forall₂ (Imports n m) items values := by
  cases items with
  | nil =>
    cases run
    exact ⟨le_rfl, .nil⟩
  | cons item items =>
    simp only [jsonItems, Fresh.bind_eq_iff] at run
    obtain ⟨v, k, head, vs, k', tail, done⟩ := run
    cases done
    obtain ⟨le, here⟩ := toValue_imports head
    obtain ⟨le', later⟩ := jsonItems_imports tail
    exact ⟨le.trans le', .cons (here.mono le_rfl le') (later.imp fun _ _ part => part.mono le le_rfl)⟩

theorem jsonMembers_imports {members : List (String × Json)} {n m : Nat} {pairs : List (String × Value)}
    (run : jsonMembers members n = (pairs, m)) :
    n ≤ m ∧ List.Forall₂ (fun m' pair => m'.1 = pair.1 ∧ Imports n m m'.2 pair.2) members pairs := by
  cases members with
  | nil =>
    cases run
    exact ⟨le_rfl, .nil⟩
  | cons member members =>
    obtain ⟨name, member⟩ := member
    simp only [jsonMembers, Fresh.bind_eq_iff] at run
    obtain ⟨v, k, head, vs, k', tail, done⟩ := run
    cases done
    obtain ⟨le, here⟩ := toValue_imports head
    obtain ⟨le', later⟩ := jsonMembers_imports tail
    exact ⟨le.trans le', .cons ⟨rfl, here.mono le_rfl le'⟩ (later.imp fun _ _ part => ⟨part.1, part.2.mono le le_rfl⟩)⟩

end

/-! ### Equality -/

section
variable {first next first' next' : Nat} {j k : Json} {v w : Value}

theorem same_array_iff {items items' : List Json} : Same (.array items) (.array items') ↔
    items.length = items'.length ∧ ∀ (i : Nat) j k, items[i]? = some j → items'[i]? = some k → Same j k := by
  constructor
  · rintro (_ | _ | _ | _ | ⟨length, each⟩)
    exact ⟨length, each⟩
  · exact fun ⟨length, each⟩ => .array length each

theorem same_object_iff {members members' : List (String × Json)} : Same (.object members) (.object members') ↔
    (∀ name, name ∈ members.map Prod.fst ↔ name ∈ members'.map Prod.fst) ∧
      ∀ name j k, member? name members = some j → member? name members' = some k → Same j k := by
  constructor
  · rintro (_ | _ | _ | _ | _ | ⟨names, each⟩)
    exact ⟨names, each⟩
  · exact fun ⟨names, each⟩ => .object names each

/-- Where values stand just where documents do, they are equal at one place just where the documents are the same. -/
theorem same_found_iff {j? k? : Option Json} {v? w? : Option Value} (hv : (∃ v, v? = some v) ↔ ∃ j, j? = some j)
    (hw : (∃ w, w? = some w) ↔ ∃ k, k? = some k)
    (each : ∀ j v k w, j? = some j → v? = some v → k? = some k → w? = some w → (v.same w = true ↔ j.Same k)) :
    (∀ v w, v? = some v → w? = some w → v.same w = true) ↔ ∀ j k, j? = some j → k? = some k → j.Same k := by
  constructor
  · intro same j k foundJ foundK
    obtain ⟨v, foundV⟩ := hv.mpr ⟨j, foundJ⟩
    obtain ⟨w, foundW⟩ := hw.mpr ⟨k, foundK⟩
    exact (each j v k w foundJ foundV foundK foundW).mp (same v w foundV foundW)
  · intro same v w foundV foundW
    obtain ⟨j, foundJ⟩ := hv.mp ⟨v, foundV⟩
    obtain ⟨k, foundK⟩ := hw.mp ⟨w, foundW⟩
    exact (each j v k w foundJ foundV foundK foundW).mpr (same j k foundJ foundK)

/-- Values without a common handle are equal just where the documents are the same. -/
theorem Imports.same_iff (hj : Imports first next j v) (hk : Imports first' next' k w)
    (apart : next ≤ first' ∨ next' ≤ first) (integral : j.Integral) (integral' : k.Integral) :
    v.same w = true ↔ j.Same k := by
  induction hj generalizing k w with
  | null =>
    cases hk with
    | null => exact iff_of_true rfl .null
    | _ => exact iff_of_false (by simp [Value.same]) (by rintro ⟨⟩)
  | bool b =>
    cases hk with
    | bool b' =>
      constructor
      · intro same
        obtain rfl : b = b' := by simpa [Value.same] using same
        exact .bool b
      · rintro ⟨⟩
        simp [Value.same]
    | _ => exact iff_of_false (by simp [Value.same]) (by rintro ⟨⟩)
  | integer holds =>
    cases hk with
    | integer holds' =>
      rw [Value.same, Number.same_iff_of_toInt? (Number.toInt?_ofInt_of_toInt? holds)
        (Number.toInt?_ofInt_of_toInt? holds')]
      constructor
      · rintro rfl
        exact .number holds holds'
      · rintro (_ | _ | ⟨left, right⟩)
        exact Option.some.inj (holds.symm.trans (left.trans (right.symm.trans holds')))
    | double x =>
      obtain _ | _ | integer := integral'
      cases integer
    | _ => exact iff_of_false (by simp [Value.same]) (by rintro ⟨⟩)
  | double x =>
    obtain _ | _ | integer := integral
    cases integer
  | string s =>
    cases hk with
    | string s' =>
      constructor
      · intro same
        obtain rfl : s = s' := by simpa [Value.same] using same
        exact .string s
      · rintro ⟨⟩
        simp [Value.same]
    | _ => exact iff_of_false (by simp [Value.same]) (by rintro ⟨⟩)
  | array length each ih =>
    cases hk with
    | array length' each' =>
      obtain _ | _ | _ | _ | parts := integral
      obtain _ | _ | _ | _ | parts' := integral'
      rw [Value.same, sameItems_iff, same_array_iff, ← length, ← length']
      refine and_congr_right fun _ => forall_congr' fun i => ?_
      refine same_found_iff (exists_getElem?_iff length i) (exists_getElem?_iff length' i) ?_
      intro j v k w foundJ foundV foundK foundW
      exact ih i j v foundJ foundV (each' i k w foundK foundW) (parts j (List.mem_of_getElem? foundJ))
        (parts' k (List.mem_of_getElem? foundK))
    | _ => exact iff_of_false (by simp [Value.same]) (by rintro ⟨⟩)
  | @object members handle fields low high ascending names each ih =>
    cases hk with
    | @object members' handle' fields' low' high' ascending' names' each' =>
      obtain _ | _ | _ | _ | _ | parts := integral
      obtain _ | _ | _ | _ | _ | parts' := integral'
      -- Two imports have no handle in common, so the contents decide.
      have other : (handle == handle') = false := beq_eq_false_iff_ne.mpr (by omega)
      rw [Value.same, Record.same, other, Bool.false_or, sameFields_iff ascending, keys_eq_iff ascending ascending',
        same_object_iff]
      simp only [names, names']
      refine and_congr_right fun _ => forall_congr' fun name => ?_
      refine same_found_iff (exists_find?_iff names name) (exists_find?_iff names' name) ?_
      intro j v k w foundJ foundV foundK foundW
      exact ih name j v foundJ foundV (each' name k w foundK foundW) (.member? parts foundJ) (.member? parts' foundK)
    | _ => exact iff_of_false (by simp [Value.same]) (by rintro ⟨⟩)

end

end Json

namespace RecordList

/-! ### Lists of records -/

section
variable {first next later : Nat} {items : List Json} {values : List Value} {records : List Record} {e : Failure}

theorem recordsOf_eq_ok_iff : recordsOf values = .ok records ↔ values = records.map .record := by
  induction values generalizing records with
  | nil => cases records <;> simp [recordsOf]
  | cons v values ih =>
    cases v with
    | record r =>
      rw [recordsOf, map_eq_ok_iff]
      constructor
      · rintro ⟨rest, tail, rfl⟩
        rw [ih.mp tail, List.map_cons]
      · intro split
        cases records with
        | nil => cases split
        | cons s rest =>
          obtain ⟨head, tail⟩ := List.cons.inj split
          cases head
          exact ⟨rest, ih.mpr tail, rfl⟩
    | null | bool | number | string | list => cases records <;> simp [recordsOf]

/-- The first document that is no object is what keeps others from becoming records. -/
theorem recordsOf_eq_error_iff (imported : List.Forall₂ (Json.Imports first next) items values) :
    recordsOf values = .error e ↔
      ∃ item, (items.find? fun item => !item.isObject) = some item ∧ e = .notRecord item.kind := by
  induction imported with
  | nil => simp [recordsOf]
  | cons here later ih =>
    cases here with
    | object =>
      rw [recordsOf, map_eq_error_iff, ih, List.find?_cons_of_neg (by simp [Json.isObject])]
    | null | bool | integer | double | string | array =>
      rw [List.find?_cons_of_pos (by simp [Json.isObject])]
      simp [recordsOf, Value.kind, Json.kind, eq_comm]

theorem exists_recordsOf_ok_iff (imported : List.Forall₂ (Json.Imports first next) items values) :
    (∃ records, recordsOf values = .ok records) ↔ ∀ item ∈ items, item.isObject = true := by
  by_cases objects : ∀ item ∈ items, item.isObject = true
  · refine iff_of_true ?_ objects
    cases outcome : recordsOf values with
    | ok records => exact ⟨records, rfl⟩
    | error e =>
      obtain ⟨item, found, -⟩ := (recordsOf_eq_error_iff imported).mp outcome
      have object := objects item (List.mem_of_find?_eq_some found)
      exact absurd object (by simpa using List.find?_some found)
  · refine iff_of_false ?_ objects
    rintro ⟨records, outcome⟩
    obtain ⟨item, found⟩ : ∃ item, (items.find? fun item => !item.isObject) = some item := by
      rw [← Option.isSome_iff_exists, List.find?_isSome]
      simpa using objects
    cases outcome.symm.trans ((recordsOf_eq_error_iff imported).mpr ⟨item, found, rfl⟩)

theorem ofJson_eq {document : Json} {outcome : Except Failure RecordList}
    (run : ofJson document next = (outcome, later)) :
    ∃ values, List.Forall₂ (Json.Imports next later) document.entries values ∧
      outcome = (recordsOf values).map fun records => { records } := by
  obtain ⟨values, k, head, tail⟩ := Fresh.bind_eq_iff.mp run
  cases tail
  exact ⟨values, (Json.jsonItems_imports head).2, rfl⟩

theorem ofJson_ok {document : Json} {list : RecordList} (run : ofJson document next = (.ok list, later)) :
    list.spelling = .standard ∧ List.Forall₂ (fun item r => item.isObject = true ∧ r.isMap = true ∧
      Json.Imports next later item (.record r)) document.entries list.records := by
  obtain ⟨values, imported, made⟩ := ofJson_eq run
  obtain ⟨records, all, rfl⟩ := map_eq_ok_iff.mp made.symm
  obtain rfl := recordsOf_eq_ok_iff.mp all
  refine ⟨rfl, (List.forall₂_map_right_iff.mp imported).imp fun item r here => ?_⟩
  cases here with
  | object low high ascending names each => exact ⟨rfl, rfl, .object low high ascending names each⟩

theorem forall_entries_isObject_iff {document : Json} : (∀ item ∈ document.entries, item.isObject = true) ↔
    document.isObject = true ∨ ∃ items, document = .array items ∧ ∀ item ∈ items, item.isObject = true := by
  cases document <;> simp [Json.entries, Json.isObject]

end

/-- A document becomes a list of records just where it is an object or an array of objects. Then each object is a map
record that holds what it says, in order; else the first document that is none is named by its kind. Two documents of
integers that are imported apart are equal values just where they are the same JSON value. -/
theorem ofJson_faithful :
    (∀ document next outcome later, (ofJson document).run next = (outcome, later) →
      ((∃ list, outcome = .ok list) ↔ document.isObject = true ∨
        ∃ items, document = .array items ∧ ∀ item ∈ items, item.isObject = true) ∧
      (∀ list, outcome = .ok list → list.spelling = .standard ∧
        List.Forall₂ (fun item r => item.isObject = true ∧ r.isMap = true ∧ Json.Imports next later item (.record r))
          document.entries list.records) ∧
      ∀ e, outcome = .error e ↔
        ∃ item, (document.entries.find? fun item => !item.isObject) = some item ∧ e = .notRecord item.kind) ∧
    ∀ j k : Json, j.Integral → k.Integral → ∀ first v next first' w next', j.toValue.run first = (v, next) →
      k.toValue.run first' = (w, next') → (next ≤ first' ∨ next' ≤ first) → (v.same w = true ↔ j.Same k) := by
  refine ⟨fun document next outcome later run => ⟨?_, ?_, fun e => ?_⟩, ?_⟩
  · obtain ⟨values, imported, rfl⟩ := ofJson_eq run
    rw [← forall_entries_isObject_iff, ← exists_recordsOf_ok_iff imported]
    simp only [map_eq_ok_iff]
    exact ⟨fun ⟨_, records, made, _⟩ => ⟨records, made⟩, fun ⟨records, made⟩ => ⟨_, records, made, rfl⟩⟩
  · rintro list rfl
    exact ofJson_ok run
  · obtain ⟨values, imported, rfl⟩ := ofJson_eq run
    rw [map_eq_error_iff, recordsOf_eq_error_iff imported]
  · intro j k integral integral' first v next first' w next' runJ runK apart
    exact (Json.toValue_imports runJ).2.same_iff (Json.toValue_imports runK).2 apart integral integral'

/-- An object with a signed number and a list. -/
def signedAge : Json := .object [("age", .number (.signed 3)), ("tags", .array [])]

/-- The same object in another order, with an unsigned number. -/
def unsignedAge : Json := .object [("tags", .array []), ("age", .number (.unsigned 3))]

theorem ofJson_faithful_ages :
    (∃ list, ((ofJson (.array [signedAge, unsignedAge])).run 0).1 = .ok list) ∧
    ((ofJson (.array [signedAge, .null])).run 0).1 = .error (.notRecord "null") ∧
    signedAge.Integral ∧ unsignedAge.Integral ∧
    (signedAge.toValue.run 0).1.same (unsignedAge.toValue.run 1).1 = true := by
  obtain ⟨lists, values⟩ := ofJson_faithful
  have leaf : (Json.array []).Integral := .array (by simp)
  have integral : signedAge.Integral := .object (by simpa using ⟨.number rfl, leaf⟩)
  have integral' : unsignedAge.Integral := .object (by simpa using ⟨leaf, .number rfl⟩)
  have same : signedAge.Same unsignedAge := by
    refine .object (by simp [or_comm]) fun name j k foundJ foundK => ?_
    by_cases age : name = "age"
    · subst age
      cases foundJ
      cases foundK
      exact .number rfl rfl
    · by_cases tags : name = "tags"
      · subst tags
        cases foundJ
        cases foundK
        exact .array rfl (by simp)
      · simp [Json.member?, List.lookup_cons, beq_eq_false_iff_ne.mpr age, beq_eq_false_iff_ne.mpr tags] at foundJ
  refine ⟨?_, ?_, integral, integral', ?_⟩
  · refine (lists (.array [signedAge, unsignedAge]) 0 _ _ rfl).1.mpr (Or.inr ⟨_, rfl, ?_⟩)
    simp [signedAge, unsignedAge, Json.isObject]
  · exact ((lists (.array [signedAge, .null]) 0 _ _ rfl).2.2 _).mpr ⟨.null, rfl, rfl⟩
  · exact (values _ _ integral integral' 0 _ _ 1 _ _ rfl rfl (Or.inl le_rfl)).mpr same

end RecordList

end RecordQuery
