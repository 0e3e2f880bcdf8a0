/-!
Dictionaries: entries under string keys, each key once, in ascending order of keys.
-/

namespace RecordQuery

/-- Entries under string keys. Every operation below keeps the keys strictly ascending. -/
abbrev Dictionary (α : Type) := List (String × α)

namespace Dictionary

variable {α : Type}

/-- The keys are strictly ascending, so that no key stands twice. -/
def Ascending (d : Dictionary α) : Prop := d.Pairwise fun a b => a.1 < b.1

/-- The keys, in ascending order. -/
def keys (d : Dictionary α) : List String := d.map (·.1)

/-- The entry under a key. -/
def find? (k : String) : Dictionary α → Option α
  | [] => none
  | (key, value) :: rest => if key = k then some value else find? k rest

/-- Some entry stands under the key. -/
def has (k : String) (d : Dictionary α) : Bool := (find? k d).isSome

/-- Puts an entry under a key, in place of the one that is there. -/
def insert (k : String) (v : α) : Dictionary α → Dictionary α
  | [] => [(k, v)]
  | (key, value) :: rest =>
    if k < key then (k, v) :: (key, value) :: rest
    else if k = key then (k, v) :: rest
    else (key, value) :: insert k v rest

/-- Takes the entry under a key away. -/
def erase (k : String) : Dictionary α → Dictionary α
  | [] => []
  | (key, value) :: rest => if key = k then rest else (key, value) :: erase k rest

/-- The dictionary of some pairs; of two pairs with one key the later counts. -/
def ofList (pairs : List (String × α)) : Dictionary α :=
  pairs.foldl (fun d pair => insert pair.1 pair.2 d) []

/-! ### Laws of insertion -/

@[simp] theorem find?_insert_self (k : String) (v : α) (d : Dictionary α) :
    find? k (insert k v d) = some v := by
  fun_induction insert k v d <;> grind [find?]

theorem find?_insert_of_ne {k l : String} (h : l ≠ k) (v : α) (d : Dictionary α) :
    find? l (insert k v d) = find? l d := by
  fun_induction insert k v d <;> grind [find?]

theorem mem_of_find? {k : String} {v : α} {d : Dictionary α} (found : find? k d = some v) : (k, v) ∈ d := by
  fun_induction find? k d <;> grind

theorem find?_of_mem {k : String} {v : α} {d : Dictionary α} (h : Ascending d) (mem : (k, v) ∈ d) :
    find? k d = some v := by
  induction d with
  | nil => cases mem
  | cons entry rest ih =>
    obtain ⟨first, others⟩ := List.pairwise_cons.1 h
    rcases List.mem_cons.1 mem with rfl | later
    · exact if_pos rfl
    · have different : entry.1 ≠ k := by
        rintro rfl
        have before := first _ later
        exact String.lt_irrefl _ before
      rw [find?, if_neg different, ih others later]

theorem mem_keys_iff {k : String} {d : Dictionary α} : k ∈ keys d ↔ ∃ v, find? k d = some v := by
  fun_induction find? k d <;> grind [keys]

theorem mem_of_mem_insert {k : String} {v : α} {e : String × α} {d : Dictionary α} (mem : e ∈ insert k v d) :
    e = (k, v) ∨ e ∈ d := by
  fun_induction insert k v d <;> grind

theorem mem_keys_insert {k l : String} {v : α} {d : Dictionary α} :
    l ∈ keys (insert k v d) ↔ l = k ∨ l ∈ keys d := by
  fun_induction insert k v d <;> grind [keys]

theorem ascending_insert {d : Dictionary α} (h : Ascending d) (k : String) (v : α) :
    Ascending (insert k v d) := by
  induction d with
  | nil => simp [insert, Ascending]
  | cons entry rest ih =>
    obtain ⟨first, others⟩ := List.pairwise_cons.1 h
    unfold insert
    split
    · next before =>
      exact List.pairwise_cons.2 ⟨fun e he => (List.mem_cons.1 he).elim (fun same => same ▸ before)
        fun he => String.lt_trans before (first e he), h⟩
    · split
      · next same =>
        subst same
        exact List.pairwise_cons.2 ⟨first, others⟩
      · next notBefore different =>
        have after : entry.1 < k := Std.lt_of_le_of_ne (String.not_lt.1 notBefore) (Ne.symm different)
        refine List.pairwise_cons.2 ⟨fun e he => ?_, ih others⟩
        rcases mem_keys_insert.1 (List.mem_map_of_mem he) with same | there
        · exact same ▸ after
        · obtain ⟨e', he', same⟩ := List.mem_map.1 there
          exact same ▸ first e' he'

theorem ascending_ofList (pairs : List (String × α)) : Ascending (ofList pairs) := by
  suffices ∀ d : Dictionary α, Ascending d →
      Ascending (pairs.foldl (fun d pair => insert pair.1 pair.2 d) d) from
    this [] List.Pairwise.nil
  induction pairs with
  | nil => exact fun _ h => h
  | cons pair pairs ih => exact fun d h => ih _ (ascending_insert h pair.1 pair.2)

/-- Of several pairs with one key the last counts. -/
theorem find?_ofList (k : String) (pairs : List (String × α)) : find? k (ofList pairs) = pairs.reverse.lookup k := by
  suffices ∀ d : Dictionary α, find? k (pairs.foldl (fun d pair => insert pair.1 pair.2 d) d) =
      (pairs.reverse.lookup k).or (find? k d) from (this []).trans Option.or_none
  induction pairs with
  | nil => exact fun _ => rfl
  | cons pair pairs ih =>
    intro d
    obtain ⟨l, v⟩ := pair
    have head : find? k (insert l v d) = ([(l, v)].lookup k).or (find? k d) := by
      by_cases same : k = l
      · subst same
        simp
      · simp [List.lookup_cons, find?_insert_of_ne same, beq_eq_false_iff_ne.mpr same]
    rw [List.foldl_cons, ih, head, List.reverse_cons, List.lookup_append, Option.or_assoc]

theorem mem_keys_ofList {k : String} {pairs : List (String × α)} :
    k ∈ keys (ofList pairs) ↔ k ∈ pairs.map (·.1) := by
  rw [mem_keys_iff, find?_ofList, ← Option.isSome_iff_exists, List.lookup_isSome_iff]
  simp

/-! ### Laws of removal -/

theorem find?_eq_none_of_forall_ne {k : String} {d : Dictionary α} (absent : ∀ e ∈ d, e.1 ≠ k) :
    find? k d = none :=
  Option.eq_none_iff_forall_ne_some.2 fun _ found => absent _ (mem_of_find? found) rfl

theorem find?_erase_of_ne {k l : String} (h : l ≠ k) (d : Dictionary α) : find? l (erase k d) = find? l d := by
  fun_induction erase k d <;> grind [find?]

/-- The key stands once, so nothing is under it any more. -/
theorem find?_erase_self {d : Dictionary α} (h : Ascending d) (k : String) : find? k (erase k d) = none := by
  induction d with
  | nil => rfl
  | cons entry rest ih =>
    obtain ⟨first, others⟩ := List.pairwise_cons.1 h
    unfold erase
    split
    · next same =>
      refine find?_eq_none_of_forall_ne fun e he there => ?_
      exact String.lt_irrefl k (by simpa [same, there] using first e he)
    · next different => rw [find?, if_neg different, ih others]

theorem erase_eq_self {k : String} {d : Dictionary α} (absent : find? k d = none) : erase k d = d := by
  fun_induction erase k d <;> grind [find?]

theorem erase_comm (k l : String) (d : Dictionary α) : erase k (erase l d) = erase l (erase k d) := by
  fun_induction erase l d <;> grind [erase]

theorem erase_sublist (k : String) (d : Dictionary α) : (erase k d).Sublist d := by
  fun_induction erase k d <;> grind

theorem ascending_erase {d : Dictionary α} (h : Ascending d) (k : String) : Ascending (erase k d) :=
  List.Pairwise.sublist (erase_sublist k d) h

end Dictionary

end RecordQuery
