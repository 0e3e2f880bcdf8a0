import Mathlib.Data.List.Forall2
import RecordQuery.Proofs.Value.Equality
import RecordQuery.Proofs.Value.Numbers

/-!
Equality among records that hold integers only. It is an equivalence on the values of a population of
records in which one handle stands for one record, whatever represents the integers and whichever
handles the maps have. Equal values are built alike, down to the integers and to records that hold equal
values under equal names.
-/

namespace RecordQuery

/-! ### Populations -/

/-- The record holds the value: as an entry of a map, or as an answer of an object. -/
def Record.Holds : Record → Value → Prop
  | .map _ fields, v => ∃ name, (name, v) ∈ fields
  | .object _ _ field, v => ∃ name, field name = some v

/-- No double stands in the value, and the records in it are of those around. -/
def Value.Plain (around : Record → Prop) (v : Value) : Prop :=
  v.floatFree = true ∧ ∀ r ∈ v.records, around r

/-- Records that hold plain values only, and of which one handle stands for one. -/
structure Population (around : Record → Prop) : Prop where
  plain : ∀ r, around r → ∀ v, r.Holds v → v.Plain around
  handle : ∀ r s, around r → around s → r.identical s = true → r = s

/-- The records that some records lead to: these themselves, and all in the values that such records hold. -/
inductive Record.Reached (roots : Record → Prop) : Record → Prop
  | root {r : Record} (start : roots r) : Reached roots r
  | inner {r s : Record} {v : Value} (outer : Reached roots r) (held : r.Holds v) (mem : s ∈ v.records) :
      Reached roots s

/-- Records lead to a population, where they lead to no double and one handle stands for one record. -/
theorem population_reached {roots : Record → Prop}
    (free : ∀ r, Record.Reached roots r → ∀ v : Value, r.Holds v → v.floatFree = true)
    (handle : ∀ r s, Record.Reached roots r → Record.Reached roots s → r.identical s = true → r = s) :
    Population (Record.Reached roots) where
  plain r hr v held := ⟨free r hr v held, fun _ mem => .inner hr held mem⟩
  handle := handle

section
variable {around : Record → Prop}

theorem Value.plain_list_iff {items : List Value} :
    (Value.list items).Plain around ↔ ∀ v ∈ items, v.Plain around := by
  change (floatFreeItems items = true ∧ ∀ r ∈ itemRecords items, around r) ↔ _
  induction items with
  | nil => simp [floatFreeItems, itemRecords]
  | cons v vs ih =>
    rw [List.forall_mem_cons, ← ih, floatFreeItems, itemRecords, Bool.and_eq_true, List.forall_mem_append]
    exact and_and_and_comm

theorem Value.plain_record_iff {r : Record} : (Value.record r).Plain around ↔ around r := by
  change (true = true ∧ ∀ s ∈ [r], around s) ↔ _
  rw [List.forall_mem_singleton]
  exact and_iff_right rfl

theorem Record.plain_map_iff {h : Nat} {fields : List (String × Value)} :
    (∀ v, (Record.map h fields).Holds v → v.Plain around) ↔ ∀ field ∈ fields, field.2.Plain around := by
  constructor
  · intro each field mem
    exact each field.2 ⟨field.1, mem⟩
  · rintro each v ⟨name, mem⟩
    exact each (name, v) mem

theorem Value.plain_number_iff {n : Number} : (Value.number n).Plain around ↔ ∃ k, n.toInt? = some k := by
  change (n.toInt?.isSome = true ∧ ∀ s ∈ [], around s) ↔ _
  rw [Option.isSome_iff_exists]
  exact and_iff_left fun s hs => nomatch hs

end

/-! ### Equality is an equivalence -/

theorem Record.same_self (r : Record) : r.same r = true := by
  cases r with
  | map h fields => rw [Record.same, beq_self_eq_true, Bool.true_or]
  | object h typeName field => rw [Record.same, beq_self_eq_true]

mutual

theorem Value.same_self {v : Value} (free : v.floatFree = true) : v.same v = true := by
  match v with
  | .null => rfl
  | .bool b => exact beq_self_eq_true b
  | .number n =>
    obtain ⟨k, hk⟩ := Option.isSome_iff_exists.mp free
    exact (Number.same_iff_of_toInt? hk hk).mpr rfl
  | .string s => exact beq_self_eq_true s
  | .list items => exact sameItems_self free
  | .record r => exact r.same_self

theorem sameItems_self {items : List Value} (free : floatFreeItems items = true) :
    sameItems items items = true := by
  match items with
  | [] => rfl
  | v :: vs =>
    rw [floatFreeItems, Bool.and_eq_true] at free
    rw [sameItems, Value.same_self free.1, sameItems_self free.2]
    rfl

end

namespace Population
variable {around : Record → Prop}

/-- Equal records are one record, or maps of equal fields. -/
theorem cases_of_same (population : Population around) {r s : Record} (hr : around r) (hs : around s)
    (same : r.same s = true) :
    r = s ∨ ∃ h as h' bs, r = .map h as ∧ s = .map h' bs ∧ sameFields as bs = true := by
  match r, s with
  | .map h as, .map h' bs =>
    rcases Bool.or_eq_true_iff.mp same with identical | fields
    · exact Or.inl (population.handle _ _ hr hs identical)
    · exact Or.inr ⟨h, as, h', bs, rfl, rfl, fields⟩
  | .object .., .object .. => exact Or.inl (population.handle _ _ hr hs same)

theorem plain_fields (population : Population around) {h : Nat} {fields : List (String × Value)}
    (there : around (.map h fields)) : ∀ field ∈ fields, field.2.Plain around :=
  Record.plain_map_iff.mp (population.plain _ there)

mutual

theorem same_trans (population : Population around) {v w u : Value} (hv : v.Plain around) (hw : w.Plain around)
    (hu : u.Plain around) (vw : v.same w = true) (wu : w.same u = true) : v.same u = true := by
  match v, w, u with
  | .null, .null, .null => rfl
  | .bool a, .bool b, .bool c => exact beq_iff_eq.mpr ((beq_iff_eq.mp vw).trans (beq_iff_eq.mp wu))
  | .number a, .number b, .number c =>
    obtain ⟨k, hk⟩ := Value.plain_number_iff.mp hv
    obtain ⟨l, hl⟩ := Value.plain_number_iff.mp hw
    obtain ⟨m, hm⟩ := Value.plain_number_iff.mp hu
    have kl := (Number.same_iff_of_toInt? hk hl).mp vw
    have lm := (Number.same_iff_of_toInt? hl hm).mp wu
    exact (Number.same_iff_of_toInt? hk hm).mpr (kl.trans lm)
  | .string a, .string b, .string c => exact beq_iff_eq.mpr ((beq_iff_eq.mp vw).trans (beq_iff_eq.mp wu))
  | .list as, .list bs, .list cs =>
    rw [Value.plain_list_iff] at hv hw hu
    exact population.same_items_trans hv hw hu vw wu
  | .record r, .record s, .record t =>
    rw [Value.plain_record_iff] at hv hw hu
    exact population.same_record_trans hv hw hu vw wu

theorem same_record_trans (population : Population around) {r s t : Record} (hr : around r) (hs : around s)
    (ht : around t) (rs : r.same s = true) (st : s.same t = true) : r.same t = true := by
  match r, s, t with
  | .map h as, .map h' bs, .map h'' cs =>
    -- Two maps that are one record pass the equality on; otherwise the fields are equal in turn.
    rcases Bool.or_eq_true_iff.mp rs with identical | first
    · rw [population.handle _ _ hr hs identical]
      exact st
    rcases Bool.or_eq_true_iff.mp st with identical | second
    · rw [← population.handle _ _ hs ht identical]
      exact rs
    refine Bool.or_eq_true_iff.mpr (Or.inr ?_)
    exact population.same_fields_trans (population.plain_fields hr) (population.plain_fields hs)
      (population.plain_fields ht) first second
  | .object .., .object .., .object .. => exact beq_iff_eq.mpr ((beq_iff_eq.mp rs).trans (beq_iff_eq.mp st))

theorem same_items_trans (population : Population around) {as bs cs : List Value}
    (ha : ∀ v ∈ as, v.Plain around) (hb : ∀ v ∈ bs, v.Plain around) (hc : ∀ v ∈ cs, v.Plain around)
    (ab : sameItems as bs = true) (bc : sameItems bs cs = true) : sameItems as cs = true := by
  match as, bs, cs with
  | [], [], [] => rfl
  | a :: as, b :: bs, c :: cs =>
    rw [sameItems, Bool.and_eq_true] at ab bc ⊢
    rw [List.forall_mem_cons] at ha hb hc
    exact ⟨population.same_trans ha.1 hb.1 hc.1 ab.1 bc.1, population.same_items_trans ha.2 hb.2 hc.2 ab.2 bc.2⟩

theorem same_fields_trans (population : Population around) {as bs cs : List (String × Value)}
    (ha : ∀ field ∈ as, field.2.Plain around) (hb : ∀ field ∈ bs, field.2.Plain around)
    (hc : ∀ field ∈ cs, field.2.Plain around) (ab : sameFields as bs = true) (bc : sameFields bs cs = true) :
    sameFields as cs = true := by
  match as, bs, cs with
  | [], [], [] => rfl
  | (k, a) :: as, (l, b) :: bs, (m, c) :: cs =>
    rw [sameFields, Bool.and_eq_true, Bool.and_eq_true, beq_iff_eq] at ab bc ⊢
    rw [List.forall_mem_cons] at ha hb hc
    exact ⟨⟨ab.1.1.trans bc.1.1, population.same_trans ha.1 hb.1 hc.1 ab.1.2 bc.1.2⟩,
      population.same_fields_trans ha.2 hb.2 hc.2 ab.2 bc.2⟩

end

end Population

end RecordQuery
