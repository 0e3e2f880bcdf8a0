import RecordQuery.Proofs.Selection.Conjunction
import RecordQuery.RecordList

/-!
Queries in another spelling. A key is read by its segments and an ordering by its direction and its segments, so
that the delimiter and the mark reach no further than the reading: what is respelled is read as the same conditions
and the same sort keys, or fails at the same place, and all queries follow. Only the text of a key that is refused
comes back as it was spelled.
-/

namespace RecordQuery

/-! ### Outcomes -/

/-- The failure without the text of a key that was refused. -/
def Failure.keyless : Failure → Failure
  | emptyPath _ => emptyPath ""
  | e => e

/-- Both runs have one result, or failures that differ in the text of a refused key at most. -/
inductive SameOutcome {α : Type} : Except Failure α → Except Failure α → Prop
  | ok (a : α) : SameOutcome (.ok a) (.ok a)
  | error {e e' : Failure} (kind : e.keyless = e'.keyless) : SameOutcome (.error e) (.error e')

namespace SameOutcome
variable {α β : Type} {x y : Except Failure α}

theorem refl (x : Except Failure α) : SameOutcome x x := by
  cases x with
  | ok a => exact .ok a
  | error e => exact .error rfl

theorem bind {f g : α → Except Failure β} (h : SameOutcome x y) (next : ∀ a, SameOutcome (f a) (g a)) :
    SameOutcome (x >>= f) (y >>= g) := by
  cases h with
  | ok a => exact next a
  | error kind => exact .error kind

theorem map_bind {γ : Type} {f : α → Except Failure β} {g : α → Except Failure γ} {h : β → γ} (same : SameOutcome x y)
    (next : ∀ a, SameOutcome ((f a).map h) (g a)) : SameOutcome ((x >>= f).map h) (y >>= g) := by
  cases same with
  | ok a => exact next a
  | error kind => exact .error kind

end SameOutcome

/-- The steps in front of the place succeed, and the one at the place fails. -/
inductive FailsFirstAt {α β ε : Type} (f : α → Except ε β) : List α → Nat → ε → Prop
  | head {x : α} {xs : List α} {e : ε} (failed : f x = .error e) : FailsFirstAt f (x :: xs) 0 e
  | tail {x : α} {y : β} {xs : List α} {place : Nat} {e : ε} (done : f x = .ok y)
      (later : FailsFirstAt f xs place e) : FailsFirstAt f (x :: xs) (place + 1) e

section
variable {α β γ ε : Type}

theorem FailsFirstAt.mapM_eq {f : α → Except ε β} {xs : List α} {place : Nat} {e : ε} (h : FailsFirstAt f xs place e) :
    xs.mapM f = .error e := by
  induction h with
  | head failed =>
    rw [List.mapM_cons, failed]
    rfl
  | tail done _ ih =>
    rw [List.mapM_cons, done, ih]
    rfl

/-- Traversals whose steps have the same outcomes in turn have the same results, or fail first at the same place. -/
theorem mapM_cases_of_forall₂ {f : α → Except Failure γ} {g : β → Except Failure γ} {as : List α} {bs : List β}
    (each : List.Forall₂ (fun a b => SameOutcome (f a) (g b)) as bs) :
    (∃ results, as.mapM f = .ok results ∧ bs.mapM g = .ok results) ∨
      ∃ place e e', FailsFirstAt f as place e ∧ FailsFirstAt g bs place e' ∧ e.keyless = e'.keyless := by
  induction each with
  | nil => exact Or.inl ⟨[], rfl, rfl⟩
  | @cons a b as bs step _ ih =>
    -- A failure at the head ends both traversals there; else the rest decides, one place further.
    generalize left : f a = x at step
    generalize right : g b = y at step
    cases step with
    | error kind => exact Or.inr ⟨0, _, _, .head left, .head right, kind⟩
    | ok result =>
      rcases ih with ⟨results, lefts, rights⟩ | ⟨place, e, e', lefts, rights, kind⟩
      · exact Or.inl ⟨result :: results, mapM_cons_eq_ok_iff.mpr ⟨result, left, results, lefts, rfl⟩,
          mapM_cons_eq_ok_iff.mpr ⟨result, right, results, rights, rfl⟩⟩
      · exact Or.inr ⟨place + 1, e, e', .tail left lefts, .tail right rights, kind⟩

theorem SameOutcome.mapM {f : α → Except Failure γ} {g : β → Except Failure γ} {as : List α} {bs : List β}
    (each : List.Forall₂ (fun a b => SameOutcome (f a) (g b)) as bs) : SameOutcome (as.mapM f) (bs.mapM g) := by
  rcases mapM_cases_of_forall₂ each with ⟨results, left, right⟩ | ⟨place, e, e', left, right, kind⟩
  · rw [left, right]
    exact .ok results
  · rw [left.mapM_eq, right.mapM_eq]
    exact .error kind

end

/-! ### Reading -/

/-- The keys have the same segments, each in its spelling, and name the same operator by itself or none. -/
inductive LookupKey.Respelled (spelling spelling' : Spelling) : LookupKey → LookupKey → Prop
  | spelled {key key' : String} (segments : spelling.split key = spelling'.split key') :
      LookupKey.Respelled spelling spelling' (.spelled key) (.spelled key')
  | explicit {path path' operator : String} (segments : spelling.split path = spelling'.split path') :
      LookupKey.Respelled spelling spelling' (.explicit path operator) (.explicit path' operator)

/-- The lookups have keys that differ in their spelling only, and expect the same. -/
structure Lookup.Respelled (spelling spelling' : Spelling) (lookup lookup' : Lookup) : Prop where
  key : LookupKey.Respelled spelling spelling' lookup.key lookup'.key
  expected : lookup.expected = lookup'.expected

/-- The texts are orderings of the same direction by the same segments, each in its spelling. -/
structure SortKey.Respelled (spelling spelling' : Spelling) (text text' : String) : Prop where
  direction : (spelling.direction text).1 = (spelling'.direction text').1
  segments : spelling.split (spelling.direction text).2 = spelling'.split (spelling'.direction text').2

section
variable {spelling spelling' : Spelling} {registry : Registry}

theorem LookupKey.Respelled.target {key key' : LookupKey} (h : Respelled spelling spelling' key key') :
    SameOutcome (key.target spelling registry) (key'.target spelling' registry) := by
  -- The texts of the keys are left in the failure alone, once their segments are one list.
  cases h with
  | spelled segments =>
    rw [LookupKey.target, LookupKey.target, segments]
    dsimp only
    cases Path.ofSegments? (splitOperator registry (spelling'.split _)).1 with
    | none => exact .error rfl
    | some path => exact .ok _
  | @explicit path path' operator segments =>
    rw [LookupKey.target, LookupKey.target, Path.parse, Path.parse, segments]
    cases registry.hasComparator operator with
    | false => exact .refl _
    | true =>
      cases Path.ofSegments? (spelling'.split path') with
      | none => exact .error rfl
      | some path => exact .ok _

theorem Lookup.Respelled.condition [PatternEngine] {lookup lookup' : Lookup}
    (h : Respelled spelling spelling' lookup lookup') :
    SameOutcome (lookup.condition spelling registry) (lookup'.condition spelling' registry) := by
  rw [Lookup.condition, Lookup.condition, h.expected]
  exact h.key.target.bind fun target => .refl _

theorem SortKey.Respelled.parse {text text' : String} (h : Respelled spelling spelling' text text') :
    SameOutcome (SortKey.parse spelling text) (SortKey.parse spelling' text') := by
  rw [SortKey.parse, SortKey.parse]
  dsimp only
  rw [h.direction, h.segments]
  cases Path.ofSegments? (spelling'.split (spelling'.direction text').2) with
  | none => exact .error rfl
  | some path => exact .ok _

variable [PatternEngine] {lookups lookups' : List Lookup}
  (asked : List.Forall₂ (Lookup.Respelled spelling spelling') lookups lookups')
include asked

theorem conditionsOf_respelled :
    SameOutcome (conditionsOf spelling registry lookups) (conditionsOf spelling' registry lookups') := by
  rw [conditionsOf_eq_mapM, conditionsOf_eq_mapM]
  exact .mapM (asked.imp fun _ _ h => h.condition)

/-- Lookups that are respelled are read as the same conditions, or the first that cannot be read is the same. -/
theorem conditionsOf_respelled_cases (registry : Registry) :
    (∃ conditions, conditionsOf spelling registry lookups = .ok conditions ∧
      conditionsOf spelling' registry lookups' = .ok conditions) ∨
    ∃ place e e', FailsFirstAt (·.condition spelling registry) lookups place e ∧
      FailsFirstAt (·.condition spelling' registry) lookups' place e' ∧
      conditionsOf spelling registry lookups = .error e ∧ conditionsOf spelling' registry lookups' = .error e' ∧
      e.keyless = e'.keyless := by
  simp only [conditionsOf_eq_mapM]
  refine (mapM_cases_of_forall₂ (asked.imp fun _ _ h => h.condition)).imp_right ?_
  rintro ⟨place, e, e', left, right, kind⟩
  exact ⟨place, e, e', left, right, left.mapM_eq, right.mapM_eq, kind⟩

end

/-! ### Queries -/

namespace RecordList

/-- The same records, in another spelling. -/
def respelled (list : RecordList) (spelling : Spelling) : RecordList := { list with spelling }

section
variable {list : RecordList} {spelling : Spelling}

section
variable [PatternEngine] {lookups lookups' : List Lookup}
  (asked : List.Forall₂ (Lookup.Respelled list.spelling spelling) lookups lookups') (registry : Registry)
include asked

theorem keeping_respelled (keep : Bool) :
    SameOutcome ((list.keeping registry lookups keep).map (·.respelled spelling))
      ((list.respelled spelling).keeping registry lookups' keep) := by
  refine (conditionsOf_respelled asked).map_bind fun conditions => ?_
  dsimp only [respelled]
  cases list.records.filterM fun r => (meetsAll registry r conditions).map (· == keep) with
  | error e => exact .refl _
  | ok chosen => exact .refl _

theorem single_respelled :
    SameOutcome (list.single registry lookups) ((list.respelled spelling).single registry lookups') :=
  (conditionsOf_respelled asked).bind fun _ => .refl _

theorem any_respelled :
    SameOutcome (list.any registry lookups) ((list.respelled spelling).any registry lookups') :=
  (conditionsOf_respelled asked).bind fun _ => .refl _

end

theorem sortedWith_respelled {texts texts' : List String}
    (ordered : List.Forall₂ (SortKey.Respelled list.spelling spelling) texts texts') (registry : Registry)
    (sort : StableSort) : SameOutcome ((list.sortedWith sort registry texts).map (·.respelled spelling))
      ((list.respelled spelling).sortedWith sort registry texts') := by
  refine (SameOutcome.mapM (ordered.imp fun _ _ h => h.parse)).map_bind fun keys => ?_
  dsimp only [respelled]
  cases sortByKeys sort registry keys list.records with
  | error e => exact .refl _
  | ok sorted => exact .refl _

/-- Lookups and orderings that are respelled are asked of the same list in the other spelling with the same outcome,
under every registry: they are read as the same conditions or fail at the same place with failures of one kind, and
so all queries have one result, or failures of one kind. -/
theorem queries_respelled [PatternEngine] (registry : Registry) {lookups lookups' : List Lookup}
    {texts texts' : List String}
    (asked : List.Forall₂ (Lookup.Respelled list.spelling spelling) lookups lookups')
    (ordered : List.Forall₂ (SortKey.Respelled list.spelling spelling) texts texts') :
    let other := list.respelled spelling
    ((∃ conditions, conditionsOf list.spelling registry lookups = .ok conditions ∧
        conditionsOf other.spelling registry lookups' = .ok conditions) ∨
      ∃ place e e', FailsFirstAt (·.condition list.spelling registry) lookups place e ∧
        FailsFirstAt (·.condition other.spelling registry) lookups' place e' ∧
        conditionsOf list.spelling registry lookups = .error e ∧
        conditionsOf other.spelling registry lookups' = .error e' ∧ e.keyless = e'.keyless) ∧
    SameOutcome ((list.filter registry lookups).map (·.respelled spelling)) (other.filter registry lookups') ∧
    SameOutcome ((list.exclude registry lookups).map (·.respelled spelling)) (other.exclude registry lookups') ∧
    SameOutcome (list.single registry lookups) (other.single registry lookups') ∧
    SameOutcome (list.any registry lookups) (other.any registry lookups') ∧
    ∀ sort : StableSort, SameOutcome ((list.sortedWith sort registry texts).map (·.respelled spelling))
      (other.sortedWith sort registry texts') :=
  ⟨conditionsOf_respelled_cases asked registry, keeping_respelled asked registry true,
    keeping_respelled asked registry false, single_respelled asked registry, any_respelled asked registry,
    sortedWith_respelled ordered registry⟩

end

/-- A dot between segments and a tilde for descent. -/
def dotted : Spelling := ⟨".", '~'⟩

/-- A record with the name of an owner and a number. -/
def robin : Record := .map 2 [("n", .ofNat 2), ("owner", .string "Robin")]

/-- Three such records. -/
def owned : RecordList :=
  { records := [.map 1 [("n", .ofNat 1), ("owner", .string "Sam")], robin,
      .map 3 [("n", .ofNat 3), ("owner", .string "Alexis")]] }

theorem queries_respelled_dotted :
    let lookups : List Lookup := [⟨.spelled "owner__len__gt", .ofNat 3⟩, ⟨.explicit "n" "lt", .ofNat 3⟩]
    let dottedLookups : List Lookup := [⟨.spelled "owner.len.gt", .ofNat 3⟩, ⟨.explicit "n" "lt", .ofNat 3⟩]
    List.Forall₂ (Lookup.Respelled owned.spelling dotted) lookups dottedLookups ∧
    List.Forall₂ (SortKey.Respelled owned.spelling dotted) ["-owner__len"] ["~owner.len"] ∧
    (owned.respelled dotted).single .standard dottedLookups = .ok robin ∧
    SameOutcome ((owned.filter .standard lookups).map (·.respelled dotted))
      ((owned.respelled dotted).filter .standard dottedLookups) ∧
    SameOutcome ((owned.sortedBy .standard ["-owner__len"]).map (·.respelled dotted))
      ((owned.respelled dotted).sortedBy .standard ["~owner.len"]) := by
  intro lookups dottedLookups
  have asked : List.Forall₂ (Lookup.Respelled owned.spelling dotted) lookups dottedLookups :=
    .cons ⟨.spelled (by decide), rfl⟩ (.cons ⟨.explicit (by decide), rfl⟩ .nil)
  have ordered : List.Forall₂ (SortKey.Respelled owned.spelling dotted) ["-owner__len"] ["~owner.len"] :=
    .cons ⟨by decide, by decide⟩ .nil
  obtain ⟨-, kept, -, found, -, sorted⟩ := queries_respelled .standard asked ordered
  refine ⟨asked, ordered, ?_, kept, sorted .insertion⟩
  have read : conditionsOf owned.spelling .standard lookups = .ok
      [⟨⟨["owner", "len"], by decide, by decide⟩, "gt", .ofNat 3, none⟩,
        ⟨⟨["n"], by decide, by decide⟩, "lt", .ofNat 3, none⟩] := rfl
  have plain : owned.single .standard lookups = .ok robin := by
    rw [single, read]
    rfl
  rw [plain] at found
  generalize (owned.respelled dotted).single .standard dottedLookups = answer at found ⊢
  cases found
  rfl

/-- A key that is refused comes back as it was spelled. -/
example : conditionsOf .standard .standard [⟨.spelled "owner____len", .null⟩] = .error (.emptyPath "owner____len") ∧
    conditionsOf ⟨".", '~'⟩ .standard [⟨.spelled "owner..len", .null⟩] = .error (.emptyPath "owner..len") := ⟨rfl, rfl⟩

end RecordList

end RecordQuery
