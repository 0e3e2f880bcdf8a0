import RecordQuery.Proofs.Ordering.Rows
import RecordQuery.Proofs.Traversal

/-!
The comparison of records by their keys, and the sort by it. Where all keys resolve, to values without
doubles, the comparison is coherent, so that the sort by keys is a stable sort of the records.
-/

namespace RecordQuery

/-- Each key leads to a value from the record. -/
def Resolves (registry : Registry) (keys : List SortKey) (r : Record) : Prop :=
  ∀ key ∈ keys, ∃ v, key.path.resolve registry r = .ok v

instance (registry : Registry) (keys : List SortKey) (r : Record) : Decidable (Resolves registry keys r) :=
  decidable_of_iff (∀ key ∈ keys, (key.path.resolve registry r).isOk = true) <|
    forall₂_congr fun key _ => by cases key.path.resolve registry r <;> simp [Except.isOk, Except.toBool]

/-- No key leads to a value with a double in it from the record. -/
def FloatFreeKeys (registry : Registry) (keys : List SortKey) (r : Record) : Prop :=
  ∀ key ∈ keys, ∀ v, key.path.resolve registry r = .ok v → v.floatFree

instance (registry : Registry) (keys : List SortKey) (r : Record) : Decidable (FloatFreeKeys registry keys r) :=
  decidable_of_iff (∀ key ∈ keys, ((key.path.resolve registry r).toOption.all Value.floatFree) = true) <|
    forall₂_congr fun key _ => by cases key.path.resolve registry r <;> simp [Except.toOption]

/-- Compares two records by the values of their keys. -/
def compareRecords (registry : Registry) (keys : List SortKey) (r s : Record) :
    Except Failure Ordering := do
  let as ← keyValues registry keys r
  let bs ← keyValues registry keys s
  compareRows keys as bs

/-- The failure of two records by one of the keys, whose values do not compare. -/
def Incomparable (registry : Registry) (keys : List SortKey) (r s : Record) (e : Failure) : Prop :=
  ∃ key ∈ keys, ∃ v w, key.path.resolve registry r = .ok v ∧ key.path.resolve registry s = .ok w ∧
    v.compare? w = none ∧ e = .incomparable key.text v.kind w.kind

/-! ### Values of keys -/

section
variable {registry : Registry} {keys first second : List SortKey} {r s : Record} {as bs cs ds : List Value}

theorem keyValues_eq_ok_iff : keyValues registry keys r = .ok as ↔
    List.Forall₂ (fun key v => key.path.resolve registry r = .ok v) keys as := mapM_eq_ok_iff

theorem Resolves.exists_keyValues (h : Resolves registry keys r) : ∃ as, keyValues registry keys r = .ok as :=
  exists_mapM_ok h

theorem resolves_of_keyValues (found : keyValues registry keys r = .ok as) : Resolves registry keys r :=
  forall_ok_of_mapM found

theorem length_of_keyValues (found : keyValues registry keys r = .ok as) : keys.length = as.length :=
  (keyValues_eq_ok_iff.mp found).length_eq

theorem keyValues_append (hf : keyValues registry first r = .ok as) (hs : keyValues registry second r = .ok cs) :
    keyValues registry (first ++ second) r = .ok (as ++ cs) := by
  rw [keyValues_eq_ok_iff] at hf hs ⊢
  exact List.rel_append hf hs

theorem floatFree_of_keyValues (free : FloatFreeKeys registry keys r)
    (found : keyValues registry keys r = .ok as) : ∀ v ∈ as, v.floatFree := by
  have each := keyValues_eq_ok_iff.mp found
  clear found
  induction each with
  | nil => exact fun v hv => nomatch hv
  | cons head _ ih =>
    refine List.forall_mem_cons.mpr ⟨free _ List.mem_cons_self _ head, ih fun key hk => ?_⟩
    exact free key (List.mem_cons_of_mem _ hk)

/-! ### Comparison -/

theorem compareRecords_eq (hr : keyValues registry keys r = .ok as) (hs : keyValues registry keys s = .ok bs) :
    compareRecords registry keys r s = compareRows keys as bs := by
  unfold compareRecords
  rw [hr, hs]
  rfl

/-- The keys behind others break the ties of records. -/
theorem compareRecords_append (hr : Resolves registry (first ++ second) r)
    (hs : Resolves registry (first ++ second) s) : compareRecords registry (first ++ second) r s =
      inTurn (compareRecords registry first) (compareRecords registry second) r s := by
  obtain ⟨hr₁, hr₂⟩ := List.forall_mem_append.mp hr
  obtain ⟨hs₁, hs₂⟩ := List.forall_mem_append.mp hs
  obtain ⟨as, has⟩ := Resolves.exists_keyValues hr₁
  obtain ⟨bs, hbs⟩ := Resolves.exists_keyValues hs₁
  obtain ⟨cs, hcs⟩ := Resolves.exists_keyValues hr₂
  obtain ⟨ds, hds⟩ := Resolves.exists_keyValues hs₂
  calc compareRecords registry (first ++ second) r s
      = compareRows (first ++ second) (as ++ cs) (bs ++ ds) :=
        compareRecords_eq (keyValues_append has hcs) (keyValues_append hbs hds)
    _ = breakTie (compareRows first as bs) (compareRows second cs ds) :=
        compareRows_append (length_of_keyValues has) (length_of_keyValues hbs)
    _ = inTurn (compareRecords registry first) (compareRecords registry second) r s := by
        rw [inTurn, compareRecords_eq has hbs, compareRecords_eq hcs hds]

theorem incomparable_of_compareRows {e : Failure} (hr : keyValues registry keys r = .ok as)
    (hs : keyValues registry keys s = .ok bs) (failed : compareRows keys as bs = .error e) :
    Incomparable registry keys r s e := by
  rw [keyValues_eq_ok_iff] at hr hs
  induction hr generalizing bs with
  | nil => cases failed
  | @cons key v keys as hv _ ih =>
    cases hs with
    | @cons _ w _ bs hw hs =>
      rw [compareRows_cons] at failed
      cases outcome : key.compare v w with
      | error e' =>
        rw [outcome] at failed
        cases failed
        obtain ⟨apart, named⟩ := key.compare_error outcome
        exact ⟨key, List.mem_cons_self, v, w, hv, hw, apart, named⟩
      | ok o =>
        rw [outcome] at failed
        cases o with
        | eq =>
          obtain ⟨later, hl, found⟩ := ih hs failed
          exact ⟨later, List.mem_cons_of_mem _ hl, found⟩
        | lt | gt => cases failed

theorem incomparable_of_compareRecords {e : Failure} (hr : Resolves registry keys r)
    (hs : Resolves registry keys s) (failed : compareRecords registry keys r s = .error e) :
    Incomparable registry keys r s e := by
  obtain ⟨as, has⟩ := hr.exists_keyValues
  obtain ⟨bs, hbs⟩ := hs.exists_keyValues
  rw [compareRecords_eq has hbs] at failed
  exact incomparable_of_compareRows has hbs failed

end

/-! ### Sorting -/

section
variable {registry : Registry} {keys : List SortKey} {records : List Record}

theorem coherent_compareRecords (resolved : ∀ r ∈ records, Resolves registry keys r)
    (free : ∀ r ∈ records, FloatFreeKeys registry keys r) :
    Coherent (compareRecords registry keys) records where
  swap {r s o} hr hs answer := by
    obtain ⟨as, has⟩ := (resolved r hr).exists_keyValues
    obtain ⟨bs, hbs⟩ := (resolved s hs).exists_keyValues
    rw [compareRecords_eq has hbs, ← toOption_eq_some_iff] at answer
    rw [compareRecords_eq hbs has, ← toOption_eq_some_iff, compareRows_swap, answer]
    rfl
  chain {r s t o₁ o₂} hr hs ht h₁ h₂ := by
    obtain ⟨as, has⟩ := (resolved r hr).exists_keyValues
    obtain ⟨bs, hbs⟩ := (resolved s hs).exists_keyValues
    obtain ⟨cs, hcs⟩ := (resolved t ht).exists_keyValues
    rw [compareRecords_eq has hbs, ← toOption_eq_some_iff] at h₁
    rw [compareRecords_eq hbs hcs, ← toOption_eq_some_iff] at h₂
    rw [compareRecords_eq has hcs, ← toOption_eq_some_iff]
    exact compareRows_chains ((length_of_keyValues has).symm.trans (length_of_keyValues hbs))
      ((length_of_keyValues hbs).symm.trans (length_of_keyValues hcs)) (floatFree_of_keyValues (free r hr) has)
      (floatFree_of_keyValues (free s hs) hbs) (floatFree_of_keyValues (free t ht) hcs) o₁ o₂ h₁ h₂

theorem exists_row_iff {r : Record} :
    (∃ row, ((keyValues registry keys r).map fun values => (values, r)) = .ok row) ↔ Resolves registry keys r := by
  constructor
  · rintro ⟨row, found⟩
    obtain ⟨as, has, -⟩ := map_eq_ok_iff.mp found
    exact resolves_of_keyValues has
  · intro resolved
    obtain ⟨as, has⟩ := resolved.exists_keyValues
    exact ⟨(as, r), map_eq_ok_iff.mpr ⟨as, has, rfl⟩⟩

/-- Rows of key values stand with their records, in the order of these. -/
theorem rows_of_mapM {rows : List (List Value × Record)}
    (found : (records.mapM fun r => (keyValues registry keys r).map fun values => (values, r)) = .ok rows) :
    rows.map (·.2) = records ∧ ∀ row ∈ rows, keyValues registry keys row.2 = .ok row.1 := by
  have each := mapM_eq_ok_iff.mp found
  clear found
  induction each with
  | nil => exact ⟨rfl, fun row hrow => nomatch hrow⟩
  | @cons r _ records rows head _ ih =>
    obtain ⟨as, has, rfl⟩ := map_eq_ok_iff.mp head
    exact ⟨congrArg (r :: ·) ih.1, List.forall_mem_cons.mpr ⟨has, ih.2⟩⟩

/-- Where all keys resolve, the sort by keys is that of the records by their comparison. -/
theorem sortByKeys_eq (sort : StableSort) (resolved : ∀ r ∈ records, Resolves registry keys r) :
    sortByKeys sort registry keys records = sort.apply (compareRecords registry keys) records := by
  obtain ⟨rows, found⟩ := exists_mapM_ok fun r hr => exists_row_iff.mpr (resolved r hr)
  obtain ⟨handles, each⟩ := rows_of_mapM found
  have same : ∀ a ∈ rows, ∀ b ∈ rows, compareRows keys a.1 b.1 = compareRecords registry keys a.2 b.2 :=
    fun a ha b hb => (compareRecords_eq (each a ha) (each b hb)).symm
  calc sortByKeys sort registry keys records
      = (sort.apply (fun a b => compareRows keys a.1 b.1) rows).map (List.map (·.2)) := by
        rw [sortByKeys, found]
        rfl
    _ = (sort.apply (fun a b => compareRecords registry keys a.2 b.2) rows).map (List.map (·.2)) := by
        rw [sort.apply_congr same]
    _ = sort.apply (compareRecords registry keys) records := by rw [← sort.apply_map, handles]

/-- A record with a key that does not resolve decides the error, the first one in the list by the first
of its keys. -/
theorem sortByKeys_unresolved (sort : StableSort) (stuck : ¬ ∀ r ∈ records, Resolves registry keys r) :
    ∃ before r after earlier key later e, records = before ++ r :: after ∧
      (∀ s ∈ before, Resolves registry keys s) ∧ keys = earlier ++ key :: later ∧
      Resolves registry earlier r ∧ key.path.resolve registry r = .error e ∧
      sortByKeys sort registry keys records = .error e := by
  obtain ⟨before, r, after, e, split, clear, failed, whole⟩ := mapM_first_error fun rows =>
    stuck fun r hr => exists_row_iff.mp (rows r hr)
  have values : keyValues registry keys r = .error e := map_eq_error_iff.mp failed
  have unresolved : ¬ Resolves registry keys r := fun resolved => by
    obtain ⟨as, has⟩ := resolved.exists_keyValues
    rw [values] at has
    cases has
  -- The row of the record fails in turn with the first key that it does not find.
  obtain ⟨earlier, key, later, e', turns, first, lost, row⟩ := mapM_first_error unresolved
  cases values.symm.trans row
  refine ⟨before, r, after, earlier, key, later, e, split, fun s hs => exists_row_iff.mp (clear s hs), turns,
    first, lost, ?_⟩
  rw [sortByKeys, whole]
  rfl

theorem resolves_of_sortByKeys {sort : StableSort} {sorted : List Record}
    (done : sortByKeys sort registry keys records = .ok sorted) : ∀ r ∈ records, Resolves registry keys r := by
  by_contra stuck
  obtain ⟨_, _, _, _, _, _, e, -, -, -, -, -, failed⟩ := sortByKeys_unresolved sort stuck
  rw [failed] at done
  cases done

/-- The sort by keys succeeds with the stable order of the records, where all keys resolve and there is
one. -/
theorem sortByKeys_eq_ok_iff (sort : StableSort) (free : ∀ r ∈ records, FloatFreeKeys registry keys r)
    {sorted : List Record} : sortByKeys sort registry keys records = .ok sorted ↔
      (∀ r ∈ records, Resolves registry keys r) ∧ StablySorted (compareRecords registry keys) records sorted := by
  constructor
  · intro done
    have resolved := resolves_of_sortByKeys done
    rw [sortByKeys_eq sort resolved, sort.apply_eq_ok_iff (coherent_compareRecords resolved free)] at done
    exact ⟨resolved, done⟩
  · rintro ⟨resolved, stable⟩
    rw [sortByKeys_eq sort resolved]
    exact (sort.apply_eq_ok_iff (coherent_compareRecords resolved free)).mpr stable

/-- The sort by keys succeeds just where all keys resolve and all pairs of records compare. -/
theorem exists_sortByKeys_ok_iff (sort : StableSort) (free : ∀ r ∈ records, FloatFreeKeys registry keys r) :
    (∃ sorted, sortByKeys sort registry keys records = .ok sorted) ↔
      (∀ r ∈ records, Resolves registry keys r) ∧ records.Pairwise (Comparable (compareRecords registry keys)) := by
  constructor
  · rintro ⟨sorted, done⟩
    obtain ⟨resolved, stable⟩ := (sortByKeys_eq_ok_iff sort free).mp done
    exact ⟨resolved, stable.comparable (coherent_compareRecords resolved free)⟩
  · rintro ⟨resolved, all⟩
    obtain ⟨sorted, done⟩ := (sort.exists_apply_ok_iff (coherent_compareRecords resolved free)).mpr all
    exact ⟨sorted, (sortByKeys_eq sort resolved).trans done⟩

/-- A sort by some keys after one by others is the sort by both, in which the later keys come first. -/
theorem sortByKeys_append (sort : StableSort) {first second : List SortKey} {mid last : List Record}
    (freeFirst : ∀ r ∈ records, FloatFreeKeys registry first r)
    (freeSecond : ∀ r ∈ records, FloatFreeKeys registry second r)
    (before : sortByKeys sort registry second records = .ok mid)
    (after : sortByKeys sort registry first mid = .ok last) :
    sortByKeys sort registry (first ++ second) records = .ok last := by
  obtain ⟨resolvedSecond, sortedMid⟩ := (sortByKeys_eq_ok_iff sort freeSecond).mp before
  have mem : ∀ r, r ∈ mid ↔ r ∈ records := fun r => sortedMid.perm.mem_iff
  obtain ⟨resolvedMid, sortedLast⟩ :=
    (sortByKeys_eq_ok_iff sort fun r hr => freeFirst r ((mem r).mp hr)).mp after
  have resolvedFirst : ∀ r ∈ records, Resolves registry first r := fun r hr => resolvedMid r ((mem r).mpr hr)
  have resolved : ∀ r ∈ records, Resolves registry (first ++ second) r := fun r hr =>
    List.forall_mem_append.mpr ⟨resolvedFirst r hr, resolvedSecond r hr⟩
  have free : ∀ r ∈ records, FloatFreeKeys registry (first ++ second) r := fun r hr =>
    List.forall_mem_append.mpr ⟨freeFirst r hr, freeSecond r hr⟩
  have both := sortedMid.inTurn (coherent_compareRecords resolvedFirst freeFirst) sortedLast
  refine (sortByKeys_eq_ok_iff sort free).mpr ⟨resolved, both.congr fun r hr s hs => ?_⟩
  exact (compareRecords_append (resolved r hr) (resolved s hs)).symm

end

end RecordQuery
