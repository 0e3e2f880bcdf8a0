import Mathlib.Algebra.BigOperators.Group.List.Basic
import RecordQuery.Operator.Transform
import RecordQuery.Proofs.Value.Alike

/-!
Totals of integers. A total that is taken item by item is an integer as long as some representation can hold
it. Once one of the totals on the way is out of that range it is a double, and so are all after it, even where
the items that follow lead back. So the sum is exact just where no total on the way leaves the range, and
exact in every order of the items just where neither the gains alone nor the losses alone do.
-/

namespace RecordQuery

/-! ### The range of integers -/

namespace Number

/-- Some representation of integers can hold the integer. -/
def InRange (k : Int) : Prop := -2 ^ 63 ≤ k ∧ k < 2 ^ 64

instance (k : Int) : Decidable (InRange k) := inferInstanceAs (Decidable (_ ∧ _))

variable {m n : Number} {k l : Int}

theorem toInt?_ofInt_of_not_inRange (outside : ¬ InRange k) : (ofInt k).toInt? = none := by
  have least : Int64.minValue.toInt = -2 ^ 63 := by decide
  have greatest : Int64.maxValue.toInt = 2 ^ 63 - 1 := by decide
  have size : (UInt64.size : Int) = 2 ^ 64 := rfl
  unfold InRange at outside
  unfold ofInt
  rw [if_neg (by omega), if_neg (by omega)]
  rfl

theorem inRange_of_toInt? (hm : m.toInt? = some k) : InRange k := bounds_of_toInt? hm

theorem toInt?_add (hm : m.toInt? = some k) (hn : n.toInt? = some l) :
    (m.add n).toInt? = if InRange (k + l) then some (k + l) else none := by
  rw [add_of_integers hm hn]
  split
  · next inside => exact toInt?_ofInt inside.1 inside.2
  · next outside => exact toInt?_ofInt_of_not_inRange outside

theorem toInt?_add_of_not_integer (hm : m.toInt? = none) : (m.add n).toInt? = none := by
  rw [add_of_not_both (by simp [hm])]
  rfl

/-- The integers that some numbers hold. -/
def integers (numbers : List Number) : List Int := numbers.filterMap toInt?

end Number

/-! ### Totals on the way -/

/-- No total on the way along the items leaves the range of integers. -/
def StaysInRange (start : Int) (items : List Int) : Prop :=
  ∀ before, before <+: items → Number.InRange (start + before.sum)

section
variable {start k : Int} {items others : List Int}

theorem staysInRange_cons_iff :
    StaysInRange start (k :: items) ↔ Number.InRange start ∧ StaysInRange (start + k) items := by
  unfold StaysInRange
  simp only [List.prefix_cons_iff, or_imp, forall_and, forall_eq, List.sum_nil, add_zero]
  refine and_congr_right fun _ => ⟨fun each before early => ?_, ?_⟩
  · have later := each (k :: before) ⟨before, rfl, early⟩
    rwa [List.sum_cons, ← add_assoc] at later
  · rintro each _ ⟨before, rfl, early⟩
    rw [List.sum_cons, ← add_assoc]
    exact each before early

/-- The losses and the gains among some items enclose their sum. -/
theorem sum_between (items : List Int) :
    ((items.filter (· < 0)).sum ≤ items.sum ∧ (items.filter (· < 0)).sum ≤ 0) ∧
      items.sum ≤ (items.filter (0 < ·)).sum ∧ 0 ≤ (items.filter (0 < ·)).sum := by
  induction items with
  | nil => simp
  | cons k items ih =>
    rcases lt_trichotomy k 0 with loss | rfl | gain
    · have notGain : ¬ 0 < k := by omega
      simp only [List.filter_cons, loss, notGain, decide_true, decide_false, ↓reduceIte, Bool.false_eq_true,
        List.sum_cons]
      omega
    · simpa using ih
    · have notLoss : ¬ k < 0 := by omega
      simp only [List.filter_cons, gain, notLoss, decide_true, decide_false, ↓reduceIte, Bool.false_eq_true,
        List.sum_cons]
      omega

theorem staysInRange_of_gains_and_losses (perm : items.Perm others)
    (gains : Number.InRange (items.filter (0 < ·)).sum) (losses : Number.InRange (items.filter (· < 0)).sum) :
    StaysInRange 0 others := by
  rintro before ⟨after, rfl⟩
  have first := sum_between before
  have second := sum_between after
  rw [(perm.filter _).sum_eq, List.filter_append, List.sum_append] at gains losses
  unfold Number.InRange at *
  omega

end

namespace Transform
variable {numbers : List Number}

theorem total?_of_not_integer {total : Number} (start : total.toInt? = none) (numbers : List Number) :
    ∃ n, total? total (numbers.map .number) = some n ∧ n.toInt? = none := by
  induction numbers generalizing total with
  | nil => exact ⟨total, rfl, start⟩
  | cons n numbers ih => exact ih (Number.toInt?_add_of_not_integer start)

/-- Integers add up to an integer where all totals on the way are in range, and else to a double. -/
theorem total?_of_integers {total : Number} {k : Int} (start : total.toInt? = some k)
    (integral : ∀ n ∈ numbers, n.toInt?.isSome) :
    ∃ n, total? total (numbers.map .number) = some n ∧
      (StaysInRange k (Number.integers numbers) → n.toInt? = some (k + (Number.integers numbers).sum)) ∧
      (¬ StaysInRange k (Number.integers numbers) → n.toInt? = none) := by
  unfold Number.integers
  induction numbers generalizing total k with
  | nil =>
    refine ⟨total, rfl, fun _ => ?_, fun leaves => (leaves ?_).elim⟩
    · simpa using start
    · intro before early
      rw [List.prefix_nil.mp early, List.sum_nil, add_zero]
      exact Number.inRange_of_toInt? start
  | cons n numbers ih =>
    obtain ⟨head, later⟩ := List.forall_mem_cons.mp integral
    obtain ⟨l, item⟩ := Option.isSome_iff_exists.mp head
    have next := Number.toInt?_add start item
    rw [List.filterMap_cons_some item, staysInRange_cons_iff, and_iff_right (Number.inRange_of_toInt? start),
      List.sum_cons, ← add_assoc]
    by_cases inside : Number.InRange (k + l)
    · rw [if_pos inside] at next
      exact ih next later
    · rw [if_neg inside] at next
      obtain ⟨m, done, double⟩ := total?_of_not_integer next numbers
      refine ⟨m, done, fun stays => (inside ?_).elim, fun _ => double⟩
      simpa using stays [] List.nil_prefix

theorem sum_of_integers (integral : ∀ n ∈ numbers, n.toInt?.isSome) :
    ∃ n, sum (.list (numbers.map .number)) = some (.number n) ∧
      (StaysInRange 0 (Number.integers numbers) → n.toInt? = some (Number.integers numbers).sum) ∧
      (¬ StaysInRange 0 (Number.integers numbers) → n.toInt? = none) := by
  have zero : (Number.signed 0).toInt? = some 0 := rfl
  obtain ⟨n, total, stays, leaves⟩ := total?_of_integers zero integral
  rw [zero_add] at stays
  exact ⟨n, by rw [sum, Value.list?, Option.bind_some, total, Option.map_some], stays, leaves⟩

theorem sum_cases {n : Number} (integral : ∀ n ∈ numbers, n.toInt?.isSome)
    (done : sum (.list (numbers.map .number)) = some (.number n)) :
    (StaysInRange 0 (Number.integers numbers) ∧ n.toInt? = some (Number.integers numbers).sum) ∨
      (¬ StaysInRange 0 (Number.integers numbers) ∧ n.toInt? = none) := by
  obtain ⟨m, done', stays, leaves⟩ := sum_of_integers integral
  obtain rfl : n = m := by simpa [done] using done'
  by_cases inside : StaysInRange 0 (Number.integers numbers)
  · exact Or.inl ⟨inside, stays inside⟩
  · exact Or.inr ⟨inside, leaves inside⟩

theorem toInt?_sum {n : Number} (integral : ∀ n ∈ numbers, n.toInt?.isSome)
    (done : sum (.list (numbers.map .number)) = some (.number n)) (integer : n.toInt?.isSome) :
    n.toInt? = some (Number.integers numbers).sum := by
  rcases sum_cases integral done with ⟨-, mathematical⟩ | ⟨-, double⟩
  · exact mathematical
  · rw [double] at integer
    cases integer

/-! ### The order of the items -/

theorem integral_of_perm {others : List Number} (integral : ∀ n ∈ numbers, n.toInt?.isSome)
    (perm : numbers.Perm others) : ∀ n ∈ others, n.toInt?.isSome :=
  fun n member => integral n (perm.mem_iff.mpr member)

/-- Items of one kind can all come first. -/
theorem exists_perm_prefix (p : Int → Bool) (numbers : List Number) :
    ∃ others, numbers.Perm others ∧ (Number.integers numbers).filter p <+: Number.integers others := by
  let early : Number → Bool := fun n => n.toInt?.any p
  refine ⟨numbers.filter early ++ numbers.filter (!early ·), (List.filter_append_perm ..).symm, ?_⟩
  have first : (numbers.filter early).filterMap Number.toInt? = (Number.integers numbers).filter p := by
    rw [Number.integers, List.filterMap_filter, List.filter_filterMap]
    refine congrArg (numbers.filterMap ·) (funext fun n => ?_)
    cases h : n.toInt? <;> simp [early, h, Option.filter]
  rw [← first, Number.integers, List.filterMap_append]
  exact List.prefix_append ..

theorem sum_exact_in_every_order_iff (integral : ∀ n ∈ numbers, n.toInt?.isSome) :
    (∀ others, numbers.Perm others → ∃ n, sum (.list (others.map .number)) = some (.number n) ∧
        n.toInt? = some (Number.integers numbers).sum) ↔
      Number.InRange ((Number.integers numbers).filter (0 < ·)).sum ∧
        Number.InRange ((Number.integers numbers).filter (· < 0)).sum := by
  constructor
  · intro always
    -- Gains first, or losses first: their sum is one of the totals on the way.
    have reached : ∀ p : Int → Bool, Number.InRange ((Number.integers numbers).filter p).sum := by
      intro p
      obtain ⟨others, perm, early⟩ := exists_perm_prefix p numbers
      obtain ⟨n, done, integer⟩ := always others perm
      rcases sum_cases (integral_of_perm integral perm) done with ⟨stays, -⟩ | ⟨-, double⟩
      · simpa using stays _ early
      · cases integer.symm.trans double
    exact ⟨reached _, reached _⟩
  · rintro ⟨gains, losses⟩ others perm
    have permuted : (Number.integers numbers).Perm (Number.integers others) := perm.filterMap _
    obtain ⟨n, done, stays, -⟩ := sum_of_integers (integral_of_perm integral perm)
    rw [permuted.sum_eq]
    exact ⟨n, done, stays (staysInRange_of_gains_and_losses permuted gains losses)⟩

/-- Orders of one list of integers whose sums are integers have equal sums. -/
theorem sum_same_of_perm {others : List Number} {m n : Number} (integral : ∀ n ∈ numbers, n.toInt?.isSome)
    (perm : numbers.Perm others) (hm : sum (.list (numbers.map .number)) = some (.number m))
    (hn : sum (.list (others.map .number)) = some (.number n)) (integerM : m.toInt?.isSome)
    (integerN : n.toInt?.isSome) : m.same n = true := by
  rw [Number.same_iff_of_toInt? (toInt?_sum integral hm integerM)
    (toInt?_sum (integral_of_perm integral perm) hn integerN)]
  exact (perm.filterMap _).sum_eq

/-- A sum of integers is the mathematical sum just as long as no total on the way leaves the range of
integers, and from there on a double. So it is exact in every order of the items just where the gains and the
losses, each for themselves, stay in range; and two orders with integer sums have equal ones. -/
theorem sum_exact_while_in_range (integral : ∀ n ∈ numbers, n.toInt?.isSome) :
    (∃ n, sum (.list (numbers.map .number)) = some (.number n) ∧
      (StaysInRange 0 (Number.integers numbers) → n.toInt? = some (Number.integers numbers).sum) ∧
      (¬ StaysInRange 0 (Number.integers numbers) → n.toInt? = none)) ∧
    ((∀ others, numbers.Perm others → ∃ n, sum (.list (others.map .number)) = some (.number n) ∧
        n.toInt? = some (Number.integers numbers).sum) ↔
      Number.InRange ((Number.integers numbers).filter (0 < ·)).sum ∧
        Number.InRange ((Number.integers numbers).filter (· < 0)).sum) ∧
    (∀ others m n, numbers.Perm others → sum (.list (numbers.map .number)) = some (.number m) →
      sum (.list (others.map .number)) = some (.number n) → m.toInt?.isSome → n.toInt?.isSome →
        m.same n = true) :=
  ⟨sum_of_integers integral, sum_exact_in_every_order_iff integral,
    fun _ _ _ perm hm hn => sum_same_of_perm integral perm hm hn⟩

/-- The greatest integer and the least one, in the other order. -/
theorem sum_exact_while_in_range_extremes :
    ∃ n, sum (.list ([Number.signed (-9223372036854775808), .unsigned 18446744073709551615].map .number)) =
        some (.number n) ∧ n.toInt? = some 9223372036854775807 := by
  have integral : ∀ n ∈ [Number.unsigned 18446744073709551615, .signed (-9223372036854775808)],
      n.toInt?.isSome := by decide
  obtain ⟨-, everyOrder, -⟩ := sum_exact_while_in_range integral
  exact everyOrder.mpr (by decide) _ (List.Perm.swap ..)

/-- The greatest integer, two more, and twice the least integer: their sum is 1. -/
def beyondAndBack : List Number :=
  [.unsigned 18446744073709551615, .signed 2, .signed (-9223372036854775808), .signed (-9223372036854775808)]

/-- The same numbers in an order whose totals stay in range. -/
def inTurn : List Number :=
  [.unsigned 18446744073709551615, .signed (-9223372036854775808), .signed 2, .signed (-9223372036854775808)]

/-- The second total on the way is out of range, and the sum ends as the double 0, though it is 1 and another
order of the items gives 1. -/
theorem sum_beyondAndBack :
    (∀ n ∈ beyondAndBack, n.toInt?.isSome) ∧ (Number.integers beyondAndBack).sum = 1 ∧
      sum (.list (beyondAndBack.map .number)) = some (.number (.float 0)) ∧
      beyondAndBack.Perm inTurn ∧ sum (.list (inTurn.map .number)) = some (.number (.signed 1)) ∧
      (Number.float 0).same (.signed 1) = false :=
  ⟨by decide, by decide, rfl, (List.Perm.swap ..).cons _, rfl, by decide +kernel⟩

end Transform

end RecordQuery
