import Mathlib.Algebra.Ring.Parity
import Mathlib.Tactic.Linarith
import ExprLang.Proofs.Numeric.Exact

set_option autoImplicit false

/-!
The nearest integer, a half going to the even one. Each rational number has exactly one, and rounding
a decimal to no places finds it. Since every integer kind starts at an even number and ends at an odd
one, the numbers that are rounded into a kind are those from half a unit below it, that half
included, to half a unit above it, that half left out.
-/

namespace ExprLang

-- A power of natural numbers is always that of the core library.
attribute [local instance (2000)] instPowNat

/-- `n` is the integer nearest to `x`, and the even one where two are equally near. -/
structure NearestEven (x : ℚ) (n : ℤ) : Prop where
  near : |x - n| ≤ 1 / 2
  tie : |x - n| = 1 / 2 → Even n

namespace NearestEven

variable {x : ℚ} {m n : ℤ}

theorem bounds (h : NearestEven x n) : (n : ℚ) - 1 / 2 ≤ x ∧ x ≤ n + 1 / 2 := by
  have near := abs_le.1 h.near
  constructor <;> linarith

theorem even_of_lower (h : NearestEven x n) (half : x = n - 1 / 2) : Even n := by
  apply h.tie
  rw [half, sub_sub_cancel_left, abs_neg]
  exact abs_of_pos (by norm_num)

theorem even_of_upper (h : NearestEven x n) (half : x = n + 1 / 2) : Even n := by
  apply h.tie
  rw [half, add_sub_cancel_left]
  exact abs_of_pos (by norm_num)

/-- A fraction of at most a half is dropped. -/
theorem of_fraction_le {f : ℚ} (nonneg : 0 ≤ f) (atMost : f ≤ 1 / 2) (even : f = 1 / 2 → Even n) :
    NearestEven (n + f) n := by
  have distance : |(n : ℚ) + f - n| = f := by
    rw [add_sub_cancel_left, abs_of_nonneg nonneg]
  constructor
  · rw [distance]
    exact atMost
  · rw [distance]
    exact even

/-- A fraction of at least a half is filled up. -/
theorem of_le_fraction {f : ℚ} (atLeast : 1 / 2 ≤ f) (atMost : f ≤ 1)
    (even : f = 1 / 2 → Even (n + 1)) : NearestEven (n + f) (n + 1) := by
  have distance : |(n : ℚ) + f - ((n + 1 : ℤ) : ℚ)| = 1 - f := by
    rw [Int.cast_add, Int.cast_one, add_sub_add_left_eq_sub, abs_sub_comm]
    exact abs_of_nonneg (by linarith)
  constructor
  · rw [distance]
    linarith
  · rw [distance]
    intro half
    exact even (by linarith)

theorem neg (h : NearestEven x n) : NearestEven (-x) (-n) := by
  have mirrored : |-x - ((-n : ℤ) : ℚ)| = |x - n| := by
    rw [Int.cast_neg, ← abs_neg]
    ring_nf
  constructor
  · rw [mirrored]
    exact h.near
  · intro half
    rw [mirrored] at half
    exact (h.tie half).neg

/-- What lies half a unit below an even number is rounded up to it. -/
theorem le_iff_of_even (h : NearestEven x n) {b : ℤ} (even : Even b) :
    b ≤ n ↔ (b : ℚ) - 1 / 2 ≤ x := by
  obtain ⟨lower, upper⟩ := h.bounds
  constructor
  · intro le
    have le' : (b : ℚ) ≤ n := by exact_mod_cast le
    linarith
  · intro above
    by_contra less
    -- Then `x` is halfway between `n` and `b`, so that `n` is even as well.
    have next : n + 1 ≤ b := by omega
    have next' : (n : ℚ) + 1 ≤ b := by exact_mod_cast next
    have half : x = n + 1 / 2 := by linarith
    have same : b = n + 1 := by
      have : (b : ℚ) = n + 1 := by linarith
      exact_mod_cast this
    rw [same] at even
    exact Int.even_add_one.1 even (h.even_of_upper half)

/-- What lies half a unit below an odd number is rounded down. -/
theorem le_iff_of_odd (h : NearestEven x n) {b : ℤ} (odd : ¬ Even b) :
    b ≤ n ↔ (b : ℚ) - 1 / 2 < x := by
  obtain ⟨lower, upper⟩ := h.bounds
  constructor
  · intro le
    have le' : (b : ℚ) ≤ n := by exact_mod_cast le
    by_contra notAbove
    have half : x = n - 1 / 2 := by linarith
    have same : b = n := by
      have : (b : ℚ) = n := by linarith
      exact_mod_cast this
    rw [same] at odd
    exact odd (h.even_of_lower half)
  · intro above
    by_contra less
    have next : n + 1 ≤ b := by omega
    have next' : (n : ℚ) + 1 ≤ b := by exact_mod_cast next
    linarith

theorem le_of_nearest (hm : NearestEven x m) (hn : NearestEven x n) : m ≤ n := by
  by_cases even : Even m
  · exact (hn.le_iff_of_even even).2 ((hm.le_iff_of_even even).1 le_rfl)
  · exact (hn.le_iff_of_odd even).2 ((hm.le_iff_of_odd even).1 le_rfl)

theorem unique (hm : NearestEven x m) (hn : NearestEven x n) : m = n :=
  le_antisymm (hm.le_of_nearest hn) (hn.le_of_nearest hm)

end NearestEven

namespace IntKind

theorem even_lo (k : IntKind) : Even k.lo := by
  cases k <;> decide

theorem not_even_hi (k : IntKind) : ¬ Even k.hi := by
  cases k <;> decide

/-- The numbers that are rounded into an integer kind. -/
theorem mem_range_iff (k : IntKind) {x : ℚ} {n : ℤ} (h : NearestEven x n) :
    k.lo ≤ n ∧ n ≤ k.hi ↔ (k.lo : ℚ) - 1 / 2 ≤ x ∧ x < k.hi + 1 / 2 := by
  have lower := h.le_iff_of_even k.even_lo
  have upper := h.le_iff_of_even (Int.even_add_one.2 k.not_even_hi)
  have beyond : ((k.hi + 1 : ℤ) : ℚ) - 1 / 2 = k.hi + 1 / 2 := by
    push_cast
    ring
  rw [beyond] at upper
  rw [lower, ← not_le (a := (k.hi : ℚ) + 1 / 2), ← upper, Int.add_one_le_iff, not_lt]

end IntKind

theorem half_le_div_iff {r den : ℕ} (pos : 0 < den) : (1 : ℚ) / 2 ≤ r / den ↔ den ≤ 2 * r := by
  have positive : (0 : ℚ) < den := by exact_mod_cast pos
  rw [div_le_div_iff₀ two_pos positive, one_mul, mul_comm]
  exact_mod_cast Iff.rfl

theorem div_le_half_iff {r den : ℕ} (pos : 0 < den) : (r : ℚ) / den ≤ 1 / 2 ↔ 2 * r ≤ den := by
  have positive : (0 : ℚ) < den := by exact_mod_cast pos
  rw [div_le_div_iff₀ positive two_pos, one_mul, mul_comm]
  exact_mod_cast Iff.rfl

/-- A quotient is its whole part and a fraction. -/
theorem div_eq_div_add_mod (num : ℕ) {den : ℕ} (pos : 0 < den) :
    (num : ℚ) / den = ((num / den : ℕ) : ℤ) + (num % den : ℕ) / (den : ℚ) := by
  have positive : (0 : ℚ) < den := by exact_mod_cast pos
  rw [Int.cast_natCast, add_div' _ _ _ positive.ne', div_left_inj' positive.ne']
  exact_mod_cast (Nat.div_add_mod' num den).symm

/-- The quotient of natural numbers is rounded to the nearest integer. -/
theorem Tie.nearestEven_roundDiv (num den : ℕ) (pos : 0 < den) :
    NearestEven (num / den) (Tie.toEven.roundDiv num den) := by
  have less : num % den < den := Nat.mod_lt num pos
  rw [div_eq_div_add_mod num pos]
  unfold roundDiv roundsUp
  generalize num / den = q
  generalize num % den = r at less ⊢
  have tie : (r : ℚ) / den = 1 / 2 → 2 * r = den := by
    intro half
    have atMost := (div_le_half_iff pos).1 half.le
    have atLeast := (half_le_div_iff pos).1 half.ge
    omega
  split
  · rename_i up
    simp only [Bool.or_eq_true, Bool.and_eq_true, decide_eq_true_eq, reduceCtorEq, false_or] at up
    have atLeast : (1 : ℚ) / 2 ≤ r / den := (half_le_div_iff pos).2 (by omega)
    have atMost : (r : ℚ) / den ≤ 1 := by
      apply div_le_one_of_le₀
      · exact_mod_cast less.le
      · exact Nat.cast_nonneg den
    rw [Nat.cast_add, Nat.cast_one]
    apply NearestEven.of_le_fraction atLeast atMost
    intro half
    have same := tie half
    rw [Int.even_iff]
    omega
  · rename_i down
    simp only [Bool.or_eq_true, Bool.and_eq_true, decide_eq_true_eq, reduceCtorEq,
      false_or] at down
    have atMost : (r : ℚ) / den ≤ 1 / 2 := (div_le_half_iff pos).2 (by omega)
    apply NearestEven.of_fraction_le (by positivity) atMost
    intro half
    have same := tie half
    rw [Int.even_iff]
    omega

namespace Decimal

theorem value_eq_mantissa (d : Decimal) : d.value =
    if d.negative then -((d.mantissa : ℚ) / (10 ^ d.scale : ℕ))
    else (d.mantissa : ℚ) / (10 ^ d.scale : ℕ) := by
  rw [value, numerator_eq]
  split <;> push_cast [neg_div] <;> rfl

/-- The sign that a zero does not get makes no difference to its integer. -/
theorem toInt_ofParts_zero (negative : Bool) (m : ℕ) (hm : m < 2 ^ (96 : ℕ)) (hs : 0 ≤ 28) :
    (ofParts negative m 0 hm hs).toInt = if negative then -(m : ℤ) else m := by
  by_cases empty : m = 0
  · simp [ofParts, toInt, empty]
  · simp [ofParts, toInt, empty]

theorem toInt_round (d : Decimal) : d.round.toInt =
    if d.negative then -(Tie.toEven.roundDiv d.mantissa (10 ^ d.scale) : ℤ)
    else Tie.toEven.roundDiv d.mantissa (10 ^ d.scale) := by
  unfold round roundTo
  split
  · rename_i whole
    have none : d.scale = 0 := Nat.le_zero.1 whole
    rw [toInt, none, Nat.pow_zero, Tie.roundDiv_one, Nat.div_one]
  · split
    · rename_i zero
      have empty : d.mantissa = 0 := of_decide_eq_true zero
      have unit : 10 ^ d.scale ≠ 0 := (Nat.pow_pos (by decide)).ne'
      simp [toInt, empty, Tie.roundDiv, Tie.roundsUp, unit.symm]
    · exact toInt_ofParts_zero ..

theorem nearestEven_round (d : Decimal) : NearestEven d.value d.round.toInt := by
  have magnitude : NearestEven _ _ :=
    Tie.nearestEven_roundDiv d.mantissa (10 ^ d.scale) (Nat.pow_pos (by decide))
  rw [value_eq_mantissa, toInt_round]
  split
  · exact magnitude.neg
  · exact magnitude

end Decimal

end ExprLang
