import Mathlib.Algebra.Order.Field.Basic
import Mathlib.Data.Rat.Floor
import Mathlib.Order.Compare
import ExprLang.Proofs.Typing.Conversion

set_option autoImplicit false

/-!
The rational numbers that integers and decimals are. Comparison is that of these numbers, an integer
kind cuts them toward zero, and bringing two numbers to the kind where theirs meet leaves both as
they were. Binary numbers are left out: not every integer is one of them.
-/

namespace ExprLang

/-! Cutting toward zero -/

/-- The integer that is left of a rational number when its fraction is dropped. -/
def truncated (x : ℚ) : ℤ := if 0 ≤ x then ⌊x⌋ else ⌈x⌉

theorem truncated_intCast (n : ℤ) : truncated n = n := by
  unfold truncated
  split
  · exact Int.floor_intCast n
  · exact Int.ceil_intCast n

theorem truncated_neg (x : ℚ) : truncated (-x) = -truncated x := by
  unfold truncated
  rcases lt_trichotomy x 0 with below | rfl | above
  · rw [if_pos (by linarith), if_neg (by linarith), Int.floor_neg]
  · simp
  · rw [if_neg (by linarith), if_pos (by linarith), Int.ceil_neg]

theorem truncated_div_nat (a b : ℕ) : truncated (a / b) = a / b := by
  have nonneg : (0 : ℚ) ≤ a / b := by positivity
  rw [truncated, if_pos nonneg, Rat.floor_natCast_div_natCast]

/-- The quotient of two integers is cut as integer division cuts it. -/
theorem truncated_div (m n : ℤ) : truncated (m / n) = m.tdiv n := by
  obtain ⟨a, rfl | rfl⟩ := m.eq_nat_or_neg
  · obtain ⟨b, rfl | rfl⟩ := n.eq_nat_or_neg
    · exact truncated_div_nat a b
    · rw [Int.tdiv_neg, Int.cast_neg, div_neg, truncated_neg]
      exact congrArg Neg.neg (truncated_div_nat a b)
  · obtain ⟨b, rfl | rfl⟩ := n.eq_nat_or_neg
    · rw [Int.neg_tdiv, Int.cast_neg, neg_div, truncated_neg]
      exact congrArg Neg.neg (truncated_div_nat a b)
    · rw [Int.neg_tdiv, Int.tdiv_neg, neg_neg, Int.cast_neg, Int.cast_neg, neg_div_neg_eq]
      exact truncated_div_nat a b

namespace Decimal

/-- The rational number that a decimal is. -/
def value (d : Decimal) : ℚ := d.numerator / 10 ^ d.scale

theorem value_ofInteger {k : IntKind} (n : Integer k) : (ofInteger n).value = n.val := by
  rw [value, numerator_ofInteger]
  exact div_one _

theorem numerator_eq (d : Decimal) :
    d.numerator = if d.negative then -(d.mantissa : ℤ) else d.mantissa := rfl

theorem toInt_eq_truncated (d : Decimal) : d.toInt = truncated d.value := by
  have quotient : d.value = (d.numerator : ℚ) / ((10 ^ d.scale : ℕ) : ℤ) := by
    rw [value]
    push_cast
    rfl
  rw [quotient, truncated_div, numerator_eq, toInt]
  split
  · rw [Int.neg_tdiv]
    rfl
  · rfl

theorem toInt_nonpos (d : Decimal) (h : d.negative = true) : d.toInt ≤ 0 := by
  rw [toInt, if_pos h]
  exact Int.neg_nonpos_of_nonneg (Int.natCast_nonneg _)

theorem toInt_nonneg (d : Decimal) (h : d.negative = false) : 0 ≤ d.toInt := by
  rw [toInt, h]
  exact Int.natCast_nonneg _

theorem toInt_trunc (d : Decimal) : d.trunc.toInt = d.toInt := by
  simp only [toInt, trunc, pow_zero, Nat.div_one]

/-- The sign decides between the two ranges of 64 bits, and the whole number is in the one or the
other. -/
theorem toInt64?_of_inside {d : Decimal} (lower : IntKind.int64.lo ≤ d.toInt)
    (upper : d.toInt ≤ IntKind.uint64.hi) : d.toInt64? = some d.toInt := by
  rw [toInt64?, toInt_trunc]
  by_cases negative : d.trunc.negative = true
  · have below := d.toInt_nonpos negative
    have fits : IntKind.int64.lo ≤ d.toInt ∧ d.toInt ≤ IntKind.int64.hi :=
      ⟨lower, below.trans (by decide)⟩
    simp only [negative, if_true, Integer.ofInt?, dif_pos fits, Option.map_some]
  · have above := d.toInt_nonneg (Bool.eq_false_of_not_eq_true negative)
    have fits : IntKind.uint64.lo ≤ d.toInt ∧ d.toInt ≤ IntKind.uint64.hi := ⟨above, upper⟩
    simp only [negative, Integer.ofInt?, dif_pos fits, Option.map_some]
    rfl

theorem toInt64?_of_outside {d : Decimal}
    (outside : d.toInt < IntKind.int64.lo ∨ IntKind.uint64.hi < d.toInt) : d.toInt64? = none := by
  rw [toInt64?, toInt_trunc]
  by_cases negative : d.trunc.negative = true
  · have below := d.toInt_nonpos negative
    have beyond : d.toInt < IntKind.int64.lo ∨ IntKind.int64.hi < d.toInt := by
      simp only [IntKind.lo, IntKind.hi] at outside ⊢
      omega
    simp only [negative, if_true, Integer.ofInt?_eq_none_iff.2 beyond, Option.map_none]
  · have above := d.toInt_nonneg (Bool.eq_false_of_not_eq_true negative)
    have beyond : d.toInt < IntKind.uint64.lo ∨ IntKind.uint64.hi < d.toInt := by
      simp only [IntKind.lo, IntKind.hi] at outside ⊢
      omega
    simp only [negative, Integer.ofInt?_eq_none_iff.2 beyond, Option.map_none]
    rfl

theorem compare_eq_cmp (a b : Decimal) : a.compare b = cmp a.value b.value := by
  have left : (0 : ℚ) < 10 ^ a.scale := by positivity
  have right : (0 : ℚ) < 10 ^ b.scale := by positivity
  have lt_iff : ∀ a b : Decimal, (0 : ℚ) < 10 ^ a.scale → (0 : ℚ) < 10 ^ b.scale →
      (a.value < b.value ↔ a.numerator * 10 ^ b.scale < b.numerator * 10 ^ a.scale) := by
    intro a b left right
    rw [value, value, div_lt_div_iff₀ left right]
    exact_mod_cast Iff.rfl
  rcases lt_trichotomy a.value b.value with below | same | above
  · rw [(cmp_eq_lt_iff _ _).2 below, compare_lt_iff]
    exact (lt_iff a b left right).1 below
  · rw [(cmp_eq_eq_iff _ _).2 same, compare_eq_iff]
    rw [value, value, div_eq_div_iff left.ne' right.ne'] at same
    exact_mod_cast same
  · rw [(cmp_eq_gt_iff _ _).2 above, compare]
    exact Int.compare_eq_gt.2 ((lt_iff b a right left).1 above)

end Decimal

/-! Exact numbers -/

namespace Number

variable {m n : Number} {x y : ℚ} {j k : Kind}

/-- The rational number that an integer or a decimal is. -/
def value? : Number → Option ℚ
  | int _ n => some n.val
  | single _ => none
  | double _ => none
  | decimal d => some d.value

theorem value?_isSome_iff (n : Number) : n.value?.isSome = true ↔ n.kind.isFloat = false := by
  cases n <;> simp [value?, kind, Kind.isFloat]

theorem isFloat_of_value? (h : n.value? = some x) : n.kind.isFloat = false := by
  apply (value?_isSome_iff n).1
  rw [h]
  rfl

theorem eq_int_of_kind {k : IntKind} (h : n.kind = .int k) (value : n.value? = some x) :
    ∃ i : Integer k, n = .int k i ∧ (i.val : ℚ) = x := by
  cases n with
  | int l i =>
    cases h
    cases value
    exact ⟨i, rfl, rfl⟩
  | single z => cases h
  | double z => cases h
  | decimal d => cases h

/-- An integer kind narrows what is left when the number is cut toward zero. A decimal beyond 64 bits
is beyond the kind as well. -/
theorem convert_eq_narrow (h : n.value? = some x) (k : IntKind) :
    n.convert (.int k) = narrow (truncated x) k := by
  cases n with
  | int l i =>
    cases h
    rw [truncated_intCast, convert_int]
  | single z => cases h
  | double z => cases h
  | decimal d =>
    cases h
    have apart : (decimal d).kind ≠ .int k := fun h => by cases h
    rw [convert, if_neg apart, ← d.toInt_eq_truncated]
    simp only [wide, Wide.toInt?]
    by_cases inside : IntKind.int64.lo ≤ d.toInt ∧ d.toInt ≤ IntKind.uint64.hi
    · rw [Decimal.toInt64?_of_inside inside.1 inside.2]
      rfl
    · have outside : d.toInt < IntKind.int64.lo ∨ IntKind.uint64.hi < d.toInt := by omega
      have beyond : d.toInt < k.lo ∨ k.hi < d.toInt :=
        outside.imp (lt_of_lt_of_le · k.int64_lo_le) (lt_of_le_of_lt k.hi_le_uint64)
      rw [Decimal.toInt64?_of_outside outside, narrow_of_outside beyond]
      rfl

theorem convert_decimal (h : n.value? = some x) :
    ∃ d : Decimal, n.convert .decimal = .ok (.decimal d) ∧ d.value = x := by
  cases n with
  | int k i =>
    cases h
    exact ⟨Decimal.ofInteger i, convert_int_decimal i, Decimal.value_ofInteger i⟩
  | single z => cases h
  | double z => cases h
  | decimal d =>
    cases h
    exact ⟨d, rfl, rfl⟩

/-- Widening leaves the value alone. -/
theorem convert_exact (h : n.value? = some x) (exact : k.isFloat = false)
    (le : n.kind = k ∨ n.kind.widensTo k = true) :
    ∃ m, n.convert k = .ok m ∧ m.kind = k ∧ m.value? = some x := by
  cases k with
  | int k =>
    -- Only integers widen to an integer kind, and they have no fraction to lose.
    cases n with
    | int l a =>
      obtain ⟨m, converted, isKind⟩ := (int l a).convert_of_le (.int k) le
      refine ⟨m, converted, isKind, ?_⟩
      rw [convert_int] at converted
      obtain ⟨i, same, rfl⟩ := narrow_eq_ok converted
      rw [← h, value?, value?, same]
    | single z => cases h
    | double z => cases h
    | decimal d =>
      rcases le with same | widens
      · cases same
      · cases Kind.isInteger_of_widensTo_int widens
  | decimal =>
    obtain ⟨d, converted, same⟩ := convert_decimal h
    exact ⟨.decimal d, converted, rfl, congrArg some same⟩
  | single => cases exact
  | double => cases exact

theorem compare_eq_cmp (hm : m.value? = some x) (hn : n.value? = some y) (same : m.kind = n.kind) :
    m.compare n = some (cmp x y) := by
  cases m with
  | int k a =>
    obtain ⟨b, rfl, rfl⟩ := eq_int_of_kind same.symm hn
    cases hm
    rw [compare, Int.cast_strictMono.cmp_map_eq, cmp_eq_compare]
  | single z => cases hm
  | double z => cases hm
  | decimal d =>
    cases n with
    | decimal e =>
      cases hm
      cases hn
      rw [compare, Decimal.compare_eq_cmp]
    | int k b => cases same
    | single z => cases hn
    | double z => cases hn

theorem promoted_value? (n : Number) : n.promoted.value? = n.value? := by
  cases n <;> rfl

end Number

namespace Kind

variable {k l j : Kind}

/-- Two kinds meet in one of them. -/
theorem eq_or_eq_of_meet? (h : meet? k l = some j) : j = k ∨ j = l := by
  unfold meet? at h
  split at h
  · cases h
    exact .inl rfl
  · split at h
    · cases h
      exact .inr rfl
    · split at h
      · cases h
        exact .inl rfl
      · cases h

theorem isFloat_promoted (k : Kind) : k.promoted.isFloat = k.isFloat := by
  cases k <;> rfl

theorem isFloat_of_meet? (h : meet? k l = some j) (hk : k.isFloat = false)
    (hl : l.isFloat = false) : j.isFloat = false := by
  rcases eq_or_eq_of_meet? h with rfl | rfl
  · exact hk
  · exact hl

end Kind

/-- Exact numbers as an operation sees them: in the kind where theirs meet, with their values. -/
theorem Value.harmonize_exact {m n : Number} {x y : ℚ} {j : Kind} (hm : m.value? = some x)
    (hn : n.value? = some y) (meet : Kind.meet? m.kind.promoted n.kind.promoted = some j) :
    ∃ m' n' : Number,
      harmonize (promoted (.number m)) (promoted (.number n)) = .ok (m', n', j)
        ∧ m'.kind = j ∧ m'.value? = some x ∧ n'.kind = j ∧ n'.value? = some y := by
  have exact : j.isFloat = false := by
    apply Kind.isFloat_of_meet? meet
    · rw [Kind.isFloat_promoted, Number.isFloat_of_value? hm]
    · rw [Kind.isFloat_promoted, Number.isFloat_of_value? hn]
  rw [← m.promoted_kind, ← n.promoted_kind] at meet
  rw [← m.promoted_value?] at hm
  rw [← n.promoted_value?] at hn
  obtain ⟨left, right⟩ := Kind.meet?_cases meet
  obtain ⟨m', hm', mKind, mValue⟩ := Number.convert_exact hm exact left
  obtain ⟨n', hn', nKind, nValue⟩ := Number.convert_exact hn exact right
  refine ⟨m', n', ?_, mKind, mValue, nKind, nValue⟩
  simp only [promoted, harmonize, number?, bind, Except.bind, meet, hm', hn']
  rfl

end ExprLang
