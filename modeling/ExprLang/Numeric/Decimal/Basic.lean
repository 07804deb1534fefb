import ExprLang.Numeric.Digits
import ExprLang.Numeric.Integer
import ExprLang.Numeric.Rounding

set_option autoImplicit false

/-!
Decimal numbers: a sign, a mantissa of at most 96 bits and a scale of at most 28 places. A number
may have several decimals that differ in scale alone; they compare equal (`compare_eq_iff`) and are
written differently.
-/

namespace ExprLang

-- A power of natural numbers is always that of the core library.
attribute [local instance (2000)] instPowNat

/-- The decimal `± mantissa / 10 ^ scale`. Zero has a sign too. -/
structure Decimal where
  negative : Bool
  mantissa : Nat
  scale : Nat
  mantissa_lt : mantissa < 2 ^ (96 : Nat)
  scale_le : scale ≤ 28
deriving DecidableEq

namespace Decimal

def zero : Decimal := ⟨false, 0, 0, by decide, by decide⟩

/-- A decimal of the given parts, where zero gets no sign. -/
def ofParts (negative : Bool) (m s : Nat) (hm : m < 2 ^ (96 : Nat)) (hs : s ≤ 28) : Decimal :=
  ⟨negative && m ≠ 0, m, s, hm, hs⟩

/-- The decimal of the given parts, if they are not too large; zero gets no sign. -/
def ofParts? (negative : Bool) (m s : Nat) : Option Decimal :=
  if h : m < 2 ^ (96 : Nat) ∧ s ≤ 28 then some (ofParts negative m s h.1 h.2) else none

/-- The signed mantissa. -/
def numerator (d : Decimal) : Int := if d.negative then -d.mantissa else d.mantissa

def isZero (d : Decimal) : Bool := d.mantissa = 0

/-- Fractions are compared by cross multiplication. -/
def compare (a b : Decimal) : Ordering :=
  Ord.compare (a.numerator * 10 ^ b.scale) (b.numerator * 10 ^ a.scale)

/-- The decimal with the opposite sign; zero stays as it is. -/
def neg (d : Decimal) : Decimal := if d.isZero then d else { d with negative := !d.negative }

def abs (d : Decimal) : Decimal := { d with negative := false }

/-- The sign of the number, which is zero for zero. -/
def sign (d : Decimal) : Int := if d.isZero then 0 else if d.negative then -1 else 1

/-- The integer as a decimal without places. Every integer kind fits. -/
def ofInteger {k : IntKind} (n : Integer k) : Decimal :=
  ⟨n.val < 0, n.val.natAbs, 0, by
    have lo := n.lo_le
    have hi := n.le_hi
    revert lo hi
    cases k <;> simp only [IntKind.lo, IntKind.hi] <;> omega, by decide⟩

/-- The integer as a decimal without places, if its digits fit. -/
def ofInt? (n : Int) : Option Decimal := ofParts? (n < 0) n.natAbs 0

/-- The integer that remains when the places are cut off. -/
def toInt (d : Decimal) : Int :=
  if d.negative then -(d.mantissa / 10 ^ d.scale : Nat) else (d.mantissa / 10 ^ d.scale : Nat)

/-- The characters of the decimal: as many digits after the point as its scale says. -/
def digits (d : Decimal) : List Char :=
  if d.negative then '-' :: Digits.fixed d.scale d.mantissa else Digits.fixed d.scale d.mantissa

def text (d : Decimal) : String := String.ofList d.digits

theorem compare_eq_iff (a b : Decimal) :
    a.compare b = .eq ↔ a.numerator * 10 ^ b.scale = b.numerator * 10 ^ a.scale := by
  simp [compare]

theorem compare_lt_iff (a b : Decimal) :
    a.compare b = .lt ↔ a.numerator * 10 ^ b.scale < b.numerator * 10 ^ a.scale := by
  simp [compare, Int.compare_eq_lt]

/-- An integer of a kind always fits. -/
theorem ofInt?_val {k : IntKind} (n : Integer k) : ofInt? n.val = some (ofInteger n) := by
  have fits := (ofInteger n).mantissa_lt
  have unsigned : (decide (n.val < 0) && decide (n.val.natAbs ≠ 0)) = decide (n.val < 0) := by
    by_cases below : n.val < 0
    · simp [below]
      omega
    · simp [below]
  simp only [ofInteger] at fits
  rw [ofInt?, ofParts?, dif_pos ⟨fits, by decide⟩, ofParts, ofInteger]
  simp only [unsigned]

theorem numerator_ofInteger {k : IntKind} (n : Integer k) : (ofInteger n).numerator = n.val := by
  by_cases h : n.val < 0 <;> simp only [numerator, ofInteger, h, decide_true, decide_false,
    if_true, Bool.false_eq_true, if_false] <;> omega

end Decimal

end ExprLang
