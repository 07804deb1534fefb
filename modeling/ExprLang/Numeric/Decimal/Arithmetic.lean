import ExprLang.Numeric.Decimal.Basic

set_option autoImplicit false

/-!
Sum, difference, product and remainder of decimals, and rounding to fewer places. A result that is
too long is rounded to the most places that fit, halves going to the even digit; it is missing only
when its whole part alone is too long.
-/

namespace ExprLang.Decimal

-- A power of natural numbers is always that of the core library.
attribute [local instance (2000)] instPowNat

/-- `m / 10 ^ (scale + dropped)` rounded to `scale` places, or to fewer until it fits. -/
def fitFrom? (negative : Bool) (m : Nat) : (scale dropped : Nat) → Option Decimal
  | 0, dropped => ofParts? negative (Tie.toEven.roundDiv m (10 ^ dropped)) 0
  | scale + 1, dropped =>
    match ofParts? negative (Tie.toEven.roundDiv m (10 ^ dropped)) (scale + 1) with
    | some d => some d
    | none => fitFrom? negative m scale (dropped + 1)

/-- The decimal nearest to `± m / 10 ^ scale` among those with the most places. -/
def fit? (negative : Bool) (m scale : Nat) : Option Decimal := fitFrom? negative m scale 0

/-- The signed mantissa of `d` counted in units of `10 ^ -s`, for an `s` of at least its scale. -/
def unitsAt (d : Decimal) (s : Nat) : Int := d.numerator * 10 ^ (s - d.scale)

/-- A sum has the places of the longer operand; adding zero changes nothing. -/
def add? (a b : Decimal) : Option Decimal :=
  if a.isZero then some b
  else if b.isZero then some a
  else
    let s := max a.scale b.scale
    let sum := a.unitsAt s + b.unitsAt s
    fit? (sum < 0) sum.natAbs s

def sub? (a b : Decimal) : Option Decimal := a.add? b.neg

/-- A product has the places of both operands together. Where it is rounded to zero, it keeps its
sign if one of the mantissas is longer than 32 bits; a product of two shorter ones that starts past
the 47th place is zero without places. -/
def mul? (a b : Decimal) : Option Decimal :=
  let negative := a.negative != b.negative
  let product := fun (negative : Bool) =>
    fit? negative (a.mantissa * b.mantissa) (a.scale + b.scale)
  if a.isZero || b.isZero then some zero
  else if a.mantissa < 2 ^ (32 : Nat) && b.mantissa < 2 ^ (32 : Nat) then
    if 47 < a.scale + b.scale then some zero else product negative
  else (product false).map fun d => { d with negative }

/-- One step of a long division in base `2 ^ 32`: the remainder after one more digit. The divisor
has 96 bits, of which the highest is set. A leading digit of the dividend that equals that of the
divisor is left out. -/
def bringDown (divisor rest digit : Nat) : Nat :=
  let dividend := rest * 2 ^ (32 : Nat) + digit
  if dividend / 2 ^ (96 : Nat) = divisor / 2 ^ (64 : Nat) then
    dividend % 2 ^ (96 : Nat) % divisor
  else dividend % divisor

def longRemainder (divisor dividend : Nat) : Nat :=
  if dividend = 0 then 0
  else
    bringDown divisor (longRemainder divisor (dividend / 2 ^ (32 : Nat)))
      (dividend % 2 ^ (32 : Nat))
termination_by dividend
decreasing_by exact Nat.div_lt_self (by omega) (by decide)

/-- The remainder by a divisor of at most 96 bits. A divisor longer than 64 bits takes a long
division, for which it is shifted so that its highest bit is set. -/
def remainder (dividend divisor : Nat) : Nat :=
  if divisor < 2 ^ (64 : Nat) then dividend % divisor
  else
    let shift := 2 ^ (95 - divisor.log2)
    longRemainder (divisor * shift) (dividend * shift) / shift

/-- The remainder of the quotient cut to an integer, for a divisor other than zero. It has the sign
of the dividend, and a dividend smaller than the divisor is its own remainder. -/
def rem? (a b : Decimal) : Option Decimal :=
  if a.isZero then some zero
  else
    match a.abs.compare b.abs with
    | .eq => some zero
    | .lt => some a
    | .gt =>
      let s := max a.scale b.scale
      ofParts? a.negative (remainder (a.unitsAt s).natAbs (b.unitsAt s).natAbs) s

/-- Cuts the places off and keeps the sign, also that of zero. -/
def trunc (d : Decimal) : Decimal :=
  { d with
    mantissa := d.mantissa / 10 ^ d.scale
    scale := 0
    mantissa_lt := Nat.lt_of_le_of_lt (Nat.div_le_self ..) d.mantissa_lt
    scale_le := zero.scale_le }

/-- The next integer away from zero, or the number itself if it has no fraction. -/
def expand (d : Decimal) : Decimal :=
  if h : d.mantissa % 10 ^ d.scale = 0 then d.trunc
  else
    { d with
      mantissa := d.mantissa / 10 ^ d.scale + 1
      scale := 0
      mantissa_lt := by
        have bound := d.mantissa_lt
        have places : d.scale ≠ 0 := by
          intro hs
          simp [hs, Nat.mod_one] at h
        have ten : 10 ≤ 10 ^ d.scale :=
          Nat.le_of_dvd (Nat.pow_pos (by decide)) (Nat.pow_dvd_pow 10 (by omega : 1 ≤ d.scale))
        have fewer : d.mantissa / 10 ^ d.scale ≤ d.mantissa / 10 :=
          Nat.div_le_div_left ten (by decide)
        omega
      scale_le := zero.scale_le }

def floor (d : Decimal) : Decimal := if d.negative then d.expand else d.trunc

def ceil (d : Decimal) : Decimal := if d.negative then d.trunc else d.expand

theorem roundDiv_pow_lt (tie : Tie) (m s : Nat) (h : m < 2 ^ (96 : Nat)) :
    tie.roundDiv m (10 ^ s) < 2 ^ (96 : Nat) := by
  cases s with
  | zero => simpa [Tie.roundDiv_one] using h
  | succ s =>
    have ten : 10 ≤ 10 ^ (s + 1) :=
      Nat.le_of_dvd (Nat.pow_pos (by decide)) (Nat.pow_dvd_pow 10 (by omega : 1 ≤ s + 1))
    have fewer : m / 10 ^ (s + 1) ≤ m / 10 := Nat.div_le_div_left ten (by decide)
    have := tie.roundDiv_le m (10 ^ (s + 1))
    omega

/-- The decimal with at most `places` places that is nearest, a half going to the even digit. Only
what was zero before keeps the sign of zero. -/
def roundTo (d : Decimal) (places : Fin 29) : Decimal :=
  if d.scale ≤ places then d
  else if d.isZero then ⟨d.negative, 0, places, zero.mantissa_lt, by omega⟩
  else
    ofParts d.negative (Tie.toEven.roundDiv d.mantissa (10 ^ (d.scale - places))) places
      (roundDiv_pow_lt _ _ _ d.mantissa_lt) (by omega)

/-- The nearest integer, a half going to the even one. -/
def round (d : Decimal) : Decimal := d.roundTo 0

/-- The smaller of two decimals, the first of two equal ones. -/
def lesser (a b : Decimal) : Decimal := if a.compare b = .gt then b else a

/-- The larger of two decimals, the first of two equal ones. -/
def greater (a b : Decimal) : Decimal := if a.compare b = .lt then b else a

end ExprLang.Decimal
