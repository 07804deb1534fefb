import ExprLang.Numeric.Decimal.Arithmetic

set_option autoImplicit false

/-!
Reading decimals. A decimal is written as digits with at most one point, an optional sign before and
an optional exponent of at most 28 after; an underscore may follow any digit. Places that do not fit
are rounded by the first of them, a five going up.
-/

namespace ExprLang.Decimal

-- A power of natural numbers is always that of the core library.
attribute [local instance (2000)] instPowNat

/-- What has been read of a decimal: whether a digit was seen, whether the point was, and the
number. -/
structure Reading where
  seen : Bool := false
  point : Bool := false
  mantissa : Nat := 0
  scale : Nat := 0

/-- Ends the number before `next`, the first character that has no place in it. Only digits and
underscores may follow that. -/
def Reading.roundAt? (r : Reading) (negative : Bool) (next : Char) (rest : List Char) :
    Option Decimal :=
  if ¬ rest.all fun c => c.isDigit || c = '_' then none
  else if next.isDigit ∧ 5 ≤ Digits.digit next then
    if r.mantissa + 1 < 2 ^ (96 : Nat) then ofParts? negative (r.mantissa + 1) r.scale
    else if r.scale = 0 then none
    else ofParts? negative ((r.mantissa + 5) / 10) (r.scale - 1)
  else if next.isDigit ∨ next = '_' ∨ next = '.' then ofParts? negative r.mantissa r.scale
  else none

def readDigits? (negative : Bool) : Reading → List Char → Option Decimal
  | r, [] => if r.seen then ofParts? negative r.mantissa r.scale else none
  | r, c :: cs =>
    if r.point ∧ 28 ≤ r.scale then r.roundAt? negative c cs
    else if c.isDigit then
      let m := 10 * r.mantissa + Digits.digit c
      if m < 2 ^ (96 : Nat) then
        readDigits? negative
          { r with seen := true, mantissa := m, scale := if r.point then r.scale + 1 else 0 } cs
      else if r.point then r.roundAt? negative c cs
      else none
    else if c = '.' ∧ r.point = false then readDigits? negative { r with point := true } cs
    else if c = '_' ∧ r.seen then readDigits? negative r cs
    else none

def parsePlain? : List Char → Option Decimal
  | '-' :: cs => readDigits? true {} cs
  | '+' :: cs => readDigits? false {} cs
  | cs => readDigits? false {} cs

/-- The decimal with fewer places, a half going away from zero. It keeps its sign if it becomes
zero. -/
def shortenTo (d : Decimal) (places : Nat) (h : places < d.scale) : Decimal :=
  { d with
    mantissa := Tie.up.roundDiv d.mantissa (10 ^ (d.scale - places))
    scale := places
    mantissa_lt := roundDiv_pow_lt _ _ _ d.mantissa_lt
    scale_le := Nat.le_trans (Nat.le_of_lt h) d.scale_le }

/-- Moves the point `n` places to the left, at most 28. Places past the 28th are rounded. -/
def shiftLeft? (d : Decimal) (n : Nat) : Option Decimal :=
  if hn : 28 < n then none
  else if h : d.scale + n ≤ 28 then some { d with scale := d.scale + n, scale_le := h }
  else some { d.shortenTo (28 - n) (by omega) with scale := 28, scale_le := Nat.le_refl 28 }

/-- Moves the point `n` places to the right, at most 28. -/
def shiftRight? (d : Decimal) (n : Nat) : Option Decimal :=
  if n ≤ d.scale then
    some { d with scale := d.scale - n, scale_le := Nat.le_trans (Nat.sub_le ..) d.scale_le }
  else if 28 < n then none
  else if d.isZero then some zero
  else ofParts? d.negative (d.mantissa * 10 ^ (n - d.scale)) 0

def parse? (cs : List Char) : Option Decimal :=
  let isE := fun c => c = 'e' ∨ c = 'E'
  let base := cs.takeWhile (¬ isE ·)
  match cs.dropWhile (¬ isE ·) with
  | [] => parsePlain? base
  | _ :: '-' :: ds => do
    let n ← Integer.parse? .uint32 ds
    (← parsePlain? base).shiftLeft? n.val.toNat
  | _ :: ds => do
    let n ← Integer.parse? .uint32 ds
    (← parsePlain? base).shiftRight? n.val.toNat

end ExprLang.Decimal
