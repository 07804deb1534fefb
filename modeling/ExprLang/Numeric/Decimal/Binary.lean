import ExprLang.Numeric.Binary.Basic
import ExprLang.Numeric.Decimal.Basic

set_option autoImplicit false

/-!
Exchange between decimals and binary floating-point numbers.

A binary integer becomes the same decimal if it has at most 96 bits. Another binary value becomes a
decimal by working its power of two into the mantissa one factor at a time, as long as 96 bits allow
it exactly; then it is cut to the digits that the width of the binary number vouches for. A decimal
becomes a double as whole part plus fraction, which is rounded once more to the decimal's own
places.
-/

namespace ExprLang.Decimal

-- A power of natural numbers is always that of the core library.
attribute [local instance (2000)] instPowNat

/-- Divides `m * 10 ^ e` by `2 ^ n`: an even mantissa is halved, an odd one is multiplied by five
against a power of ten, or halved with a loss when five times as much does not fit. -/
def halve : (n : Nat) → (m : Nat) → (e : Int) → Nat × Int
  | 0, m, e => (m, e)
  | n + 1, m, e =>
    if m % 2 = 0 then halve n (m / 2) (e + 1)
    else if 5 * m < 2 ^ (96 : Nat) then halve n (5 * m) e
    else halve n (m / 2) (e + 1)

/-- Divides by ten, a five in the last place going up. -/
def tenth (m : Nat) : Nat := Tie.up.roundDiv m 10

/-- Takes off the places past the 28th. A number that vanishes on the way keeps no place. -/
def dropPlaces : (n : Nat) → (m places : Nat) → Nat × Nat
  | 0, m, places => (m, places)
  | n + 1, m, places =>
    if places ≤ 28 then (m, places)
    else if m < 10 then (0, 0)
    else dropPlaces n (tenth m) (places - 1)

/-- Takes places off until the mantissa is shorter than `2 ^ bits`. -/
def dropExcess (bits : Nat) : (m places : Nat) → Nat × Nat
  | m, 0 => (m, 0)
  | m, places + 1 => if 2 ^ bits ≤ m then dropExcess bits (tenth m) places else (m, places + 1)

/-- Takes zeros off the end. -/
def dropTrailing : (m places : Nat) → Nat × Nat
  | m, 0 => (m, 0)
  | m, places + 1 => if m % 10 = 0 then dropTrailing (m / 10) places else (m, places + 1)

/-- The decimal of a finite binary value whose width vouches for `bits` bits. -/
def ofBinary? (bits : Nat) : Binary → Option Decimal
  | .finite negative 0 _ => some { zero with negative := negative }
  | .finite negative m e =>
    let (m, e) := if 0 ≤ e then (m * 2 ^ e.toNat, 0) else halve (-e).toNat m e
    let places := (-e).toNat
    if 2 ^ (96 : Nat) ≤ m then none
    else
      let (m, places) := dropPlaces places m places
      let (m, places) := dropExcess bits m places
      let (m, places) := dropTrailing m places
      (ofParts? false m places).map fun d => { d with negative := negative }
  | _ => none

def ofDouble? (x : Float) : Option Decimal := ofBinary? 52 (.ofDouble x)

def ofSingle? (x : Float32) : Option Decimal := ofBinary? 24 (.ofSingle x)

/-- The natural number as a double. -/
def doubleOfNat (n : Nat) : Float := (Binary.ofInt n).toDouble

/-- The magnitude of a decimal with places as a double. -/
def magnitude (m scale : Nat) : Float :=
  let whole := doubleOfNat (m / 10 ^ scale)
  let fraction := doubleOfNat (m % 10 ^ scale) / doubleOfNat (10 ^ scale)
  if fraction == 0 then whole
  else
    let unit := powNat 10 scale
    ((Binary.ofDouble ((whole + fraction) * unit)).round .up).toDouble / unit

/-- The double of a decimal. An integer is rounded once. -/
def toDouble (d : Decimal) : Float :=
  if d.scale = 0 then (Binary.ofInt d.numerator).toDouble
  else if d.negative then -magnitude d.mantissa d.scale
  else magnitude d.mantissa d.scale

/-- The single of a decimal is that of its double. -/
def toSingle (d : Decimal) : Float32 := (Binary.ofDouble d.toDouble).toSingle

end ExprLang.Decimal
