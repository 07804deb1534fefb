import ExprLang.Numeric.Decimal.Basic

set_option autoImplicit false

/-!
The quotient of two decimals. Long division brings down up to nine digits at a time until nothing
remains or no place is left; then the quotient is rounded, or zeros that the division itself
appended are taken off again.
-/

namespace ExprLang.Decimal

-- A power of natural numbers is always that of the core library.
attribute [local instance (2000)] instPowNat

/-- The state of a long division: the quotient so far with its scale, which may still be negative,
and the remainder. -/
structure Quotient where
  digits : Nat
  scale : Int
  rest : Nat

/-- The most digits, up to nine, by which `q` can grow without passing 96 bits or 28 places. -/
def room (q : Nat) (scale : Int) : Nat :=
  ((List.range 10).reverse.find? fun (p : Nat) =>
    (p : Int) ≤ 28 - scale && q * 10 ^ p < 2 ^ (96 : Nat)).getD 0

/-- Takes one digit off a quotient that grew past 96 bits; `sticky` tells that more digits would
have followed. -/
def shorten? (q : Nat) (scale : Int) (sticky : Bool) : Option (Nat × Int) :=
  if scale ≤ 0 then none
  else
    let up := 5 < q % 10 || (q % 10 = 5 && (sticky || q / 10 % 2 = 1))
    some (if up then q / 10 + 1 else q / 10, scale - 1)

/-- Appends digits to the quotient until the division ends. The answer tells besides whether places
were appended to a quotient with a remainder. -/
def divide? (divisor : Nat) : (fuel : Nat) → (appended : Bool) → Quotient →
    Option (Nat × Int × Bool)
  | 0, _, _ => none
  | fuel + 1, appended, ⟨q, scale, rest⟩ =>
    if rest = 0 then
      if 0 ≤ scale then some (q, scale, appended)
      else
        let p := min 9 (-scale).toNat
        if 2 ^ (96 : Nat) ≤ q * 10 ^ p then none
        else divide? divisor fuel appended ⟨q * 10 ^ p, scale + p, 0⟩
    else
      let p := room q scale
      if p < 9 ∧ scale + p < 0 then none
      else if p = 0 then
        let q' := if Tie.toEven.roundsUp q rest divisor then q + 1 else q
        if q' < 2 ^ (96 : Nat) then some (q', scale, true)
        else (shorten? q' scale true).map fun (q, scale) => (q, scale, true)
      else
        let q' := q * 10 ^ p + rest * 10 ^ p / divisor
        let rest' := rest * 10 ^ p % divisor
        if q' < 2 ^ (96 : Nat) then divide? divisor fuel true ⟨q', scale + p, rest'⟩
        else (shorten? q' (scale + p) (rest' ≠ 0)).map fun (q, scale) => (q, scale, true)

/-- Takes `n` zeros off the end, if the number has them and the places to give. -/
def dropZeros (n : Nat) (q scale : Nat) : Nat × Nat :=
  if n ≤ scale ∧ q % 10 ^ n = 0 then (q / 10 ^ n, scale - n) else (q, scale)

/-- Eight zeros at a time, as long as the low 32 bits of the number are zero. -/
def dropEights : (fuel : Nat) → (q scale : Nat) → Nat × Nat
  | 0, q, scale => (q, scale)
  | fuel + 1, q, scale =>
    if q % 2 ^ (32 : Nat) = 0 ∧ 8 ≤ scale ∧ q % 10 ^ (8 : Nat) = 0 then
      dropEights fuel (q / 10 ^ (8 : Nat)) (scale - 8)
    else (q, scale)

/-- Takes zeros off the end of a quotient: eights, then four, two and one at most once each. -/
def unscale (q scale : Nat) : Nat × Nat :=
  let (q, scale) := dropEights 4 q scale
  let (q, scale) := dropZeros 4 q scale
  let (q, scale) := dropZeros 2 q scale
  dropZeros 1 q scale

/-- The quotient by a divisor other than zero, to the most places that fit. -/
def div? (a b : Decimal) : Option Decimal :=
  if a.isZero then some zero
  else
    (divide? b.mantissa 64 false
      ⟨a.mantissa / b.mantissa, a.scale - b.scale, a.mantissa % b.mantissa⟩).bind
    fun (q, scale, appended) =>
      let (q, scale) := if appended then unscale q scale.toNat else (q, scale.toNat)
      ofParts? (a.negative != b.negative) q scale

end ExprLang.Decimal
