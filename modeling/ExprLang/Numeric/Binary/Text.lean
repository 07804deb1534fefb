import ExprLang.Numeric.Binary.Basic
import ExprLang.Numeric.Digits

set_option autoImplicit false

/-!
The text of a binary floating-point number: the fewest digits that read back as the number, the
nearest to it among those, written without an exponent. Reading takes an optional sign, digits with
an optional point, an optional exponent, and the names of the infinities and of the value that is no
number.
-/

namespace ExprLang.Binary

-- A power of natural numbers is always that of the core library.
attribute [local instance (2000)] instPowNat

/-- The numbers that a rounding takes to one value: everything between `lo` and `hi`, which are
counted in quarter units like the value itself, with the ends when `ends` holds. -/
structure Neighbourhood where
  value : Nat
  lo : Nat
  hi : Nat
  ends : Bool

/-- Whether `n` rounds to the value. -/
def Neighbourhood.holds (v : Neighbourhood) (n : Nat) : Bool :=
  if v.ends then v.lo ≤ n && n ≤ v.hi else v.lo < n && n < v.hi

/-- The multiple of `step` that rounds to the value and is nearest to it, as the factor. -/
def Neighbourhood.multiple? (v : Neighbourhood) (step : Nat) : Option Nat :=
  let below := v.value / step
  let above := below + 1
  match v.holds (below * step), v.holds (above * step) with
  | true, true => some (if 2 * (v.value % step) < step then below else above)
  | true, false => some below
  | false, true => some above
  | false, false => none

/-- The coarsest grid of powers of ten with a point that rounds to the value: the point's number and
the exponent of the grid. -/
def Neighbourhood.shortest (v : Neighbourhood) : Nat → Nat × Nat
  | 0 => (v.value / 4, 0)
  | g + 1 =>
    match v.multiple? (4 * 10 ^ (g + 1)) with
    | some n => (n, g + 1)
    | none => v.shortest g

/-- Moves zeros at the end of a number into its exponent. -/
def dropZeros : (fuel : Nat) → (n g : Nat) → Nat × Nat
  | 0, n, g => (n, g)
  | fuel + 1, n, g => if n % 10 = 0 then dropZeros fuel (n / 10) (g + 1) else (n, g)

/-- The digits of `m * 2 ^ e`, a value other than zero. The value below it is half as near as the
one above when `m` is the least mantissa of full length. -/
def positional (m : Nat) (e : Int) (closeBelow : Bool) : List Char :=
  let places := (-e).toNat
  let unit := if 0 ≤ e then 2 ^ e.toNat else 5 ^ places
  let v : Neighbourhood :=
    { value := 4 * m * unit
      lo := (4 * m - if closeBelow then 1 else 2) * unit
      hi := (4 * m + 2) * unit
      ends := m % 2 = 0 }
  let (n, g) := v.shortest (Digits.length (m * unit) - 1)
  let (n, g) := dropZeros (Digits.length n) n g
  if places ≤ g then Digits.ofNat (n * 10 ^ (g - places)) else Digits.fixed (places - g) n

/-- The text of a value of a format with `bits` bits of mantissa and `least` as least exponent. -/
def chars (bits : Nat) (least : Int) : Binary → List Char
  | nan => "NaN".toList
  | infinite negative => if negative then "-inf".toList else "inf".toList
  | finite negative m e =>
    let ds := if m = 0 then ['0'] else positional m e (m = 2 ^ (bits - 1) && least < e)
    if negative then '-' :: ds else ds

/-- Reads digits with an optional point: their number without the point, how many stood after it,
and the rest. At least one digit is needed. -/
def mantissa? (cs : List Char) : Option (Nat × Nat × List Char) :=
  let whole := cs.takeWhile Char.isDigit
  let rest := cs.dropWhile Char.isDigit
  match rest with
  | '.' :: rest =>
    let places := rest.takeWhile Char.isDigit
    if whole = [] ∧ places = [] then none
    else some (Digits.toNat (whole ++ places), places.length, rest.dropWhile Char.isDigit)
  | rest => if whole = [] then none else some (Digits.toNat whole, 0, rest)

/-- Reads an exponent up to the end of the text. -/
def exponent? : List Char → Option Int
  | [] => some 0
  | c :: cs =>
    if c = 'e' ∨ c = 'E' then
      match cs with
      | '-' :: ds => (Digits.toNat? ds).map fun n => -n
      | '+' :: ds => (Digits.toNat? ds).map fun n => n
      | ds => (Digits.toNat? ds).map fun n => n
    else none

/-- A number as it is written: a sign, and a name or a decimal fraction `mantissa * 10 ^ exponent`.
-/
inductive Written
  | nan
  | infinite (negative : Bool)
  | decimal (negative : Bool) (mantissa : Nat) (exponent : Int)

/-- Reads a number without its sign. -/
def unsigned? (negative : Bool) (cs : List Char) : Option Written :=
  let word := String.ofList (cs.map Char.toLower)
  if word = "nan" then some .nan
  else if word = "inf" ∨ word = "infinity" then some (.infinite negative)
  else do
    let (m, places, rest) ← mantissa? cs
    let e ← exponent? rest
    return .decimal negative m (e - places)

def written? : List Char → Option Written
  | '-' :: cs => unsigned? true cs
  | '+' :: cs => unsigned? false cs
  | cs => unsigned? false cs

/-- The exponent of a power of ten cut to where every number is already infinite or zero. -/
def clampExponent (m : Nat) (e : Int) : Int :=
  max (-400 - Digits.length m) (min 400 e)

def Written.toDouble : Written → Float
  | .nan => Binary.nan.toDouble
  | .infinite negative => (Binary.infinite negative).toDouble
  | .decimal negative m e =>
    let e := clampExponent m e
    let x := if m = 0 then 0 else Float.ofScientific m (e < 0) e.natAbs
    if negative then -x else x

def Written.toSingle : Written → Float32
  | .nan => Binary.nan.toSingle
  | .infinite negative => (Binary.infinite negative).toSingle
  | .decimal negative m e =>
    let e := clampExponent m e
    let x := if m = 0 then 0 else Float32.ofScientific m (e < 0) e.natAbs
    if negative then -x else x

def doubleDigits (x : Float) : List Char := (ofDouble x).chars 53 (-1074)

def singleDigits (x : Float32) : List Char := (ofSingle x).chars 24 (-149)

def parseDouble? (cs : List Char) : Option Float := (written? cs).map Written.toDouble

def parseSingle? (cs : List Char) : Option Float32 := (written? cs).map Written.toSingle

end ExprLang.Binary
