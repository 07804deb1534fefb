import ExprLang.Numeric.Rounding

set_option autoImplicit false

/-!
What binary floating-point numbers denote. A number is taken apart into its exact value, worked on
with integers, and put together again by rounding to the nearest number of the width, halves going
to the even mantissa.
-/

namespace ExprLang

-- A power of natural numbers is always that of the core library.
attribute [local instance (2000)] instPowNat

/-- The value of a binary floating-point number of any width; a finite one is
`± mantissa * 2 ^ exponent`, and zero has a sign too. -/
inductive Binary
  | nan
  | infinite (negative : Bool)
  | finite (negative : Bool) (mantissa : Nat) (exponent : Int)
deriving DecidableEq, Repr

namespace Binary

def ofUnpacked : Float.Model.UnpackedFloat → Binary
  | .notANumber => nan
  | .infinity s => infinite (s matches .negative)
  | .zero s => finite (s matches .negative) 0 0
  | .finite s m e _ => finite (s matches .negative) m e

/-- The nearest value that the format can hold. -/
def toUnpacked (format : Float.Model.Format) : Binary → Float.Model.UnpackedFloat
  | nan => .notANumber
  | infinite negative => .infinity (if negative then .negative else .positive)
  | finite negative m e =>
    let s := if negative then .negative else .positive
    if m = 0 then .zero s else .round format s m e

def ofDouble (x : Float) : Binary := ofUnpacked x.toModel.unpack

def ofSingle (x : Float32) : Binary := ofUnpacked x.toModel.unpack

def toDouble (b : Binary) : Float := .ofModel (.pack (b.toUnpacked .binary64))

def toSingle (b : Binary) : Float32 := .ofModel (.pack (b.toUnpacked .binary32))

def ofInt (n : Int) : Binary := finite (n < 0) n.natAbs 0

/-- A finite value cut toward zero. -/
def toInt? : Binary → Option Int
  | finite negative m e =>
    let n := if 0 ≤ e then m * 2 ^ e.toNat else m / 2 ^ (-e).toNat
    some (if negative then -n else n)
  | _ => none

def isFinite : Binary → Bool
  | finite .. => true
  | _ => false

/-- Replaces the fraction of a finite value: `f` gets the mantissa and the power of two that divides
it. Values without a fraction stay as they are. -/
def mapFraction (f : Bool → Nat → Nat → Nat) : Binary → Binary
  | finite negative m e =>
    if 0 ≤ e then finite negative m e else finite negative (f negative m (2 ^ (-e).toNat)) 0
  | b => b

def divUp (num den : Nat) : Nat := (num + den - 1) / den

def trunc : Binary → Binary := mapFraction fun _ m den => m / den

def floor : Binary → Binary :=
  mapFraction fun negative m den => if negative then divUp m den else m / den

def ceil : Binary → Binary :=
  mapFraction fun negative m den => if negative then m / den else divUp m den

/-- The nearest integer. -/
def round (tie : Tie) : Binary → Binary := mapFraction fun _ m den => tie.roundDiv m den

/-- The remainder of the quotient cut to an integer; it is exact and has the sign of the dividend.
-/
def rem : Binary → Binary → Binary
  | finite negative m e, finite _ n f =>
    if n = 0 then nan
    else
      let low := min e f
      finite negative (m * 2 ^ (e - low).toNat % (n * 2 ^ (f - low).toNat)) low
  | b@(finite ..), infinite _ => b
  | _, _ => nan

end Binary

/-- `x` multiplied `n` times, by repeated squaring. -/
def powNat (x : Float) (n : Nat) : Float :=
  go 1 x n
where
  go (product x : Float) (n : Nat) : Float :=
    let product := if n % 2 = 1 then product * x else product
    if n / 2 = 0 then product else go product (x * x) (n / 2)
  termination_by n
  decreasing_by omega

end ExprLang
