import ExprLang.Library.Package

set_option autoImplicit false

/-!
The package of mathematics. Functions of integers stay in the kind of their arguments and fail
rather than wrap; rounding is to the nearest, halves going to the even neighbour.
-/

namespace ExprLang.Library.Math

/-- A result that may not fit its kind. -/
def fitting {α : Type} (function : String) : Option α → Except Error α
  | some a => .ok a
  | none => .error (.overflow function)

/-! Remainders -/

def modInteger {k : IntKind} (a b : Integer k) : Except Error (Integer k) :=
  if b.val = 0 then .error .divisionByZero else fitting "mod" (a.rem? b)

def modDecimal (a b : Decimal) : Except Error Decimal :=
  if b.isZero then .error .divisionByZero else fitting "mod" (a.rem? b)

def modSingle (a b : Float32) : Float32 := ((Binary.ofSingle a).rem (.ofSingle b)).toSingle

def modDouble (a b : Float) : Float := ((Binary.ofDouble a).rem (.ofDouble b)).toDouble

def remainders : List (String × Handle) :=
  ([.int32, .uint32, .int64, .uint64].map fun k => ("mod", Handle.of (modInteger (k := k))))
    ++ [("mod", .ofBinary modSingle), ("mod", .ofBinary modDouble), ("mod", .of modDecimal)]

/-! Signs -/

def signOf (n : Int) : Integer .int32 :=
  if n = 0 then .zero .int32 else if n < 0 then .minusOne else .one

/-- The sign of an order beside zero; a value without an order has none. -/
def signOfOrder : Option Ordering → Except Error (Integer .int32)
  | some .gt => .ok .one
  | some .lt => .ok .minusOne
  | some .eq => .ok (.zero .int32)
  | none => .error (.function "sign" "The argument is not a number.")

def absInteger {k : IntKind} (a : Integer k) : Except Error (Integer k) := fitting "abs" a.abs?

def signs : List (String × Handle) :=
  ([.sbyte, .int16, .int32, .int64].flatMap fun k =>
      [("abs", Handle.of (absInteger (k := k))),
        ("sign", Handle.ofUnary fun (a : Integer k) => signOf a.val)])
    ++ [("abs", .ofUnary Float32.abs),
      ("sign", .of fun (x : Float32) => signOfOrder (Number.compareSingle x 0)),
      ("abs", .ofUnary Float.abs),
      ("sign", .of fun (x : Float) => signOfOrder (Number.compareDouble x 0)),
      ("abs", .ofUnary Decimal.abs),
      ("sign", .ofUnary fun (d : Decimal) => signOf d.sign)]

/-! Rounding -/

def doublePlaces : Nat := 15

def decimalPlaces : Nat := 28

/-- The number of places, if it is from zero to `limit`. -/
def checkPlaces (n : Integer .int32) (limit : Nat) : Except Error (Fin (limit + 1)) :=
  if h : 0 ≤ n.val ∧ n.val ≤ limit then .ok ⟨n.val.toNat, by omega⟩
  else
    .error (.function "round" ("The number of digits must be between 0 and "
      ++ String.ofList (Digits.ofNat limit) ++ ", got " ++ n.text ++ "."))

def floor (x : Float) : Float := (Binary.ofDouble x).floor.toDouble

def ceil (x : Float) : Float := (Binary.ofDouble x).ceil.toDouble

def trunc (x : Float) : Float := (Binary.ofDouble x).trunc.toDouble

def round (x : Float) : Float := ((Binary.ofDouble x).round .toEven).toDouble

/-- Rounds the double scaled by a power of ten, and scales it back. -/
def roundDouble (x : Float) (n : Integer .int32) : Except Error Float := do
  let unit := powNat 10 (← checkPlaces n doublePlaces)
  return round (x * unit) / unit

def roundDecimal (d : Decimal) (n : Integer .int32) : Except Error Decimal := do
  return d.roundTo (← checkPlaces n decimalPlaces)

def roundings : List (String × Handle) :=
  [("floor", .ofUnary floor), ("ceil", .ofUnary ceil), ("trunc", .ofUnary trunc),
    ("round", .ofUnary round), ("round", .of roundDouble),
    ("floor", .ofUnary Decimal.floor), ("ceil", .ofUnary Decimal.ceil),
    ("trunc", .ofUnary Decimal.trunc), ("round", .ofUnary Decimal.round),
    ("round", .of roundDecimal)]

/-! Transcendental functions -/

def transcendentals : List (String × Handle) :=
  [("sin", .ofUnary Float.sin), ("cos", .ofUnary Float.cos), ("tan", .ofUnary Float.tan),
    ("asin", .ofUnary Float.asin), ("acos", .ofUnary Float.acos), ("atan", .ofUnary Float.atan),
    ("atan2", .ofBinary Float.atan2), ("sinh", .ofUnary Float.sinh),
    ("cosh", .ofUnary Float.cosh), ("tanh", .ofUnary Float.tanh), ("exp", .ofUnary Float.exp),
    ("log", .ofUnary Float.log),
    ("log", .ofBinary fun (x base : Float) => Float.log x / Float.log base),
    ("log10", .ofUnary Float.log10), ("sqrt", .ofUnary Float.sqrt)]

/-! Least and greatest -/

/-- The smaller of two values in an order, the first where it does not tell; what has no order with
itself gives way. -/
def lesser {α : Type} (compare : α → α → Option Ordering) (a b : α) : α :=
  if compare a a = none ∨ compare a b = some .gt then b else a

/-- The larger of two values in an order, the first where it does not tell; what has no order with
itself gives way. -/
def greater {α : Type} (compare : α → α → Option Ordering) (a b : α) : α :=
  if compare a a = none ∨ compare a b = some .lt then b else a

def compareInteger {k : IntKind} (a b : Integer k) : Option Ordering := some (compare a.val b.val)

def extremes : List (String × Handle) :=
  (IntKind.all.flatMap fun k =>
      [("min", Handle.ofBinary (lesser (compareInteger (k := k)))),
        ("max", Handle.ofBinary (greater (compareInteger (k := k))))])
    ++ [("min", .ofBinary (lesser Number.compareSingle)),
      ("max", .ofBinary (greater Number.compareSingle)),
      ("min", .ofBinary (lesser Number.compareDouble)),
      ("max", .ofBinary (greater Number.compareDouble)),
      ("min", .ofBinary Decimal.lesser), ("max", .ofBinary Decimal.greater)]

end Math

open Math in
/-- The package of mathematics, where `sample` is what `rand` yields. -/
def math (sample : Float) : Package where
  constants := [("pi", .double 3.141592653589793), ("e", .double 2.718281828459045)]
  functions :=
    remainders ++ signs ++ roundings ++ transcendentals ++ extremes
      ++ [("rand", .of (Except.ok sample : Except Error Float))]

end ExprLang.Library
