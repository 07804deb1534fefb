import ExprLang.Numeric.Binary.Text
import ExprLang.Numeric.Decimal.Arithmetic
import ExprLang.Numeric.Decimal.Binary
import ExprLang.Numeric.Decimal.Division
import ExprLang.Numeric.Decimal.Text

set_option autoImplicit false

/-!
Numbers of every kind: arithmetic and comparison of two numbers of one kind, and their text.
-/

namespace ExprLang

inductive Number
  | int (k : IntKind) (n : Integer k)
  | single (x : Float32)
  | double (x : Float)
  | decimal (d : Decimal)
deriving DecidableEq

namespace Number

def kind : Number → Kind
  | int k _ => .int k
  | single _ => .single
  | double _ => .double
  | decimal _ => .decimal

/-- The number as text; decimals show their scale. -/
def text : Number → String
  | int _ n => n.text
  | single x => String.ofList (Binary.singleDigits x)
  | double x => String.ofList (Binary.doubleDigits x)
  | decimal d => d.text

def parse? (k : Kind) (cs : List Char) : Option Number :=
  match k with
  | .int k => (Integer.parse? k cs).map (int k)
  | .single => (Binary.parseSingle? cs).map single
  | .double => (Binary.parseDouble? cs).map double
  | .decimal => (Decimal.parse? cs).map decimal

/-- The number as operations see it: narrow integers are `int32`. -/
def promoted : Number → Number
  | int k n => int k.promoted n.promoted
  | n => n

inductive Arithmetic
  | add
  | sub
  | mul
  | div
deriving DecidableEq, Repr

/-- Why an operation has no result. -/
inductive ArithmeticFault
  | divisionByZero
  | overflow
deriving DecidableEq, Repr

/-- The integer operation is exact; division cuts toward zero. -/
def integerOp {k : IntKind} (op : Arithmetic) (a b : Integer k) :
    Except ArithmeticFault (Integer k) :=
  if op = .div ∧ b.val = 0 then .error .divisionByZero
  else
    let result :=
      match op with
      | .add => a.add? b
      | .sub => a.sub? b
      | .mul => a.mul? b
      | .div => a.quot? b
    match result with
    | some c => .ok c
    | none => .error .overflow

def decimalOp (op : Arithmetic) (a b : Decimal) : Except ArithmeticFault Decimal :=
  if op = .div ∧ b.isZero then .error .divisionByZero
  else
    let result :=
      match op with
      | .add => a.add? b
      | .sub => a.sub? b
      | .mul => a.mul? b
      | .div => a.div? b
    match result with
    | some c => .ok c
    | none => .error .overflow

def singleOp (op : Arithmetic) (a b : Float32) : Float32 :=
  match op with
  | .add => a + b
  | .sub => a - b
  | .mul => a * b
  | .div => a / b

def doubleOp (op : Arithmetic) (a b : Float) : Float :=
  match op with
  | .add => a + b
  | .sub => a - b
  | .mul => a * b
  | .div => a / b

/-- The operation on two numbers of one kind; there is none on numbers of two kinds. -/
def arithmetic? (op : Arithmetic) : Number → Number → Option (Except ArithmeticFault Number)
  | int k a, int l b =>
    if h : l = k then some ((integerOp op a (h ▸ b)).map (int k)) else none
  | single a, single b => some (.ok (single (singleOp op a b)))
  | double a, double b => some (.ok (double (doubleOp op a b)))
  | decimal a, decimal b => some ((decimalOp op a b).map decimal)
  | _, _ => none

/-- The order of two doubles; there is none when one of them is no number. -/
def compareDouble (a b : Float) : Option Ordering :=
  if a < b then some .lt else if b < a then some .gt else if a == b then some .eq else none

def compareSingle (a b : Float32) : Option Ordering :=
  if a < b then some .lt else if b < a then some .gt else if a == b then some .eq else none

def compare : Number → Number → Option Ordering
  | int _ a, int _ b => some (Ord.compare a.val b.val)
  | single a, single b => compareSingle a b
  | double a, double b => compareDouble a b
  | decimal a, decimal b => some (a.compare b)
  | _, _ => none

/-- Numbers are equal when they are of one kind and compare equal. -/
def equal (a b : Number) : Bool := a.kind = b.kind && a.compare b = some .eq

end Number

end ExprLang
