import ExprLang.Error

set_option autoImplicit false

/-!
Applying an operator to two values. Numbers are promoted and brought to one kind first; integer and
decimal arithmetic is exact or fails, and comparison follows the value.
-/

namespace ExprLang

namespace Operator

/-- The arithmetic that a numeric operator stands for, beside `power`. -/
def arithmetic : Operator → Number.Arithmetic
  | addition => .add
  | subtraction => .sub
  | multiplication => .mul
  | _ => .div

/-- Powers are taken of doubles. -/
def applyPower (a b : Value) : Except Error Value := do
  let base ← Error.ofValue (a.convert .double)
  let exponent ← Error.ofValue (b.convert .double)
  match base, exponent with
  | .number (.double x), .number (.double y) => return .double (Float.pow x y)
  | v, _ => .error (.value (.invalidCast v.typeName "double"))

def applyNumeric (op : Operator) (a b : Value) : Except Error Value := do
  let (m, n, _) ← Error.ofValue (Value.harmonize a.promoted b.promoted)
  match Number.arithmetic? op.arithmetic m n with
  | some (.ok r) => return .number r
  | some (.error .divisionByZero) => .error .divisionByZero
  | some (.error .overflow) => .error (.overflow op.name)
  | none => .error (.value (.invalidCast n.kind.name m.kind.name))

/-- Whether the relation holds of two values in the given order; values without an order are
unequal. -/
def accepts (op : Operator) (o : Option Ordering) : Bool :=
  match op with
  | less => o = some .lt
  | lessOrEqual => o = some .lt || o = some .eq
  | equal => o = some .eq
  | unequal => o ≠ some .eq
  | greaterOrEqual => o = some .gt || o = some .eq
  | greater => o = some .gt
  | _ => false

/-- Texts are ordered by their characters. -/
def compareText (a b : String) : Ordering := compareOfLessAndEq a.toList b.toList

def compareBool (a b : Bool) : Ordering := compare a.toNat b.toNat

/-- The order of two values under a relation: `null` comes before every string, and all that is left
can at most be told equal. -/
def applyRelation (op : Operator) (a b : Value) : Except Error Value :=
  let answer := fun o => Except.ok (.bool (op.accepts o))
  let other : Except Error Value :=
    if op.isEquality then .ok (.bool (a.equal b == (op = equal)))
    else .error (.evaluation (.incomparable a.typeName b.typeName op))
  match a, b with
  | .string s, .string t => answer (some (compareText s t))
  | .bool p, .bool q => if op.isEquality then answer (some (compareBool p q)) else other
  | .null, .null => if op.isEquality then answer (some .eq) else other
  | .number _, .number _ =>
    match Error.ofValue (Value.harmonize a.promoted b.promoted) with
    | .ok (m, n, _) => answer (m.compare n)
    | .error e => .error e
  | .null, .string _ => if op.isEquality then other else answer (some .lt)
  | .string _, .null => if op.isEquality then other else answer (some .gt)
  | _, _ => other

def expectBool (v : Value) : Except Error Bool :=
  match v.bool? with
  | some b => .ok b
  | none => .error (.value (.invalidCast v.typeName "boolean"))

/-- Both operands are already evaluated, so neither is skipped. -/
def applyBoolean (op : Operator) (a b : Value) : Except Error Value := do
  let p ← expectBool a
  let q ← expectBool b
  return .bool (match op with
    | and => p && q
    | or => p || q
    | _ => p != q)

/-- The value of an operation. Concatenation writes any two values after one another. -/
def apply (op : Operator) (a b : Value) : Except Error Value :=
  match op.family with
  | .numeric => if op = power then applyPower a b else op.applyNumeric a b
  | .text => .ok (.string (a.text ++ b.text))
  | .relation => op.applyRelation a b
  | .boolean => op.applyBoolean a b

end Operator

end ExprLang
