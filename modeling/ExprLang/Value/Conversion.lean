import ExprLang.Numeric.Conversion
import ExprLang.Value.Basic

set_option autoImplicit false

/-! Conversion of values that are numbers. -/

namespace ExprLang

namespace Value

def number? : Value → Except ValueError Number
  | number n => .ok n
  | v => .error (.invalidCast v.typeName "numeric")

def convert (v : Value) (k : Kind) : Except ValueError Value := do
  return number (← (← v.number?).convert k)

/-- Brings two numbers to the one of their kinds that the other widens to. -/
def harmonize (a b : Value) : Except ValueError (Number × Number × Kind) := do
  let m ← a.number?
  let n ← b.number?
  match Kind.meet? m.kind n.kind with
  | none => .error (.invalidCast m.kind.name n.kind.name)
  | some k => return (← m.convert k, ← n.convert k, k)

end Value

end ExprLang
