import ExprLang.Evaluation
import ExprLang.Failure
import ExprLang.Text.Blank

set_option autoImplicit false

/-!
Bindings `name=value`, whose value is itself an expression. Bindings are applied one after another,
so a later one may refer to those before it, and those before a failing one stay.
-/

namespace ExprLang

/-- A name for the value that an expression has. -/
structure Binding where
  name : String
  expression : String
  constant : Bool
deriving DecidableEq, Repr

namespace Binding

/-- Splits a text at the first equals sign. -/
def parse (text : String) (constant : Bool) : Except Failure Binding :=
  let name := trim (text.toList.takeWhile (· ≠ '='))
  match text.toList.dropWhile (· ≠ '=') with
  | _ :: expression =>
    if name = [] ∨ trim expression = [] then .error (.binding text)
    else .ok ⟨String.ofList name, String.ofList expression, constant⟩
  | [] => .error (.binding text)

/-- Evaluates the expression and keeps its value under the name. -/
def apply (b : Binding) (c : Context) (m : Memory) : Except Error Memory := do
  let v ← c.interpret m b.expression []
  if b.constant then c.setConstant m b.name v else c.setVariable m b.name v

def applyEach (c : Context) (m : Memory) : List (String × Bool) → Memory × Except Failure Unit
  | [] => (m, .ok ())
  | (text, constant) :: rest =>
    match (parse text constant).bind fun b => Failure.ofError (b.apply c m) with
    | .ok m => applyEach c m rest
    | .error e => (m, .error e)

/-- Applies bindings of variables and then bindings of constants. The memory keeps what was bound
before a failure. -/
def applyAll (c : Context) (m : Memory) (asVariables asConstants : List String) :
    Memory × Except Failure Unit :=
  applyEach c m (asVariables.map (·, false) ++ asConstants.map (·, true))

end Binding

end ExprLang
