import ExprLang.Operator.Basic
import ExprLang.Value.Basic

set_option autoImplicit false

/-!
Which operand types an operator takes and what type the result has. Operands are judged by the kinds
that narrow integers are promoted to.
-/

namespace ExprLang

inductive Side
  | left
  | right
deriving DecidableEq, Repr

def Side.name : Side → String
  | left => "left"
  | right => "right"

/-- Why an operator does not take its operands. -/
inductive OperandProblem
  | notNumeric (side : Side) (op : Operator)
  | incompatible (op : Operator)
  | notBoolean (side : Side) (op : Operator)
  | incomparable (op : Operator)
  | stringWithOther (op : Operator)
  | numberWithOther (op : Operator)
  | booleanWithOther (op : Operator)
  | referenceWithValue (op : Operator)
  | differentReferences (op : Operator)
  | unordered (op : Operator)
deriving DecidableEq, Repr

namespace OperandProblem

def quoted (op : Operator) : String := "'" ++ op.name ++ "'"

def message : OperandProblem → String
  | notNumeric side op =>
    "The " ++ side.name ++ " operand of the numeric operation " ++ quoted op
      ++ " is not a numeric value."
  | incompatible op =>
    "The operands of the numeric operation " ++ quoted op ++ " are not compatible."
  | notBoolean side op =>
    "The " ++ side.name ++ " operand of the boolean operation " ++ quoted op
      ++ " is not a boolean value."
  | incomparable op =>
    "The numeric operands of the comparison " ++ quoted op ++ " are not compatible."
  | stringWithOther op =>
    "The left operand of the comparison " ++ quoted op
      ++ " is a string but the right operand is not."
  | numberWithOther op =>
    "The left operand of the comparison " ++ quoted op
      ++ " is a numeric value but the right operand is not."
  | booleanWithOther op =>
    "The left operand of the comparison " ++ quoted op
      ++ " is a boolean value but the right operand is not."
  | referenceWithValue op =>
    "The left operand of the comparison " ++ quoted op
      ++ " is a reference but the right operand is a value."
  | differentReferences op =>
    "The operands of the comparison " ++ quoted op ++ " are references of different types."
  | unordered op =>
    "The operands are not supported by the comparison operator " ++ quoted op ++ "."

end OperandProblem

/-- The kind that two numeric types meet in after promotion. -/
def Ty.meet? (t u : Ty) : Option Kind := do
  Kind.meet? (← t.kind?).promoted (← u.kind?).promoted

namespace Operator

/-- Both operands must be numbers; `power` takes any two, the others want kinds that meet. -/
def numericProblems (op : Operator) (t u : Ty) : List OperandProblem :=
  let left := if t.isNumeric then [] else [.notNumeric .left op]
  let right := if u.isNumeric then [] else [.notNumeric .right op]
  if left ++ right = [] ∧ op ≠ power ∧ (t.meet? u).isNone then [.incompatible op]
  else left ++ right

def booleanProblems (op : Operator) (t u : Ty) : List OperandProblem :=
  (if t = .boolean then [] else [.notBoolean .left op])
    ++ (if u = .boolean then [] else [.notBoolean .right op])

/-- Strings compare with strings and numbers with numbers whose kinds meet. Only equality is for
booleans and for references, which must be of one type or `object`. -/
def relationProblem? (op : Operator) (t u : Ty) : Option OperandProblem :=
  if t = .string ∧ u = .string then none
  else if t.isNumeric ∧ u.isNumeric then
    if (t.meet? u).isSome then none else some (.incomparable op)
  else if ¬ op.isEquality then
    some (if t = .string then .stringWithOther op
      else if t.isNumeric then .numberWithOther op
      else .unordered op)
  else if t = .boolean ∧ u = .boolean then none
  else if t.isReference ∧ u.isReference then
    if t = u ∨ t = .object ∨ u = .object then none else some (.differentReferences op)
  else
    some (if t = .boolean then .booleanWithOther op
      else if t.isNumeric then .numberWithOther op
      else .referenceWithValue op)

def problems (op : Operator) (t u : Ty) : List OperandProblem :=
  match op.family with
  | .numeric => op.numericProblems t u
  | .text => []
  | .relation => (op.relationProblem? t u).toList
  | .boolean => op.booleanProblems t u

def resultTy (op : Operator) (t u : Ty) : Ty :=
  match op.family with
  | .numeric => if op = power then .numeric .double else .numeric ((t.meet? u).getD .double)
  | .text => .string
  | .relation | .boolean => .boolean

end Operator

end ExprLang
