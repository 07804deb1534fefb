import ExprLang.Operator.Basic
import ExprLang.Value.Basic

set_option autoImplicit false

/-!
Expressions as trees. A chain of operands grows from left to right by `append`, which keeps tighter
operators below looser ones, and `source` writes an expression with every operation in parentheses.
-/

namespace ExprLang

/-- What a literal stands for. A numeral has no value when it does not fit its kind. -/
inductive Literal
  | null
  | boolean (b : Bool)
  | integer (n : Option Number)
  | real (n : Option Number)
  | decimal (d : Option Decimal)
  | string (s : String)
deriving DecidableEq

/-- An expression; a literal keeps the text it was read from. -/
inductive Expr
  | literal (value : Literal) (source : String)
  | ident (name : String)
  | call (name : String) (arguments : List Expr)
  | conditional (name : String) (arguments : List Expr)
  | nullTest (name : String) (arguments : List Expr)
  | member (target : Expr) (name : String)
  | group (inner : Expr)
  | operation (left : Expr) (op : Operator) (right : Expr)

namespace Expr

/-- Appends an operator and an operand to a chain. An operator that binds tighter than the last one
of the chain takes its right operand; groups are never taken apart. -/
def append (chain : Expr) (op : Operator) (operand : Expr) : Expr :=
  match chain with
  | operation left root right =>
    if op.priority < root.priority then operation left root (right.append op operand)
    else operation (operation left root right) op operand
  | e => operation e op operand

/-- The direct parts of an expression, left to right. -/
def children : Expr → List Expr
  | literal .. | ident .. => []
  | call _ arguments | conditional _ arguments | nullTest _ arguments => arguments
  | member target _ => [target]
  | group inner => [inner]
  | operation left _ right => [left, right]

mutual

def source : Expr → String
  | literal _ source => source
  | ident name => name
  | call name arguments | conditional name arguments | nullTest name arguments =>
    name ++ "(" ++ ", ".intercalate (sources arguments) ++ ")"
  | member target name => target.source ++ "." ++ name
  | group inner => "(" ++ inner.source ++ ")"
  | operation left op right =>
    "(" ++ left.source ++ " " ++ op.symbol ++ " " ++ right.source ++ ")"

def sources : List Expr → List String
  | [] => []
  | e :: es => e.source :: sources es

end

theorem sources_eq_map (es : List Expr) : sources es = es.map source := by
  induction es with
  | nil => rfl
  | cons e es ih => rw [sources, ih, List.map_cons]

end Expr

end ExprLang
