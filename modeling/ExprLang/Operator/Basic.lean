set_option autoImplicit false

/-! The binary operators: their names, symbols, families and how tightly they bind. -/

namespace ExprLang

inductive Operator
  | power
  | multiplication
  | division
  | addition
  | subtraction
  | concatenation
  | less
  | lessOrEqual
  | equal
  | unequal
  | greaterOrEqual
  | greater
  | and
  | or
  | xor
deriving DecidableEq, Repr

/-- What an operator works on. -/
inductive OperatorFamily
  | numeric
  | text
  | relation
  | boolean
deriving DecidableEq, Repr

namespace Operator

def all : List Operator :=
  [power, multiplication, division, addition, subtraction, concatenation, less, lessOrEqual, equal,
    unequal, greaterOrEqual, greater, and, or, xor]

/-- The name that messages use. -/
def name : Operator → String
  | power => "power"
  | multiplication => "multiplication"
  | division => "division"
  | addition => "addition"
  | subtraction => "subtraction"
  | concatenation => "concatenation"
  | less => "less"
  | lessOrEqual => "less or equal"
  | equal => "equal"
  | unequal => "unequal"
  | greaterOrEqual => "greater or equal"
  | greater => "greater"
  | and => "and"
  | or => "or"
  | xor => "xor"

/-- The usual spelling. The options of a language may give the last three another one. -/
def symbol : Operator → String
  | power => "^"
  | multiplication => "*"
  | division => "/"
  | addition => "+"
  | subtraction => "-"
  | concatenation => "&"
  | less => "<"
  | lessOrEqual => "<="
  | equal => "="
  | unequal => "<>"
  | greaterOrEqual => ">="
  | greater => ">"
  | and => "and"
  | or => "or"
  | xor => "xor"

def family : Operator → OperatorFamily
  | power | multiplication | division | addition | subtraction => .numeric
  | concatenation => .text
  | less | lessOrEqual | equal | unequal | greaterOrEqual | greater => .relation
  | and | or | xor => .boolean

/-- How loosely an operator binds; the smallest number binds first. -/
def priority : Operator → Nat
  | power => 0
  | multiplication | division => 1
  | addition | subtraction => 2
  | concatenation => 3
  | less | lessOrEqual | equal | unequal | greaterOrEqual | greater => 4
  | and => 5
  | or | xor => 6

def isEquality : Operator → Bool
  | equal | unequal => true
  | _ => false

end Operator

end ExprLang
