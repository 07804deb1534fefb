import ExprLang.Operator.Typing
import ExprLang.Text.Quoted
import ExprLang.Value.Conversion

set_option autoImplicit false

/-!
Everything that can go wrong between the text of an expression and its value, as causes. The wording
is in one function for each type of cause.
-/

namespace ExprLang

/-- Where the grammar gave up: at a character that does not fit, at an escape that is none, in a
repetition that no longer moves, or at a word whose bytes end inside of a character. The last one is
never shown, since the program stops there. -/
inductive FaultCode
  | character
  | escape
  | emptyRound
  | torn
deriving DecidableEq, Repr

def FaultCode.name : FaultCode → String
  | character => "Char"
  | escape => "Escaped"
  | emptyRound => "Many0"
  | torn => "Torn"

/-- A place in the text, given by what follows it, with what is wrong there. -/
structure Fault where
  code : FaultCode
  place : List Char
deriving DecidableEq, Repr

def Fault.text (f : Fault) : String :=
  "Error \x7b input: " ++ String.ofList (Quoted.encode f.place) ++ ", code: " ++ f.code.name
    ++ " \x7d"

/-- Why a text is no expression. A hard fault ends the reading where it is found; after any other,
all alternatives have been tried. -/
inductive SyntaxProblem
  | remainder (rest : List Char)
  | unreadable (fault : Fault)
  | hard (fault : Fault)
deriving DecidableEq, Repr

def SyntaxProblem.message : SyntaxProblem → String
  | remainder rest =>
    "Parser did not consume all input. Remainder: '" ++ String.ofList rest ++ "'"
  | unreadable fault => "Parsing Error: " ++ fault.text
  | hard fault => "Parsing Failure: " ++ fault.text

/-- The literals that may be too large for their kind. -/
inductive NumeralSort
  | integer
  | real
  | decimal
deriving DecidableEq, Repr

def NumeralSort.name : NumeralSort → String
  | integer => "integer"
  | real => "real number"
  | decimal => "decimal number"

/-- What a declared name is for. -/
inductive NameRole
  | ofVariable
  | ofParameter
deriving DecidableEq, Repr

def NameRole.name : NameRole → String
  | ofVariable => "variable"
  | ofParameter => "parameter"

/-- Why an expression or a declaration has no meaning in a context. -/
inductive Problem
  | unreadable (sort : NumeralSort) (source : String)
  | unknownName (name : String)
  | unknownFunction (name : String)
  | noOverload (name : String)
  | ambiguousCall (name : String)
  | conditionalArity
  | conditionNotBoolean
  | branchesDiffer
  | nullTestArity
  | unknownMember (member : String) (target : Ty)
  | ambiguousMember (member : String) (target : Ty)
  | operands (problem : OperandProblem)
  | inconvertible
  | invalidName (name : String) (role : NameRole)
  | tooManyParameters (limit : Nat)
  | duplicateParameter (name : String)
  | parameterCount
  | parameterType (name : String)
deriving DecidableEq, Repr

/-- The complaint about a numeral that does not fit. -/
def unreadableMessage (sort : NumeralSort) (source : String) : String :=
  "Error parsing '" ++ source ++ "' as " ++ sort.name ++ " literal."

def Problem.message : Problem → String
  | unreadable sort source => unreadableMessage sort source
  | unknownName name => "No parameter or variable with name '" ++ name ++ "' found."
  | unknownFunction name => "Function '" ++ name ++ "' not found."
  | noOverload name => "The function '" ++ name ++ "' does not match the given parameters."
  | ambiguousCall name => "The function '" ++ name ++ "' is ambiguous for the given parameters."
  | conditionalArity => "The conditional must have three arguments."
  | conditionNotBoolean =>
    "The first parameter of the conditional must be a boolean value (true or false)."
  | branchesDiffer =>
    "The second and third parameter of the conditional must have the same type or must be numeric "
      ++ "and harmonizable."
  | nullTestArity => "The null test must have one argument."
  | unknownMember member target =>
    "Could not find member '" ++ member ++ "' in target type '" ++ target.name ++ "'."
  | ambiguousMember member target =>
    "Member identifier '" ++ member ++ "' is ambiguous for target type '" ++ target.name ++ "'."
  | operands problem => problem.message
  | inconvertible => "Error compiling the expression."
  | invalidName name role => "'" ++ name ++ "' is not a valid " ++ role.name ++ " name."
  | tooManyParameters limit =>
    "At most " ++ String.ofList (Digits.ofNat limit) ++ " parameters are supported."
  | duplicateParameter name => "The parameter '" ++ name ++ "' is declared twice."
  | parameterCount => "The number of parameters does not match the evaluation context."
  | parameterType name => "The type of parameter '" ++ name ++ "' does not match."

/-- What can go wrong while an expression is evaluated, beside arithmetic. -/
inductive EvaluationFault
  | unreadable (sort : NumeralSort) (source : String)
  | missingParameter (name : String)
  | missingArgument
  | variableType (name held : String) (expected : Ty)
  | conditionType (held : String)
  | parameterCount
  | parameterType (name : String)
  | incomparable (left right : String) (op : Operator)
  | nullTarget (member : String)
  | memberTarget (member held : String)
deriving DecidableEq, Repr

def EvaluationFault.message : EvaluationFault → String
  | unreadable sort source => unreadableMessage sort source
  | missingParameter name => "Missing value for parameter '" ++ name ++ "'."
  | missingArgument => "Missing function argument."
  | variableType name held expected =>
    "The variable '" ++ name ++ "' holds a " ++ held ++ " but was checked as " ++ expected.name
      ++ "."
  | conditionType held =>
    "The condition evaluated to " ++ held ++ " instead of a boolean value."
  | parameterCount => "The number of parameters does not match the evaluation context."
  | parameterType name => "The type of parameter '" ++ name ++ "' does not match."
  | incomparable left right op =>
    "The operands " ++ left ++ " and " ++ right ++ " are not supported by the comparison operator '"
      ++ op.name ++ "'."
  | nullTarget member => "Null reference while reading member '" ++ member ++ "'."
  | memberTarget member held =>
    "Member '" ++ member ++ "' cannot be read from a value of type " ++ held ++ "."

/-- Why a text has no value. Where it is `aborted` the program has stopped in the middle. -/
inductive Error
  | aborted
  | malformed (text : String) (problem : SyntaxProblem)
  | semantic (problems : List Problem)
  | evaluation (fault : EvaluationFault)
  | function (name message : String)
  | divisionByZero
  | overflow (operation : String)
  | unknownVariable (name : String)
  | keywordName (name : String)
  | value (error : ValueError)
deriving DecidableEq, Repr

namespace Error

def message : Error → String
  | aborted => "Stopped inside of a character"
  | malformed text problem => "Syntax error in '" ++ text ++ "': " ++ problem.message
  | semantic problems =>
    "Semantic error: " ++ "\n".intercalate (problems.map Problem.message)
  | evaluation fault => "Evaluation error: " ++ fault.message
  | function name message => "Function '" ++ name ++ "' error: " ++ message
  | divisionByZero => "Division by zero"
  | overflow operation => "Arithmetic overflow in operation '" ++ operation ++ "'"
  | unknownVariable name => "Variable '" ++ name ++ "' not found"
  | keywordName name => "The name '" ++ name ++ "' is a language keyword"
  | value error => error.message

/-- What a hard fault is for a text: one of the text, or the end of the program. -/
def ofHard (text : String) (f : Fault) : Error :=
  if f.code = .torn then aborted else malformed text (.hard f)

/-- A failed conversion as a failed evaluation. -/
def ofValue {α : Type} (x : Except ValueError α) : Except Error α := x.mapError value

@[simp] theorem ofValue_ok {α : Type} (a : α) : ofValue (.ok a) = .ok a := rfl

@[simp] theorem ofValue_error {α : Type} (e : ValueError) :
    ofValue (.error e : Except ValueError α) = .error (value e) := rfl

end Error

end ExprLang
