import ExprLang.Operator.Apply
import ExprLang.Typing

set_option autoImplicit false

/-!
The value of an expression, found by walking its tree. Names, calls and members are resolved by the
static types once more at each node, so an unchecked expression may fail with a semantic error.
-/

namespace ExprLang

/-- A number where a number of another kind is wanted; other values stay as they are. -/
def coerce (v : Value) (t : Ty) : Except Error Value :=
  match v.kind?, t.kind? with
  | some k, some l => if k = l then .ok v else Error.ofValue (v.convert l)
  | _, _ => .ok v

/-- A variable must still hold a value of the type that was found for it. -/
def expectVariable (name : String) (v : Value) (t : Ty) : Except Error Value :=
  if v.isInstanceOf t then .ok v
  else .error (.evaluation (.variableType name v.typeName t))

/-- The boolean that a condition has come to. -/
def expectCondition (v : Value) : Except Error Bool :=
  match v.bool? with
  | some b => .ok b
  | none => .error (.evaluation (.conditionType v.typeName))

def argument (args : List Value) (position : Nat) (name : String) : Except Error Value :=
  match args[position]? with
  | some v => .ok v
  | none => .error (.evaluation (.missingParameter name))

/-- Reads a member from a target that is there. -/
def Member.readFrom (found : Member) (name : String) (target : Value) : Except Error Value :=
  if target.isNull then .error (memberFault target name) else found.read target

def Literal.eval (source : String) : Literal → Except Error Value
  | null => .ok .null
  | boolean b => .ok (.bool b)
  | integer (some n) => .ok (.number n)
  | integer none => .error (.evaluation (.unreadable .integer source))
  | real (some n) => .ok (.number n)
  | real none => .error (.evaluation (.unreadable .real source))
  | decimal (some d) => .ok (.decimal d)
  | decimal none => .error (.evaluation (.unreadable .decimal source))
  | string s => .ok (.string s)

/-- A missing resolution as an error of its own. -/
def Error.ofProblem {α : Type} (x : Except Problem α) : Except Error α :=
  x.mapError fun p => .semantic [p]

def Context.valueOf (c : Context) (m : Memory) (args : List Value) (name : String) :
    Except Error Value :=
  match c.name? m name with
  | some (.parameter i _) => argument args i name
  | some (.kept slot) => expectVariable name slot.content.value slot.content.ty
  | none => .error (.unknownVariable name)

namespace Expr

mutual

/-- The value of an expression, given the values of the context's parameters. -/
def eval (c : Context) (m : Memory) (args : List Value) : Expr → Except Error Value
  | literal v source => v.eval source
  | ident name => c.valueOf m args name
  | call name arguments => do
    let h ← Error.ofProblem (c.handle name (tys c m arguments))
    h.run (← evalAll c m args arguments h.parameters)
  | conditional _ [condition, first, second] => do
    let t := first.ty c m
    let u := second.ty c m
    let result := (branchTy? t u).getD .object
    if ← expectCondition (← condition.eval c m args) then
      let v ← first.eval c m args
      if t = result then return v else coerce v result
    else
      let v ← second.eval c m args
      if u = result then return v else coerce v result
  | conditional _ _ => .error (.semantic [.conditionalArity])
  | nullTest _ [e] => do return .bool (← e.eval c m args).isNull
  | nullTest _ _ => .error (.semantic [.nullTestArity])
  | member target name => do
    let found ← Error.ofProblem (c.member (target.ty c m) name)
    found.readFrom name (← target.eval c m args)
  | group inner => inner.eval c m args
  | operation left op right => do
    let a ← left.eval c m args
    let b ← right.eval c m args
    op.apply a b

/-- The values of arguments as the parameters of a handle want them. -/
def evalAll (c : Context) (m : Memory) (args : List Value) :
    List Expr → List Ty → Except Error (List Value)
  | e :: es, t :: ts => do
    let v ← coerce (← e.eval c m args) t
    let vs ← evalAll c m args es ts
    return v :: vs
  | _, _ => .ok []

end

end Expr

namespace Context

/-- Checks a text and evaluates it. -/
def interpret (c : Context) (m : Memory) (text : String) (args : List Value) :
    Except Error Value := do
  let e ← c.check m text
  checkArguments c.parameters args
  e.eval c m args

end Context

end ExprLang
