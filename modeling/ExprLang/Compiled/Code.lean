import ExprLang.Evaluation

set_option autoImplicit false

/-!
Compiled expressions. Everything that the context decides is settled when an expression is compiled:
handles, members, conversions and constants. What is left to read when the code runs are the
arguments and the stores of the variables that are no constants.
-/

namespace ExprLang

/-- An expression with all its names resolved. -/
inductive Code
  | constant (v : Value)
  | parameter (position : Nat) (name : String)
  | slot (store : StoreId) (key : String) (ty : Ty)
  | call (h : Handle) (arguments : List Code)
  | choose (condition first second : Code)
  | isNull (inner : Code)
  | member (found : Member) (name : String) (target : Code)
  | operation (op : Operator) (left right : Code)
  | convert (k : Kind) (inner : Code)
  | expect (t : Ty) (inner : Code)

namespace Code

/-- Reads a variable where it was kept when the code was made. -/
def readSlot (m : Memory) (store : StoreId) (key : String) (t : Ty) : Except Error Value :=
  match (m.store store).get? key with
  | some v => expectVariable key v.value t
  | none => .error (.unknownVariable key)

mutual

/-- Runs code on the arguments for the parameters it was compiled with. -/
def run (m : Memory) (args : List Value) : Code → Except Error Value
  | constant v => .ok v
  | parameter i name => argument args i name
  | slot store key t => readSlot m store key t
  | call h arguments => do h.run (← runAll m args arguments h.parameters)
  | choose condition first second => do
    if ← expectCondition (← condition.run m args) then first.run m args else second.run m args
  | isNull inner => do return .bool (← inner.run m args).isNull
  | member found name target => do found.readFrom name (← target.run m args)
  | operation op left right => do
    let a ← left.run m args
    let b ← right.run m args
    op.apply a b
  | convert k inner => do Error.ofValue ((← inner.run m args).convert k)
  | expect t inner => do
    let v ← inner.run m args
    if v.isInstanceOf t then return v else .error (.value (.invalidCast v.typeName t.name))

/-- The values of arguments as the parameters of a handle want them. -/
def runAll (m : Memory) (args : List Value) : List Code → List Ty → Except Error (List Value)
  | x :: xs, t :: ts => do
    let v ← coerce (← x.run m args) t
    let vs ← runAll m args xs ts
    return v :: vs
  | _, _ => .ok []

end

end Code

/-- Code with the static type of its values. -/
structure Compiled where
  ty : Ty
  code : Code

namespace Compiled

/-- Makes code yield values of a type. Numbers are converted and may overflow, every value is an
object, and an object is looked at when the code runs. No other pair of types fits. -/
def convertTo (x : Compiled) (t : Ty) : Except Error Compiled :=
  if x.ty = t then .ok x
  else if t = .object then .ok ⟨.object, x.code⟩
  else
    match x.ty.kind?, t.kind? with
    | some _, some k => .ok ⟨t, .convert k x.code⟩
    | _, _ =>
      if x.ty = .object then .ok ⟨t, .expect t x.code⟩ else .error (.semantic [.inconvertible])

end Compiled

namespace Context

def compileName (c : Context) (m : Memory) (name : String) : Except Error Compiled :=
  match c.name? m name with
  | some (.parameter i t) => .ok ⟨t, .parameter i name⟩
  | some (.kept slot) =>
    if slot.content.constant then .ok ⟨slot.content.ty, .constant slot.content.value⟩
    else .ok ⟨slot.content.ty, .slot slot.store slot.key slot.content.ty⟩
  | none => .error (.unknownVariable name)

end Context

namespace Expr

mutual

def compile (c : Context) (m : Memory) : Expr → Except Error Compiled
  | literal v source => do return ⟨v.ty, .constant (← v.eval source)⟩
  | ident name => c.compileName m name
  | call name arguments => do
    let h ← Error.ofProblem (c.handle name (tys c m arguments))
    let xs ← compileAll c m arguments
    return ⟨h.result, .call h (xs.map (·.code))⟩
  | conditional _ [condition, first, second] => do
    let result ←
      match branchTy? (first.ty c m) (second.ty c m) with
      | some t => pure t
      | none => .error (.semantic [.inconvertible])
    let x ← condition.compile c m
    let y ← (← first.compile c m).convertTo result
    let z ← (← second.compile c m).convertTo result
    return ⟨result, .choose x.code y.code z.code⟩
  | conditional _ _ => .error (.semantic [.conditionalArity])
  | nullTest _ [e] =>
    if (e.ty c m).isReference then do
      return ⟨.boolean, .isNull (← e.compile c m).code⟩
    else .ok ⟨.boolean, .constant (.bool false)⟩
  | nullTest _ _ => .error (.semantic [.nullTestArity])
  | member target name => do
    let found ← Error.ofProblem (c.member (target.ty c m) name)
    let x ← target.compile c m
    return ⟨found.ty, .member found name x.code⟩
  | group inner => inner.compile c m
  | operation left op right => do
    let x ← left.compile c m
    let y ← right.compile c m
    return ⟨op.resultTy (left.ty c m) (right.ty c m), .operation op x.code y.code⟩

def compileAll (c : Context) (m : Memory) : List Expr → Except Error (List Compiled)
  | [] => .ok []
  | e :: es => do
    let x ← e.compile c m
    let xs ← compileAll c m es
    return x :: xs

end

end Expr

end ExprLang
