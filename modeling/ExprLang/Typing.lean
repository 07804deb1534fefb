import ExprLang.Context.Basic
import ExprLang.Expr.Basic

set_option autoImplicit false

/-!
Static types and the semantic check. Names, calls and members are resolved by static types alone.
The check lists the problems of all parts that are not already in trouble themselves, left to right
and parts before wholes; the type of an expression means something when there are none.
-/

namespace ExprLang

/-- What a name stands for. -/
inductive NameBinding
  | parameter (position : Nat) (ty : Ty)
  | kept (slot : Slot)

namespace NameBinding

def ty : NameBinding → Ty
  | parameter _ ty => ty
  | kept slot => slot.content.ty

end NameBinding

namespace Context

/-- A name is first of all a parameter. -/
def name? (c : Context) (m : Memory) (name : String) : Option NameBinding :=
  match c.parameterPosition? name with
  | some i => c.parameters[i]?.map fun p => .parameter i p.ty
  | none => (c.slot? m name).map .kept

def handle (c : Context) (name : String) (ts : List Ty) : Except Problem Handle :=
  match c.group? name with
  | none => .error (.unknownFunction name)
  | some g =>
    match g.resolve ts with
    | .ok h => .ok h
    | .error .none => .error (.noOverload name)
    | .error .ambiguous => .error (.ambiguousCall name)

def member (c : Context) (target : Ty) (name : String) : Except Problem Member :=
  match c.frame.members target name with
  | .found member => .ok member
  | .notFound => .error (.unknownMember name target)
  | .ambiguous => .error (.ambiguousMember name target)

end Context

/-- The type of both branches of a conditional. -/
def branchTy? (t u : Ty) : Option Ty :=
  if t = u then some t
  else do
    let k ← Kind.meet? (← t.kind?) (← u.kind?)
    return .numeric k

/-- The type of a literal, which does not depend on the context. -/
def Literal.ty : Literal → Ty
  | null => .object
  | boolean _ => .boolean
  | integer n => .numeric ((n.map Number.kind).getD (.int .int32))
  | real n => .numeric ((n.map Number.kind).getD .double)
  | decimal _ => .numeric .decimal
  | string _ => .string

namespace Expr

mutual

def ty (c : Context) (m : Memory) : Expr → Ty
  | literal v _ => v.ty
  | ident name => ((c.name? m name).map NameBinding.ty).getD .object
  | call name arguments =>
    match c.handle name (tys c m arguments) with
    | .ok h => h.result
    | .error _ => .object
  | conditional _ arguments =>
    match tys c m arguments with
    | [_, t, u] => (branchTy? t u).getD .object
    | _ => .object
  | nullTest _ _ => .boolean
  | member target name =>
    match c.member (target.ty c m) name with
    | .ok found => found.ty
    | .error _ => .object
  | group inner => inner.ty c m
  | operation left op right => op.resultTy (left.ty c m) (right.ty c m)

def tys (c : Context) (m : Memory) : List Expr → List Ty
  | [] => []
  | e :: es => e.ty c m :: tys c m es

end

/-- The problem of a result that is missing. -/
def problemOf {α : Type} : Except Problem α → List Problem
  | .ok _ => []
  | .error p => [p]

/-- The problems of an expression itself, where its parts have none. -/
def ownProblems (c : Context) (m : Memory) : Expr → List Problem
  | literal (.integer none) source => [.unreadable .integer source]
  | literal (.real none) source => [.unreadable .real source]
  | literal (.decimal none) source => [.unreadable .decimal source]
  | literal _ _ => []
  | ident name => if (c.name? m name).isSome then [] else [.unknownName name]
  | call name arguments => problemOf (c.handle name (tys c m arguments))
  | conditional _ arguments =>
    match tys c m arguments with
    | [t, u, v] =>
      (if t = .boolean then [] else [.conditionNotBoolean])
        ++ (if (branchTy? u v).isSome then [] else [.branchesDiffer])
    | _ => [.conditionalArity]
  | nullTest _ arguments => if arguments.length = 1 then [] else [.nullTestArity]
  | member target name => problemOf (c.member (target.ty c m) name)
  | group _ => []
  | operation left op right => (op.problems (left.ty c m) (right.ty c m)).map .operands

mutual

def problems (c : Context) (m : Memory) : Expr → List Problem
  | literal v source => ownProblems c m (literal v source)
  | ident name => ownProblems c m (ident name)
  | call name arguments =>
    match problemsAll c m arguments with
    | [] => ownProblems c m (call name arguments)
    | ps => ps
  | conditional name arguments =>
    match problemsAll c m arguments with
    | [] => ownProblems c m (conditional name arguments)
    | ps => ps
  | nullTest name arguments =>
    match problemsAll c m arguments with
    | [] => ownProblems c m (nullTest name arguments)
    | ps => ps
  | member target name =>
    match target.problems c m with
    | [] => ownProblems c m (member target name)
    | ps => ps
  | group inner => inner.problems c m
  | operation left op right =>
    match left.problems c m ++ right.problems c m with
    | [] => ownProblems c m (operation left op right)
    | ps => ps

def problemsAll (c : Context) (m : Memory) : List Expr → List Problem
  | [] => []
  | e :: es => e.problems c m ++ problemsAll c m es

end

theorem tys_eq_map (c : Context) (m : Memory) (es : List Expr) : tys c m es = es.map (ty c m) := by
  induction es with
  | nil => rfl
  | cons e es ih => rw [tys, ih, List.map_cons]

end Expr

namespace Context

/-- Reads a text and checks it. -/
def check (c : Context) (m : Memory) (text : String) : Except Error Expr := do
  let e ← c.parse text
  match e.problems c m with
  | [] => return e
  | ps => .error (.semantic ps)

end Context

end ExprLang
