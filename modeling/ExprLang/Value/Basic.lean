import ExprLang.Numeric.Number

set_option autoImplicit false

/-!
Static types and runtime values. `null` belongs to every reference type, every value belongs to
`object`, and any other value belongs to one more type, its own.
-/

namespace ExprLang

inductive Ty
  | boolean
  | numeric (k : Kind)
  | string
  | object
  | host (name : String)
deriving DecidableEq, Repr

namespace Ty

def int (k : IntKind) : Ty := numeric (.int k)

def name : Ty → String
  | boolean => "boolean"
  | numeric k => k.name
  | string => "string"
  | object => "object"
  | host name => name

def kind? : Ty → Option Kind
  | numeric k => some k
  | _ => none

def isNumeric : Ty → Bool
  | numeric _ => true
  | _ => false

/-- Values of a reference type may be `null`. -/
def isReference : Ty → Bool
  | boolean | numeric _ => false
  | string | object | host _ => true

/-- A value of type `t` may be passed where `u` is wanted; for numbers of another kind it is widened
on the way. -/
def assignableTo : Ty → Ty → Bool
  | _, object => true
  | numeric k, numeric l => k = l || k.widensTo l
  | t, u => t = u

theorem assignableTo_refl (t : Ty) : t.assignableTo t = true := by
  cases t <;> simp [assignableTo]

theorem assignableTo_object (t : Ty) : t.assignableTo object = true := by
  cases t <;> rfl

end Ty

/-- A value that belongs to the embedding application. The language sees its type's name, tells it
apart by its identity, and can write its text. -/
structure HostObject where
  typeName : String
  id : Nat
  text : String
deriving DecidableEq

/-- Two host objects are the same object when type and identity agree. -/
def HostObject.same (a b : HostObject) : Bool := a.typeName = b.typeName && a.id = b.id

inductive Value
  | null
  | bool (b : Bool)
  | number (n : Number)
  | string (s : String)
  | host (o : HostObject)
deriving DecidableEq

namespace Value

def int32 (n : Integer .int32) : Value := number (.int .int32 n)

def double (x : Float) : Value := number (.double x)

def decimal (d : Decimal) : Value := number (.decimal d)

def isNull : Value → Bool
  | null => true
  | _ => false

/-- The value's own type; `null` has none but `object`. -/
def ty : Value → Ty
  | null => .object
  | bool _ => .boolean
  | number n => .numeric n.kind
  | string _ => .string
  | host o => .host o.typeName

def typeName : Value → String
  | null => "null"
  | v => v.ty.name

def kind? : Value → Option Kind
  | number n => some n.kind
  | _ => none

def bool? : Value → Option Bool
  | bool b => some b
  | _ => none

def string? : Value → Option String
  | string s => some s
  | _ => none

/-- The value as concatenation writes it; `null` is empty. -/
def text : Value → String
  | null => ""
  | bool b => if b then "true" else "false"
  | number n => n.text
  | string s => s
  | host o => o.text

/-- Whether the value may stand where `t` is the static type. -/
def isInstanceOf (v : Value) : Ty → Bool
  | .object => true
  | t => if v.isNull then t.isReference else v.ty = t

/-- Equality as the language sees it: numbers of one kind by value, so a no-number differs from
itself, and host objects by identity. -/
def equal : Value → Value → Bool
  | null, null => true
  | bool a, bool b => a = b
  | number a, number b => a.equal b
  | string a, string b => a = b
  | host a, host b => a.same b
  | _, _ => false

/-- Narrow integers as `int32`, all else as it is. -/
def promoted : Value → Value
  | number n => number n.promoted
  | v => v

theorem isInstanceOf_object (v : Value) : v.isInstanceOf .object = true := by
  cases v <;> rfl

theorem isInstanceOf_ty (v : Value) : v.isInstanceOf v.ty = true := by
  cases v <;> simp [isInstanceOf, ty, isNull]

end Value

end ExprLang
