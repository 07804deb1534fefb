import ExprLang.Value.Conversion

set_option autoImplicit false

/-!
The types of the embedding program whose members are values of one static type of the language. A
value is taken as a member without any numeric conversion.
-/

namespace ExprLang

/-- A type whose members are values of the static type `ty`. -/
class Embedded (α : Type) where
  ty : Ty
  toValue : α → Value
  /-- The member that a value of another type is, if any. -/
  member? : Value → Option α
  /-- Whether `null` is a member. -/
  null? : Option α

namespace Embedded

def ofValue (α : Type) [Embedded α] (v : Value) : Except ValueError α :=
  match member? v with
  | some a => .ok a
  | none =>
    if v.isNull then
      match (null? : Option α) with
      | some a => .ok a
      | none => .error (.nullValue (ty α).name)
    else .error (.invalidCast v.typeName (ty α).name)

instance : Embedded Bool where
  ty := .boolean
  toValue := .bool
  member? := Value.bool?
  null? := none

instance (k : IntKind) : Embedded (Integer k) where
  ty := .int k
  toValue n := .number (.int k n)
  member?
    | .number (.int l n) => if h : l = k then some (h ▸ n) else none
    | _ => none
  null? := none

instance : Embedded Float32 where
  ty := .numeric .single
  toValue x := .number (.single x)
  member?
    | .number (.single x) => some x
    | _ => none
  null? := none

instance : Embedded Float where
  ty := .numeric .double
  toValue x := .number (.double x)
  member?
    | .number (.double x) => some x
    | _ => none
  null? := none

instance : Embedded Decimal where
  ty := .numeric .decimal
  toValue d := .number (.decimal d)
  member?
    | .number (.decimal d) => some d
    | _ => none
  null? := none

instance : Embedded String where
  ty := .string
  toValue := .string
  member? := Value.string?
  null? := none

/-- A string that may be `null`. -/
instance : Embedded (Option String) where
  ty := .string
  toValue
    | some s => .string s
    | none => .null
  member?
    | .string s => some (some s)
    | _ => none
  null? := some none

/-- Any value at all. -/
instance : Embedded Value where
  ty := .object
  toValue v := v
  member? := some
  null? := some .null

end Embedded

/-- Argument lists with a fixed type for each place. -/
class ArgumentList (α : Type) where
  types : List Ty
  toValues : α → List Value
  /-- Takes the first values as members of the types; a missing one counts as `null`. -/
  ofValues : List Value → Except ValueError α

namespace ArgumentList

instance : ArgumentList Unit where
  types := []
  toValues _ := []
  ofValues _ := .ok ()

instance (α β : Type) [Embedded α] [ArgumentList β] : ArgumentList (α × β) where
  types := Embedded.ty α :: types β
  toValues x := Embedded.toValue x.1 :: toValues x.2
  ofValues vs := do
    let a ← Embedded.ofValue α (vs.headD .null)
    return (a, ← ofValues vs.tail)

end ArgumentList

end ExprLang
