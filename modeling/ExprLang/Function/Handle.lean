import ExprLang.Error
import ExprLang.Value.Embedded

set_option autoImplicit false

/-!
Functions that an application gives to the language. A handle has a type for each argument and for
its result; a function on embedded types becomes a handle by taking each argument as a member of its
type.
-/

namespace ExprLang

/-- A function with its signature. The function itself sees whatever values it is called with. -/
structure Handle where
  parameters : List Ty
  result : Ty
  run : List Value → Except Error Value

/-- The functions that can be handles: curried over embedded types, ending in a result that may
fail. -/
class HostFunction (φ : Type) where
  parameters : List Ty
  result : Ty
  apply : φ → List Value → Except Error Value

instance (ρ : Type) [Embedded ρ] : HostFunction (Except Error ρ) where
  parameters := []
  result := Embedded.ty ρ
  apply r _ := r.map Embedded.toValue

instance (α φ : Type) [Embedded α] [HostFunction φ] : HostFunction (α → φ) where
  parameters := Embedded.ty α :: HostFunction.parameters φ
  result := HostFunction.result φ
  apply f
    | [] => .error (.evaluation .missingArgument)
    | v :: vs =>
      match Embedded.ofValue α v with
      | .ok a => HostFunction.apply (f a) vs
      | .error e => .error (.value e)

/-- The handle of a function on embedded types. It takes its arguments in order and does not look at
further ones. -/
def Handle.of {φ : Type} [HostFunction φ] (f : φ) : Handle :=
  ⟨HostFunction.parameters φ, HostFunction.result φ, HostFunction.apply f⟩

/-- The handle of a function of one argument that cannot fail. -/
def Handle.ofUnary {α ρ : Type} [Embedded α] [Embedded ρ] (f : α → ρ) : Handle :=
  Handle.of fun a => (Except.ok (f a) : Except Error ρ)

/-- The handle of a function of two arguments that cannot fail. -/
def Handle.ofBinary {α β ρ : Type} [Embedded α] [Embedded β] [Embedded ρ] (f : α → β → ρ) :
    Handle :=
  Handle.of fun a b => (Except.ok (f a b) : Except Error ρ)

end ExprLang
