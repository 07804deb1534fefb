import ExprLang.Library.Package

set_option autoImplicit false

/-! The package of logic, which is negation. -/

namespace ExprLang.Library

def logic : Package where
  functions := [("not", .ofUnary fun (b : Bool) => !b)]

end ExprLang.Library
