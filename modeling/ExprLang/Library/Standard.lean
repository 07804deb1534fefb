import ExprLang.Library.Casts
import ExprLang.Library.Logic
import ExprLang.Library.Math
import ExprLang.Library.Patterns
import ExprLang.Library.Strings

set_option autoImplicit false

/-! The built-in packages, and contexts that have them. -/

namespace ExprLang.Library

/-- All packages in the order in which they are loaded, where `sample` is what `rand` yields. -/
def packages (sample : Float) : List Package := [logic, math sample, casts, strings, patterns]

/-- A context of a language that has all packages itself. -/
def standard (sample : Float) (o : Options) (m : Memory) : Except Error (Context × Memory) :=
  let (c, m) := Context.new o m
  Package.loadAll (packages sample) c m

end ExprLang.Library
