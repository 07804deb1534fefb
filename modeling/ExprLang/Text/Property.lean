import ExprLang.Text.Property.Basic
import ExprLang.Text.Property.Clusters
import ExprLang.Text.Property.Identifiers
import ExprLang.Text.Property.Ideographs
import ExprLang.Text.Property.Letters
import ExprLang.Text.Property.Pictures
import ExprLang.Text.Property.Signs

set_option autoImplicit false

/-! All properties that characters have or lack. -/

namespace ExprLang.Property

def all : List Property :=
  letters ++ identifiers ++ clusters ++ signs ++ pictures ++ ideographs

end ExprLang.Property
