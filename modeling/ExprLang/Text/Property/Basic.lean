import ExprLang.Text.Category
import ExprLang.Text.CharSet

set_option autoImplicit false

/-!
Properties that characters have or lack. Most of them follow the general categories but for a few
characters, so a property is kept as categories with the exceptions both ways.
-/

namespace ExprLang

/-- The set of the characters of some categories. -/
def categorySet (ks : List Category) : CharSet := CharSet.ofRanges (ks.flatMap Category.ranges)

/-- A property under its names in lower case: it belongs to the characters of its categories and to
those of `more`, and it does not belong to those of `less`. -/
structure Property where
  names : List String
  categories : List Category := []
  more : List (Nat × Nat) := []
  less : List (Nat × Nat) := []

def Property.chars (p : Property) : CharSet :=
  ((categorySet p.categories).union (CharSet.ofRanges p.more)).diff (CharSet.ofRanges p.less)

def Property.named? (ps : List Property) (name : String) : Option Property :=
  ps.find? fun p => p.names.contains name

end ExprLang
