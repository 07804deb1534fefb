import ExprLang.Text.Category.Letter
import ExprLang.Text.Category.Mark
import ExprLang.Text.Category.Number
import ExprLang.Text.Category.Other
import ExprLang.Text.Category.Punctuation
import ExprLang.Text.Category.Symbol

set_option autoImplicit false

/-!
The general categories of characters with the ranges of each.
-/

namespace ExprLang

/-- The general categories under their two letter names. -/
inductive Category
  | lu | ll | lt | lm | lo
  | mn | mc | me
  | nd | nl | no
  | pc | pd | ps | pe | pi | pf | po
  | sm | sc | sk | so
  | zs | zl | zp
  | cc | cf | co | cn
deriving DecidableEq, Repr

namespace Category

/-- The categories that have ranges; everything else is unassigned. -/
def assigned : List Category :=
  [lu, ll, lt, lm, lo, mn, mc, me, nd, nl, no, pc, pd, ps, pe, pi, pf, po, sm, sc, sk, so, zs, zl,
    zp, cc, cf, co]

def ranges : Category → List (Nat × Nat)
  | lu => uppercaseLetters
  | ll => lowercaseLetters
  | lt => titlecaseLetters
  | lm => modifierLetters
  | lo => otherLetters
  | mn => nonspacingMarks
  | mc => spacingMarks
  | me => enclosingMarks
  | nd => decimalDigits
  | nl => letterNumbers
  | no => otherNumbers
  | pc => connectors
  | pd => dashes
  | ps => openings
  | pe => closings
  | pi => initialQuotes
  | pf => finalQuotes
  | po => otherPunctuation
  | sm => mathSymbols
  | sc => currencySymbols
  | sk => modifierSymbols
  | so => otherSymbols
  | zs => spaces
  | zl => lineSeparators
  | zp => paragraphSeparators
  | cc => controls
  | cf => formats
  | co => privateUse
  | cn => []

/-- Whether a code point lies in one of the ranges. -/
def inRanges (rs : List (Nat × Nat)) (n : Nat) : Bool := rs.any fun (a, b) => a ≤ n && n ≤ b

end Category

end ExprLang
