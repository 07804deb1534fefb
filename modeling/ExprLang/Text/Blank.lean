set_option autoImplicit false

/-!
Two classes of blank characters: the four that may stand between the parts of an expression, and all
white space of the standard, which is trimmed off texts before they are read as numbers.
-/

namespace ExprLang

/-- A character that may stand between the parts of an expression. -/
def isBlank (c : Char) : Bool := c = ' ' || c = '\t' || c = '\r' || c = '\n'

def isWhiteSpace (c : Char) : Bool :=
  let n := c.toNat
  (9 ≤ n && n ≤ 13) || n = 0x20 || n = 0x85 || n = 0xA0 || n = 0x1680 || (0x2000 ≤ n && n ≤ 0x200A)
    || n = 0x2028 || n = 0x2029 || n = 0x202F || n = 0x205F || n = 0x3000

def trimStart (cs : List Char) : List Char := cs.dropWhile isWhiteSpace

def trim (cs : List Char) : List Char := (trimStart (trimStart cs).reverse).reverse

def trimEnd (cs : List Char) : List Char := (trimStart cs.reverse).reverse

end ExprLang
