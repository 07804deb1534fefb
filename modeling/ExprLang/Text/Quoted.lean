import ExprLang.Numeric.Digits
import ExprLang.Text.Category

set_option autoImplicit false

/-!
Texts in double quotes as error messages show them: quotes, backslashes and the common control
characters get a backslash, and what would not be seen is written as its number.
-/

namespace ExprLang.Quoted

/-- The digits of `n` in base sixteen, in lower case. -/
def hex (n : Nat) : List Char :=
  let digit := fun d => if d < 10 then Digits.char d else Char.ofNat (87 + d)
  if n < 16 then [digit n] else hex (n / 16) ++ [digit (n % 16)]

/-- How a character is written. -/
def encodeChar (c : Char) : List Char :=
  match c with
  | '\x00' => ['\\', '0']
  | '\t' => ['\\', 't']
  | '\n' => ['\\', 'n']
  | '\r' => ['\\', 'r']
  | '"' => ['\\', '"']
  | '\\' => ['\\', '\\']
  | c =>
    if 32 ≤ c.toNat ∧ c.toNat < 127 then [c]
    else if Category.isExtending c || Category.isInvisible c then
      ['\\', 'u', '{'] ++ hex c.toNat ++ ['}']
    else [c]

/-- The characters in quotes. -/
def encode (cs : List Char) : List Char := '"' :: cs.flatMap encodeChar ++ ['"']

end ExprLang.Quoted
