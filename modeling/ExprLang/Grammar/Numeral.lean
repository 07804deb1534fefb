import ExprLang.Expr.Basic
import ExprLang.Grammar.Reading

set_option autoImplicit false

/-!
Numerals: an optional sign with blanks after it, digits, an optional fraction, and an optional
letter that tells the kind. They are tried as decimals, which need their letter, as reals, which need
a letter or a fraction, and as integers. A numeral without letter is an integer of the narrowest of
two kinds, or a real that is single when nothing is lost.
-/

namespace ExprLang.Grammar

/-- The digits of a numeral before its letter. -/
structure Numeral where
  negative : Bool
  whole : List Char
  fraction : Option (List Char)

namespace Numeral

/-- The digits with sign and point and without blanks. -/
def chars (n : Numeral) : List Char :=
  (if n.negative then ['-'] else []) ++ n.whole
    ++ (match n.fraction with
      | some places => '.' :: places
      | none => [])

/-- The integer that the digits before the point denote. -/
def toInt (n : Numeral) : Int :=
  if n.negative then -(Digits.toNat n.whole) else Digits.toNat n.whole

def written (n : Numeral) : Binary.Written :=
  let places := n.fraction.getD []
  .decimal n.negative (Digits.toNat (n.whole ++ places)) (-places.length)

/-- The integer in the first of the kinds that can hold it. -/
def integerOf (n : Numeral) (kinds : List IntKind) : Literal :=
  .integer (kinds.findSome? fun k => (Integer.ofInt? k n.toInt).map (.int k))

/-- The real as a single when the double has no more to it. -/
def realOf (n : Numeral) : Literal :=
  let x := n.written.toDouble
  let y := (Binary.ofDouble x).toSingle
  .real (some (if (Binary.ofSingle y).toDouble == x then .single y else .double x))

end Numeral

/-- The letters of decimals, of singles and doubles, and of the two kinds of integers. -/
def decimalLetters : List Char := ['m', 'M']

def realLetters : List Char := ['f', 'F'] ++ ['d', 'D']

def narrowLetters : List Char := ['i', 'I']

def wideLetters : List Char := ['l', 'L']

def integerLetters : List Char := narrowLetters ++ wideLetters

def digits? (s : List Char) : Option (Taken s (List Char)) :=
  if s.takeWhile Char.isDigit = [] then none
  else some ⟨s.takeWhile Char.isDigit, s.dropWhile Char.isDigit, List.dropWhile_suffix _⟩

/-- Reads a sign with the blanks after it, if there is one. -/
def sign (s : List Char) : Taken s Bool :=
  match (past? '-' s).map (true, ·) <|> (past? '+' s).map (false, ·) with
  | some (negative, p) => ⟨negative, skipBlanks p.rest, (skipBlanks_suffix _).trans p.suffix⟩
  | none => ⟨false, s, List.suffix_refl s⟩

def fraction? (s : List Char) : Option (Taken s (List Char)) :=
  (past? '.' s).bind fun p => (digits? p.rest).map (·.within p.suffix)

def integerDigits? (s : List Char) : Option (Taken s Numeral) :=
  let sign := sign s
  (digits? sign.rest).map fun whole =>
    ⟨⟨sign.value, whole.value, none⟩, whole.rest, whole.suffix.trans sign.suffix⟩

/-- Reads a sign and digits, and a fraction if there is one. -/
def numeralDigits? (s : List Char) : Option (Taken s Numeral) :=
  (integerDigits? s).map fun t =>
    match fraction? t.rest with
    | some places =>
      ⟨⟨t.value.negative, t.value.whole, some places.value⟩, places.rest,
        places.suffix.trans t.suffix⟩
    | none => t

/-- The text that was read between `s` and what follows. -/
def consumed (s rest : List Char) : String := String.ofList (s.take (s.length - rest.length))

/-- The literal whose source is the text up to here. -/
def Taken.literal {s : List Char} {α : Type} (t : Taken s α) (v : Literal) : Taken s Expr :=
  ⟨.literal v (consumed s t.rest), t.rest, t.suffix⟩

def decimalLiteral? (s : List Char) : Option (Taken s Expr) :=
  (numeralDigits? s).bind fun t =>
    (oneOf? decimalLetters t.rest).map fun letter =>
      (letter.within t.suffix).literal (.decimal (Decimal.parse? t.value.chars))

def realLiteral? (s : List Char) : Option (Taken s Expr) :=
  (numeralDigits? s).bind fun t =>
    match oneOf? realLetters t.rest with
    | some letter =>
      let x : Number := if letter.value ∈ ['f', 'F'] then .single t.value.written.toSingle
        else .double t.value.written.toDouble
      some ((letter.within t.suffix).literal (.real (some x)))
    | none => if t.value.fraction.isSome then some (t.literal t.value.realOf) else none

def integerLiteral? (s : List Char) : Option (Taken s Expr) :=
  (integerDigits? s).map fun t =>
    match oneOf? integerLetters t.rest with
    | some letter =>
      let kind : IntKind := if letter.value ∈ narrowLetters then .int32 else .int64
      (letter.within t.suffix).literal (t.value.integerOf [kind])
    | none => t.literal (t.value.integerOf [.int32, .int64])

def numeral? (s : List Char) : Option (Taken s Expr) :=
  decimalLiteral? s <|> realLiteral? s <|> integerLiteral? s

end ExprLang.Grammar
