import ExprLang.Text.Case

set_option autoImplicit false

/-!
What can vary in the language: the words, where letter case matters, the quote of string literals,
and whether members may be read.
-/

namespace ExprLang

/-- The quote that encloses string literals. -/
inductive Quote
  | double
  | single
  | backtick
deriving DecidableEq, Repr

def Quote.char : Quote → Char
  | double => '"'
  | single => '\''
  | backtick => Char.ofNat 96

structure Options where
  memberRead : Bool := false
  ignoreOperatorCase : Bool := false
  ignoreBooleanCase : Bool := false
  ignoreNullCase : Bool := false
  ignoreNullTestCase : Bool := false
  ignoreConditionalCase : Bool := false
  ignoreVariableCase : Bool := false
  ignoreParameterCase : Bool := false
  ignoreFunctionCase : Bool := false
  quote : Quote := .double
  andWord : String := "and"
  orWord : String := "or"
  xorWord : String := "xor"
  trueWord : String := "true"
  falseWord : String := "false"
  nullWord : String := "null"
  conditionalWord : String := "if"
  nullTestWord : String := "isnull"
deriving DecidableEq, Repr

namespace Options

/-- The words that are no names, each with whether its letter case has no meaning. The word of the
null test is an ordinary name that a call gives its meaning. -/
def reserved (o : Options) : List (String × Bool) :=
  [(o.andWord, o.ignoreOperatorCase), (o.orWord, o.ignoreOperatorCase),
    (o.xorWord, o.ignoreOperatorCase), (o.nullWord, o.ignoreNullCase),
    (o.trueWord, o.ignoreBooleanCase), (o.falseWord, o.ignoreBooleanCase),
    (o.conditionalWord, o.ignoreConditionalCase)]

def keywords (o : Options) : List String := o.reserved.map (·.1)

def isKeyword (o : Options) (word : String) : Bool :=
  o.reserved.any fun (w, ignoreCase) => namesEqual ignoreCase word w

/-- The same options where letter case has no meaning anywhere. -/
def ignoringCase (o : Options) : Options :=
  { o with
    ignoreOperatorCase := true
    ignoreBooleanCase := true
    ignoreNullCase := true
    ignoreNullTestCase := true
    ignoreConditionalCase := true
    ignoreVariableCase := true
    ignoreParameterCase := true
    ignoreFunctionCase := true }

end Options

end ExprLang
