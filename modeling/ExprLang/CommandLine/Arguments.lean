import ExprLang.Numeric.Digits

set_option autoImplicit false

/-!
Arguments of a command: flags, options with a value, and operands. The value of an option is joined
by an equals sign or is the next argument, which must not look like an option itself; two hyphens
make operands of all that follows.
-/

namespace ExprLang.CommandLine

/-- What a name that starts with two hyphens takes. -/
inductive Arity
  | flag
  | value
  /-- A value that may be a negative number. -/
  | signedValue
deriving DecidableEq, Repr

/-- An argument as the command takes it. -/
inductive Item
  | flag (name : String)
  | option (name value : String)
  | operand (text : String)
deriving DecidableEq, Repr

abbrev Names := List (String × Arity)

/-- Whether digits, a point and an exponent make a number. Neither the point nor the exponent comes
first, and the exponent is not the last character. -/
def looksNumeric (cs : List Char) : Bool :=
  let whole := cs.takeWhile fun c => c ≠ 'e' && c ≠ 'E'
  let exponent := cs.drop whole.length
  let digits := whole.filter (· ≠ '.')
  whole ≠ [] && whole.head? ≠ some '.' && digits.all Char.isDigit
    && whole.length ≤ digits.length + 1
    && (exponent = [] || (exponent.tail ≠ [] && exponent.tail.all Char.isDigit))

/-- Whether the next argument can be the value of an option. -/
def canBeValue (signed : Bool) (text : String) : Bool :=
  match text.toList with
  | '-' :: '-' :: _ => false
  | '-' :: c :: cs => signed && looksNumeric (c :: cs)
  | _ => true

/-- Splits an argument at the first equals sign. -/
def splitValue (cs : List Char) : String × Option String :=
  (String.ofList (cs.takeWhile (· ≠ '=')),
    match cs.dropWhile (· ≠ '=') with
    | _ :: value => some (String.ofList value)
    | [] => none)

/-- Reads the arguments of a command up to the first operand that `isCommand` holds of, and returns
that with what follows. There are none when an argument does not fit. -/
def scan (names : Names) (isCommand : String → Bool) :
    List String → Option (List Item × Option (String × List String))
  | [] => some ([], none)
  | text :: rest =>
    let further := fun (item : Item)
        (result : Option (List Item × Option (String × List String))) =>
      result.map fun (items, command) => (item :: items, command)
    match text.toList with
    | ['-', '-'] => some (rest.map .operand, none)
    | '-' :: '-' :: cs =>
      let (name, value) := splitValue cs
      match names.lookup name, value with
      | some .flag, none => further (.flag name) (scan names isCommand rest)
      | some .flag, some _ | none, _ => none
      | some _, some value => further (.option name value) (scan names isCommand rest)
      | some arity, none =>
        match rest with
        | value :: rest =>
          if canBeValue (arity = .signedValue) value then
            further (.option name value) (scan names isCommand rest)
          else none
        | [] => none
    | '-' :: _ :: _ => none
    | _ =>
      if isCommand text then some ([], some (text, rest))
      else further (.operand text) (scan names isCommand rest)

/-! Looking at what was read -/

/-- The values of an option in order. -/
def valuesOf (items : List Item) (name : String) : List String :=
  items.filterMap fun
    | .option n value => if n = name then some value else none
    | _ => none

def operands (items : List Item) : List String :=
  items.filterMap fun
    | .operand text => some text
    | _ => none

def hasFlag (items : List Item) (name : String) : Bool := items.contains (.flag name)

/-- Whether no flag stands twice, and no option but those that may be repeated. -/
def isUnrepeated (repeatable : List String) (items : List Item) : Bool :=
  let names := items.filterMap fun
    | .flag name => some name
    | .option name _ => if name ∈ repeatable then none else some name
    | .operand _ => none
  names.eraseDups = names

end ExprLang.CommandLine
