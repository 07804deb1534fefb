import ExprLang.Library.Package
import ExprLang.Text.Blank

set_option autoImplicit false

/-!
The package of casts. A fraction that is cast to an integer kind is rounded to the nearest integer,
halves going to the even one, and fails outside the range. A text is cast to what it reads as,
without the white space around it.
-/

namespace ExprLang.Library.Casts

/-- A number as an integer where an integer kind is wanted. -/
def rounded (k : Kind) : Number → Number
  | .single x =>
    if k.isInteger then .single ((Binary.ofSingle x).round .toEven).toSingle else .single x
  | .double x =>
    if k.isInteger then .double ((Binary.ofDouble x).round .toEven).toDouble else .double x
  | .decimal d => if k.isInteger then .decimal d.round else .decimal d
  | n => n

def castNumber (k : Kind) (v : Value) : Except Error Value :=
  match v with
  | .number n => Error.ofValue ((Value.number (rounded k n)).convert k)
  | v => Error.ofValue (v.convert k)

/-- The number that a text reads as. -/
def castText (function : String) (k : Kind) (v : Value) : Except Error Value :=
  match v with
  | .string s =>
    match Number.parse? k (trim s.toList) with
    | some n => .ok (.number n)
    | none => .error (.function function ("'" ++ s ++ "' is not a valid " ++ k.name ++ "."))
  | v => .error (.function function ("Cannot convert " ++ v.typeName ++ " to " ++ k.name ++ "."))

/-- A handle of one argument that looks at the value itself. -/
def single (parameter result : Ty) (f : Value → Except Error Value) : Handle where
  parameters := [parameter]
  result := result
  run
    | v :: _ => f v
    | [] => .error (.evaluation .missingArgument)

def castName (k : Kind) : String := "c_" ++ k.name

/-- The casts to one kind: from every kind and from texts. -/
def castsTo (k : Kind) : List (String × Handle) :=
  (Kind.all.map fun source =>
      (castName k, single (.numeric source) (.numeric k) (castNumber k)))
    ++ [(castName k, single .string (.numeric k) (castText (castName k) k))]

/-- The casts to text, which every value has. -/
def castsToText : List (String × Handle) :=
  (Kind.all.map Ty.numeric ++ [Ty.boolean, .string, .object]).map fun t =>
    ("c_str", single t .string fun v => .ok (.string v.text))

end Casts

def casts : Package where
  functions := Kind.all.flatMap Casts.castsTo ++ Casts.castsToText

end ExprLang.Library
