import ExprLang.CommandLine.Arguments
import ExprLang.Surface.Settings

set_option autoImplicit false

/-!
What a run of the program is asked to do. Options of the language may stand before the command or
after it; what is given after it takes the place of the same option before it.
-/

namespace ExprLang.CommandLine

/-- The language to use and the names to bind. -/
structure LanguageArguments where
  file : Option String
  memberRead : Bool
  ignoreCase : Bool
  boundVariables : List String
  boundConstants : List String

inductive Command
  | eval (expression : String) (compiled json : Bool)
  | plot (expression : String) (settings : Settings)

structure Invocation where
  language : LanguageArguments
  command : Command

def languageNames : Names :=
  [("options", .value), ("member-read", .flag), ("ignore-case", .flag), ("var", .value),
    ("const", .value)]

def evalNames : Names := [("compiled", .flag), ("json", .flag)]

def plotNames : Names :=
  [("x-min", .signedValue), ("x-max", .signedValue), ("y-min", .signedValue),
    ("y-max", .signedValue), ("columns", .value), ("rows", .value)]

/-- Options that may be given several times. -/
def repeatable : List String := ["var", "const"]

namespace LanguageArguments

/-- Takes the arguments that were given after the command, and those before it for the options that
were not. The name of a file must not be empty. -/
def of? (before after : List Item) : Option LanguageArguments :=
  let values := fun (name : String) =>
    match valuesOf after name with
    | [] => valuesOf before name
    | vs => vs
  if (valuesOf before "options" ++ valuesOf after "options").contains "" then none
  else
    some {
      file := (values "options").head?
      memberRead := hasFlag before "member-read" || hasFlag after "member-read"
      ignoreCase := hasFlag before "ignore-case" || hasFlag after "ignore-case"
      boundVariables := values "var"
      boundConstants := values "const" }

end LanguageArguments

/-- The value of an option that is read by `read`, or the value that it has where it is not given.
-/
def optionValue {α : Type} (items : List Item) (name : String) (read : List Char → Option α)
    (standard : α) : Option α :=
  match valuesOf items name with
  | value :: _ => read value.toList
  | [] => some standard

def readCount (cs : List Char) : Option Nat := (Integer.parse? .uint64 cs).map (·.val.toNat)

def settingsOf? (items : List Item) : Option Settings := do
  let d : Settings := {}
  return {
    xMin := ← optionValue items "x-min" Binary.parseDouble? d.xMin
    xMax := ← optionValue items "x-max" Binary.parseDouble? d.xMax
    yMin := ← optionValue items "y-min" Binary.parseDouble? d.yMin
    yMax := ← optionValue items "y-max" Binary.parseDouble? d.yMax
    columns := ← optionValue items "columns" readCount d.columns
    rows := ← optionValue items "rows" readCount d.rows }

def commandOf? (name : String) (items : List Item) : Option Command :=
  match operands items with
  | [expression] =>
    if name = "eval" then
      some (.eval expression (hasFlag items "compiled") (hasFlag items "json"))
    else (settingsOf? items).map (.plot expression)
  | _ => none

def isCommand (text : String) : Bool := text = "eval" || text = "plot"

def Invocation.parse? (arguments : List String) : Option Invocation := do
  match ← scan languageNames isCommand arguments with
  | (before, some (name, rest)) =>
    let names := languageNames ++ if name = "eval" then evalNames else plotNames
    let (after, _) ← scan names (fun _ => false) rest
    if operands before = [] ∧ isUnrepeated repeatable before ∧ isUnrepeated repeatable after then
      return ⟨← LanguageArguments.of? before after, ← commandOf? name after⟩
    else none
  | _ => none

end ExprLang.CommandLine
