import ExprLang.Binding
import ExprLang.CommandLine.Invocation
import ExprLang.Library.Standard
import ExprLang.Options.Json
import ExprLang.Surface.Sampling

set_option autoImplicit false

/-!
The output of a run: the value of an expression, as it is or in a JSON object, or the picture of a
surface with the range of its values.
-/

namespace ExprLang.CommandLine

namespace LanguageArguments

/-- The options of the language, given the text of the file with them where there is one. -/
def options (a : LanguageArguments) (file : Option (Except String String)) :
    Except Failure Options := do
  let o : Options ←
    match file with
    | none => pure {}
    | some (.error reason) => .error (.file reason)
    | some (.ok text) =>
      match Options.read? text with
      | some o => pure o
      | none => .error .options
  let o := if a.memberRead then { o with memberRead := true } else o
  return if a.ignoreCase then o.ignoringCase else o

/-- The context of a run, which has all packages and what is bound. -/
def context (a : LanguageArguments) (sample : Float) (file : Option (Except String String)) :
    Except Failure (Context × Memory) := do
  let (c, m) ← Failure.ofError (Library.standard sample (← a.options file) {})
  let (m, result) := Binding.applyAll c m a.boundVariables a.boundConstants
  let _ ← result
  return (c, m)

end LanguageArguments

def resultObject (expression : String) (v : Value) : String :=
  "\x7b\n  \"expression\": " ++ Json.quote expression ++ ",\n  \"type\": " ++ Json.quote v.typeName
    ++ ",\n  \"value\": " ++ Json.quote v.text ++ ",\n  \"is_null\": "
    ++ (if v.isNull then "true" else "false") ++ "\n\x7d"

/-- A value as the program prints it. -/
def resultText (expression : String) (json : Bool) (v : Value) : String :=
  if json then resultObject expression v else if v.isNull then "null" else v.text

def gridText (g : Grid) : String :=
  g.render ++
    match g.range? with
    | some (lo, hi) =>
      "range " ++ (Number.double lo).text ++ " .. " ++ (Number.double hi).text ++ "\n"
    | none => "no finite values\n"

def compiledValue (c : Context) (m : Memory) (text : String) : Except Error Value := do
  (← c.compile m text).call m []

namespace Command

def output (c : Context) (m : Memory) : Command → Except Failure String
  | eval expression compiled json => Failure.ofError do
    let v ← if compiled then compiledValue c m expression else c.interpret m expression []
    return resultText expression json v ++ "\n"
  | plot expression settings => do
    let surface ← Failure.ofError (Surface.compileIn c m expression).2
    return gridText (← settings.sample (surface.valueAt m) .sequential)

end Command

/-- What a run prints, where `sample` is what `rand` yields and `file` the text of the file with the
options, if one was named. -/
def Invocation.output (i : Invocation) (sample : Float) (file : Option (Except String String)) :
    Except Failure String := do
  let (c, m) ← i.language.context sample file
  i.command.output c m

end ExprLang.CommandLine
