import ExprLang.CommandLine.Running

set_option autoImplicit false

/-! The program. It reads the file of options and prints; everything else is decided elsewhere. -/

namespace ExprLang.CommandLine

def usage : String :=
  "usage: exprlang [--options FILE] [--member-read] [--ignore-case] [--var NAME=VALUE]... "
    ++ "[--const NAME=VALUE]...\n  eval EXPRESSION [--compiled] [--json]\n"
    ++ "  plot EXPRESSION [--x-min X] [--x-max X] [--y-min Y] [--y-max Y] [--columns N] [--rows N]"

/-- Why a file could not be read. -/
def fileReason : IO.Error → String
  | .noFileOrDirectory .. => "No such file or directory (os error 2)"
  | .permissionDenied .. => "Permission denied (os error 13)"
  | .inappropriateType .. => "Is a directory (os error 21)"
  | e => toString e

def readText (name : String) : IO (Except String String) := do
  try
    return .ok (← IO.FS.readFile name)
  catch e =>
    return .error (fileReason e)

/-- A random number from zero up to one. -/
def randomSample : IO Float := do
  return Float.ofNat (← IO.rand 0 9007199254740991) / 9007199254740992

end ExprLang.CommandLine

open ExprLang ExprLang.CommandLine in
def main (arguments : List String) : IO UInt32 := do
  match Invocation.parse? arguments with
  | none =>
    IO.eprintln usage
    return 2
  | some i =>
    let file ← i.language.file.mapM readText
    match i.output (← randomSample) file with
    | .ok text =>
      IO.print text
      return 0
    | .error failure =>
      IO.eprintln ("error: " ++ failure.message)
      return failure.exitCode
