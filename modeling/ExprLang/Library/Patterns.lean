import ExprLang.Library.Package
import ExprLang.Pattern.Replacement

set_option autoImplicit false

/-! The package of patterns: whether one matches, what it matches first, and replacing all it
matches. -/

namespace ExprLang.Library.Patterns

/-- The program of a pattern that a function was called with. -/
def program (function pattern : String) : Except Error Pattern.Program :=
  match Pattern.Program.compile? pattern with
  | some p => .ok p
  | none => .error (.function function "Invalid regex pattern")

def isMatch (text pattern : String) : Except Error Bool := do
  return (← program "regex" pattern).isMatch text

def firstMatch (text pattern : String) : Except Error (Option String) := do
  return (← program "regex_match" pattern).firstMatch? text

def replaceMatches (text pattern replacement : String) : Except Error String := do
  return (← program "regex_replace" pattern).replaceAll text replacement

end Patterns

open Patterns in
def patterns : Package where
  functions := [("regex", .of isMatch), ("regex_match", .of firstMatch),
    ("regex_replace", .of replaceMatches)]

end ExprLang.Library
