import ExprLang.Error
import ExprLang.Surface.Settings

set_option autoImplicit false

/-! What can go wrong around expressions: with bindings, grids and files of options. -/

namespace ExprLang

inductive Failure
  | expression (error : Error)
  | binding (text : String)
  | settings (problem : SettingsProblem)
  | file (reason : String)
  | options

def Failure.message : Failure → String
  | expression error => error.message
  | binding text => "Invalid binding '" ++ text ++ "', expected name=value"
  | settings problem => "Invalid plot settings: " ++ problem.message
  | file reason => "I/O error: " ++ reason
  | options => "JSON error"

def Failure.exitCode : Failure → UInt32
  | expression .aborted => 101
  | _ => 1

def Failure.ofError {α : Type} (x : Except Error α) : Except Failure α := x.mapError expression

end ExprLang
