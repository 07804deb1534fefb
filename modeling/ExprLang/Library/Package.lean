import ExprLang.Context.Basic

set_option autoImplicit false

/-! Packages of functions and constants that are loaded into a context together. -/

namespace ExprLang

/-- Constants and functions with their names, in the order in which they are loaded. -/
structure Package where
  constants : List (String × Value) := []
  functions : List (String × Handle)

namespace Package

def setConstants (c : Context) (m : Memory) : List (String × Value) → Except Error Memory
  | [] => .ok m
  | (name, v) :: rest => do setConstants c (← c.setConstant m name v) rest

/-- Loads a package. The language of the context may have reserved the name of a constant. -/
def load (p : Package) (c : Context) (m : Memory) : Except Error (Context × Memory) := do
  let m ← setConstants c m p.constants
  return (p.functions.foldl (fun c (name, h) => c.addFunction name h) c, m)

def loadAll : List Package → Context → Memory → Except Error (Context × Memory)
  | [], c, m => .ok (c, m)
  | p :: ps, c, m => do
    let (c, m) ← p.load c m
    loadAll ps c m

end Package

end ExprLang
