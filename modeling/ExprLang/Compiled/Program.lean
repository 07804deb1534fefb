import ExprLang.Compiled.Code

set_option autoImplicit false

/-!
Compiled texts: with values as arguments, or with arguments and result of types of the embedding
program.
-/

namespace ExprLang

/-- A compiled text that takes a value for each parameter that was declared. -/
structure Program where
  compiled : Compiled
  parameters : List Parameter

def Program.call (p : Program) (m : Memory) (args : List Value) : Except Error Value := do
  checkArguments p.parameters args
  p.compiled.code.run m args

/-- A compiled text that takes arguments of the types `α` and yields a `β`. -/
structure TypedProgram (α β : Type) where
  compiled : Compiled

def TypedProgram.call {α β : Type} [ArgumentList α] [Embedded β] (p : TypedProgram α β)
    (m : Memory) (args : α) : Except Error β := do
  let v ← p.compiled.code.run m (ArgumentList.toValues args)
  Error.ofValue (Embedded.ofValue β v)

namespace Context

/-- Checks a text and compiles it. -/
def compile (c : Context) (m : Memory) (text : String) : Except Error Program := do
  let e ← c.check m text
  return ⟨← e.compile c m, c.parameters⟩

/-- The declared parameters must be exactly of the given types. -/
def checkSignature (c : Context) (ts : List Ty) : Except Error Unit :=
  if ts.length ≠ c.parameters.length then .error (.semantic [.parameterCount])
  else
    match (c.parameters.zip ts).find? fun (p, t) => p.ty ≠ t with
    | some (p, _) => .error (.semantic [.parameterType p.name])
    | none => .ok ()

/-- Checks a text and compiles it for given types. The result is converted to `β` where it must be.
-/
def compileTyped (c : Context) (m : Memory) (α β : Type) [ArgumentList α] [Embedded β]
    (text : String) : Except Error (TypedProgram α β) := do
  c.checkSignature (ArgumentList.types α)
  let e ← c.check m text
  return ⟨← (← e.compile c m).convertTo (Embedded.ty β)⟩

/-- Compiles a text and calls it once. -/
def evaluate (c : Context) (m : Memory) {α : Type} [ArgumentList α] (text : String) (args : α) :
    Except Error Value := do
  (← c.compileTyped m α Value text).call m args

end Context

end ExprLang
