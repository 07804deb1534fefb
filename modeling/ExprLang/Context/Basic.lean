import ExprLang.Context.Memory
import ExprLang.Function.Overload
import ExprLang.Grammar.Expression
import ExprLang.Member

set_option autoImplicit false

/-!
What an expression is checked and evaluated against: variables, functions, parameters, members and
the options of its language. Contexts form chains; variables and functions that a context does not
have are looked for in its parents, each with the parent's own options.
-/

namespace ExprLang

/-- A name for a value that is given with each evaluation. -/
structure Parameter where
  name : String
  ty : Ty
deriving DecidableEq, Repr

def Parameter.limit : Nat := 8

/-- What a context has of its own. -/
structure Frame where
  options : Options
  members : MemberResolver
  store : StoreId
  functions : List (String × Group) := []
  parameters : List Parameter := []

/-- A context with its parents, the nearest first. -/
structure Context where
  frame : Frame
  parents : List Frame := []

namespace Context

def frames (c : Context) : List Frame := c.frame :: c.parents

def options (c : Context) : Options := c.frame.options

def parameters (c : Context) : List Parameter := c.frame.parameters

/-- A context without parents. -/
def new (o : Options) (m : Memory) : Context × Memory :=
  let (id, m) := m.allocate
  ({ frame := { options := o, members := MemberTable.standard.resolver, store := id } }, m)

/-- A context whose parent is `c`. Options and members are those of the parent. -/
def child (c : Context) (m : Memory) : Context × Memory :=
  let (id, m) := m.allocate
  ({ frame := { options := c.options, members := c.frame.members, store := id }
     parents := c.frames }, m)

def setOptions (c : Context) (o : Options) : Context := { c with frame.options := o }

def setMembers (c : Context) (r : MemberResolver) : Context := { c with frame.members := r }

end Context

/-! Variables -/

namespace Frame

/-- The variable of a frame under a name, with the name it is kept under. An exact name goes before
one that differs in letter case. -/
def named? (f : Frame) (m : Memory) (name : String) : Option (String × Variable) :=
  let store := m.store f.store
  (store.named? name).or <|
    if f.options.ignoreVariableCase then store.find? fun (key, _) => namesEqual true key name
    else none

end Frame

/-- A variable with the place where it is kept. -/
structure Slot where
  store : StoreId
  key : String
  content : Variable

namespace Context

/-- Whether a name can be declared: it has the form of a name and is not reserved. -/
def checkName (c : Context) (role : NameRole) (name : String) : Except Error Unit :=
  if ¬ Grammar.isName name.toList then .error (.semantic [.invalidName name role])
  else if c.options.isKeyword name then .error (.keywordName name)
  else .ok ()

def slot? (c : Context) (m : Memory) (name : String) : Option Slot :=
  c.frames.findSome? fun f =>
    (f.named? m name).map fun (key, v) => ⟨f.store, key, v⟩

def get? (c : Context) (m : Memory) (name : String) : Option Variable :=
  (c.slot? m name).map (·.content)

def store (c : Context) (m : Memory) (name : String) (v : Variable) : Except Error Memory := do
  c.checkName .ofVariable name
  return m.setStore c.frame.store ((m.store c.frame.store).set name v)

def setVariable (c : Context) (m : Memory) (name : String) (v : Value) : Except Error Memory :=
  c.store m name ⟨v, false⟩

def setConstant (c : Context) (m : Memory) (name : String) (v : Value) : Except Error Memory :=
  c.store m name ⟨v, true⟩

/-- Removes a variable of the context itself, and tells whether there was one. -/
def removeVariable (c : Context) (m : Memory) (name : String) : Bool × Memory :=
  let store := m.store c.frame.store
  ((store.get? name).isSome, m.setStore c.frame.store (store.erase name))

/-! Functions -/

/-- Adds handles to the group of a name, which is made if there is none. -/
def addFunctions (c : Context) (name : String) (hs : Group) : Context :=
  let fs := c.frame.functions
  let fs :=
    if fs.any (·.1 = name) then fs.map fun (key, g) => (key, if key = name then g ++ hs else g)
    else fs ++ [(name, hs)]
  { c with frame.functions := fs }

def addFunction (c : Context) (name : String) (h : Handle) : Context := c.addFunctions name [h]

/-- Removes a group of the context itself, and tells whether there was one. -/
def removeFunctions (c : Context) (name : String) : Bool × Context :=
  (c.frame.functions.any (·.1 = name),
    { c with frame.functions := c.frame.functions.filter (·.1 ≠ name) })

/-- The names of the context's own groups in the order in which they came. -/
def functionNames (c : Context) : List String := c.frame.functions.map (·.1)

end Context

/-- The handles of the first group, and those of the second that are not shadowed. -/
def Group.mergeOption : Option Group → Option Group → Option Group
  | some g, some g' => some (g.merge g')
  | g, g' => g.or g'

/-- The group of a frame under a name. Groups whose names differ in letter case only are one group
where letter case has no meaning. -/
def Frame.group? (f : Frame) (name : String) : Option Group :=
  (f.functions.filter fun (key, _) => namesEqual f.options.ignoreFunctionCase key name).foldl
    (fun found (_, g) => Group.mergeOption found (some g)) none

namespace Context

/-- The handles that a name means: those of the nearest frame, and of each parent those that are not
shadowed. -/
def group? (c : Context) (name : String) : Option Group :=
  c.frames.foldr (fun f inherited => Group.mergeOption (f.group? name) inherited) none

/-! Parameters -/

/-- Checks names one after another, each against those before it. -/
def checkParameters (c : Context) : (before after : List Parameter) → Except Error Unit
  | _, [] => .ok ()
  | before, p :: after => do
    c.checkName .ofParameter p.name
    if before.any (·.name = p.name) then .error (.semantic [.duplicateParameter p.name])
    else c.checkParameters (before ++ [p]) after

/-- Declares parameters in place of the ones before. An error leaves the context as it is when it is
met. -/
def declareParameters (ps : List Parameter) : ExceptT Error (StateM Context) Unit := do
  if Parameter.limit < ps.length then
    throw (.semantic [.tooManyParameters Parameter.limit])
  MonadExcept.ofExcept ((← get).checkParameters [] ps)
  modify fun c => { c with frame.parameters := ps }

/-- The context in which parameters are declared, if they can be. -/
def setParameters (c : Context) (ps : List Parameter) : Except Error Context :=
  match (declareParameters ps).run.run c with
  | (.ok (), c) => .ok c
  | (.error e, _) => .error e

def clearParameters (c : Context) : Context := { c with frame.parameters := [] }

/-- The place of a parameter. An exact name goes before one that differs in letter case. -/
def parameterPosition? (c : Context) (name : String) : Option Nat :=
  (c.parameters.findIdx? (·.name = name)).or
    (c.parameters.findIdx? fun p => namesEqual c.options.ignoreParameterCase p.name name)

def parse (c : Context) (text : String) : Except Error Expr := Expr.parse c.options text

end Context

/-- Checks values against the parameters they are given for. -/
def checkArguments (ps : List Parameter) (args : List Value) : Except Error Unit :=
  if ps.length ≠ args.length then .error (.evaluation .parameterCount)
  else
    match (ps.zip args).find? fun (p, v) => ¬ v.isInstanceOf p.ty with
    | some (p, _) => .error (.evaluation (.parameterType p.name))
    | none => .ok ()

end ExprLang
