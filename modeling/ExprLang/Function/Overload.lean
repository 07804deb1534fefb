import ExprLang.Function.Handle

set_option autoImplicit false

/-!
Groups of handles under one name, and the choice among them by the types of the arguments: an exact
match if there is one, else the handle whose signature is the most specific of all that accept.
-/

namespace ExprLang

/-- Argument by argument, a value of the first type may be passed for the second. -/
def assignableAll : List Ty → List Ty → Bool
  | [], [] => true
  | t :: ts, u :: us => t.assignableTo u && assignableAll ts us
  | _, _ => false

theorem assignableAll_refl (ts : List Ty) : assignableAll ts ts = true := by
  induction ts with
  | nil => rfl
  | cons t ts ih => simp [assignableAll, Ty.assignableTo_refl, ih]

def Handle.accepts (h : Handle) (ts : List Ty) : Bool := assignableAll ts h.parameters

/-- Whether whatever `g` takes can be passed on to `h`. -/
def Handle.asSpecificAs (g h : Handle) : Bool := assignableAll g.parameters h.parameters

/-- Why no handle of a group was chosen. -/
inductive NoMatch
  | none
  | ambiguous
deriving DecidableEq, Repr

/-- The handles under one name. -/
abbrev Group := List Handle

namespace Group

/-- The handle that a call with arguments of these types means. -/
def resolve (g : Group) (ts : List Ty) : Except NoMatch Handle :=
  let candidates := g.filter (·.accepts ts)
  match candidates.filter (·.parameters = ts) with
  | [h] => .ok h
  | _ :: _ :: _ => .error .ambiguous
  | [] =>
    match candidates.filter fun h => candidates.all (h.asSpecificAs ·) with
    | [h] => .ok h
    | _ => if candidates.isEmpty then .error .none else .error .ambiguous

/-- Adds a handle unless its parameters are already there. -/
def addNew (g : Group) (h : Handle) : Group :=
  if g.any (·.parameters = h.parameters) then g else g ++ [h]

/-- The handles of `g`, and those of `fallback` that none of the ones before shadows. -/
def merge (g fallback : Group) : Group := fallback.foldl addNew g

end Group

end ExprLang
