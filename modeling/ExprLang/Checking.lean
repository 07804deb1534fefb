import ExprLang.Typing

set_option autoImplicit false

/-!
The semantic check as it goes through a tree. It adds the problems that it finds to a list and tells
whether it passes. All parts of an expression are checked, also after one has failed; the expression
itself is only checked when all of them have passed.
-/

namespace ExprLang

/-- A check adds what it finds to the problems that were found before, and tells whether it passes. -/
abbrev Check := StateM (List Problem) Bool

namespace Check

def pass : Check := pure true

def report (p : Problem) : Check := do
  modify (· ++ [p])
  return false

/-- Passes for a result that is there, and reports why it is missing otherwise. -/
def resolved {α : Type} : Except Problem α → Check
  | .ok _ => pass
  | .error p => report p

/-- Two checks, where the second is made also when the first has failed. -/
def both (first second : Check) : Check := do
  let passed ← first
  return (← second) && passed

/-- Goes on to another check only when this one has passed. -/
def before (parts own : Check) : Check := do
  if ← parts then own else return false

end Check

open Check

namespace Operator

/-- The check of operands that must be numbers. Kinds that do not meet are only reported of numbers. -/
def checkNumeric (op : Operator) (t u : Ty) : Check := do
  let mut ok := true
  if ¬ t.isNumeric then ok ← report (.operands (.notNumeric .left op))
  if ¬ u.isNumeric then ok ← report (.operands (.notNumeric .right op))
  if ok ∧ op ≠ power ∧ (t.meet? u).isNone then ok ← report (.operands (.incompatible op))
  return ok

def checkBoolean (op : Operator) (t u : Ty) : Check := do
  let mut ok := true
  if t ≠ .boolean then ok ← report (.operands (.notBoolean .left op))
  if u ≠ .boolean then ok ← report (.operands (.notBoolean .right op))
  return ok

def checkRelation (op : Operator) (t u : Ty) : Check :=
  if t = .string ∧ u = .string then pass
  else if t.isNumeric ∧ u.isNumeric then
    if (t.meet? u).isSome then pass else report (.operands (.incomparable op))
  else if ¬ op.isEquality then
    if t = .string then report (.operands (.stringWithOther op))
    else if t.isNumeric then report (.operands (.numberWithOther op))
    else report (.operands (.unordered op))
  else if t = .boolean ∧ u = .boolean then pass
  else if t.isReference ∧ u.isReference then
    if t = u ∨ t = .object ∨ u = .object then pass
    else report (.operands (.differentReferences op))
  else if t = .boolean then report (.operands (.booleanWithOther op))
  else if t.isNumeric then report (.operands (.numberWithOther op))
  else report (.operands (.referenceWithValue op))

def check (op : Operator) (t u : Ty) : Check :=
  match op.family with
  | .numeric => op.checkNumeric t u
  | .text => pass
  | .relation => op.checkRelation t u
  | .boolean => op.checkBoolean t u

end Operator

namespace Expr

/-- The check of an expression itself, where its parts have passed. -/
def checkOwn (c : Context) (m : Memory) : Expr → Check
  | literal (.integer none) source => report (.unreadable .integer source)
  | literal (.real none) source => report (.unreadable .real source)
  | literal (.decimal none) source => report (.unreadable .decimal source)
  | ident name =>
    match c.name? m name with
    | some _ => pass
    | none => report (.unknownName name)
  | call name arguments => resolved (c.handle name (tys c m arguments))
  | conditional _ [condition, first, second] => do
    let mut ok := true
    if condition.ty c m ≠ .boolean then ok ← report .conditionNotBoolean
    if (branchTy? (first.ty c m) (second.ty c m)).isNone then ok ← report .branchesDiffer
    return ok
  | conditional _ _ => report .conditionalArity
  | nullTest _ arguments => if arguments.length = 1 then pass else report .nullTestArity
  | member target name => resolved (c.member (target.ty c m) name)
  | operation left op right => op.check (left.ty c m) (right.ty c m)
  | _ => pass

mutual

def check (c : Context) (m : Memory) : Expr → Check
  | literal v source => checkOwn c m (literal v source)
  | ident name => checkOwn c m (ident name)
  | call name arguments => (checkAll c m arguments).before (checkOwn c m (call name arguments))
  | conditional name arguments =>
    (checkAll c m arguments).before (checkOwn c m (conditional name arguments))
  | nullTest name arguments =>
    (checkAll c m arguments).before (checkOwn c m (nullTest name arguments))
  | member target name => (target.check c m).before (checkOwn c m (member target name))
  | group inner => (inner.check c m).before (checkOwn c m (group inner))
  | operation left op right =>
    ((left.check c m).both (right.check c m)).before (checkOwn c m (operation left op right))

def checkAll (c : Context) (m : Memory) : List Expr → Check
  | [] => pass
  | e :: es => (e.check c m).both (checkAll c m es)

end

end Expr

end ExprLang
