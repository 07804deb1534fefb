import ExprLang.Compiled.Program
import ExprLang.Proofs.Tree

set_option autoImplicit false

/-!
Groups around parts of an expression. They mean nothing: an expression without its groups has the
same type, problems, value and code.
-/

namespace ExprLang

namespace Expr

mutual

/-- The expression without its groups. -/
def ungroup : Expr → Expr
  | literal value source => literal value source
  | ident name => ident name
  | call name arguments => call name (ungroupAll arguments)
  | conditional name arguments => conditional name (ungroupAll arguments)
  | nullTest name arguments => nullTest name (ungroupAll arguments)
  | member target name => member target.ungroup name
  | group inner => inner.ungroup
  | operation left op right => operation left.ungroup op right.ungroup

def ungroupAll : List Expr → List Expr
  | [] => []
  | e :: es => e.ungroup :: ungroupAll es

end

mutual

/-- The expression with a group around each operation. -/
def grouped : Expr → Expr
  | literal value source => literal value source
  | ident name => ident name
  | call name arguments => call name (groupedAll arguments)
  | conditional name arguments => conditional name (groupedAll arguments)
  | nullTest name arguments => nullTest name (groupedAll arguments)
  | member target name => member target.grouped name
  | group inner => group inner.grouped
  | operation left op right => group (operation left.grouped op right.grouped)

def groupedAll : List Expr → List Expr
  | [] => []
  | e :: es => e.grouped :: groupedAll es

end

theorem ungroupAll_eq_map (es : List Expr) : ungroupAll es = es.map ungroup := by
  induction es with
  | nil => rfl
  | cons e es ih => rw [ungroupAll, ih, List.map_cons]

theorem groupedAll_eq_map (es : List Expr) : groupedAll es = es.map grouped := by
  induction es with
  | nil => rfl
  | cons e es ih => rw [groupedAll, ih, List.map_cons]

/-- Groups around operations are gone when the groups are. -/
theorem ungroup_grouped (e : Expr) : e.grouped.ungroup = e.ungroup := by
  have all : ∀ es : List Expr, (∀ e ∈ es, e.grouped.ungroup = e.ungroup) →
      ungroupAll (groupedAll es) = ungroupAll es := by
    intro es h
    rw [groupedAll_eq_map, ungroupAll_eq_map, ungroupAll_eq_map, List.map_map]
    exact List.map_congr_left h
  induction e with
  | literal v source => rfl
  | ident name => rfl
  | call name arguments ih => rw [grouped, ungroup, ungroup, all arguments ih]
  | conditional name arguments ih => rw [grouped, ungroup, ungroup, all arguments ih]
  | nullTest name arguments ih => rw [grouped, ungroup, ungroup, all arguments ih]
  | member target name ih => rw [grouped, ungroup, ungroup, ih]
  | group inner ih => rw [grouped, ungroup, ungroup, ih]
  | operation left op right ihl ihr => rw [grouped, ungroup, ungroup, ungroup, ihl, ihr]

/-- Whether the expression is an operation without a group around it. -/
def isOperation : Expr → Bool
  | operation .. => true
  | _ => false

theorem append_of_not_isOperation {chain : Expr} (h : chain.isOperation = false) (op : Operator)
    (operand : Expr) : chain.append op operand = operation chain op operand := by
  cases chain with
  | operation left root right => cases h
  | _ => rfl

variable (c : Context) (m : Memory)

theorem tys_ungroupAll {es : List Expr} (h : ∀ e ∈ es, e.ungroup.ty c m = e.ty c m) :
    tys c m (ungroupAll es) = tys c m es := by
  rw [ungroupAll_eq_map]
  exact tys_map h

theorem ty_ungroup (e : Expr) : e.ungroup.ty c m = e.ty c m := by
  induction e with
  | literal v source => rfl
  | ident name => rfl
  | call name arguments ih => rw [ungroup, ty, ty, tys_ungroupAll c m ih]
  | conditional name arguments ih => rw [ungroup, ty, ty, tys_ungroupAll c m ih]
  | nullTest name arguments ih => rfl
  | member target name ih => rw [ungroup, ty, ty, ih]
  | group inner ih => rw [ungroup, ih, ty]
  | operation left op right ihl ihr => rw [ungroup, ty, ty, ihl, ihr]

theorem tys_ungroup (es : List Expr) : tys c m (ungroupAll es) = tys c m es :=
  tys_ungroupAll c m fun e _ => ty_ungroup c m e

theorem problemsAll_ungroupAll {es : List Expr}
    (h : ∀ e ∈ es, e.ungroup.problems c m = e.problems c m) :
    problemsAll c m (ungroupAll es) = problemsAll c m es := by
  rw [ungroupAll_eq_map]
  exact problemsAll_map h

theorem length_ungroupAll (es : List Expr) : (ungroupAll es).length = es.length := by
  rw [ungroupAll_eq_map, List.length_map]

theorem problems_ungroup (e : Expr) : e.ungroup.problems c m = e.problems c m := by
  induction e with
  | literal v source => rfl
  | ident name => rfl
  | call name arguments ih =>
    have own : ownProblems c m (call name (ungroupAll arguments))
        = ownProblems c m (call name arguments) := by
      rw [ownProblems, ownProblems, tys_ungroup]
    rw [ungroup, problems, problems, problemsAll_ungroupAll c m ih, own]
  | conditional name arguments ih =>
    have own : ownProblems c m (conditional name (ungroupAll arguments))
        = ownProblems c m (conditional name arguments) := by
      simp only [ownProblems, tys_ungroup]
    rw [ungroup, problems, problems, problemsAll_ungroupAll c m ih, own]
  | nullTest name arguments ih =>
    have own : ownProblems c m (nullTest name (ungroupAll arguments))
        = ownProblems c m (nullTest name arguments) := by
      rw [ownProblems, ownProblems, length_ungroupAll]
    rw [ungroup, problems, problems, problemsAll_ungroupAll c m ih, own]
  | member target name ih =>
    have own : ownProblems c m (member target.ungroup name)
        = ownProblems c m (member target name) := by
      rw [ownProblems, ownProblems, ty_ungroup]
    rw [ungroup, problems, problems, ih, own]
  | group inner ih => rw [ungroup, ih, problems]
  | operation left op right ihl ihr =>
    have own : ownProblems c m (operation left.ungroup op right.ungroup)
        = ownProblems c m (operation left op right) := by
      rw [ownProblems, ownProblems, ty_ungroup, ty_ungroup]
    rw [ungroup, problems, problems, ihl, ihr, own]

theorem evalAll_ungroupAll {args : List Value} {es : List Expr} (ts : List Ty)
    (h : ∀ e ∈ es, e.ungroup.eval c m args = e.eval c m args) :
    evalAll c m args (ungroupAll es) ts = evalAll c m args es ts := by
  rw [ungroupAll_eq_map]
  exact evalAll_map ts h

theorem eval_ungroup (args : List Value) (e : Expr) :
    e.ungroup.eval c m args = e.eval c m args := by
  induction e with
  | literal v source => rfl
  | ident name => rfl
  | call name arguments ih =>
    simp only [ungroup, eval, tys_ungroup, evalAll_ungroupAll c m _ ih]
  | conditional name arguments ih =>
    match arguments with
    | [condition, first, second] =>
      have condition_eq := ih condition (by simp)
      have first_eq := ih first (by simp)
      have second_eq := ih second (by simp)
      simp only [ungroup, ungroupAll, eval, ty_ungroup, condition_eq, first_eq, second_eq]
    | [] => rfl
    | [_] => rfl
    | [_, _] => rfl
    | _ :: _ :: _ :: _ :: _ => rfl
  | nullTest name arguments ih =>
    match arguments with
    | [e] =>
      have inner := ih e (by simp)
      simp only [ungroup, ungroupAll, eval, inner]
    | [] => rfl
    | _ :: _ :: _ => rfl
  | member target name ih => rw [ungroup, eval, eval, ty_ungroup, ih]
  | group inner ih => rw [ungroup, ih, eval]
  | operation left op right ihl ihr => rw [ungroup, eval, eval, ihl, ihr]

theorem compileAll_ungroupAll {es : List Expr}
    (h : ∀ e ∈ es, e.ungroup.compile c m = e.compile c m) :
    compileAll c m (ungroupAll es) = compileAll c m es := by
  induction es with
  | nil => rfl
  | cons e es ih =>
    obtain ⟨head, tail⟩ := List.forall_mem_cons.1 h
    rw [ungroupAll, compileAll, compileAll, head, ih tail]

theorem compile_ungroup (e : Expr) : e.ungroup.compile c m = e.compile c m := by
  induction e with
  | literal v source => rfl
  | ident name => rfl
  | call name arguments ih =>
    simp only [ungroup, compile, tys_ungroup, compileAll_ungroupAll c m ih]
  | conditional name arguments ih =>
    match arguments with
    | [condition, first, second] =>
      have condition_eq := ih condition (by simp)
      have first_eq := ih first (by simp)
      have second_eq := ih second (by simp)
      simp only [ungroup, ungroupAll, compile, ty_ungroup, condition_eq, first_eq, second_eq]
    | [] => rfl
    | [_] => rfl
    | [_, _] => rfl
    | _ :: _ :: _ :: _ :: _ => rfl
  | nullTest name arguments ih =>
    match arguments with
    | [e] =>
      have inner := ih e (by simp)
      simp only [ungroup, ungroupAll, compile, ty_ungroup, inner]
    | [] => rfl
    | _ :: _ :: _ => rfl
  | member target name ih => rw [ungroup, compile, compile, ty_ungroup, ih]
  | group inner ih => rw [ungroup, ih, compile]
  | operation left op right ihl ihr =>
    rw [ungroup, compile, compile, ty_ungroup, ty_ungroup, ihl, ihr]

end Expr

namespace Context

open ExprLang.Expr

variable {c : Context} {m : Memory} {text text' : String} {e e' : Expr}

theorem check_of_parse (h : c.parse text = .ok e) : c.check m text =
    match e.problems c m with
    | [] => .ok e
    | ps => .error (.semantic ps) := by
  rw [check, h]
  rfl

theorem problems_of_ungroup (same : e.ungroup = e'.ungroup) :
    e.problems c m = e'.problems c m := by
  rw [← problems_ungroup, same, problems_ungroup]

theorem interpret_of_ungroup (h : c.parse text = .ok e) (h' : c.parse text' = .ok e')
    (same : e.ungroup = e'.ungroup) (args : List Value) :
    c.interpret m text args = c.interpret m text' args := by
  have value : e.eval c m args = e'.eval c m args := by
    rw [← eval_ungroup, same, eval_ungroup]
  rw [interpret, interpret, check_of_parse h, check_of_parse h', problems_of_ungroup same]
  cases e'.problems c m with
  | nil => simp only [bind, Except.bind, value]
  | cons p ps => rfl

/-- Texts whose expressions differ in groups only are compiled to the same program. -/
theorem compile_of_ungroup (h : c.parse text = .ok e) (h' : c.parse text' = .ok e')
    (same : e.ungroup = e'.ungroup) : c.compile m text = c.compile m text' := by
  have code : e.compile c m = e'.compile c m := by
    rw [← compile_ungroup, same, compile_ungroup]
  rw [compile, compile, check_of_parse h, check_of_parse h', problems_of_ungroup same]
  cases e'.problems c m with
  | nil => simp only [bind, Except.bind, code]
  | cons p ps => rfl

end Context

end ExprLang
