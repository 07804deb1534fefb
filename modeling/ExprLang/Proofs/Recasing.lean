import ExprLang.Proofs.Grammar.Words
import ExprLang.Proofs.Related
import ExprLang.Proofs.Tree

set_option autoImplicit false

/-!
Expressions that differ in letter case only. Where letter case has no meaning for the names of a
context, and none of its names differ in nothing else, such expressions have the same type, and they
pass the check and have a value together.
-/

namespace ExprLang

/-! Names -/

section Lists

variable {α : Type} {p q : α → Bool} {l : List α}

/-- Where at most one entry passes a test, a stricter test that is tried first makes no
difference. -/
theorem find?_or_of_pairwise (stricter : ∀ x, p x = true → q x = true)
    (one : l.Pairwise fun x y => ¬ (q x = true ∧ q y = true)) :
    (l.find? p).or (l.find? q) = l.find? q := by
  induction l with
  | nil => rfl
  | cons x l ih =>
    obtain ⟨apart, rest⟩ := List.pairwise_cons.1 one
    by_cases here : q x = true
    · have noOther : l.find? p = none := by
        refine List.find?_eq_none.2 fun y mem found => ?_
        exact apart y mem ⟨here, stricter y found⟩
      rw [List.find?_cons_of_pos here, List.find?_cons, noOther]
      cases p x <;> rfl
    · have here' : ¬ p x = true := fun found => here (stricter x found)
      rw [List.find?_cons_of_neg here, List.find?_cons_of_neg here', ih rest]

theorem findIdx?_or_of_pairwise (stricter : ∀ x, p x = true → q x = true)
    (one : l.Pairwise fun x y => ¬ (q x = true ∧ q y = true)) :
    (l.findIdx? p).or (l.findIdx? q) = l.findIdx? q := by
  induction l with
  | nil => rfl
  | cons x l ih =>
    obtain ⟨apart, rest⟩ := List.pairwise_cons.1 one
    rw [List.findIdx?_cons, List.findIdx?_cons]
    by_cases here : q x = true
    · have noOther : l.findIdx? p = none := by
        refine List.findIdx?_eq_none_iff.2 fun y mem => Bool.eq_false_iff.2 fun found => ?_
        exact apart y mem ⟨here, stricter y found⟩
      rw [if_pos here, noOther]
      cases p x <;> rfl
    · have here' : ¬ p x = true := fun found => here (stricter x found)
      rw [if_neg here, if_neg here', ← Option.map_or, ih rest]

end Lists

/-- Letter case has no meaning in the language of a frame, and no two variables and no two
parameters have names that differ in nothing else. -/
structure Frame.IgnoresCase (f : Frame) (m : Memory) : Prop where
  options : f.options.IgnoresCase
  stored : (m.store f.store).Pairwise fun x y => namesEqual true x.1 y.1 = false
  declared : f.parameters.Pairwise fun p q => namesEqual true p.name q.name = false

/-- Letter case has no meaning in a context and its parents. -/
def Context.IgnoresCase (c : Context) (m : Memory) : Prop := ∀ f ∈ c.frames, f.IgnoresCase m

section Lookups

variable {name name' : String}

/-- Of names that are told apart without letter case at most one is a given name. -/
theorem pairwise_namesEqual {α : Type} (key : α → String) {l : List α}
    (h : l.Pairwise fun x y => namesEqual true (key x) (key y) = false) :
    l.Pairwise fun x y =>
      ¬ (namesEqual true (key x) name = true ∧ namesEqual true (key y) name = true) := by
  refine h.imp fun apart both => ?_
  have same := (namesEqual_true_iff.1 both.1).trans (namesEqual_true_iff.1 both.2).symm
  rw [namesEqual_true_iff.2 same] at apart
  cases apart

theorem namesEqual_of_decide {key : String} (h : decide (key = name) = true) :
    namesEqual true key name = true :=
  namesEqual_iff.2 (.inl (of_decide_eq_true h))

theorem Frame.IgnoresCase.named?_congr {f : Frame} {m : Memory} (h : f.IgnoresCase m)
    (same : lowerText name = lowerText name') : f.named? m name = f.named? m name' := by
  have ignore := h.options.everywhere (·.ignoreVariableCase) rfl
  have found : ∀ name, f.named? m name
      = (m.store f.store).find? fun entry => namesEqual true entry.1 name := by
    intro name
    rw [Frame.named?, if_pos ignore]
    exact find?_or_of_pairwise (fun _ => namesEqual_of_decide)
      (pairwise_namesEqual Prod.fst h.stored)
  rw [found name, found name']
  exact congrArg (List.find? · _) (funext fun entry => namesEqual_congr rfl same)

namespace Context

variable {c : Context} {m : Memory}

theorem IgnoresCase.slot?_congr (h : c.IgnoresCase m) (same : lowerText name = lowerText name') :
    c.slot? m name = c.slot? m name' := by
  rw [slot?, slot?]
  refine findSome?_congr fun f mem => ?_
  rw [(h f mem).named?_congr same]

theorem IgnoresCase.parameterPosition?_congr (h : c.IgnoresCase m)
    (same : lowerText name = lowerText name') :
    c.parameterPosition? name = c.parameterPosition? name' := by
  have own : c.frame.IgnoresCase m := h c.frame List.mem_cons_self
  have ignore := own.options.everywhere (·.ignoreParameterCase) rfl
  have found : ∀ name, c.parameterPosition? name
      = c.parameters.findIdx? fun p => namesEqual true p.name name := by
    intro name
    rw [parameterPosition?, options, ignore]
    exact findIdx?_or_of_pairwise (fun _ => namesEqual_of_decide)
      (pairwise_namesEqual Parameter.name own.declared)
  rw [found name, found name']
  exact congrArg (List.findIdx? · _) (funext fun p => namesEqual_congr rfl same)

/-- A name stands for the same in either case. -/
theorem IgnoresCase.name?_congr (h : c.IgnoresCase m) (same : lowerText name = lowerText name') :
    c.name? m name = c.name? m name' := by
  rw [name?, name?, h.parameterPosition?_congr same, h.slot?_congr same]

end Context

end Lookups

/-! Expressions -/

namespace Expr

/-- The same expression up to letter case: names of parameters and variables, the words that call
the conditional and the null test and the texts of literals may differ. -/
inductive Recased : Expr → Expr → Prop
  | literal (value : Literal) (source source' : String) :
      Recased (literal value source) (literal value source')
  | ident {name name' : String} (same : lowerText name = lowerText name') :
      Recased (ident name) (ident name')
  | call (name : String) {es es' : List Expr} (arguments : List.Forall₂ Recased es es') :
      Recased (call name es) (call name es')
  | conditional (name name' : String) {es es' : List Expr}
      (arguments : List.Forall₂ Recased es es') :
      Recased (conditional name es) (conditional name' es')
  | nullTest (name name' : String) {es es' : List Expr} (arguments : List.Forall₂ Recased es es') :
      Recased (nullTest name es) (nullTest name' es')
  | member (name : String) {e e' : Expr} (target : Recased e e') :
      Recased (member e name) (member e' name)
  | group {e e' : Expr} (inner : Recased e e') : Recased (group e) (group e')
  | operation (op : Operator) {l l' r r' : Expr} (left : Recased l l') (right : Recased r r') :
      Recased (operation l op r) (operation l' op r')

namespace Recased

/-- Induction with one hypothesis for each pair of arguments. -/
@[elab_as_elim]
theorem induct {motive : Expr → Expr → Prop}
    (literal : ∀ value source source',
      motive (Expr.literal value source) (Expr.literal value source'))
    (ident : ∀ {name name'}, lowerText name = lowerText name' →
      motive (Expr.ident name) (Expr.ident name'))
    (call : ∀ name {es es'}, List.Forall₂ (fun e e' => Recased e e' ∧ motive e e') es es' →
      motive (Expr.call name es) (Expr.call name es'))
    (conditional : ∀ name name' {es es'},
      List.Forall₂ (fun e e' => Recased e e' ∧ motive e e') es es' →
      motive (Expr.conditional name es) (Expr.conditional name' es'))
    (nullTest : ∀ name name' {es es'},
      List.Forall₂ (fun e e' => Recased e e' ∧ motive e e') es es' →
      motive (Expr.nullTest name es) (Expr.nullTest name' es'))
    (member : ∀ name {e e'}, Recased e e' → motive e e' →
      motive (Expr.member e name) (Expr.member e' name))
    (group : ∀ {e e'}, Recased e e' → motive e e' → motive (Expr.group e) (Expr.group e'))
    (operation : ∀ op {l l' r r'}, Recased l l' → Recased r r' → motive l l' → motive r r' →
      motive (Expr.operation l op r) (Expr.operation l' op r'))
    {e e' : Expr} (h : Recased e e') : motive e e' := by
  refine @Recased.rec (fun e e' _ => motive e e')
    (fun es es' _ => List.Forall₂ (fun e e' => Recased e e' ∧ motive e e') es es')
    literal ident ?call ?conditional ?nullTest ?member ?group ?operation .nil ?cons e e' h
  case call => exact fun name _ _ _ ih => call name ih
  case conditional => exact fun name name' _ _ _ ih => conditional name name' ih
  case nullTest => exact fun name name' _ _ _ ih => nullTest name name' ih
  case member => exact fun name _ _ target ih => member name target ih
  case group => exact fun inner ih => group inner ih
  case operation => exact fun op _ _ _ _ left right ihl ihr => operation op left right ihl ihr
  case cons => exact fun first _ ih ihs => .cons ⟨first, ih⟩ ihs

/-- Chains that differ in letter case only grow in the same way. -/
theorem append {e e' f f' : Expr} (op : Operator) (h : Recased e e') (operand : Recased f f') :
    Recased (e.append op f) (e'.append op f') := by
  refine induct ?literal ?ident ?call ?conditional ?nullTest ?member ?group ?operation h
  case literal => exact fun v source source' => .operation op (.literal v source source') operand
  case ident => exact fun same => .operation op (.ident same) operand
  case call =>
    intro name es es' arguments
    exact .operation op (.call name (arguments.imp fun _ _ both => both.1)) operand
  case conditional =>
    intro name name' es es' arguments
    exact .operation op (.conditional name name' (arguments.imp fun _ _ both => both.1)) operand
  case nullTest =>
    intro name name' es es' arguments
    exact .operation op (.nullTest name name' (arguments.imp fun _ _ both => both.1)) operand
  case member => exact fun name _ _ target _ => .operation op (.member name target) operand
  case group => exact fun inner _ => .operation op (.group inner) operand
  case operation =>
    intro root l l' r r' left right _ ih
    rw [Expr.append, Expr.append]
    by_cases tighter : op.priority < root.priority
    · rw [if_pos tighter, if_pos tighter]
      exact .operation root left ih
    · rw [if_neg tighter, if_neg tighter]
      exact .operation op (.operation root left right) operand

variable {c : Context} {m : Memory} {e e' : Expr} {es es' : List Expr}

theorem tys_eq (h : List.Forall₂ (fun e e' => e.ty c m = e'.ty c m) es es') :
    tys c m es = tys c m es' := by
  induction h with
  | nil => rfl
  | cons first _ ih => rw [tys, tys, first, ih]

theorem ty_eq (blind : c.IgnoresCase m) (h : Recased e e') : e.ty c m = e'.ty c m := by
  refine induct ?literal ?ident ?call ?conditional ?nullTest ?member ?group ?operation h
  case literal => exact fun _ _ _ => rfl
  case ident =>
    intro name name' same
    rw [ty, ty, blind.name?_congr same]
  case call =>
    intro name es es' arguments
    rw [ty, ty, tys_eq (arguments.imp fun _ _ both => both.2)]
  case conditional =>
    intro name name' es es' arguments
    rw [ty, ty, tys_eq (arguments.imp fun _ _ both => both.2)]
  case nullTest => exact fun _ _ _ _ _ => rfl
  case member =>
    intro name e e' _ ih
    rw [ty, ty, ih]
  case group =>
    intro e e' _ ih
    rw [ty, ty, ih]
  case operation =>
    intro op l l' r r' _ _ ihl ihr
    rw [ty, ty, ihl, ihr]

theorem tys_recased (blind : c.IgnoresCase m) (h : List.Forall₂ Recased es es') :
    tys c m es = tys c m es' :=
  tys_eq (h.imp fun _ _ => ty_eq blind)

/-- What an expression says itself against being checked does not depend on letter case. -/
theorem ownProblems_iff (blind : c.IgnoresCase m) (h : Recased e e') :
    e.ownProblems c m = [] ↔ e'.ownProblems c m = [] := by
  cases h with
  | literal value source source' =>
    cases value with
    | null => rfl
    | boolean b => rfl
    | string s => rfl
    | integer n => cases n <;> simp [ownProblems]
    | real n => cases n <;> simp [ownProblems]
    | decimal d => cases d <;> simp [ownProblems]
  | @ident name name' same =>
    rw [ownProblems, ownProblems, blind.name?_congr same]
    cases c.name? m name' <;> simp
  | call name arguments => rw [ownProblems, ownProblems, tys_recased blind arguments]
  | conditional name name' arguments =>
    rw [ownProblems, ownProblems, tys_recased blind arguments]
  | nullTest name name' arguments =>
    rw [ownProblems, ownProblems, arguments.length_eq]
  | member name target => rw [ownProblems, ownProblems, target.ty_eq blind]
  | group inner => rfl
  | operation op left right =>
    rw [ownProblems, ownProblems, left.ty_eq blind, right.ty_eq blind]

/-- A property that goes over from the parts to the whole. -/
@[elab_as_elim]
theorem of_children {motive : Expr → Expr → Prop} (step : ∀ {e e'}, Recased e e' →
      List.Forall₂ motive e.children e'.children → motive e e') (h : Recased e e') :
    motive e e' := by
  refine induct ?literal ?ident ?call ?conditional ?nullTest ?member ?group ?operation h
  case literal => exact fun value source source' => step (.literal value source source') .nil
  case ident => exact fun same => step (.ident same) .nil
  case call =>
    intro name es es' arguments
    exact step (.call name (arguments.imp fun _ _ both => both.1))
      (arguments.imp fun _ _ both => both.2)
  case conditional =>
    intro name name' es es' arguments
    exact step (.conditional name name' (arguments.imp fun _ _ both => both.1))
      (arguments.imp fun _ _ both => both.2)
  case nullTest =>
    intro name name' es es' arguments
    exact step (.nullTest name name' (arguments.imp fun _ _ both => both.1))
      (arguments.imp fun _ _ both => both.2)
  case member => exact fun name _ _ target ih => step (.member name target) (.cons ih .nil)
  case group => exact fun inner ih => step (.group inner) (.cons ih .nil)
  case operation =>
    intro op l l' r r' left right ihl ihr
    exact step (.operation op left right) (.cons ihl (.cons ihr .nil))

theorem forall_iff {P : Expr → Prop} (h : List.Forall₂ (fun e e' => P e ↔ P e') es es') :
    (∀ e ∈ es, P e) ↔ ∀ e ∈ es', P e := by
  induction h with
  | nil => rfl
  | cons first _ ih => rw [List.forall_mem_cons, List.forall_mem_cons, first, ih]

theorem problems_iff (blind : c.IgnoresCase m) (h : Recased e e') :
    e.problems c m = [] ↔ e'.problems c m = [] := by
  refine of_children (fun whole parts => ?_) h
  rw [problems_eq_nil_iff, problems_eq_nil_iff, forall_iff parts, ownProblems_iff blind whole]

end Recased

/-! Values -/

namespace Recased

variable {c : Context} {m : Memory} {args : List Value} {e e' : Expr} {es es' : List Expr}

theorem valueOf_toOption (blind : c.IgnoresCase m) {name name' : String}
    (same : lowerText name = lowerText name') :
    (c.valueOf m args name).toOption = (c.valueOf m args name').toOption := by
  rw [Context.valueOf, Context.valueOf, blind.name?_congr same]
  cases c.name? m name' with
  | none => rfl
  | some binding =>
    cases binding with
    | parameter i t =>
      dsimp only [argument]
      cases args[i]? <;> rfl
    | kept slot =>
      dsimp only [expectVariable]
      split <;> rfl

/-- The value of an expression, if there is one, up to its errors. -/
abbrev SameValue (c : Context) (m : Memory) (args : List Value) (e e' : Expr) : Prop :=
  (e.eval c m args).toOption = (e'.eval c m args).toOption

theorem evalAll_toOption (h : List.Forall₂ (SameValue c m args) es es') (ts : List Ty) :
    (evalAll c m args es ts).toOption = (evalAll c m args es' ts).toOption := by
  induction h generalizing ts with
  | nil => rfl
  | cons first _ ih =>
    cases ts with
    | nil => rfl
    | cons t ts => simp only [evalAll, toOption_bind, first, ih]

/-- Both have the same value or none. -/
theorem eval_toOption (blind : c.IgnoresCase m) (h : Recased e e') : SameValue c m args e e' := by
  refine induct ?literal ?ident ?call ?conditional ?nullTest ?member ?group ?operation h
  case literal =>
    intro value source source'
    cases value with
    | null => rfl
    | boolean b => rfl
    | string s => rfl
    | integer n => cases n <;> rfl
    | real n => cases n <;> rfl
    | decimal d => cases d <;> rfl
  case ident =>
    intro name name' same
    rw [SameValue, eval, eval, valueOf_toOption blind same]
  case call =>
    intro name es es' arguments
    have types := tys_recased blind (arguments.imp fun _ _ both => both.1)
    have values := evalAll_toOption (arguments.imp fun _ _ both => both.2)
    simp only [SameValue, eval, toOption_bind, types, values]
  case conditional =>
    intro name name' es es' arguments
    match es, es', arguments with
    | [condition, first, second], [_, _, _], .cons a (.cons b (.cons d .nil)) =>
      have value : SameValue c m args condition _ := a.2
      have value' : SameValue c m args first _ := b.2
      have value'' : SameValue c m args second _ := d.2
      simp only [SameValue, eval, toOption_bind, value, b.1.ty_eq blind, d.1.ty_eq blind,
        apply_ite Except.toOption, value', value'']
    | [], [], .nil => rfl
    | [_], [_], .cons _ .nil => rfl
    | [_, _], [_, _], .cons _ (.cons _ .nil) => rfl
    | _ :: _ :: _ :: _ :: _, _ :: _ :: _ :: _ :: _, .cons _ (.cons _ (.cons _ (.cons _ _))) => rfl
  case nullTest =>
    intro name name' es es' arguments
    match es, es', arguments with
    | [e], [_], .cons a .nil =>
      have value : SameValue c m args e _ := a.2
      simp only [SameValue, eval, toOption_bind, value]
    | [], [], .nil => rfl
    | _ :: _ :: _, _ :: _ :: _, .cons _ (.cons _ _) => rfl
  case member =>
    intro name e e' target ih
    simp only [SameValue, eval, toOption_bind, target.ty_eq blind, ih]
  case group =>
    intro e e' _ ih
    rwa [SameValue, eval, eval]
  case operation =>
    intro op l l' r r' _ _ ihl ihr
    simp only [SameValue, eval, toOption_bind, ihl, ihr]

end Recased

end Expr

end ExprLang
