import ExprLang.Evaluation

set_option autoImplicit false

/-!
Induction on expressions, when two are the same, the nodes of an expression, and what it means for
the nodes when the check of the whole finds no problem.
-/

namespace ExprLang

theorem bind_eq_ok_iff {α β : Type} {x : Except Error α} {f : α → Except Error β} {b : β} :
    x >>= f = .ok b ↔ ∃ a, x = .ok a ∧ f a = .ok b := by
  cases x <;> simp [bind, Except.bind]

theorem toOption_bind {α β : Type} (x : Except Error α) (f : α → Except Error β) :
    (x >>= f).toOption = x.toOption.bind fun a => (f a).toOption := by
  cases x <;> rfl

theorem toOption_eq_some_iff {α : Type} {x : Except Error α} {a : α} :
    x.toOption = some a ↔ x = .ok a := by
  cases x <;> simp [Except.toOption]

namespace Expr

/-- Induction with one hypothesis for each argument of a call, a conditional or a null test. -/
@[elab_as_elim, induction_eliminator]
theorem induct {motive : Expr → Prop}
    (literal : ∀ value source, motive (literal value source))
    (ident : ∀ name, motive (ident name))
    (call : ∀ name arguments, (∀ e ∈ arguments, motive e) → motive (call name arguments))
    (conditional : ∀ name arguments, (∀ e ∈ arguments, motive e) →
      motive (conditional name arguments))
    (nullTest : ∀ name arguments, (∀ e ∈ arguments, motive e) → motive (nullTest name arguments))
    (member : ∀ target name, motive target → motive (member target name))
    (group : ∀ inner, motive inner → motive (group inner))
    (operation : ∀ left op right, motive left → motive right → motive (operation left op right))
    (e : Expr) : motive e := by
  refine @Expr.rec motive (fun es => ∀ e ∈ es, motive e) literal ident call conditional nullTest
    member group operation ?nil ?cons e
  case nil =>
    intro e h
    cases h
  case cons =>
    intro head tail hhead htail e h
    rcases List.mem_cons.1 h with rfl | h
    · exact hhead
    · exact htail e h

/-- Induction with one hypothesis for each part. -/
theorem children_induct {motive : Expr → Prop} (h : ∀ e, (∀ x ∈ e.children, motive x) → motive e)
    (e : Expr) : motive e := by
  induction e with
  | literal value source => exact h _ (by simp [children])
  | ident name => exact h _ (by simp [children])
  | call name arguments ih => exact h _ ih
  | conditional name arguments ih => exact h _ ih
  | nullTest name arguments ih => exact h _ ih
  | member target name ih => exact h _ (by simpa [children] using ih)
  | group inner ih => exact h _ (by simpa [children] using ih)
  | operation left op right ihl ihr => exact h _ (by simpa [children] using ⟨ihl, ihr⟩)

/-! Whether two expressions are the same can be decided. -/

mutual

def sameAs : Expr → Expr → Bool
  | literal v source, literal v' source' => v = v' && source = source'
  | ident name, ident name' => name = name'
  | call name es, call name' es' => name = name' && sameAll es es'
  | conditional name es, conditional name' es' => name = name' && sameAll es es'
  | nullTest name es, nullTest name' es' => name = name' && sameAll es es'
  | member target name, member target' name' => target.sameAs target' && name = name'
  | group inner, group inner' => inner.sameAs inner'
  | operation left op right, operation left' op' right' =>
    left.sameAs left' && op = op' && right.sameAs right'
  | _, _ => false

def sameAll : List Expr → List Expr → Bool
  | [], [] => true
  | e :: es, e' :: es' => e.sameAs e' && sameAll es es'
  | _, _ => false

end

theorem sameAll_iff {es : List Expr} (h : ∀ e ∈ es, ∀ e' : Expr, e.sameAs e' = true ↔ e = e')
    (es' : List Expr) : sameAll es es' = true ↔ es = es' := by
  induction es generalizing es' with
  | nil => cases es' <;> simp [sameAll]
  | cons e es ih =>
    obtain ⟨head, tail⟩ := List.forall_mem_cons.1 h
    cases es' with
    | nil => simp [sameAll]
    | cons e' es' => simp [sameAll, head e', ih tail es']

theorem sameAs_iff (e e' : Expr) : e.sameAs e' = true ↔ e = e' := by
  induction e generalizing e' with
  | literal v source => cases e' <;> simp [sameAs]
  | ident name => cases e' <;> simp [sameAs]
  | call name es ih => cases e' <;> simp [sameAs, sameAll_iff ih]
  | conditional name es ih => cases e' <;> simp [sameAs, sameAll_iff ih]
  | nullTest name es ih => cases e' <;> simp [sameAs, sameAll_iff ih]
  | member target name ih => cases e' <;> simp [sameAs, ih]
  | group inner ih => cases e' <;> simp [sameAs, ih]
  | operation left op right ihl ihr => cases e' <;> simp [sameAs, ihl, ihr, and_assoc]

instance : DecidableEq Expr := fun e e' => decidable_of_iff _ (sameAs_iff e e')

/-! The nodes of an expression -/

/-- `x.Within e` when `x` is a node of `e`, which may be `e` itself. -/
inductive Within (x : Expr) : Expr → Prop
  | refl : Within x x
  | child {y e : Expr} (inside : Within x y) (child : y ∈ e.children) : Within x e

theorem Within.trans {x y z : Expr} (h : x.Within y) (h' : y.Within z) : x.Within z := by
  induction h' with
  | refl => exact h
  | child _ hc ih => exact ih.child hc

theorem within_of_mem_children {x e : Expr} (h : x ∈ e.children) : x.Within e := Within.refl.child h

/-- A condition on all nodes of an expression is one on all nodes of each part. -/
theorem forall_within_of_mem_children {P : Expr → Prop} {e x : Expr}
    (h : ∀ y, y.Within e → P y) (hx : x ∈ e.children) : ∀ y, y.Within x → P y :=
  fun y hy => h y (hy.trans (within_of_mem_children hx))

/-- It is one on the node itself and on all nodes of its parts. -/
theorem forall_within_of_children {P : Expr → Prop} {e : Expr} (own : P e)
    (h : ∀ x ∈ e.children, ∀ y, y.Within x → P y) : ∀ y, y.Within e → P y := by
  intro y inside
  cases inside with
  | refl => exact own
  | child inside mem => exact h _ mem y inside

/-- A change that is made to every node alike changes the nodes of an expression. -/
theorem within_map_iff {f : Expr → Expr} (parts : ∀ e, (f e).children = e.children.map f)
    {x e : Expr} : x.Within (f e) ↔ ∃ y : Expr, y.Within e ∧ x = f y := by
  constructor
  · intro inside
    generalize changed : f e = z at inside
    induction inside generalizing e with
    | refl => exact ⟨e, .refl, changed.symm⟩
    | child _ mem ih =>
      rw [← changed, parts] at mem
      obtain ⟨part, among, rfl⟩ := List.mem_map.1 mem
      obtain ⟨y, inside, rfl⟩ := ih rfl
      exact ⟨y, inside.child among, rfl⟩
  · rintro ⟨y, inside, rfl⟩
    induction inside with
    | refl => exact .refl
    | child _ mem ih =>
      refine ih.child ?_
      rw [parts]
      exact List.mem_map_of_mem mem

/-- A condition that no operation fails holds of a chain that grows. -/
theorem forall_within_append {P : Expr → Prop} {chain operand : Expr} (op : Operator)
    (operations : ∀ left op right, P (operation left op right))
    (hc : ∀ y, y.Within chain → P y) (ho : ∀ y, y.Within operand → P y) :
    ∀ y, y.Within (chain.append op operand) → P y := by
  have outer : ∀ {left right : Expr} {root : Operator}, (∀ y, y.Within left → P y) →
      (∀ y, y.Within right → P y) → ∀ y, y.Within (operation left root right) → P y := by
    intro left right root hl hr
    refine forall_within_of_children (operations left root right) ?_
    simp only [children, List.forall_mem_cons]
    exact ⟨hl, hr, by simp⟩
  induction chain with
  | operation left root right _ ih =>
    have hl := forall_within_of_mem_children hc (x := left) (by simp [children])
    have hr := forall_within_of_mem_children hc (x := right) (by simp [children])
    rw [Expr.append]
    split
    · exact outer hl (ih hr)
    · exact outer hc ho
  | _ => exact outer hc ho

variable {c : Context} {m : Memory}

/-! Arguments that are put in the place of others, one by one -/

section

variable {c' : Context} {m' : Memory} {f : Expr → Expr}

theorem tys_map {es : List Expr} (h : ∀ e ∈ es, (f e).ty c m = e.ty c' m') :
    tys c m (es.map f) = tys c' m' es := by
  rw [tys_eq_map, tys_eq_map, List.map_map]
  exact List.map_congr_left h

theorem problemsAll_map {es : List Expr} (h : ∀ e ∈ es, (f e).problems c m = e.problems c' m') :
    problemsAll c m (es.map f) = problemsAll c' m' es := by
  induction es with
  | nil => rfl
  | cons e es ih =>
    obtain ⟨head, tail⟩ := List.forall_mem_cons.1 h
    rw [List.map_cons, problemsAll, problemsAll, head, ih tail]

theorem evalAll_map {args : List Value} {es : List Expr} (ts : List Ty)
    (h : ∀ e ∈ es, (f e).eval c m args = e.eval c' m' args) :
    evalAll c m args (es.map f) ts = evalAll c' m' args es ts := by
  induction es generalizing ts with
  | nil => rfl
  | cons e es ih =>
    obtain ⟨head, tail⟩ := List.forall_mem_cons.1 h
    cases ts with
    | nil => rfl
    | cons t ts => rw [List.map_cons, evalAll, evalAll, head, ih ts tail]

end

/-! What the check settles -/

theorem problemsAll_eq_flatMap (es : List Expr) :
    problemsAll c m es = es.flatMap (problems c m) := by
  induction es with
  | nil => rfl
  | cons e es ih => rw [problemsAll, ih, List.flatMap_cons]

/-- The problems of an expression are those of its parts, or its own where these have none. -/
theorem problems_eq_children (e : Expr) : e.problems c m
    = if e.children.flatMap (problems c m) = [] then e.ownProblems c m
      else e.children.flatMap (problems c m) := by
  cases e with
  | literal v source => rfl
  | ident name => rfl
  | call name arguments =>
    rw [problems, children, problemsAll_eq_flatMap]
    cases arguments.flatMap (problems c m) <;> simp
  | conditional name arguments =>
    rw [problems, children, problemsAll_eq_flatMap]
    cases arguments.flatMap (problems c m) <;> simp
  | nullTest name arguments =>
    rw [problems, children, problemsAll_eq_flatMap]
    cases arguments.flatMap (problems c m) <;> simp
  | member target name =>
    rw [problems, children, List.flatMap_singleton]
    cases target.problems c m <;> simp
  | group inner =>
    rw [problems, children, List.flatMap_singleton]
    split
    · rename_i none
      exact none
    · rfl
  | operation left op right =>
    have both : [left, right].flatMap (problems c m) = left.problems c m ++ right.problems c m := by
      simp
    rw [problems, children, both]
    cases left.problems c m ++ right.problems c m <;> simp

/-- An expression has no problems when neither its parts nor the expression itself have any. -/
theorem problems_eq_nil_iff {e : Expr} :
    e.problems c m = [] ↔ (∀ x ∈ e.children, x.problems c m = []) ∧ e.ownProblems c m = [] := by
  rw [problems_eq_children, ← List.flatMap_eq_nil_iff]
  split
  · rename_i parts
    exact (and_iff_right parts).symm
  · rename_i parts
    exact iff_of_false parts fun both => parts both.1

theorem problems_of_mem_children {e x : Expr} (h : e.problems c m = []) (hx : x ∈ e.children) :
    x.problems c m = [] :=
  (problems_eq_nil_iff.1 h).1 x hx

theorem problems_of_within {e x : Expr} (h : e.problems c m = []) (inside : x.Within e) :
    x.problems c m = [] := by
  induction inside with
  | refl => exact h
  | child _ part ih => exact ih (problems_of_mem_children h part)

/-- Every problem belongs to a node whose parts have none, and no problem of such a node is lost. -/
theorem mem_problems_iff {p : Problem} {e : Expr} : p ∈ e.problems c m
    ↔ ∃ x : Expr, x.Within e ∧ (∀ y ∈ x.children, y.problems c m = []) ∧ p ∈ x.ownProblems c m := by
  have none : ∀ x : Expr, x.children.flatMap (problems c m) = []
      ↔ ∀ y ∈ x.children, y.problems c m = [] := fun x => List.flatMap_eq_nil_iff
  constructor
  · intro mem
    induction e using children_induct with
    | h e ih =>
      rw [problems_eq_children] at mem
      split at mem
      · rename_i parts
        exact ⟨e, .refl, (none e).1 parts, mem⟩
      · obtain ⟨x, part, mem⟩ := List.mem_flatMap.1 mem
        obtain ⟨y, inside, rest⟩ := ih x part mem
        exact ⟨y, inside.child part, rest⟩
  · rintro ⟨x, inside, parts, own⟩
    induction inside with
    | refl => rwa [problems_eq_children, if_pos ((none x).2 parts)]
    | @child y e _ part ih =>
      have found : p ∈ e.children.flatMap (problems c m) := List.mem_flatMap.2 ⟨y, part, ih⟩
      rwa [problems_eq_children, if_neg (List.ne_nil_of_mem found)]

theorem problemOf_eq_nil_iff {α : Type} {x : Except Problem α} :
    problemOf x = [] ↔ ∃ a, x = .ok a := by
  cases x <;> simp [problemOf]

/-- What the check has settled for a literal. -/
theorem eval_literal_of_problems {v : Literal} {source : String}
    (h : (literal v source).problems c m = []) :
    ∃ value, v.eval source = .ok value ∧ value.ty = v.ty := by
  have own := (problems_eq_nil_iff.1 h).2
  cases v with
  | null => exact ⟨_, rfl, rfl⟩
  | boolean b => exact ⟨_, rfl, rfl⟩
  | string s => exact ⟨_, rfl, rfl⟩
  | integer n =>
    cases n with
    | none => simp [ownProblems] at own
    | some n => exact ⟨_, rfl, rfl⟩
  | real n =>
    cases n with
    | none => simp [ownProblems] at own
    | some n => exact ⟨_, rfl, rfl⟩
  | decimal d =>
    cases d with
    | none => simp [ownProblems] at own
    | some d => exact ⟨_, rfl, rfl⟩

theorem name?_of_problems {name : String} (h : (ident name).problems c m = []) :
    ∃ b, c.name? m name = some b := by
  have own := (problems_eq_nil_iff.1 h).2
  simp only [ownProblems] at own
  split at own
  · exact Option.isSome_iff_exists.1 ‹_›
  · cases own

theorem handle_of_problems {name : String} {arguments : List Expr}
    (h : (call name arguments).problems c m = []) :
    ∃ f, c.handle name (tys c m arguments) = .ok f :=
  problemOf_eq_nil_iff.1 (problems_eq_nil_iff.1 h).2

theorem member_of_problems {target : Expr} {name : String}
    (h : (member target name).problems c m = []) :
    ∃ found, c.member (target.ty c m) name = .ok found :=
  problemOf_eq_nil_iff.1 (problems_eq_nil_iff.1 h).2

/-- A checked conditional has a boolean condition and two branches with a type in common. -/
theorem conditional_of_problems {name : String} {arguments : List Expr}
    (h : (conditional name arguments).problems c m = []) :
    ∃ condition first second t, arguments = [condition, first, second]
      ∧ condition.ty c m = .boolean
      ∧ branchTy? (first.ty c m) (second.ty c m) = some t := by
  have own := (problems_eq_nil_iff.1 h).2
  match arguments with
  | [condition, first, second] =>
    simp only [ownProblems, tys, List.append_eq_nil_iff, ite_eq_left_iff, reduceCtorEq,
      imp_false, Decidable.not_not] at own
    obtain ⟨boolean, common⟩ := own
    obtain ⟨t, ht⟩ := Option.isSome_iff_exists.1 common
    exact ⟨condition, first, second, t, rfl, boolean, ht⟩
  | [] => simp [ownProblems, tys] at own
  | [_] => simp [ownProblems, tys] at own
  | [_, _] => simp [ownProblems, tys] at own
  | _ :: _ :: _ :: _ :: _ => simp [ownProblems, tys] at own

theorem nullTest_of_problems {name : String} {arguments : List Expr}
    (h : (nullTest name arguments).problems c m = []) : ∃ e, arguments = [e] := by
  have own := (problems_eq_nil_iff.1 h).2
  simp only [ownProblems, ite_eq_left_iff, reduceCtorEq, imp_false, Decidable.not_not] at own
  exact List.length_eq_one_iff.1 own

theorem operands_of_problems {left right : Expr} {op : Operator}
    (h : (operation left op right).problems c m = []) :
    op.problems (left.ty c m) (right.ty c m) = [] :=
  List.map_eq_nil_iff.1 (problems_eq_nil_iff.1 h).2

end Expr

/-- A text that passes the check reads as an expression without problems. -/
theorem Context.check_eq_ok_iff {c : Context} {m : Memory} {text : String} {e : Expr} :
    c.check m text = .ok e ↔ c.parse text = .ok e ∧ e.problems c m = [] := by
  rw [check]
  cases c.parse text with
  | error err => simp [bind, Except.bind]
  | ok read =>
    cases h : read.problems c m with
    | nil =>
      simp only [bind, Except.bind, h, pure, Except.pure, Except.ok.injEq]
      exact ⟨fun same => ⟨same, same ▸ h⟩, (·.1)⟩
    | cons p ps =>
      simp only [bind, Except.bind, h, reduceCtorEq, Except.ok.injEq, false_iff, not_and]
      rintro rfl none
      rw [h] at none
      cases none

end ExprLang
