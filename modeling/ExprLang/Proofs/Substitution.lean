import ExprLang.Binding
import ExprLang.Proofs.Context.Ownership
import ExprLang.Proofs.Tree

set_option autoImplicit false

/-!
Binding a variable is substitution. An expression means after a binding what the expression with the
bound one in the place of the name means before: it has the same problems, the same type and the
same value or error. The bound expression is evaluated once, and what it has come to with some
arguments it comes to with any further ones.
-/

namespace ExprLang

namespace Expr

mutual

/-- The expression with another one, in a group, in the place of a name. -/
def subst (x : String) (e : Expr) : Expr → Expr
  | literal value source => literal value source
  | ident name => if name = x then group e else ident name
  | call name arguments => call name (substAll x e arguments)
  | conditional name arguments => conditional name (substAll x e arguments)
  | nullTest name arguments => nullTest name (substAll x e arguments)
  | member target name => member (subst x e target) name
  | group inner => group (subst x e inner)
  | operation left op right => operation (subst x e left) op (subst x e right)

def substAll (x : String) (e : Expr) : List Expr → List Expr
  | [] => []
  | t :: ts => subst x e t :: substAll x e ts

end

theorem substAll_eq_map (x : String) (e : Expr) (ts : List Expr) :
    substAll x e ts = ts.map (subst x e) := by
  induction ts with
  | nil => rfl
  | cons t ts ih => rw [substAll, ih, List.map_cons]

end Expr

/-! Further arguments -/

/-- Where the first computation has a value the second one has it too. -/
def Yields {α : Type} (x y : Except Error α) : Prop := ∀ a, x = .ok a → y = .ok a

namespace Yields

variable {α β : Type} {x y : Except Error α}

theorem refl (x : Except Error α) : Yields x x := fun _ h => h

theorem bind {f g : α → Except Error β} (h : Yields x y) (rest : ∀ a, Yields (f a) (g a)) :
    Yields (x >>= f) (y >>= g) := by
  intro b value
  obtain ⟨a, first, second⟩ := bind_eq_ok_iff.1 value
  exact bind_eq_ok_iff.2 ⟨a, h a first, rest a b second⟩

end Yields

namespace Expr

variable {c : Context} {m : Memory} {args args' : List Value}

theorem valueOf_yields (more : args <+: args') (name : String) :
    Yields (c.valueOf m args name) (c.valueOf m args' name) := by
  rw [Context.valueOf, Context.valueOf]
  cases c.name? m name with
  | none => exact .refl _
  | some b =>
    cases b with
    | kept slot => exact .refl _
    | parameter i t =>
      intro v value
      obtain ⟨rest, rfl⟩ := more
      simp only [argument] at value ⊢
      cases given : args[i]? with
      | none => simp [given] at value
      | some w =>
        have inside := (List.getElem?_eq_some_iff.1 given).1
        rw [List.getElem?_append_left inside]
        exact value

theorem evalAll_yields {es : List Expr} (ts : List Ty)
    (h : ∀ e ∈ es, Yields (e.eval c m args) (e.eval c m args')) :
    Yields (evalAll c m args es ts) (evalAll c m args' es ts) := by
  induction es generalizing ts with
  | nil => exact .refl _
  | cons e es ih =>
    obtain ⟨head, tail⟩ := List.forall_mem_cons.1 h
    cases ts with
    | nil => exact .refl _
    | cons t ts =>
      rw [evalAll, evalAll]
      refine head.bind fun v => (Yields.refl _).bind fun v => ?_
      exact (ih ts tail).bind fun vs => .refl _

/-- What an expression has come to with some arguments it comes to with any further ones. -/
theorem eval_yields (more : args <+: args') (e : Expr) :
    Yields (e.eval c m args) (e.eval c m args') := by
  induction e with
  | literal v source => exact .refl _
  | ident name => exact valueOf_yields more name
  | call name arguments ih =>
    rw [eval, eval]
    refine (Yields.refl _).bind fun h => ?_
    exact (evalAll_yields h.parameters ih).bind fun vs => .refl _
  | conditional name arguments ih =>
    match arguments with
    | [condition, first, second] =>
      have first' := ih first (by simp)
      have second' := ih second (by simp)
      rw [eval, eval]
      refine (ih condition (by simp)).bind fun v => ?_
      refine (Yields.refl _).bind fun b => ?_
      cases b with
      | true => exact first'.bind fun v => .refl _
      | false => exact second'.bind fun v => .refl _
    | [] => exact .refl _
    | [_] => exact .refl _
    | [_, _] => exact .refl _
    | _ :: _ :: _ :: _ :: _ => exact .refl _
  | nullTest name arguments ih =>
    match arguments with
    | [e] =>
      rw [eval, eval]
      exact (ih e (by simp)).bind fun v => .refl _
    | [] => exact .refl _
    | _ :: _ :: _ => exact .refl _
  | member target name ih =>
    rw [eval, eval]
    refine (Yields.refl _).bind fun found => ?_
    exact ih.bind fun v => .refl _
  | group inner ih =>
    rw [eval, eval]
    exact ih
  | operation left op right ihl ihr =>
    rw [eval, eval]
    exact ihl.bind fun a => ihr.bind fun b => .refl _

end Expr

/-! Substitution -/

namespace Context

/-- A name means a value that an expression has come to, and all other names mean what they did. -/
structure Binds (c : Context) (m m' : Memory) (x : String) (e : Expr) (v : Value) : Prop where
  kept : ∃ slot, c.name? m' x = some (.kept slot) ∧ slot.content.value = v
  others : ∀ y, y ≠ x → c.name? m' y = c.name? m y
  checked : e.problems c m = []
  typed : v.ty = e.ty c m

namespace Binds

variable {c : Context} {m m' : Memory} {x : String} {e : Expr} {v : Value}
  (h : c.Binds m m' x e v)

include h

theorem ty_ident (name : String) :
    (Expr.subst x e (.ident name)).ty c m = (Expr.ident name).ty c m' := by
  rw [Expr.subst]
  split
  · rename_i same
    subst same
    obtain ⟨slot, bound, rfl⟩ := h.kept
    rw [Expr.ty, Expr.ty, ← h.typed, bound]
    rfl
  · rename_i other
    rw [Expr.ty, Expr.ty, h.others name other]

theorem ty (t : Expr) : (Expr.subst x e t).ty c m = t.ty c m' := by
  induction t with
  | literal value source => rfl
  | ident name => exact h.ty_ident name
  | call name arguments ih =>
    rw [Expr.subst, Expr.substAll_eq_map, Expr.ty, Expr.ty, Expr.tys_map ih]
  | conditional name arguments ih =>
    rw [Expr.subst, Expr.substAll_eq_map, Expr.ty, Expr.ty, Expr.tys_map ih]
  | nullTest name arguments => rfl
  | member target name ih => rw [Expr.subst, Expr.ty, Expr.ty, ih]
  | group inner ih => rw [Expr.subst, Expr.ty, Expr.ty, ih]
  | operation left op right ihl ihr => rw [Expr.subst, Expr.ty, Expr.ty, ihl, ihr]

theorem tys (ts : List Expr) : Expr.tys c m (ts.map (Expr.subst x e)) = Expr.tys c m' ts :=
  Expr.tys_map fun t _ => h.ty t

theorem problems_ident (name : String) :
    (Expr.subst x e (.ident name)).problems c m = (Expr.ident name).problems c m' := by
  rw [Expr.subst]
  split
  · rename_i same
    subst same
    obtain ⟨slot, bound, -⟩ := h.kept
    rw [Expr.problems, Expr.problems, h.checked, Expr.ownProblems, bound]
    rfl
  · rename_i other
    rw [Expr.problems, Expr.ownProblems, Expr.problems, Expr.ownProblems, h.others name other]

theorem problems (t : Expr) : (Expr.subst x e t).problems c m = t.problems c m' := by
  induction t with
  | literal value source => rcases value with _ | _ | (_ | _) | (_ | _) | (_ | _) | _ <;> rfl
  | ident name => exact h.problems_ident name
  | call name arguments ih =>
    simp only [Expr.subst, Expr.substAll_eq_map, Expr.problems, Expr.ownProblems,
      Expr.problemsAll_map ih, h.tys]
  | conditional name arguments ih =>
    simp only [Expr.subst, Expr.substAll_eq_map, Expr.problems, Expr.ownProblems,
      Expr.problemsAll_map ih, h.tys]
  | nullTest name arguments ih =>
    simp only [Expr.subst, Expr.substAll_eq_map, Expr.problems, Expr.ownProblems,
      Expr.problemsAll_map ih, List.length_map]
  | member target name ih =>
    simp only [Expr.subst, Expr.problems, Expr.ownProblems, ih, h.ty]
  | group inner ih => rw [Expr.subst, Expr.problems, Expr.problems, ih]
  | operation left op right ihl ihr =>
    simp only [Expr.subst, Expr.problems, Expr.ownProblems, ihl, ihr, h.ty]

variable {args : List Value} (value : e.eval c m args = .ok v)

include value

theorem eval_ident (name : String) :
    (Expr.subst x e (.ident name)).eval c m args = (Expr.ident name).eval c m' args := by
  rw [Expr.subst]
  split
  · rename_i same
    subst same
    obtain ⟨slot, bound, rfl⟩ := h.kept
    have fits := slot.content.value.isInstanceOf_ty
    rw [Expr.eval, Expr.eval, value, valueOf, bound]
    dsimp only
    rw [expectVariable, Variable.ty, if_pos fits]
  · rename_i other
    rw [Expr.eval, valueOf, Expr.eval, valueOf, h.others name other]

theorem eval (t : Expr) : (Expr.subst x e t).eval c m args = t.eval c m' args := by
  induction t with
  | literal value source => rfl
  | ident name => exact h.eval_ident value name
  | call name arguments ih =>
    simp only [Expr.subst, Expr.substAll_eq_map, Expr.eval, h.tys, Expr.evalAll_map _ ih]
  | conditional name arguments ih =>
    match arguments with
    | [condition, first, second] =>
      have condition_eq := ih condition (by simp)
      have first_eq := ih first (by simp)
      have second_eq := ih second (by simp)
      simp only [Expr.subst, Expr.substAll, Expr.eval, h.ty, condition_eq, first_eq, second_eq]
    | [] => rfl
    | [_] => rfl
    | [_, _] => rfl
    | _ :: _ :: _ :: _ :: _ => rfl
  | nullTest name arguments ih =>
    match arguments with
    | [t] =>
      have inner := ih t (by simp)
      simp only [Expr.subst, Expr.substAll, Expr.eval, inner]
    | [] => rfl
    | _ :: _ :: _ => rfl
  | member target name ih => simp only [Expr.subst, Expr.eval, h.ty, ih]
  | group inner ih => rw [Expr.subst, Expr.eval, Expr.eval, ih]
  | operation left op right ihl ihr => simp only [Expr.subst, Expr.eval, ihl, ihr]

end Binds

variable {c : Context} {m m' : Memory} {x : String} {e : Expr} {v : Value}

/-- A value that is kept under a name is what the name means, and no other name changes. -/
theorem binds_of_store {constant : Bool} (own : c.OwnStore m)
    (exact : c.options.ignoreVariableCase = false) (free : c.parameterPosition? x = none)
    (checked : e.problems c m = []) (typed : v.ty = e.ty c m)
    (kept : c.store m x ⟨v, constant⟩ = .ok m') : c.Binds m m' x e v where
  kept := ⟨_, name?_of_store own kept free, rfl⟩
  others _ other := name?_of_store_ne own kept exact other
  checked := checked
  typed := typed

/-- A binding keeps the value that its expression has without arguments. -/
theorem apply_binding {text : String} {constant : Bool} (none : c.parameters = [])
    (parsed : c.parse text = .ok e) (checked : e.problems c m = [])
    (value : e.eval c m [] = .ok v) :
    (Binding.mk x text constant).apply c m
      = if constant then c.setConstant m x v else c.setVariable m x v := by
  have passed : c.check m text = .ok e := check_eq_ok_iff.2 ⟨parsed, checked⟩
  have accepted : checkArguments c.parameters [] = .ok () := by
    rw [none]
    rfl
  have interpreted : c.interpret m text [] = .ok v := by
    rw [interpret, passed]
    simp only [bind, Except.bind, accepted, value]
  rw [Binding.apply, interpreted]
  rfl

/-- After a name is bound to what an expression has come to, every expression has the problems, the
type and the result that it has before with the bound one in the place of the name. What was
evaluated without arguments, as for a `Binding`, stands for itself whatever the arguments. -/
theorem bound_eq_subst (x : String) (constant : Bool) {args₀ : List Value} (own : c.OwnStore m)
    (exact : c.options.ignoreVariableCase = false) (free : c.parameterPosition? x = none)
    (named : Grammar.isName x.toList = true) (unreserved : c.options.isKeyword x = false)
    (checked : e.problems c m = []) (value : e.eval c m args₀ = .ok v)
    (typed : v.ty = e.ty c m) :
    ∃ m', (if constant then c.setConstant m x v else c.setVariable m x v) = .ok m'
      ∧ (∀ text, c.parameters = [] → args₀ = [] → c.parse text = .ok e →
        (Binding.mk x text constant).apply c m = .ok m')
      ∧ ∀ t : Expr, t.problems c m' = (Expr.subst x e t).problems c m
        ∧ t.ty c m' = (Expr.subst x e t).ty c m
        ∧ ∀ args, args₀ <+: args → t.eval c m' args = (Expr.subst x e t).eval c m args := by
  have valid : c.checkName .ofVariable x = .ok () := checkName_eq_ok_iff.2 ⟨named, unreserved⟩
  obtain ⟨m', kept⟩ : ∃ m', c.store m x ⟨v, constant⟩ = .ok m' :=
    ⟨_, store_eq_ok_iff.2 ⟨valid, rfl⟩⟩
  have set : (if constant then c.setConstant m x v else c.setVariable m x v) = .ok m' := by
    cases constant <;> exact kept
  have binds := binds_of_store own exact free checked typed kept
  refine ⟨m', set, ?_, fun t => ⟨(binds.problems t).symm, (binds.ty t).symm, ?_⟩⟩
  · intro text none without parsed
    subst without
    rw [apply_binding none parsed checked value, set]
  · intro args more
    exact (binds.eval (Expr.eval_yields more e v value) t).symm

/-- A child of a context with a variable, and a sum that is bound in the child. -/
theorem bound_eq_subst_sum :
    let frame (id : StoreId) : Frame := ⟨{}, MemberTable.standard.resolver, id, [], []⟩
    let c : Context := ⟨frame 1, [frame 0]⟩
    let m : Memory := ⟨[[("k", ⟨.int32 ⟨10, by decide, by decide⟩, false⟩)], []]⟩
    let e : Expr := .operation (.ident "k") .addition (.ident "k")
    let v : Value := .int32 ⟨20, by decide, by decide⟩
    c.OwnStore m ∧ e.eval c m [] = .ok v
      ∧ ∃ m', c.setConstant m "twice" v = .ok m' ∧ ∀ t : Expr,
        t.problems c m' = (Expr.subst "twice" e t).problems c m := by
  intro frame c m e v
  have own : c.OwnStore m := by
    refine ⟨?_, ?_⟩ <;> simp [c, frames, frame, m]
  have value : e.eval c m [] = .ok v := by decide
  obtain ⟨m', set, -, means⟩ := bound_eq_subst "twice" true own rfl rfl (by decide)
    (by decide) (by decide) value (by decide)
  exact ⟨own, value, m', set, fun t => (means t).1⟩

end Context

end ExprLang
