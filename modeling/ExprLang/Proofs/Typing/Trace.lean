import ExprLang.Proofs.Tree

set_option autoImplicit false

/-!
Evaluation with a record of what happens on the way: which parts come to which values, which handles
are called with which arguments, and which members are read from which targets. The record is kept
also where the evaluation fails, and without it the evaluation is the plain one (`trace_result`).
-/

namespace ExprLang

/-- Something that happens while an expression is evaluated. -/
inductive Event
  | evaluated (e : Expr) (v : Value)
  | called (name : String) (arguments : List Expr) (h : Handle) (vs : List Value)
  | read (target : Expr) (name : String) (found : Member) (v : Value)

/-- The outcome of a computation with the events before it. -/
structure Traced (α : Type) where
  events : List Event
  result : Except Error α

namespace Traced

variable {α β : Type}

/-- The second computation starts only where the first has a value. -/
def andThen (x : Traced α) (f : α → Traced β) : Traced β :=
  match x.result with
  | .ok a => ⟨x.events ++ (f a).events, (f a).result⟩
  | .error e => ⟨x.events, .error e⟩

instance : Monad Traced where
  pure a := ⟨[], .ok a⟩
  bind := andThen

/-- A computation without events. -/
def lift (x : Except Error α) : Traced α := ⟨[], x⟩

def note (event : Event) : Traced Unit := ⟨[event], .ok ()⟩

/-- Records the value that an expression comes to. -/
def reaching (e : Expr) (x : Traced Value) : Traced Value := do
  let v ← x
  note (.evaluated e v)
  return v

@[simp] theorem result_pure (a : α) : (pure a : Traced α).result = .ok a := rfl

@[simp] theorem result_bind (x : Traced α) (f : α → Traced β) :
    (x >>= f).result = x.result >>= fun a => (f a).result := by
  change (x.andThen f).result = _
  simp only [andThen]
  cases x.result <;> rfl

@[simp] theorem result_lift (x : Except Error α) : (lift x).result = x := rfl

@[simp] theorem result_note (event : Event) : (note event).result = .ok () := rfl

@[simp] theorem result_reaching (e : Expr) (x : Traced Value) :
    (reaching e x).result = x.result := by
  simp only [reaching, result_bind, result_note, result_pure]
  cases x.result <;> rfl

/-- A value that is reached is on record. -/
theorem evaluated_mem {e : Expr} {x y : Traced Value} {v : Value} (reached : y = reaching e x)
    (h : y.result = .ok v) : .evaluated e v ∈ y.events := by
  subst reached
  obtain ⟨events, result⟩ := x
  obtain rfl : result = .ok v := (result_reaching e _).symm.trans h
  exact List.mem_append_right events List.mem_cons_self

end Traced

namespace Expr

mutual

/-- The evaluation of an expression with its events. -/
def trace (c : Context) (m : Memory) (args : List Value) : Expr → Traced Value
  | literal v source => .reaching (literal v source) (.lift (v.eval source))
  | ident name => .reaching (ident name) (.lift (c.valueOf m args name))
  | call name arguments => .reaching (call name arguments) do
    let h ← .lift (Error.ofProblem (c.handle name (tys c m arguments)))
    let vs ← traceAll c m args arguments h.parameters
    .note (.called name arguments h vs)
    .lift (h.run vs)
  | conditional name [condition, first, second] =>
    .reaching (conditional name [condition, first, second]) do
      let t := first.ty c m
      let u := second.ty c m
      let result := (branchTy? t u).getD .object
      if ← .lift (expectCondition (← condition.trace c m args)) then
        let v ← first.trace c m args
        if t = result then return v else .lift (coerce v result)
      else
        let v ← second.trace c m args
        if u = result then return v else .lift (coerce v result)
  | conditional _ _ => .lift (.error (.semantic [.conditionalArity]))
  | nullTest name [e] => .reaching (nullTest name [e]) do
    return .bool (← e.trace c m args).isNull
  | nullTest _ _ => .lift (.error (.semantic [.nullTestArity]))
  | member target name => .reaching (member target name) do
    let found ← .lift (Error.ofProblem (c.member (target.ty c m) name))
    let v ← target.trace c m args
    if v.isNull then .lift (.error (memberFault v name))
    else
      .note (.read target name found v)
      .lift (found.read v)
  | group inner => .reaching (group inner) (inner.trace c m args)
  | operation left op right => .reaching (operation left op right) do
    let a ← left.trace c m args
    let b ← right.trace c m args
    .lift (op.apply a b)

/-- The evaluation of arguments as the parameters of a handle want them. -/
def traceAll (c : Context) (m : Memory) (args : List Value) :
    List Expr → List Ty → Traced (List Value)
  | e :: es, t :: ts => do
    let v ← .lift (coerce (← e.trace c m args) t)
    let vs ← traceAll c m args es ts
    return v :: vs
  | _, _ => pure []

end

variable {c : Context} {m : Memory} {args : List Value}

theorem traceAll_result {es : List Expr}
    (h : ∀ e ∈ es, (e.trace c m args).result = e.eval c m args) (ts : List Ty) :
    (traceAll c m args es ts).result = evalAll c m args es ts := by
  induction es generalizing ts with
  | nil => cases ts <;> rfl
  | cons e es ih =>
    cases ts with
    | nil => rfl
    | cons t ts =>
      have first := h e List.mem_cons_self
      have rest := ih (fun x hx => h x (List.mem_cons_of_mem e hx)) ts
      simp only [traceAll, evalAll, Traced.result_bind, Traced.result_lift, first,
        rest, pure, Except.pure]

/-- The record does not change the evaluation. -/
theorem trace_result (e : Expr) : (e.trace c m args).result = e.eval c m args := by
  induction e with
  | literal v source => simp [trace, eval]
  | ident name => simp [trace, eval]
  | call name arguments ih =>
    simp only [trace, eval, Traced.result_reaching, Traced.result_bind, Traced.result_lift,
      Traced.result_note, traceAll_result ih]
    rfl
  | conditional name arguments ih =>
    match arguments with
    | [condition, first, second] =>
      have hcondition := ih condition (by simp)
      have hfirst := ih first (by simp)
      have hsecond := ih second (by simp)
      simp only [trace, eval, Traced.result_reaching, Traced.result_bind, Traced.result_lift,
        hcondition]
      congr
      funext v
      congr
      funext b
      cases b <;> simp [hfirst, hsecond, apply_ite Traced.result, pure, Except.pure]
    | [] => rfl
    | [_] => rfl
    | [_, _] => rfl
    | _ :: _ :: _ :: _ :: _ => rfl
  | nullTest name arguments ih =>
    match arguments with
    | [e] =>
      simp only [trace, eval, Traced.result_reaching, Traced.result_bind, ih e (by simp)]
      rfl
    | [] => rfl
    | _ :: _ :: _ => rfl
  | member target name ih =>
    simp only [trace, eval, Member.readFrom, Traced.result_reaching, Traced.result_bind,
      Traced.result_lift, apply_ite Traced.result, ih]
    rfl
  | group inner ih => simp [trace, eval, ih]
  | operation left op right ihl ihr =>
    simp only [trace, eval, Traced.result_reaching, Traced.result_bind, Traced.result_lift, ihl,
      ihr]

theorem evaluated_mem_trace {e : Expr} {v : Value} (h : e.eval c m args = .ok v) :
    .evaluated e v ∈ (e.trace c m args).events := by
  have result : (e.trace c m args).result = .ok v := (trace_result e).trans h
  cases e with
  | literal value source => exact Traced.evaluated_mem (by rw [trace]) result
  | ident name => exact Traced.evaluated_mem (by rw [trace]) result
  | call name arguments => exact Traced.evaluated_mem (by rw [trace]) result
  | conditional name arguments =>
    match arguments with
    | [_, _, _] => exact Traced.evaluated_mem (by rw [trace]) result
    | [] => cases h
    | [_] => cases h
    | [_, _] => cases h
    | _ :: _ :: _ :: _ :: _ => cases h
  | nullTest name arguments =>
    match arguments with
    | [_] => exact Traced.evaluated_mem (by rw [trace]) result
    | [] => cases h
    | _ :: _ :: _ => cases h
  | member target name => exact Traced.evaluated_mem (by rw [trace]) result
  | group inner => exact Traced.evaluated_mem (by rw [trace]) result
  | operation left op right => exact Traced.evaluated_mem (by rw [trace]) result

end Expr

end ExprLang
