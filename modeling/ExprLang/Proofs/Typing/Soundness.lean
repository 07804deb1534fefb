import ExprLang.Proofs.Typing.Operands
import ExprLang.Proofs.Typing.Resolution
import ExprLang.Proofs.Typing.Trace

set_option autoImplicit false

/-!
Type soundness and progress of evaluation. A checked expression on accepted arguments comes to a
value of its static type, and so does every part that is evaluated; handles and members see values
of the types that they were resolved for; and unless references are compared, what can go wrong is
arithmetic, a member of `null`, or a handle or member itself.
-/

namespace ExprLang

/-- No relation in the expression compares two references. -/
def Expr.ComparesValues (c : Context) (m : Memory) (e : Expr) : Prop :=
  ∀ left op right, (Expr.operation left op right).Within e → op.family = .relation →
    ¬ ((left.ty c m).isReference = true ∧ (right.ty c m).isReference = true)

theorem Expr.ComparesValues.of_mem_children {c : Context} {m : Memory} {e x : Expr}
    (h : e.ComparesValues c m) (hx : x ∈ e.children) : x.ComparesValues c m :=
  fun left op right inside => h left op right (inside.trans (within_of_mem_children hx))

/-- Whether an event is as the static types say. -/
def Event.WellTyped (c : Context) (m : Memory) : Event → Prop
  | evaluated e v => v.isInstanceOf (e.ty c m) = true
  | called name arguments h vs =>
    c.handle name (Expr.tys c m arguments) = .ok h ∧ Fits vs h.parameters
  | read target name found v =>
    c.member (target.ty c m) name = .ok found ∧ v.isNull = false
      ∧ v.isInstanceOf (target.ty c m) = true

/-- An error that an evaluation may end with after the events that were recorded. -/
inductive EvaluationFailure (events : List Event) : Error → Prop
  | arithmetic {e : Error} (arithmetic : e.IsArithmetic) : EvaluationFailure events e
  | nullTarget (name : String) : EvaluationFailure events (.evaluation (.nullTarget name))
  | handle {name : String} {arguments : List Expr} {h : Handle} {vs : List Value} {e : Error}
      (called : .called name arguments h vs ∈ events) (failed : h.run vs = .error e) :
      EvaluationFailure events e
  | member {target : Expr} {name : String} {found : Member} {v : Value} {e : Error}
      (read : .read target name found v ∈ events) (failed : found.read v = .error e) :
      EvaluationFailure events e

theorem EvaluationFailure.mono {before after : List Event} {e : Error}
    (h : EvaluationFailure before e) (sub : ∀ event ∈ before, event ∈ after) :
    EvaluationFailure after e := by
  cases h with
  | arithmetic h => exact .arithmetic h
  | nullTarget name => exact .nullTarget name
  | handle called failed => exact .handle (sub _ called) failed
  | member read failed => exact .member (sub _ read) failed

namespace Traced

variable {α β : Type} {c : Context} {m : Memory} {quiet : Prop} {good : α → Prop}

/-- A computation with well-typed events and a `good` value. Where it is `quiet` its errors are
those that an evaluation may end with. -/
structure Sound (c : Context) (m : Memory) (quiet : Prop) (x : Traced α) (good : α → Prop) :
    Prop where
  events : ∀ event ∈ x.events, event.WellTyped c m
  ok : ∀ a, x.result = .ok a → good a
  error : quiet → ∀ e, x.result = .error e → EvaluationFailure x.events e

namespace Sound

theorem pure {a : α} (h : good a) : Sound c m quiet (Pure.pure a) good where
  events := by simp [Pure.pure]
  ok := by
    rintro _ ⟨⟩
    exact h
  error := by
    rintro _ _ ⟨⟩

theorem lift {x : Except Error α} (h : Lands x good fun e => quiet → e.IsArithmetic) :
    Sound c m quiet (Traced.lift x) good where
  events := by simp [Traced.lift]
  ok := h.ok
  error := fun calm e failed => .arithmetic (h.error e failed calm)

/-- What has been resolved is there. -/
theorem resolve {x : Except Problem α} {a : α} (h : x = .ok a) :
    Sound c m quiet (Traced.lift (Error.ofProblem x)) (· = a) := by
  subst h
  exact lift (.of_ok rfl)

theorem note {event : Event} (h : event.WellTyped c m) :
    Sound c m quiet (Traced.note event) fun _ => True where
  events := by simpa [Traced.note] using h
  ok := fun _ _ => trivial
  error := by
    rintro _ _ ⟨⟩

theorem mono {quiet' : Prop} {x : Traced α} (h : Sound c m quiet x good) (calm : quiet' → quiet) :
    Sound c m quiet' x good :=
  ⟨h.events, h.ok, fun calm' => h.error (calm calm')⟩

theorem bind {x : Traced α} {f : α → Traced β} {good' : β → Prop} (h : Sound c m quiet x good)
    (hf : ∀ a, good a → Sound c m quiet (f a) good') : Sound c m quiet (x >>= f) good' := by
  obtain ⟨events, result⟩ := x
  cases result with
  | error e =>
    refine ⟨h.events, ?_, fun calm e failed => ?_⟩
    · rintro _ ⟨⟩
    · cases failed
      exact h.error calm e rfl
  | ok a =>
    have rest := hf a (h.ok a rfl)
    refine ⟨fun event mem => ?_, rest.ok, fun calm e failed => ?_⟩
    · rcases List.mem_append.1 mem with mem | mem
      · exact h.events event mem
      · exact rest.events event mem
    · exact (rest.error calm e failed).mono fun event mem => List.mem_append_right events mem

theorem reaching {e : Expr} {x : Traced Value}
    (h : Sound c m quiet x (·.isInstanceOf (e.ty c m) = true)) :
    Sound c m quiet (Traced.reaching e x) (·.isInstanceOf (e.ty c m) = true) := by
  refine h.bind fun v typed => ?_
  have noted : Sound c m quiet (Traced.note (.evaluated e v)) fun _ => True := note typed
  exact noted.bind fun _ _ => pure typed

end Sound

/-- A handle is called on values of the types of its parameters. -/
theorem sound_call (hc : c.Faithful) {name : String} {arguments : List Expr} {h : Handle}
    {vs : List Value} (resolved : c.handle name (Expr.tys c m arguments) = .ok h)
    (fits : Fits vs h.parameters) :
    Sound c m quiet (do Traced.note (.called name arguments h vs); Traced.lift (h.run vs))
      (·.isInstanceOf h.result = true) where
  events := by
    intro event mem
    obtain rfl := List.mem_singleton.1 mem
    exact ⟨resolved, fits⟩
  ok := fun v value => hc.handle resolved vs v fits value
  error := fun _ e failed => .handle (List.mem_singleton_self _) failed

/-- A member is read from a value of the type of its target that is not `null`. -/
theorem sound_read (hc : c.Faithful) {target : Expr} {name : String} {found : Member} {v : Value}
    (resolved : c.member (target.ty c m) name = .ok found)
    (typed : v.isInstanceOf (target.ty c m) = true) :
    Sound c m quiet
      (if v.isNull then Traced.lift (.error (memberFault v name))
        else do Traced.note (.read target name found v); Traced.lift (found.read v))
      (·.isInstanceOf found.ty = true) := by
  split
  · rename_i null
    refine ⟨by simp [Traced.lift], by rintro _ ⟨⟩, fun _ e failed => ?_⟩
    cases failed
    rw [memberFault, if_pos null]
    exact .nullTarget name
  · rename_i present
    have present : v.isNull = false := by simpa using present
    refine ⟨fun event mem => ?_, fun r value => ?_, fun _ e failed => ?_⟩
    · obtain rfl := List.mem_singleton.1 mem
      exact ⟨resolved, present, typed⟩
    · exact hc.member resolved v r present typed value
    · exact .member (List.mem_singleton_self _) failed

end Traced

namespace Expr

variable {c : Context} {m : Memory} {args : List Value} {quiet : Prop}

theorem valueOf_lands (fits : Fits args (c.parameters.map (·.ty))) {name : String}
    (h : (ident name).problems c m = []) :
    Lands (c.valueOf m args name) (·.isInstanceOf ((ident name).ty c m) = true)
      fun e => quiet → e.IsArithmetic := by
  obtain ⟨b, bound⟩ := name?_of_problems h
  simp only [Context.valueOf, ty, bound, Option.map_some, Option.getD_some]
  cases b with
  | parameter i t =>
    obtain ⟨p, hp, rfl⟩ := Context.parameters_of_name? bound
    obtain ⟨v, value, typed⟩ := argument_of_fits fits hp name
    simp only [value]
    exact .of_ok typed
  | kept slot =>
    have typed : slot.content.value.isInstanceOf slot.content.ty = true :=
      slot.content.value.isInstanceOf_ty
    simp only [expectVariable, typed, if_true]
    exact .of_ok typed

theorem traceAll_sound {es : List Expr} {us : List Ty}
    (h : ∀ e ∈ es, Traced.Sound c m quiet (e.trace c m args) (·.isInstanceOf (e.ty c m) = true))
    (takes : assignableAll (tys c m es) us = true) :
    Traced.Sound c m quiet (traceAll c m args es us) fun vs => Fits vs us := by
  induction es generalizing us with
  | nil =>
    cases us with
    | nil => exact .pure .nil
    | cons u us => cases takes
  | cons e es ih =>
    cases us with
    | nil => cases takes
    | cons u us =>
      simp only [tys, assignableAll, Bool.and_eq_true] at takes
      have rest := ih (fun x hx => h x (List.mem_cons_of_mem e hx)) takes.2
      refine (h e List.mem_cons_self).bind fun v typed => ?_
      obtain ⟨w, coerced, fit⟩ := coerce_of_assignableTo typed takes.1
      have converted : Traced.Sound c m quiet (.lift (coerce v u)) (·.isInstanceOf u = true) := by
        rw [coerced]
        exact .lift (.of_ok fit)
      exact converted.bind fun w fit => rest.bind fun ws fits => .pure (.cons fit fits)

/-- A branch comes to a value of the type of the conditional. -/
theorem branch_sound {e : Expr} {t : Ty} {x : Traced Value}
    (h : Traced.Sound c m quiet x (·.isInstanceOf (e.ty c m) = true))
    (takes : (e.ty c m).assignableTo t = true) :
    Traced.Sound c m quiet
      (do
        let v ← x
        if e.ty c m = t then return v else Traced.lift (coerce v t))
      (·.isInstanceOf t = true) := by
  refine h.bind fun v typed => ?_
  split
  · rename_i same
    exact .pure (same ▸ typed)
  · obtain ⟨w, coerced, fit⟩ := coerce_of_assignableTo typed takes
    rw [coerced]
    exact .lift (.of_ok fit)

end Expr

/-- Branches are of one type, or numbers of kinds that meet. -/
theorem branchTy?_cases {t u r : Ty} (h : branchTy? t u = some r) :
    (t = r ∧ u = r)
      ∨ ∃ k l j, t = .numeric k ∧ u = .numeric l ∧ r = .numeric j ∧ Kind.meet? k l = some j := by
  simp only [branchTy?] at h
  split at h
  · rename_i same
    obtain rfl := Option.some.inj h
    exact .inl ⟨rfl, same.symm⟩
  · simp only [bind, Option.bind_eq_some_iff, Ty.kind?_eq_some_iff] at h
    obtain ⟨k, rfl, l, rfl, j, meet, joined⟩ := h
    obtain rfl := Option.some.inj joined
    exact .inr ⟨k, l, j, rfl, rfl, rfl, meet⟩

theorem branchTy?_assignableTo {t u r : Ty} (h : branchTy? t u = some r) :
    t.assignableTo r = true ∧ u.assignableTo r = true := by
  rcases branchTy?_cases h with ⟨rfl, rfl⟩ | ⟨k, l, j, rfl, rfl, rfl, meet⟩
  · exact ⟨Ty.assignableTo_refl _, Ty.assignableTo_refl _⟩
  · obtain ⟨left, right⟩ := Kind.meet?_cases meet
    simpa [Ty.assignableTo] using And.intro left right

namespace Expr

variable {c : Context} {m : Memory} {args : List Value}

/-- The evaluation of a checked expression with its events is sound. -/
theorem trace_sound (hc : c.Faithful) (fits : Fits args (c.parameters.map (·.ty))) (e : Expr)
    (h : e.problems c m = []) :
    Traced.Sound c m (e.ComparesValues c m) (e.trace c m args)
      (·.isInstanceOf (e.ty c m) = true) := by
  induction e with
  | literal v source =>
    obtain ⟨value, read, typed⟩ := eval_literal_of_problems h
    rw [trace, read]
    refine .reaching (.lift (.of_ok ?_))
    rw [ty, ← typed]
    exact value.isInstanceOf_ty
  | ident name => exact .reaching (.lift (valueOf_lands fits h))
  | call name arguments ih =>
    obtain ⟨f, resolved⟩ := handle_of_problems h
    have result : (call name arguments).ty c m = f.result := by rw [ty, resolved]
    have parts : ∀ e ∈ arguments, Traced.Sound c m ((call name arguments).ComparesValues c m)
        (e.trace c m args) (·.isInstanceOf (e.ty c m) = true) :=
      fun e mem => (ih e mem (problems_of_mem_children h mem)).mono (·.of_mem_children mem)
    have passed := traceAll_sound parts (Context.mem_of_handle resolved).2
    rw [trace]
    refine .reaching ((Traced.Sound.resolve resolved).bind ?_)
    rintro _ rfl
    refine passed.bind fun vs fits => ?_
    rw [result]
    exact Traced.sound_call hc resolved fits
  | conditional name arguments ih =>
    obtain ⟨condition, first, second, t, rfl, boolean, common⟩ := conditional_of_problems h
    have result : (conditional name [condition, first, second]).ty c m = t := by
      simp only [ty, tys, common, Option.getD_some]
    have parts : ∀ e ∈ [condition, first, second],
        Traced.Sound c m ((conditional name [condition, first, second]).ComparesValues c m)
          (e.trace c m args) (·.isInstanceOf (e.ty c m) = true) :=
      fun e mem => (ih e mem (problems_of_mem_children h mem)).mono (·.of_mem_children mem)
    obtain ⟨left, right⟩ := branchTy?_assignableTo common
    simp only [trace, common, Option.getD_some]
    refine .reaching ?_
    rw [result]
    refine (parts condition (by simp)).bind fun v typed => ?_
    rw [boolean] at typed
    obtain ⟨b, rfl⟩ := Value.isInstanceOf_boolean_iff.1 typed
    have expected : Traced.Sound c m
        ((conditional name [condition, first, second]).ComparesValues c m)
        (.lift (expectCondition (.bool b))) fun _ => True := .lift (.of_ok trivial)
    refine expected.bind fun b _ => ?_
    cases b with
    | true => exact branch_sound (parts first (by simp)) left
    | false => exact branch_sound (parts second (by simp)) right
  | nullTest name arguments ih =>
    obtain ⟨e, rfl⟩ := nullTest_of_problems h
    have part := ih e (by simp) (problems_of_mem_children h (by simp [children]))
    have calm := fun (quiet : (nullTest name [e]).ComparesValues c m) =>
      quiet.of_mem_children (List.mem_singleton_self e)
    exact .reaching ((part.mono calm).bind fun v _ =>
      .pure (Value.isInstanceOf_boolean_iff.2 ⟨_, rfl⟩))
  | member target name ih =>
    obtain ⟨found, resolved⟩ := member_of_problems h
    have result : (member target name).ty c m = found.ty := by rw [ty, resolved]
    have mem : target ∈ (member target name).children := List.mem_singleton_self target
    have part := (ih (problems_of_mem_children h mem)).mono
      fun (quiet : (member target name).ComparesValues c m) => quiet.of_mem_children mem
    rw [trace]
    refine .reaching ((Traced.Sound.resolve resolved).bind ?_)
    rintro _ rfl
    rw [result]
    exact part.bind fun v typed => Traced.sound_read hc resolved typed
  | group inner ih =>
    have mem : inner ∈ (group inner).children := List.mem_singleton_self inner
    have part := (ih (problems_of_mem_children h mem)).mono
      fun (quiet : (group inner).ComparesValues c m) => quiet.of_mem_children mem
    exact .reaching part
  | operation left op right ihl ihr =>
    have hl : left ∈ (operation left op right).children := List.mem_cons_self
    have hr : right ∈ (operation left op right).children :=
      List.mem_cons_of_mem left (List.mem_singleton_self right)
    have partl := (ihl (problems_of_mem_children h hl)).mono
      fun (quiet : (operation left op right).ComparesValues c m) => quiet.of_mem_children hl
    have partr := (ihr (problems_of_mem_children h hr)).mono
      fun (quiet : (operation left op right).ComparesValues c m) => quiet.of_mem_children hr
    refine .reaching (partl.bind fun a ha => partr.bind fun b hb => .lift ?_)
    refine (Operator.apply_lands (operands_of_problems h) ha hb).mono (fun _ typed => typed) ?_
    rintro e (⟨relation, references⟩ | arithmetic) quiet
    · exact absurd references (quiet left op right .refl relation)
    · exact arithmetic

theorem isInstanceOf_of_eval (hc : c.Faithful) (fits : Fits args (c.parameters.map (·.ty)))
    {e : Expr} (h : e.problems c m = []) {v : Value} (value : e.eval c m args = .ok v) :
    v.isInstanceOf (e.ty c m) = true :=
  (trace_sound hc fits e h).ok v ((trace_result e).trans value)

/-- What the check of an expression promises of its evaluation, which goes through the recorded
events. -/
structure EvaluatesSoundly (c : Context) (m : Memory) (args : List Value) (e : Expr) : Prop where
  recorded : (e.trace c m args).result = e.eval c m args
  reached : ∀ v, e.eval c m args = .ok v → .evaluated e v ∈ (e.trace c m args).events
  value : ∀ v, e.eval c m args = .ok v → v.isInstanceOf (e.ty c m) = true
  events : ∀ event ∈ (e.trace c m args).events, event.WellTyped c m
  failure : e.ComparesValues c m → ∀ err, e.eval c m args = .error err →
    EvaluationFailure (e.trace c m args).events err

/-- Checked expressions evaluate soundly on accepted arguments. -/
theorem eval_sound (hc : c.Faithful) {e : Expr} (checked : e.problems c m = [])
    (accepted : checkArguments c.parameters args = .ok ()) : e.EvaluatesSoundly c m args := by
  have fits := checkArguments_eq_ok_iff.1 accepted
  have sound := trace_sound hc fits e checked
  refine ⟨trace_result e, fun v => evaluated_mem_trace,
    fun v => isInstanceOf_of_eval hc fits checked, sound.events, fun quiet err failed => ?_⟩
  exact sound.error quiet err ((trace_result e).trans failed)

/-- A parameter is widened for a function, and the result is concatenated with it. -/
theorem eval_sound_widening :
    let half : Handle := ⟨[.numeric .double], .string, fun _ => .ok (.string "half")⟩
    let c : Context := { frame := {
      options := {}
      members := fun _ _ => .notFound
      store := 0
      functions := [("half", [half])]
      parameters := [⟨"n", .int .int32⟩] } }
    let e : Expr := .operation (.call "half" [.ident "n"]) .concatenation (.ident "n")
    let args : List Value := [.int32 ⟨7, by decide, by decide⟩]
    c.Faithful ∧ e.problems c ⟨[]⟩ = [] ∧ checkArguments c.parameters args = .ok ()
      ∧ e.EvaluatesSoundly c ⟨[]⟩ args ∧ e.eval c ⟨[]⟩ args = .ok (.string "half7")
      ∧ (Value.string "half7").isInstanceOf (e.ty c ⟨[]⟩) = true := by
  intro half c e args
  have faithful : c.Faithful := by
    refine ⟨fun f hf entry he h hh => ?_, by rintro _ _ _ ⟨⟩⟩
    obtain rfl := List.mem_singleton.1 hf
    obtain rfl := List.mem_singleton.1 he
    obtain rfl := List.mem_singleton.1 hh
    rintro vs v - ⟨⟩
    rfl
  have checked : e.problems c ⟨[]⟩ = [] := by decide
  have accepted : checkArguments c.parameters args = .ok () := by decide
  have sound := eval_sound faithful checked accepted
  have value : e.eval c ⟨[]⟩ args = .ok (.string "half7") :=
    toOption_eq_some_iff.1 (by decide +kernel)
  exact ⟨faithful, checked, accepted, sound, value, sound.value _ value⟩

end Expr

end ExprLang
