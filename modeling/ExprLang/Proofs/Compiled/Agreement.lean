import ExprLang.Compiled.Program
import ExprLang.Proofs.Context.Slots
import ExprLang.Proofs.Typing.Soundness

set_option autoImplicit false

/-!
Compiled code against the walk of the tree. A checked expression can be compiled, and its code has
every value that the expression has. It also fails with the same error, but for the null test of a
value, which the compiler takes to be false without running what is tested.
-/

namespace ExprLang

/-- No null test in the expression is on a type whose values are never `null`. -/
def Expr.TestsReferences (c : Context) (m : Memory) (e : Expr) : Prop :=
  ∀ name inner, (Expr.nullTest name [inner]).Within e → (inner.ty c m).isReference = true

theorem Expr.TestsReferences.of_mem_children {c : Context} {m : Memory} {e x : Expr}
    (h : e.TestsReferences c m) (hx : x ∈ e.children) : x.TestsReferences c m :=
  fun name inner inside => h name inner (inside.trans (within_of_mem_children hx))

/-- The second computation has the value of the first. Where it is `exact` it also has its error. -/
structure Follows {α : Type} (exact : Prop) (x y : Except Error α) : Prop where
  ok : ∀ a, x = .ok a → y = .ok a
  error : exact → ∀ e, x = .error e → y = .error e

namespace Follows

variable {α β : Type} {exact : Prop} {x y : Except Error α}

theorem refl (x : Except Error α) : Follows exact x x := ⟨fun _ h => h, fun _ _ h => h⟩

theorem mono {exact' : Prop} (h : Follows exact x y) (sub : exact' → exact) : Follows exact' x y :=
  ⟨h.ok, fun holds => h.error (sub holds)⟩

theorem bind {f g : α → Except Error β} (h : Follows exact x y)
    (hf : ∀ a, x = .ok a → Follows exact (f a) (g a)) : Follows exact (x >>= f) (y >>= g) := by
  cases x with
  | ok a =>
    rw [h.ok a rfl]
    exact hf a rfl
  | error e =>
    refine ⟨?_, fun holds e' failed => ?_⟩
    · rintro _ ⟨⟩
    · rw [h.error holds e rfl]
      exact failed

theorem eq (h : Follows exact x y) (holds : exact) : y = x := by
  cases x with
  | ok a => exact h.ok a rfl
  | error e => exact h.error holds e rfl

end Follows

namespace Expr

variable {c : Context} {m : Memory}

/-- Code for an expression: of its type, with its values on all arguments that are accepted. -/
structure Codes (c : Context) (m : Memory) (exact : Prop) (e : Expr) (x : Compiled) : Prop where
  ty : x.ty = e.ty c m
  run : ∀ args, Fits args (c.parameters.map (·.ty)) →
    Follows exact (e.eval c m args) (x.code.run m args)

theorem Codes.mono {exact exact' : Prop} {e : Expr} {x : Compiled} (h : Codes c m exact e x)
    (sub : exact' → exact) : Codes c m exact' e x :=
  ⟨h.ty, fun args fits => (h.run args fits).mono sub⟩

/-- Names are read where the check found them. -/
theorem compileName_codes {exact : Prop} {name : String} (h : (ident name).problems c m = []) :
    ∃ x, c.compileName m name = .ok x ∧ Codes c m exact (ident name) x := by
  obtain ⟨b, bound⟩ := name?_of_problems h
  cases b with
  | parameter i t =>
    refine ⟨⟨t, .parameter i name⟩, by simp only [Context.compileName, bound], ?_, fun args _ => ?_⟩
    · simp only [Expr.ty, bound, Option.map_some, Option.getD_some, NameBinding.ty]
    · simp only [eval, Context.valueOf, bound, Code.run]
      exact .refl _
  | kept slot =>
    have ty : (ident name).ty c m = slot.content.ty := by
      simp only [Expr.ty, bound, Option.map_some, Option.getD_some, NameBinding.ty]
    have typed : slot.content.value.isInstanceOf slot.content.ty = true :=
      slot.content.value.isInstanceOf_ty
    have value : ∀ args, (ident name).eval c m args = .ok slot.content.value := fun args => by
      simp only [eval, Context.valueOf, bound, expectVariable, typed, if_true]
    by_cases constant : slot.content.constant = true
    · refine ⟨⟨slot.content.ty, .constant slot.content.value⟩, ?_, ty.symm, fun args _ => ?_⟩
      · simp only [Context.compileName, bound, constant, if_true]
      · rw [value, Code.run]
        exact .refl _
    · refine ⟨⟨slot.content.ty, .slot slot.store slot.key slot.content.ty⟩, ?_, ty.symm,
        fun args _ => ?_⟩
      · simp only [Context.compileName, bound, constant]
        rfl
      · have again := Context.get?_of_slot? (Context.slot?_of_name? bound)
        rw [value, Code.run, Code.readSlot, again]
        simp only [expectVariable, typed, if_true]
        exact .refl _

theorem compileAll_codes {exact : Prop} {es : List Expr}
    (h : ∀ e ∈ es, ∃ x, e.compile c m = .ok x ∧ Codes c m exact e x) :
    ∃ xs, compileAll c m es = .ok xs ∧ List.Forall₂ (Codes c m exact) es xs := by
  induction es with
  | nil => exact ⟨[], rfl, .nil⟩
  | cons e es ih =>
    obtain ⟨x, compiled, codes⟩ := h e List.mem_cons_self
    obtain ⟨xs, rest, all⟩ := ih fun y hy => h y (List.mem_cons_of_mem e hy)
    exact ⟨x :: xs, by rw [compileAll, compiled, rest]; rfl, .cons codes all⟩

theorem runAll_follows {exact : Prop} {args : List Value}
    (fits : Fits args (c.parameters.map (·.ty))) {es : List Expr} {xs : List Compiled}
    (h : List.Forall₂ (Codes c m exact) es xs) (ts : List Ty) :
    Follows exact (evalAll c m args es ts) (Code.runAll m args (xs.map (·.code)) ts) := by
  induction h generalizing ts with
  | nil => cases ts <;> exact .refl _
  | cons codes _ ih =>
    cases ts with
    | nil => exact .refl _
    | cons t ts =>
      simp only [evalAll, List.map_cons, Code.runAll]
      refine (codes.run args fits).bind fun v _ => ?_
      refine (Follows.refl _).bind fun w _ => ?_
      exact (ih ts).bind fun ws _ => .refl _

/-- A branch is converted in the code as it is in the evaluation. -/
theorem convertTo_codes {exact : Prop} (hc : c.Faithful) {e : Expr} {x : Compiled} {t : Ty}
    (checked : e.problems c m = []) (h : Codes c m exact e x)
    (reached : e.ty c m = t ∨ ∃ k l, e.ty c m = .numeric k ∧ t = .numeric l) :
    ∃ y, x.convertTo t = .ok y
      ∧ ∀ args, Fits args (c.parameters.map (·.ty)) →
        Follows exact (do
            let v ← e.eval c m args
            if e.ty c m = t then return v else coerce v t)
          (y.code.run m args) := by
  by_cases same : e.ty c m = t
  · refine ⟨x, by simp only [Compiled.convertTo, h.ty, same, if_true], fun args fits => ?_⟩
    simpa only [same, if_true, bind_pure] using h.run args fits
  · obtain ⟨k, l, ty, rfl⟩ := reached.resolve_left same
    have different : k ≠ l := fun eq => same (ty.trans (congrArg Ty.numeric eq))
    refine ⟨⟨.numeric l, .convert l x.code⟩, ?_, fun args fits => ?_⟩
    · simp [Compiled.convertTo, h.ty, ty, different, Ty.kind?]
    · simp only [same, if_false, Code.run]
      refine (h.run args fits).bind fun v value => ?_
      have typed := isInstanceOf_of_eval hc fits checked value
      rw [ty] at typed
      have kind := Value.kind?_eq_of_isInstanceOf typed (k := k) rfl
      simp only [coerce, kind, Ty.kind?, different, if_false]
      exact .refl _

/-- The code of a conditional. Both sides decide by the condition and convert what they choose. -/
theorem conditional_codes {exact : Prop} (hc : c.Faithful) {name : String}
    {condition first second : Expr} {t : Ty} (hfirst : first.problems c m = [])
    (hsecond : second.problems c m = [])
    (common : branchTy? (first.ty c m) (second.ty c m) = some t)
    (parts : ∀ e ∈ [condition, first, second], ∃ x, e.compile c m = .ok x ∧ Codes c m exact e x) :
    ∃ x, (conditional name [condition, first, second]).compile c m = .ok x
      ∧ Codes c m exact (conditional name [condition, first, second]) x := by
  obtain ⟨x, compiled, codes⟩ := parts condition (by simp)
  obtain ⟨y, compiledFirst, codesFirst⟩ := parts first (by simp)
  obtain ⟨z, compiledSecond, codesSecond⟩ := parts second (by simp)
  have reached := branchTy?_cases common
  obtain ⟨y', converted, runFirst⟩ := convertTo_codes (t := t) hc hfirst codesFirst <| by
    rcases reached with ⟨left, -⟩ | ⟨k, l, j, left, -, result, -⟩
    · exact .inl left
    · exact .inr ⟨k, j, left, result⟩
  obtain ⟨z', converted', runSecond⟩ := convertTo_codes (t := t) hc hsecond codesSecond <| by
    rcases reached with ⟨-, right⟩ | ⟨k, l, j, -, right, result, -⟩
    · exact .inl right
    · exact .inr ⟨l, j, right, result⟩
  refine ⟨⟨t, .choose x.code y'.code z'.code⟩, ?_, ?_, fun args fits => ?_⟩
  · simp only [compile, common, compiled, compiledFirst, compiledSecond, converted, converted',
      Except.bind, bind, pure, Except.pure]
  · simp only [Expr.ty, tys, common, Option.getD_some]
  · simp only [eval, common, Option.getD_some, Code.run]
    refine (codes.run args fits).bind fun v _ => ?_
    refine (Follows.refl _).bind fun b _ => ?_
    cases b with
    | true => exact runFirst args fits
    | false => exact runSecond args fits

/-- The code of a null test. The test of a value that cannot be `null` is settled beforehand. -/
theorem nullTest_codes {exact : Prop} (hc : c.Faithful) {name : String} {e : Expr} {x : Compiled}
    (checked : e.problems c m = []) (compiled : e.compile c m = .ok x) (codes : Codes c m exact e x)
    (tests : exact → (e.ty c m).isReference = true) :
    ∃ y, (nullTest name [e]).compile c m = .ok y ∧ Codes c m exact (nullTest name [e]) y := by
  by_cases reference : (e.ty c m).isReference = true
  · refine ⟨⟨.boolean, .isNull x.code⟩, by simp [compile, reference, compiled], rfl,
      fun args fits => ?_⟩
    simp only [eval, Code.run]
    exact (codes.run args fits).bind fun v _ => .refl _
  · refine ⟨⟨.boolean, .constant (.bool false)⟩, by simp [compile, reference], rfl,
      fun args fits => ⟨fun v value => ?_, fun holds => absurd (tests holds) reference⟩⟩
    simp only [eval] at value
    cases inner : e.eval c m args with
    | error err =>
      rw [inner] at value
      cases value
    | ok w =>
      rw [inner] at value
      cases value
      have present := Value.isNull_eq_false (isInstanceOf_of_eval hc fits checked inner)
        (Bool.eq_false_iff.2 reference)
      rw [present]
      rfl

theorem compile_codes (hc : c.Faithful) {e : Expr} (h : e.problems c m = []) :
    ∃ x, e.compile c m = .ok x ∧ Codes c m (e.TestsReferences c m) e x := by
  induction e with
  | literal v source =>
    obtain ⟨value, read, -⟩ := eval_literal_of_problems h
    refine ⟨⟨v.ty, .constant value⟩, by rw [compile, read]; rfl, rfl, fun args _ => ?_⟩
    rw [eval, read]
    exact .refl _
  | ident name => exact compileName_codes h
  | call name arguments ih =>
    obtain ⟨f, resolved⟩ := handle_of_problems h
    have parts : ∀ e ∈ arguments, ∃ x, e.compile c m = .ok x
        ∧ Codes c m ((call name arguments).TestsReferences c m) e x := fun e mem => by
      obtain ⟨x, compiled, codes⟩ := ih e mem (problems_of_mem_children h mem)
      exact ⟨x, compiled, codes.mono (·.of_mem_children mem)⟩
    obtain ⟨xs, compiled, codes⟩ := compileAll_codes parts
    refine ⟨⟨f.result, .call f (xs.map (·.code))⟩, ?_, ?_, fun args fits => ?_⟩
    · rw [compile, resolved, compiled]
      rfl
    · rw [Expr.ty, resolved]
    · rw [eval, resolved, Code.run]
      exact (runAll_follows fits codes f.parameters).bind fun vs _ => .refl _
  | conditional name arguments ih =>
    obtain ⟨condition, first, second, t, rfl, -, common⟩ := conditional_of_problems h
    refine conditional_codes hc (problems_of_mem_children h (by simp [children]))
      (problems_of_mem_children h (by simp [children])) common fun e mem => ?_
    obtain ⟨x, compiled, codes⟩ := ih e mem (problems_of_mem_children h mem)
    exact ⟨x, compiled, codes.mono (·.of_mem_children mem)⟩
  | nullTest name arguments ih =>
    obtain ⟨e, rfl⟩ := nullTest_of_problems h
    have mem : e ∈ (nullTest name [e]).children := List.mem_singleton_self e
    have checked := problems_of_mem_children h mem
    obtain ⟨x, compiled, codes⟩ := ih e mem checked
    exact nullTest_codes hc checked compiled (codes.mono (·.of_mem_children mem))
      fun tests => tests name e .refl
  | member target name ih =>
    obtain ⟨found, resolved⟩ := member_of_problems h
    have mem : target ∈ (member target name).children := List.mem_singleton_self target
    obtain ⟨x, compiled, codes⟩ := ih (problems_of_mem_children h mem)
    refine ⟨⟨found.ty, .member found name x.code⟩, ?_, ?_, fun args fits => ?_⟩
    · rw [compile, resolved, compiled]
      rfl
    · rw [Expr.ty, resolved]
    · rw [eval, resolved, Code.run]
      exact ((codes.run args fits).mono (·.of_mem_children mem)).bind fun v _ => .refl _
  | group inner ih =>
    have mem : inner ∈ (group inner).children := List.mem_singleton_self inner
    obtain ⟨x, compiled, codes⟩ := ih (problems_of_mem_children h mem)
    refine ⟨x, compiled, codes.ty, fun args fits => ?_⟩
    exact (codes.run args fits).mono (·.of_mem_children mem)
  | operation left op right ihl ihr =>
    have hl : left ∈ (operation left op right).children := List.mem_cons_self
    have hr : right ∈ (operation left op right).children :=
      List.mem_cons_of_mem left (List.mem_singleton_self right)
    obtain ⟨x, compiledLeft, codesLeft⟩ := ihl (problems_of_mem_children h hl)
    obtain ⟨y, compiledRight, codesRight⟩ := ihr (problems_of_mem_children h hr)
    refine ⟨⟨op.resultTy (left.ty c m) (right.ty c m), .operation op x.code y.code⟩, ?_, rfl,
      fun args fits => ?_⟩
    · rw [compile, compiledLeft, compiledRight]
      rfl
    · rw [eval, Code.run]
      refine ((codesLeft.run args fits).mono (·.of_mem_children hl)).bind fun a _ => ?_
      exact ((codesRight.run args fits).mono (·.of_mem_children hr)).bind fun b _ => .refl _

end Expr

namespace Context

variable {c : Context} {m : Memory}

/-- A text that passes the check can be compiled. Its program has every value of the interpretation;
where null tests are of references it has the same outcome on all arguments. -/
theorem call_follows_interpret (hc : c.Faithful) {text : String} {e : Expr}
    (checked : c.check m text = .ok e) :
    ∃ p, c.compile m text = .ok p ∧ ∀ args,
      (∀ v, c.interpret m text args = .ok v → p.call m args = .ok v)
        ∧ (e.TestsReferences c m → p.call m args = c.interpret m text args) := by
  obtain ⟨-, none⟩ := check_eq_ok_iff.1 checked
  obtain ⟨x, compiled, codes⟩ := Expr.compile_codes hc none
  refine ⟨⟨x, c.parameters⟩, by rw [compile, checked]; simp only [bind, Except.bind, compiled]; rfl,
    fun args => ?_⟩
  have follows : Follows (e.TestsReferences c m) (c.interpret m text args)
      (Program.call ⟨x, c.parameters⟩ m args) := by
    rw [interpret, checked]
    cases accepted : checkArguments c.parameters args with
    | error err =>
      simp only [Program.call, bind, Except.bind, accepted]
      exact .refl _
    | ok _ =>
      simp only [Program.call, bind, Except.bind, accepted]
      exact codes.run args (checkArguments_eq_ok_iff.1 accepted)
  exact ⟨follows.ok, follows.eq⟩

/-- The null test of a number is settled when the text is compiled. -/
theorem call_follows_interpret_number :
    let c : Context := { frame := {
      options := {}
      members := MemberTable.standard.resolver
      store := 0
      parameters := [⟨"n", .int .int32⟩] } }
    let seven : Value := .int32 ⟨7, by decide, by decide⟩
    c.Faithful ∧ (∃ e, c.check ⟨[]⟩ "isnull(n) & n" = .ok e)
      ∧ ∃ p, c.compile ⟨[]⟩ "isnull(n) & n" = .ok p
        ∧ p.call ⟨[]⟩ [seven] = .ok (.string "false7") := by
  intro c seven
  have faithful : c.Faithful := by
    refine ⟨fun f mem entry functions => ?_, fun _ _ _ => MemberTable.standard_faithful⟩
    obtain rfl := List.mem_singleton.1 mem
    cases functions
  have interpreted : c.interpret ⟨[]⟩ "isnull(n) & n" [seven] = .ok (.string "false7") := by
    decide +kernel
  have checked : ∃ e, c.check ⟨[]⟩ "isnull(n) & n" = .ok e := by
    cases checked : c.check ⟨[]⟩ "isnull(n) & n" with
    | ok e => exact ⟨e, rfl⟩
    | error err =>
      rw [interpret, checked] at interpreted
      cases interpreted
  obtain ⟨e, passed⟩ := checked
  obtain ⟨p, compiled, agrees⟩ := call_follows_interpret faithful passed
  exact ⟨faithful, ⟨e, passed⟩, p, compiled, (agrees [seven]).1 _ interpreted⟩

end Context

end ExprLang
