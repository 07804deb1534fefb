import ExprLang.Compiled.Program
import ExprLang.Proofs.Typing.Soundness

set_option autoImplicit false

/-!
The types of compiled code. They are read off the code itself, against the parameters, handles and
members of a context and no memory at all, so code keeps its type whatever the variables have come
to hold since it was made.
-/

namespace ExprLang

namespace Code

mutual

/-- Code whose values are of a type where handles and members give what they declare. -/
inductive Typed (c : Context) : Code → Ty → Prop
  | constant {v : Value} {t : Ty} (instance_of : v.isInstanceOf t = true) : Typed c (.constant v) t
  | parameter {i : Nat} {name : String} {p : Parameter} (declared : c.parameters[i]? = some p) :
      Typed c (.parameter i name) p.ty
  | slot {store : StoreId} {key : String} {t : Ty} : Typed c (.slot store key t) t
  | call {name : String} {ts : List Ty} {h : Handle} {xs : List Code}
      (resolved : c.handle name ts = .ok h) (arguments : AllTyped c xs ts) :
      Typed c (.call h xs) h.result
  | choose {x y z : Code} {t : Ty} (first : Typed c y t) (second : Typed c z t) :
      Typed c (.choose x y z) t
  | isNull {x : Code} : Typed c (.isNull x) .boolean
  | member {x : Code} {t : Ty} {name : String} {found : Member}
      (resolved : c.member t name = .ok found) (target : Typed c x t) :
      Typed c (.member found name x) found.ty
  | operation {op : Operator} {x y : Code} {t u : Ty} (taken : op.problems t u = [])
      (left : Typed c x t) (right : Typed c y u) : Typed c (.operation op x y) (op.resultTy t u)
  | convert {k : Kind} {x : Code} : Typed c (.convert k x) (.numeric k)
  | expect {t : Ty} {x : Code} : Typed c (.expect t x) t
  | object {x : Code} {t : Ty} (inner : Typed c x t) : Typed c x .object

/-- One by one, code for several types. -/
inductive AllTyped (c : Context) : List Code → List Ty → Prop
  | nil : AllTyped c [] []
  | cons {x : Code} {xs : List Code} {t : Ty} {ts : List Ty} (head : Typed c x t)
      (tail : AllTyped c xs ts) : AllTyped c (x :: xs) (t :: ts)

end

/-! Running typed code -/

variable {c : Context} {m : Memory} {args : List Value} {v : Value} {t : Ty}

/-- A slot is read with a look at what it holds by now. -/
theorem isInstanceOf_of_readSlot {store : StoreId} {key : String}
    (value : readSlot m store key t = .ok v) : v.isInstanceOf t = true := by
  unfold readSlot at value
  split at value
  · unfold expectVariable at value
    split at value
    · rename_i holds
      cases value
      exact holds
    · cases value
  · cases value

theorem isInstanceOf_of_argument (fits : Fits args (c.parameters.map (·.ty))) {i : Nat}
    {p : Parameter} (declared : c.parameters[i]? = some p) {name : String}
    (value : argument args i name = .ok v) : v.isInstanceOf p.ty = true := by
  obtain ⟨w, given, typed⟩ := argument_of_fits fits declared name
  rw [given] at value
  cases value
  exact typed

theorem isInstanceOf_of_readFrom {found : Member} {name : String} {w : Value}
    (faithful : found.Faithful t) (typed : w.isInstanceOf t = true)
    (value : found.readFrom name w = .ok v) : v.isInstanceOf found.ty = true := by
  unfold Member.readFrom at value
  split at value
  · cases value
  · rename_i present
    exact faithful w v (Bool.eq_false_iff.2 present) typed value

mutual

/-- Every value of typed code is of its type, in any memory. -/
theorem Typed.run (hc : c.Faithful) (fits : Fits args (c.parameters.map (·.ty))) {x : Code}
    {t : Ty} {v : Value} (typed : Typed c x t) (value : x.run m args = .ok v) :
    v.isInstanceOf t = true := by
  match typed with
  | .constant instance_of =>
    cases value
    exact instance_of
  | .parameter declared =>
    exact isInstanceOf_of_argument fits declared value
  | .slot =>
    exact isInstanceOf_of_readSlot value
  | .call resolved arguments =>
    simp only [Code.run, bind_eq_ok_iff] at value
    obtain ⟨vs, values, result⟩ := value
    have accepted := (Context.mem_of_handle resolved).2
    exact hc.handle resolved vs v (arguments.runAll hc fits accepted values) result
  | .choose first second =>
    simp only [Code.run, bind_eq_ok_iff] at value
    obtain ⟨w, -, decision, -, chosen⟩ := value
    cases decision with
    | true => exact first.run hc fits chosen
    | false => exact second.run hc fits chosen
  | .isNull =>
    simp only [Code.run, bind_eq_ok_iff] at value
    obtain ⟨w, -, result⟩ := value
    cases result
    exact Value.isInstanceOf_boolean_iff.2 ⟨_, rfl⟩
  | .member resolved target =>
    simp only [Code.run, bind_eq_ok_iff] at value
    obtain ⟨w, read, result⟩ := value
    exact isInstanceOf_of_readFrom (hc.member resolved) (target.run hc fits read) result
  | .operation taken left right =>
    simp only [Code.run, bind_eq_ok_iff] at value
    obtain ⟨a, first, b, second, result⟩ := value
    have lands := Operator.apply_lands taken (left.run hc fits first) (right.run hc fits second)
    exact lands.ok v result
  | .convert =>
    simp only [Code.run, bind_eq_ok_iff] at value
    obtain ⟨w, -, converted⟩ := value
    exact Value.isInstanceOf_of_convert converted
  | .expect =>
    simp only [Code.run, bind_eq_ok_iff] at value
    obtain ⟨w, -, looked⟩ := value
    split at looked
    · rename_i holds
      cases looked
      exact holds
    · cases looked
  | .object _ => exact v.isInstanceOf_object

/-- The arguments of a handle arrive as instances of the types of its parameters. -/
theorem AllTyped.runAll (hc : c.Faithful) (fits : Fits args (c.parameters.map (·.ty)))
    {xs : List Code} {ts us : List Ty} {vs : List Value} (typed : AllTyped c xs ts)
    (accepted : assignableAll ts us = true) (values : Code.runAll m args xs us = .ok vs) :
    Fits vs us := by
  match typed, us with
  | .nil, [] =>
    cases values
    exact .nil
  | .cons head tail, u :: us =>
    simp only [assignableAll, Bool.and_eq_true] at accepted
    simp only [Code.runAll, bind_eq_ok_iff] at values
    obtain ⟨a, first, w, coerced, ws, rest, made⟩ := values
    cases made
    obtain ⟨w', same, fit⟩ := coerce_of_assignableTo (head.run hc fits first) accepted.1
    rw [coerced] at same
    cases same
    exact .cons fit (tail.runAll hc fits accepted.2 rest)
  | .nil, u :: us => cases accepted
  | .cons _ _, [] => cases accepted

end

end Code

namespace Compiled

variable {c : Context} {x y : Compiled} {t : Ty}

/-- Code of the type that is stated beside it. -/
def WellTyped (c : Context) (x : Compiled) : Prop := x.code.Typed c x.ty

/-- However code is converted, it comes to have the type that was asked for. -/
theorem wellTyped_of_convertTo (typed : x.WellTyped c) (converted : x.convertTo t = .ok y) :
    y.ty = t ∧ y.WellTyped c := by
  unfold convertTo at converted
  split at converted
  · rename_i same
    cases converted
    exact ⟨same, typed⟩
  · split at converted
    · rename_i object
      cases converted
      exact ⟨object.symm, typed.object⟩
    · split at converted
      · rename_i numeric
        cases converted
        obtain rfl := Ty.kind?_eq_some_iff.1 numeric
        exact ⟨rfl, .convert⟩
      · split at converted
        · cases converted
          exact ⟨rfl, .expect⟩
        · cases converted

/-- Code can be converted to every type that its values may be passed for. -/
theorem convertTo_of_assignableTo (assignable : x.ty.assignableTo t = true) :
    ∃ y, x.convertTo t = .ok y := by
  rcases Ty.assignableTo_cases assignable with same | rfl | ⟨k, l, numeric, rfl, -⟩
  · exact ⟨x, by simp only [convertTo, same, if_true]⟩
  · unfold convertTo
    split
    · exact ⟨_, rfl⟩
    · exact ⟨_, rfl⟩
  · by_cases same : k = l
    · exact ⟨x, by simp only [convertTo, numeric, same, if_true]⟩
    · exact ⟨⟨.numeric l, .convert l x.code⟩, by simp [convertTo, numeric, Ty.kind?, same]⟩

end Compiled

namespace Expr

variable {c : Context} {m : Memory}

/-- An expression has code, which is of its type. -/
def CompilesTyped (c : Context) (m : Memory) (e : Expr) : Prop :=
  ∃ x, e.compile c m = .ok x ∧ x.ty = e.ty c m ∧ x.WellTyped c

/-- A name that is bound has code of the type of what it is bound to. -/
theorem compileName_typed {name : String} {b : NameBinding} (bound : c.name? m name = some b) :
    ∃ x, c.compileName m name = .ok x ∧ x.ty = b.ty ∧ x.WellTyped c := by
  unfold Context.compileName
  rw [bound]
  cases b with
  | parameter i t =>
    obtain ⟨p, declared, rfl⟩ := Context.parameters_of_name? bound
    exact ⟨_, rfl, rfl, .parameter declared⟩
  | kept slot =>
    by_cases constant : slot.content.constant = true
    · have typed : slot.content.value.isInstanceOf slot.content.ty = true :=
        slot.content.value.isInstanceOf_ty
      exact ⟨_, if_pos constant, rfl, .constant typed⟩
    · exact ⟨_, if_neg constant, rfl, .slot⟩

/-- Arguments are compiled to code of their types, which the handle was chosen for. -/
theorem compileAll_typed {es : List Expr} (parts : ∀ e ∈ es, e.CompilesTyped c m) :
    ∃ xs, compileAll c m es = .ok xs ∧ Code.AllTyped c (xs.map (·.code)) (tys c m es) := by
  induction es with
  | nil => exact ⟨[], rfl, .nil⟩
  | cons e es ih =>
    obtain ⟨x, compiled, type, typed⟩ := parts e List.mem_cons_self
    obtain ⟨xs, rest, all⟩ := ih fun y mem => parts y (List.mem_cons_of_mem e mem)
    refine ⟨x :: xs, by rw [compileAll, compiled, rest]; rfl, ?_⟩
    rw [tys, ← type]
    exact .cons typed all

/-- A branch can be compiled and then converted to the type of both. -/
theorem branch_typed {e : Expr} {t : Ty} (part : e.CompilesTyped c m)
    (assignable : (e.ty c m).assignableTo t = true) :
    ∃ x y, e.compile c m = .ok x ∧ x.convertTo t = .ok y ∧ y.code.Typed c t := by
  obtain ⟨x, compiled, type, typed⟩ := part
  rw [← type] at assignable
  obtain ⟨y, converted⟩ := Compiled.convertTo_of_assignableTo assignable
  obtain ⟨rfl, typed'⟩ := Compiled.wellTyped_of_convertTo typed converted
  exact ⟨x, y, compiled, converted, typed'⟩

theorem conditional_typed {name : String} {condition first second : Expr} {t : Ty}
    (common : branchTy? (first.ty c m) (second.ty c m) = some t)
    (parts : ∀ e ∈ [condition, first, second], e.CompilesTyped c m) :
    (conditional name [condition, first, second]).CompilesTyped c m := by
  obtain ⟨left, right⟩ := branchTy?_assignableTo common
  obtain ⟨x, decides, -⟩ := parts condition (by simp)
  obtain ⟨y, y', compiledFirst, convertedFirst, typedFirst⟩ :=
    branch_typed (parts first (by simp)) left
  obtain ⟨z, z', compiledSecond, convertedSecond, typedSecond⟩ :=
    branch_typed (parts second (by simp)) right
  refine ⟨⟨t, .choose x.code y'.code z'.code⟩, ?_, ?_, .choose typedFirst typedSecond⟩
  · simp only [compile, common, decides, compiledFirst, convertedFirst, compiledSecond,
      convertedSecond, pure, Except.pure, bind, Except.bind]
  · simp only [ty, tys, common, Option.getD_some]

theorem nullTest_typed {name : String} {e : Expr} (part : e.CompilesTyped c m) :
    (nullTest name [e]).CompilesTyped c m := by
  obtain ⟨x, compiled, -⟩ := part
  by_cases reference : (e.ty c m).isReference = true
  · exact ⟨⟨.boolean, .isNull x.code⟩, by simp [compile, reference, compiled], rfl, .isNull⟩
  · refine ⟨⟨.boolean, .constant (.bool false)⟩, by simp [compile, reference], rfl, ?_⟩
    exact .constant (Value.isInstanceOf_boolean_iff.2 ⟨false, rfl⟩)

/-- The check of an expression leaves nothing that its compilation could fail at. -/
theorem compile_typed {e : Expr} (checked : e.problems c m = []) : e.CompilesTyped c m := by
  induction e with
  | literal v source =>
    obtain ⟨value, read, type⟩ := eval_literal_of_problems checked
    refine ⟨⟨v.ty, .constant value⟩, by rw [compile, read]; rfl, rfl, ?_⟩
    have typed := value.isInstanceOf_ty
    rw [type] at typed
    exact .constant typed
  | ident name =>
    obtain ⟨b, bound⟩ := name?_of_problems checked
    obtain ⟨x, compiled, type, typed⟩ := compileName_typed bound
    refine ⟨x, compiled, ?_, typed⟩
    rw [type, ty, bound, Option.map_some, Option.getD_some]
  | call name arguments ih =>
    obtain ⟨h, resolved⟩ := handle_of_problems checked
    obtain ⟨xs, compiled, typed⟩ := compileAll_typed fun e mem =>
      ih e mem (problems_of_mem_children checked mem)
    refine ⟨⟨h.result, .call h (xs.map (·.code))⟩, ?_, ?_, .call resolved typed⟩
    · rw [compile, resolved, compiled]
      rfl
    · rw [ty, resolved]
  | conditional name arguments ih =>
    obtain ⟨condition, first, second, t, rfl, -, common⟩ := conditional_of_problems checked
    exact conditional_typed common fun e mem => ih e mem (problems_of_mem_children checked mem)
  | nullTest name arguments ih =>
    obtain ⟨e, rfl⟩ := nullTest_of_problems checked
    have mem : e ∈ [e] := List.mem_singleton_self e
    exact nullTest_typed (ih e mem (problems_of_mem_children checked mem))
  | member target name ih =>
    obtain ⟨found, resolved⟩ := member_of_problems checked
    have mem : target ∈ (member target name).children := List.mem_singleton_self target
    obtain ⟨x, compiled, type, typed⟩ := ih (problems_of_mem_children checked mem)
    refine ⟨⟨found.ty, .member found name x.code⟩, ?_, ?_, .member resolved (type ▸ typed)⟩
    · rw [compile, resolved, compiled]
      rfl
    · rw [ty, resolved]
  | group inner ih =>
    have mem : inner ∈ (group inner).children := List.mem_singleton_self inner
    obtain ⟨x, compiled, type, typed⟩ := ih (problems_of_mem_children checked mem)
    exact ⟨x, compiled, type, typed⟩
  | operation left op right ihl ihr =>
    have hl : left ∈ (operation left op right).children := List.mem_cons_self
    have hr : right ∈ (operation left op right).children :=
      List.mem_cons_of_mem left (List.mem_singleton_self right)
    obtain ⟨x, compiledLeft, typeLeft, typedLeft⟩ := ihl (problems_of_mem_children checked hl)
    obtain ⟨y, compiledRight, typeRight, typedRight⟩ := ihr (problems_of_mem_children checked hr)
    have taken := operands_of_problems checked
    rw [← typeLeft, ← typeRight] at taken
    refine ⟨⟨op.resultTy x.ty y.ty, .operation op x.code y.code⟩, ?_, ?_, ?_⟩
    · rw [compile, compiledLeft, compiledRight, ← typeLeft, ← typeRight]
      rfl
    · rw [ty, typeLeft, typeRight]
    · exact .operation taken typedLeft typedRight

/-- A checked expression has code of its static type. Whatever the variables have come to hold when
the code runs on accepted arguments, it fails or yields a value of that type. -/
theorem compile_sound {e : Expr} (checked : e.problems c m = []) :
    ∃ x, e.compile c m = .ok x ∧ x.ty = e.ty c m ∧
      (c.Faithful → ∀ (later : Memory) (args : List Value),
        checkArguments c.parameters args = .ok () →
        ∀ v, x.code.run later args = .ok v → v.isInstanceOf (e.ty c m) = true) := by
  obtain ⟨x, compiled, type, typed⟩ := compile_typed checked
  refine ⟨x, compiled, type, fun hc later args accepted v value => ?_⟩
  have fits := checkArguments_eq_ok_iff.1 accepted
  rw [← type]
  exact typed.run hc fits value

/-- One branch is widened to the kind of a variable, which is a string by the time the code runs. -/
theorem compile_sound_renewed :
    let c : Context := { frame := {
      options := {}
      members := MemberTable.standard.resolver
      store := 0
      parameters := [⟨"short", .boolean⟩, ⟨"n", .int .int32⟩] } }
    let total : Value := .number (.int .int64 ⟨90, by decide, by decide⟩)
    let before : Memory := ⟨[[("total", ⟨total, false⟩)]]⟩
    let later : Memory := ⟨[[("total", ⟨.string "many", false⟩)]]⟩
    let e : Expr := .conditional "if" [.ident "short", .ident "n", .ident "total"]
    let args : List Value := [.bool true, .int32 ⟨7, by decide, by decide⟩]
    c.Faithful ∧ e.problems c before = [] ∧ checkArguments c.parameters args = .ok ()
      ∧ ∃ x v, e.compile c before = .ok x ∧ x.ty = .int .int64 ∧ x.code.run later args = .ok v
        ∧ v.isInstanceOf (.int .int64) = true := by
  intro c total before later e args
  have faithful : c.Faithful := by
    refine ⟨fun f mem entry functions => ?_, fun _ _ _ => MemberTable.standard_faithful⟩
    obtain rfl := List.mem_singleton.1 mem
    cases functions
  have checked : e.problems c before = [] := by decide
  have type : e.ty c before = .int .int64 := by decide
  have accepted : checkArguments c.parameters args = .ok () := by decide
  have ran : (do (← e.compile c before).code.run later args)
      = .ok (.number (.int .int64 ⟨7, by decide, by decide⟩)) := by decide
  obtain ⟨x, compiled, same, sound⟩ := compile_sound checked
  rw [compiled] at ran
  rw [type] at same sound
  exact ⟨faithful, checked, accepted, x, _, compiled, same, ran,
    sound faithful later args accepted _ ran⟩

end Expr

end ExprLang
