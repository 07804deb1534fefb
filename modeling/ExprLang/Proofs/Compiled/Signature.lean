import ExprLang.Proofs.Compiled.Typed

set_option autoImplicit false

/-!
Texts compiled for types of the embedding program. The typed program is the untyped one with a
single conversion after it, which the static type of the text decides; that its arguments are not
looked at when it is called makes no difference, as the members of the types are values of them.
-/

namespace ExprLang

/-- A type whose members are instances of its static type. -/
class LawfulEmbedded (α : Type) [Embedded α] : Prop where
  isInstanceOf_toValue (a : α) : (Embedded.toValue a).isInstanceOf (Embedded.ty α) = true

/-- Argument lists whose values are instances of the types of their places. -/
class LawfulArguments (α : Type) [ArgumentList α] : Prop where
  fits_toValues (args : α) : Fits (ArgumentList.toValues args) (ArgumentList.types α)

section

open Value

instance : LawfulEmbedded Bool := ⟨fun b => isInstanceOf_boolean_iff.2 ⟨b, rfl⟩⟩

instance (k : IntKind) : LawfulEmbedded (Integer k) :=
  ⟨fun n => isInstanceOf_numeric_iff.2 ⟨.int k n, rfl, rfl⟩⟩

instance : LawfulEmbedded Float32 := ⟨fun x => isInstanceOf_numeric_iff.2 ⟨.single x, rfl, rfl⟩⟩

instance : LawfulEmbedded Float := ⟨fun x => isInstanceOf_numeric_iff.2 ⟨.double x, rfl, rfl⟩⟩

instance : LawfulEmbedded Decimal := ⟨fun d => isInstanceOf_numeric_iff.2 ⟨.decimal d, rfl, rfl⟩⟩

instance : LawfulEmbedded String := ⟨fun s => isInstanceOf_string_iff.2 (.inr ⟨s, rfl⟩)⟩

instance : LawfulEmbedded (Option String) where
  isInstanceOf_toValue
    | some s => isInstanceOf_string_iff.2 (.inr ⟨s, rfl⟩)
    | none => isInstanceOf_string_iff.2 (.inl rfl)

instance : LawfulEmbedded Value := ⟨isInstanceOf_object⟩

instance : LawfulArguments Unit := ⟨fun _ => .nil⟩

instance (α β : Type) [Embedded α] [ArgumentList β] [LawfulEmbedded α] [LawfulArguments β] :
    LawfulArguments (α × β) where
  fits_toValues args :=
    .cons (LawfulEmbedded.isInstanceOf_toValue args.1) (LawfulArguments.fits_toValues args.2)

end

/-! The one conversion -/

/-- The types whose values can be made values of another type, some of them not all. -/
def Ty.ConvertsTo (t u : Ty) : Prop :=
  t = u ∨ u = .object ∨ (t.isNumeric = true ∧ u.isNumeric = true) ∨ t = .object

namespace Compiled

variable {x y : Compiled} {t : Ty} {m : Memory} {args : List Value}

theorem exists_convertTo_iff : (∃ y, x.convertTo t = .ok y) ↔ x.ty.ConvertsTo t := by
  unfold convertTo Ty.ConvertsTo
  split
  · rename_i same
    exact iff_of_true ⟨x, rfl⟩ (.inl same)
  split
  · rename_i object
    exact iff_of_true ⟨_, rfl⟩ (.inr (.inl object))
  rename_i different noObject
  split
  · rename_i l k left right
    have numeric : x.ty.isNumeric = true ∧ t.isNumeric = true :=
      ⟨Ty.isNumeric_iff.2 ⟨l, Ty.kind?_eq_some_iff.1 left⟩,
        Ty.isNumeric_iff.2 ⟨k, Ty.kind?_eq_some_iff.1 right⟩⟩
    exact iff_of_true ⟨_, rfl⟩ (.inr (.inr (.inl numeric)))
  · rename_i notNumeric
    have apart : ¬ (x.ty.isNumeric = true ∧ t.isNumeric = true) := by
      rintro ⟨left, right⟩
      obtain ⟨l, left⟩ := Ty.isNumeric_iff.1 left
      obtain ⟨k, right⟩ := Ty.isNumeric_iff.1 right
      exact notNumeric l k (Ty.kind?_eq_some_iff.2 left) (Ty.kind?_eq_some_iff.2 right)
    split
    · rename_i object
      exact iff_of_true ⟨_, rfl⟩ (.inr (.inr (.inr object)))
    · rename_i object
      refine iff_of_false (fun ⟨y, converted⟩ => by cases converted) ?_
      rintro (same | same | same | same)
      · exact different same
      · exact noObject same
      · exact apart same
      · exact object same

/-- Nothing is done to values of the type that is wanted, nor where any value will do. -/
theorem run_convertTo_of_same (converted : x.convertTo t = .ok y) (same : x.ty = t ∨ t = .object) :
    y.code.run m args = x.code.run m args := by
  unfold convertTo at converted
  split at converted
  · cases converted
    rfl
  · rename_i different
    rw [if_pos (same.resolve_left different)] at converted
    cases converted
    rfl

theorem run_convertTo_of_numeric {k l : Kind} (converted : x.convertTo t = .ok y)
    (source : x.ty = .numeric k) (target : t = .numeric l) (different : k ≠ l) :
    y.code.run m args = (do Error.ofValue ((← x.code.run m args).convert l)) := by
  subst target
  rw [convertTo, source, if_neg (by simpa using different), if_neg (by simp)] at converted
  cases converted
  rw [Code.run]

theorem run_convertTo_of_object (converted : x.convertTo t = .ok y) (source : x.ty = .object)
    (different : t ≠ .object) :
    y.code.run m args = (do
      let v ← x.code.run m args
      if v.isInstanceOf t then return v
      else .error (.value (.invalidCast v.typeName t.name))) := by
  rw [convertTo, source, if_neg (Ne.symm different), if_neg different] at converted
  cases converted
  rw [Code.run]

end Compiled

variable {α β : Type} [ArgumentList α] [Embedded β]

/-- A typed program beside an untyped program whose values are of the type `t`: it takes the values
of its arguments, and the result is converted once before it is taken as a member of `β`. -/
structure TypedProgram.Follows (p : TypedProgram α β) (q : Program) (t : Ty) : Prop where
  same : t = Embedded.ty β ∨ Embedded.ty β = .object → ∀ later args,
    p.call later args = (do
      let v ← q.call later (ArgumentList.toValues args)
      Error.ofValue (Embedded.ofValue β v))
  numeric : ∀ k l, t = .numeric k → Embedded.ty β = .numeric l → k ≠ l → ∀ later args,
    p.call later args = (do
      let v ← q.call later (ArgumentList.toValues args)
      let n ← Error.ofValue (v.convert l)
      Error.ofValue (Embedded.ofValue β n))
  object : t = .object → Embedded.ty β ≠ .object → ∀ later args,
    p.call later args = (do
      let v ← q.call later (ArgumentList.toValues args)
      if v.isInstanceOf (Embedded.ty β) then Error.ofValue (Embedded.ofValue β v)
      else .error (.value (.invalidCast v.typeName (Embedded.ty β).name)))

namespace Context

variable {c : Context} {m : Memory} {text : String}

theorem checkSignature_of_types {ts : List Ty} (declared : ts = c.parameters.map (·.ty)) :
    c.checkSignature ts = .ok () := by
  have same : ∀ x ∈ c.parameters.zip ts, x.1.ty = x.2 := by
    have paired : c.parameters.zip ts = c.parameters.map fun p => (p, p.ty) := by
      rw [declared]
      simpa using List.zip_map' (f := id) (g := Parameter.ty) (l := c.parameters)
    intro x mem
    rw [paired] at mem
    obtain ⟨p, -, rfl⟩ := List.mem_map.1 mem
    rfl
  rw [checkSignature, if_neg (by simp [declared])]
  split
  · rename_i p t found
    have different := List.find?_some found
    simp only [ne_eq, decide_not, Bool.not_eq_eq_eq_not, Bool.not_true, decide_eq_false_iff_not]
      at different
    exact absurd (same _ (List.mem_of_find?_eq_some found)) different
  · rfl

/-- With the declared types for its arguments a text is compiled as it is without types, and then
converted. -/
theorem compileTyped_eq_ok_iff {p : TypedProgram α β}
    (declared : ArgumentList.types α = c.parameters.map (·.ty)) :
    c.compileTyped m α β text = .ok p
      ↔ ∃ e x, c.check m text = .ok e ∧ e.compile c m = .ok x
        ∧ x.convertTo (Embedded.ty β) = .ok p.compiled := by
  have signature : ∀ {γ : Type} (f : Unit → Except Error γ),
      (c.checkSignature (ArgumentList.types α) >>= f) = f () := fun f => by
    rw [checkSignature_of_types declared]
    rfl
  obtain ⟨y⟩ := p
  rw [compileTyped, signature]
  simp only [bind_eq_ok_iff, pure, Except.pure, Except.ok.injEq, TypedProgram.mk.injEq]
  constructor
  · rintro ⟨e, checked, x, compiled, _, converted, rfl⟩
    exact ⟨e, x, checked, compiled, converted⟩
  · rintro ⟨e, x, checked, compiled, converted⟩
    exact ⟨e, checked, x, compiled, y, converted, rfl⟩

theorem compile_of_check {e : Expr} {x : Compiled} (checked : c.check m text = .ok e)
    (compiled : e.compile c m = .ok x) : c.compile m text = .ok ⟨x, c.parameters⟩ := by
  rw [compile, checked]
  simp only [bind, Except.bind, compiled]
  rfl

theorem call_toValues [LawfulArguments α]
    (declared : ArgumentList.types α = c.parameters.map (·.ty)) (x : Compiled) (later : Memory)
    (args : α) : Program.call ⟨x, c.parameters⟩ later (ArgumentList.toValues args)
      = x.code.run later (ArgumentList.toValues args) := by
  have fits : Fits (ArgumentList.toValues args) (c.parameters.map (·.ty)) :=
    declared ▸ LawfulArguments.fits_toValues args
  rw [Program.call, checkArguments_eq_ok_iff.2 fits]
  rfl

theorem follows_of_convertTo [LawfulArguments α]
    (declared : ArgumentList.types α = c.parameters.map (·.ty)) {x : Compiled}
    {p : TypedProgram α β} (converted : x.convertTo (Embedded.ty β) = .ok p.compiled) :
    p.Follows ⟨x, c.parameters⟩ x.ty where
  same same later args := by
    rw [TypedProgram.call, call_toValues declared, Compiled.run_convertTo_of_same converted same]
  numeric k l source target different later args := by
    rw [TypedProgram.call, call_toValues declared,
      Compiled.run_convertTo_of_numeric converted source target different, bind_assoc]
  object source different later args := by
    rw [TypedProgram.call, call_toValues declared,
      Compiled.run_convertTo_of_object converted source different, bind_assoc]
    congr 1
    funext v
    split <;> rfl

/-- Where the types of the arguments are the declared ones, a text is compiled for them and a result
type exactly when it passes the check with a type that can be converted to that of the result. The
typed program then is the untyped one with one conversion after it. -/
theorem compileTyped_follows_compile [LawfulArguments α]
    (declared : ArgumentList.types α = c.parameters.map (·.ty)) :
    ((∃ p, c.compileTyped m α β text = .ok p)
        ↔ ∃ e, c.check m text = .ok e ∧ (e.ty c m).ConvertsTo (Embedded.ty β))
      ∧ ∀ p, c.compileTyped m α β text = .ok p → ∃ e q, c.check m text = .ok e
        ∧ c.compile m text = .ok q ∧ p.Follows q (e.ty c m) := by
  have code : ∀ {e}, c.check m text = .ok e →
      ∃ x, e.compile c m = .ok x ∧ x.ty = e.ty c m := fun checked => by
    obtain ⟨x, compiled, type, -⟩ := Expr.compile_typed (check_eq_ok_iff.1 checked).2
    exact ⟨x, compiled, type⟩
  simp only [compileTyped_eq_ok_iff declared]
  constructor
  · constructor
    · rintro ⟨p, e, x, checked, compiled, converted⟩
      obtain ⟨x', compiled', type⟩ := code checked
      obtain rfl : x' = x := Except.ok.inj (compiled'.symm.trans compiled)
      exact ⟨e, checked, type ▸ Compiled.exists_convertTo_iff.1 ⟨_, converted⟩⟩
    · rintro ⟨e, checked, convertible⟩
      obtain ⟨x, compiled, type⟩ := code checked
      obtain ⟨y, converted⟩ := Compiled.exists_convertTo_iff.2 (type ▸ convertible)
      exact ⟨⟨y⟩, e, x, checked, compiled, converted⟩
  · rintro p ⟨e, x, checked, compiled, converted⟩
    obtain ⟨x', compiled', type⟩ := code checked
    obtain rfl : x' = x := Except.ok.inj (compiled'.symm.trans compiled)
    exact ⟨e, ⟨x', c.parameters⟩, checked, compile_of_check checked compiled,
      type ▸ follows_of_convertTo declared converted⟩

/-- A long integer that is converted to a short one overflows after the program has run. -/
theorem compileTyped_follows_compile_overflow :
    let c : Context := { frame := {
      options := {}
      members := MemberTable.standard.resolver
      store := 0
      parameters := [⟨"n", .int .int64⟩, ⟨"text", .string⟩] } }
    let long : Integer .int64 := ⟨3000000000, by decide, by decide⟩
    ArgumentList.types (Integer .int64 × Option String × Unit) = c.parameters.map (·.ty)
      ∧ ∃ p, c.compileTyped ⟨[]⟩ (Integer .int64 × Option String × Unit) (Integer .int32)
          "if(text = null, n, 0)" = .ok p
        ∧ p.call ⟨[]⟩ (long, none, ()) = .error (.value (.overflow "int32")) := by
  intro c long
  have declared : ArgumentList.types (Integer .int64 × Option String × Unit)
      = c.parameters.map (·.ty) := rfl
  have checked : (c.check ⟨[]⟩ "if(text = null, n, 0)").map (·.ty c ⟨[]⟩)
      = .ok (.int .int64) := by
    decide +kernel
  have ran : (c.compile ⟨[]⟩ "if(text = null, n, 0)" >>= fun q =>
      q.call ⟨[]⟩ [.number (.int .int64 long), .null]) = .ok (.number (.int .int64 long)) := by
    decide +kernel
  obtain ⟨succeeds, follows⟩ := @compileTyped_follows_compile _ (Integer .int32) _ _ c ⟨[]⟩
    "if(text = null, n, 0)" _ declared
  obtain ⟨e, passed, type⟩ : ∃ e, c.check ⟨[]⟩ "if(text = null, n, 0)" = .ok e
      ∧ e.ty c ⟨[]⟩ = .int .int64 := by
    cases found : c.check ⟨[]⟩ "if(text = null, n, 0)" with
    | ok e => exact ⟨e, rfl, Except.ok.inj (found ▸ checked)⟩
    | error e =>
      rw [found] at checked
      cases checked
  obtain ⟨p, compiled⟩ := succeeds.2 ⟨e, passed, .inr (.inr (.inl (type ▸ ⟨rfl, rfl⟩)))⟩
  obtain ⟨e', q, passed', untyped, call⟩ := follows p compiled
  obtain rfl : e = e' := Except.ok.inj (passed.symm.trans passed')
  rw [untyped] at ran
  have value : q.call ⟨[]⟩ (ArgumentList.toValues (long, (none : Option String), ()))
      = .ok (.number (.int .int64 long)) := ran
  refine ⟨declared, p, compiled, ?_⟩
  rw [call.numeric (.int .int64) (.int .int32) type rfl (by decide), value]
  rfl

end Context

end ExprLang
