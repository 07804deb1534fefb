import ExprLang.Proofs.Compiled.Capture

set_option autoImplicit false

/-!
What a context sees of the stores: its own and those of its parents. Where two memories hold the
same in these, a text is accepted or refused alike, has the same value, and is compiled to the same
program, which returns the same.
-/

namespace ExprLang

theorem NameBinding.Alike.refl (b : NameBinding) : b.Alike b := by
  cases b with
  | parameter i t => exact .parameter i t
  | kept slot => exact .kept ⟨rfl, rfl, .refl slot.content⟩

theorem Expr.evalAll_congr {c : Context} {m m' : Memory} {args : List Value} {es : List Expr}
    (ts : List Ty) (h : ∀ e ∈ es, e.eval c m args = e.eval c m' args) :
    evalAll c m args es ts = evalAll c m' args es ts := by
  have mapped := evalAll_map (f := id) ts h
  rwa [List.map_id] at mapped

namespace Context

variable {c : Context} {m m' : Memory}

/-- Two memories that hold the same variables in the stores of a context and of its parents. -/
def SameView (c : Context) (m m' : Memory) : Prop :=
  ∀ f ∈ c.frames, m'.store f.store = m.store f.store

/-- No text is told apart by a context between two memories. -/
structure Undisturbed (c : Context) (m m' : Memory) : Prop where
  check : ∀ text, c.check m' text = c.check m text
  interpret : ∀ text args, c.interpret m' text args = c.interpret m text args
  compile : ∀ text, c.compile m' text = c.compile m text
  call : ∀ text p, c.compile m text = .ok p → ∀ args, p.call m' args = p.call m args

namespace SameView

variable (view : c.SameView m m')

include view

theorem slot? (name : String) : c.slot? m' name = c.slot? m name := by
  rw [Context.slot?, Context.slot?]
  refine findSome?_congr fun f mem => ?_
  rw [Frame.named?, Frame.named?, view f mem]

theorem name? (name : String) : c.name? m' name = c.name? m name := by
  rw [Context.name?, Context.name?, view.slot? name]

theorem namesAlike : c.NamesAlike m' m := by
  intro name
  rw [view.name? name]
  cases c.name? m name with
  | none => exact .none
  | some b => exact .some (.refl b)

theorem valueOf (args : List Value) (name : String) :
    c.valueOf m' args name = c.valueOf m args name := by
  rw [Context.valueOf, Context.valueOf, view.name? name]

theorem eval (args : List Value) (e : Expr) : e.eval c m' args = e.eval c m args := by
  have types := view.namesAlike.ty
  have allTypes := view.namesAlike.tys
  induction e with
  | literal v source => rfl
  | ident name => exact view.valueOf args name
  | call name arguments ih => simp only [Expr.eval, allTypes, Expr.evalAll_congr _ ih]
  | conditional name arguments ih =>
    match arguments with
    | [condition, first, second] =>
      have decides := ih condition (by simp)
      have chosen := ih first (by simp)
      have other := ih second (by simp)
      simp only [Expr.eval, types, decides, chosen, other]
    | [] => rfl
    | [_] => rfl
    | [_, _] => rfl
    | _ :: _ :: _ :: _ :: _ => rfl
  | nullTest name arguments ih =>
    match arguments with
    | [e] =>
      have inner := ih e (by simp)
      simp only [Expr.eval, inner]
    | [] => rfl
    | _ :: _ :: _ => rfl
  | member target name ih => simp only [Expr.eval, types, ih]
  | group inner ih => exact ih
  | operation left op right ihl ihr => simp only [Expr.eval, ihl, ihr]

/-- The slots that a program captured are among those that the context sees. -/
theorem call {text : String} {p : Program} (compiled : c.compile m text = .ok p)
    (args : List Value) : p.call m' args = p.call m args := by
  refine call_congr compiled (fun slot captured => ?_) args
  obtain ⟨e, -, name, -, bound, -⟩ := captured
  obtain ⟨f, mem, store, -⟩ := named?_of_slot? (slot?_of_name? bound)
  rw [Memory.read?, Memory.read?, ← store, view f mem]

theorem undisturbed : c.Undisturbed m m' where
  check := view.namesAlike.check
  interpret text args := by
    simp only [Context.interpret, view.namesAlike.check, view.eval]
  compile := view.namesAlike.compile_text
  call _ _ compiled args := view.call compiled args

end SameView

end Context

end ExprLang
