import Mathlib.Data.List.Forall2

set_option autoImplicit false

/-!
Related results of two computations that may have none: both have one, and these are related, or
none has.
-/

namespace ExprLang

variable {α β γ δ : Type} {r : α → β → Prop} {r' : γ → δ → Prop}

theorem rel_map {a : Option α} {b : Option β} {f : α → γ} {g : β → δ} (h : Option.Rel r a b)
    (hf : ∀ x y, r x y → r' (f x) (g y)) : Option.Rel r' (a.map f) (b.map g) := by
  cases h with
  | some both => exact .some (hf _ _ both)
  | none => exact .none

theorem rel_or {a a' : Option α} {b b' : Option β} (h : Option.Rel r a b)
    (h' : Option.Rel r a' b') : Option.Rel r (a.or a') (b.or b') := by
  cases h with
  | some both => exact .some both
  | none => exact h'

theorem rel_bind {a : Option α} {b : Option β} {f : α → Option γ} {g : β → Option δ}
    (h : Option.Rel r a b) (hf : ∀ x y, r x y → Option.Rel r' (f x) (g y)) :
    Option.Rel r' (a.bind f) (b.bind g) := by
  cases h with
  | some both => exact hf _ _ both
  | none => exact .none

theorem rel_filter {a : Option α} {b : Option β} {p : α → Bool} {q : β → Bool}
    (h : Option.Rel r a b) (same : ∀ x y, r x y → p x = q y) :
    Option.Rel r (a.filter p) (b.filter q) := by
  cases h with
  | none => exact .none
  | @some x y both =>
    rw [Option.filter_some, Option.filter_some, same x y both]
    cases q y with
    | true => exact .some both
    | false => exact .none

theorem rel_findSome? {ι : Type} {l : List ι} {f : ι → Option α} {g : ι → Option β}
    (h : ∀ x ∈ l, Option.Rel r (f x) (g x)) : Option.Rel r (l.findSome? f) (l.findSome? g) := by
  induction l with
  | nil => exact .none
  | cons x l ih =>
    obtain ⟨first, rest⟩ := List.forall_mem_cons.1 h
    simp only [List.findSome?_cons]
    generalize f x = a at first ⊢
    generalize g x = b at first ⊢
    cases first with
    | some both => exact .some both
    | none => exact ih rest

theorem findSome?_congr {ι : Type} {l : List ι} {f g : ι → Option α} (h : ∀ x ∈ l, f x = g x) :
    l.findSome? f = l.findSome? g := by
  induction l with
  | nil => rfl
  | cons x l ih =>
    obtain ⟨first, rest⟩ := List.forall_mem_cons.1 h
    rw [List.findSome?_cons, List.findSome?_cons, first, ih rest]

end ExprLang
