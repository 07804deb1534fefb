import ExprLang.Proofs.Numeric.Exact
import ExprLang.Proofs.Typing.Operands

set_option autoImplicit false

/-!
Arithmetic on integers of any two kinds that meet. Both operands come to the kind of the result
unchanged; there the sum, the difference, the product and the quotient cut toward zero are the ones of
unbounded integers, or the operation overflows.
-/

namespace ExprLang

/-- The operation on integers without bounds. Only a quotient by zero is missing. -/
def Operator.onIntegers? (op : Operator) (m n : ℤ) : Option ℤ :=
  match op with
  | addition => some (m + n)
  | subtraction => some (m - n)
  | multiplication => some (m * n)
  | division => if n = 0 then none else some (truncated (m / n))
  | _ => none

namespace Number

variable {k : IntKind} {op : Operator} {a b : Integer k}

/-- What is not in the range of the kind overflows. -/
theorem outcome_eq_elim (r : Option (Integer k)) :
    (match r with
      | some c => .ok c
      | none => .error .overflow : Except ArithmeticFault (Integer k))
      = r.elim (.error .overflow) .ok := by
  cases r <;> rfl

/-- Arithmetic within a kind is that of unbounded integers, as far as the kind goes. -/
theorem integerOp_of_some {n : ℤ} (exact : op.onIntegers? a.val b.val = some n) :
    integerOp op.arithmetic a b = (Integer.ofInt? k n).elim (.error .overflow) .ok := by
  cases op with
  | addition =>
    cases exact
    exact outcome_eq_elim (a.add? b)
  | subtraction =>
    cases exact
    exact outcome_eq_elim (a.sub? b)
  | multiplication =>
    cases exact
    exact outcome_eq_elim (a.mul? b)
  | division =>
    obtain ⟨divisible, quotient⟩ := Option.ite_none_left_eq_some.1 exact
    cases quotient
    rw [truncated_div]
    have possible : ¬ (Arithmetic.div = .div ∧ b.val = 0) := fun h => divisible h.2
    exact (if_neg possible).trans (outcome_eq_elim (a.quot? b))
  | _ => cases exact

theorem integerOp_of_none (numeric : op.family = .numeric) (notPower : op ≠ .power)
    (missing : op.onIntegers? a.val b.val = none) :
    integerOp op.arithmetic a b = .error .divisionByZero := by
  cases op with
  | division =>
    by_cases zero : b.val = 0
    · exact if_pos ⟨rfl, zero⟩
    · simp [Operator.onIntegers?, zero] at missing
  | addition => cases missing
  | subtraction => cases missing
  | multiplication => cases missing
  | power => exact absurd rfl notPower
  | _ => cases numeric

end Number

namespace Operator

variable {op : Operator} {k l j : IntKind} {a : Integer k} {b : Integer l}

/-- The kind of the result of arithmetic on two integers is an integer kind. -/
theorem kind_of_integers (numeric : op.family = .numeric) (notPower : op ≠ power)
    (checked : op.problems (.int k) (.int l) = []) :
    ∃ j : IntKind, Kind.meet? (Kind.int k).promoted (Kind.int l).promoted = some (.int j) := by
  obtain ⟨_, _, left, right, meets⟩ := numeric_of_problems numeric checked
  cases left
  cases right
  obtain ⟨kind, meet⟩ := meets notPower
  rcases Kind.eq_or_eq_of_meet? meet with rfl | rfl
  · exact ⟨k.promoted, meet⟩
  · exact ⟨l.promoted, meet⟩

/-- What arithmetic on the integers `a` and `b` comes to, with a result of kind `j`. -/
structure ComputesExactly (op : Operator) (a : Integer k) (b : Integer l) (j : IntKind) : Prop where
  resultTy : op.resultTy (.int k) (.int l) = .int j
  /-- The operation is on the same two integers as members of the kind of the result. -/
  operands : ∃ a' b' : Integer j, a'.val = a.val ∧ b'.val = b.val
    ∧ Value.harmonize (Value.promoted (.number (.int k a))) (Value.promoted (.number (.int l b)))
      = .ok (.int j a', .int j b', .int j)
  exact : ∀ n, op.onIntegers? a.val b.val = some n → j.lo ≤ n → n ≤ j.hi →
    ∃ c : Integer j, c.val = n
      ∧ op.apply (.number (.int k a)) (.number (.int l b)) = .ok (.number (.int j c))
  overflow : ∀ n, op.onIntegers? a.val b.val = some n → n < j.lo ∨ j.hi < n →
    op.apply (.number (.int k a)) (.number (.int l b)) = .error (.overflow op.name)
  divisionByZero : op.onIntegers? a.val b.val = none →
    op.apply (.number (.int k a)) (.number (.int l b)) = .error .divisionByZero

/-- Integers are brought to the kind of the result as they are. -/
theorem harmonize_integers (a : Integer k) (b : Integer l)
    (meet : Kind.meet? (Kind.int k).promoted (Kind.int l).promoted = some (.int j)) :
    ∃ a' b' : Integer j, a'.val = a.val ∧ b'.val = b.val
      ∧ Value.harmonize (Value.promoted (.number (.int k a))) (Value.promoted (.number (.int l b)))
        = .ok (.int j a', .int j b', .int j) := by
  obtain ⟨m, n, both, mKind, mValue, nKind, nValue⟩ :=
    Value.harmonize_exact (m := .int k a) (n := .int l b) rfl rfl meet
  obtain ⟨a', rfl, left⟩ := Number.eq_int_of_kind mKind mValue
  obtain ⟨b', rfl, right⟩ := Number.eq_int_of_kind nKind nValue
  exact ⟨a', b', Int.cast_injective left, Int.cast_injective right, both⟩

/-- Arithmetic on integers is that of their common kind. -/
theorem apply_integers (numeric : op.family = .numeric) (notPower : op ≠ power) {a' b' : Integer j}
    (both : Value.harmonize (Value.promoted (.number (.int k a)))
      (Value.promoted (.number (.int l b))) = .ok (.int j a', .int j b', .int j)) :
    op.apply (.number (.int k a)) (.number (.int l b)) =
      match Number.integerOp op.arithmetic a' b' with
      | .ok c => .ok (.number (.int j c))
      | .error .divisionByZero => .error .divisionByZero
      | .error .overflow => .error (.overflow op.name) := by
  rw [apply, numeric]
  simp only [if_neg notPower, applyNumeric, both, Error.ofValue_ok, bind, Except.bind,
    Number.arithmetic?, dite_true]
  cases Number.integerOp op.arithmetic a' b' with
  | ok c => rfl
  | error fault => cases fault <;> rfl

/-- Checked arithmetic on integers gives the exact result in the kind of the result, or tells that
there is none. -/
theorem computesExactly (op : Operator) (numeric : op.family = .numeric) (notPower : op ≠ power)
    (a : Integer k) (b : Integer l) (checked : op.problems (.int k) (.int l) = []) :
    ∃ j : IntKind, ComputesExactly op a b j := by
  obtain ⟨j, meet⟩ := kind_of_integers numeric notPower checked
  obtain ⟨a', b', left, right, both⟩ := harmonize_integers a b meet
  have applied := apply_integers numeric notPower both
  refine ⟨j, ?_, ⟨a', b', left, right, both⟩, ?_, ?_, ?_⟩
  · rw [resultTy, numeric]
    simp only [if_neg notPower, Ty.meet?, Ty.int, Ty.kind?, bind, Option.bind, meet,
      Option.getD_some]
  · intro n exact lower upper
    rw [← left, ← right] at exact
    have member : Integer.ofInt? j n = some ⟨n, lower, upper⟩ := Integer.ofInt?_eq_some_iff.2 rfl
    refine ⟨⟨n, lower, upper⟩, rfl, ?_⟩
    rw [applied, Number.integerOp_of_some exact, member]
    rfl
  · intro n exact outside
    rw [← left, ← right] at exact
    rw [applied, Number.integerOp_of_some exact, Integer.ofInt?_eq_none_iff.2 outside]
    rfl
  · intro missing
    rw [← left, ← right] at missing
    rw [applied, Number.integerOp_of_none numeric notPower missing]

/-- Two `byte`s have a sum that is no `byte`, and the least `int64` has no negative. -/
theorem computesExactly_limits :
    let a : Integer .byte := ⟨200, by decide, by decide⟩
    let b : Integer .byte := ⟨100, by decide, by decide⟩
    let least : Integer .int64 := ⟨-9223372036854775808, by decide, by decide⟩
    let minus : Integer .sbyte := ⟨-1, by decide, by decide⟩
    addition.family = .numeric ∧ addition ≠ power ∧ addition.problems (.int .byte) (.int .byte) = []
      ∧ division.family = .numeric ∧ division ≠ power
      ∧ division.problems (.int .int64) (.int .sbyte) = []
      ∧ (∃ c : Integer .int32, c.val = 300
        ∧ addition.apply (.number (.int .byte a)) (.number (.int .byte b))
          = .ok (.number (.int .int32 c)))
      ∧ division.apply (.number (.int .int64 least)) (.number (.int .sbyte minus))
        = .error (.overflow "division") := by
  intro a b least minus
  obtain ⟨j, sum⟩ := computesExactly addition rfl (by decide) a b (by decide)
  obtain ⟨j', quotient⟩ := computesExactly division rfl (by decide) least minus (by decide)
  have kind : Ty.int .int32 = .int j := sum.resultTy
  have kind' : Ty.int .int64 = .int j' := quotient.resultTy
  cases kind
  cases kind'
  have opposite : division.onIntegers? least.val minus.val = some 9223372036854775808 := by
    simp only [onIntegers?, truncated_div]
    decide
  exact ⟨rfl, by decide, by decide, rfl, by decide, by decide,
    sum.exact 300 rfl (by decide) (by decide), quotient.overflow _ opposite (.inr (by decide))⟩

end Operator

end ExprLang
