import ExprLang.Proofs.Library.Casts
import ExprLang.Proofs.Numeric.Conversion
import ExprLang.Proofs.Numeric.HalfEven

set_option autoImplicit false

/-!
The built-in casts of decimals to integer kinds. The decimal is rounded first and checked after that,
so what counts is whether the nearest integer is in the range of the kind: `127.4` is an `sbyte` and
`127.5` is none, although its whole part is.
-/

namespace ExprLang

open Library.Casts

/-- What the cast of a decimal to an integer kind comes to. -/
structure CastsToNearest (d : Decimal) (k : IntKind) (result : Except Error Value) : Prop where
  nearest : ∃! n, NearestEven d.value n
  fits : ∀ n, NearestEven d.value n → k.lo ≤ n → n ≤ k.hi →
    ∃ i : Integer k, i.val = n ∧ result = .ok (.number (.int k i))
  overflow : ∀ n, NearestEven d.value n → n < k.lo ∨ k.hi < n →
    result = .error (.value (.overflow k.name))
  /-- Half a unit below the range still counts, half a unit above does not. -/
  accepts_iff : (∃ v, result = .ok v) ↔ (k.lo : ℚ) - 1 / 2 ≤ d.value ∧ d.value < k.hi + 1 / 2

namespace Library.Casts

variable {d : Decimal} {k : IntKind}

theorem castNumber_decimal (d : Decimal) (k : IntKind) : castNumber (.int k) (.decimal d)
    = Error.ofValue ((Value.decimal d.round).convert (.int k)) := rfl

theorem castNumber_of_fits {n : ℤ} (near : NearestEven d.value n) (lower : k.lo ≤ n)
    (upper : n ≤ k.hi) :
    ∃ i : Integer k, i.val = n ∧ castNumber (.int k) (.decimal d) = .ok (.number (.int k i)) := by
  have found : d.round.toInt = n := d.nearestEven_round.unique near
  rw [Decimal.toInt_eq_truncated] at found
  refine ⟨⟨n, lower, upper⟩, rfl, ?_⟩
  have converted := Value.convert_int_of_eq (n := .decimal d.round) (k := k) rfl
    (i := ⟨n, lower, upper⟩) found.symm
  rw [castNumber_decimal, Value.decimal, converted]
  rfl

theorem castNumber_of_outside {n : ℤ} (near : NearestEven d.value n)
    (outside : n < k.lo ∨ k.hi < n) :
    castNumber (.int k) (.decimal d) = .error (.value (.overflow k.name)) := by
  have found : d.round.toInt = n := d.nearestEven_round.unique near
  rw [Decimal.toInt_eq_truncated] at found
  rw [← found] at outside
  rw [castNumber_decimal, Value.decimal, Value.convert_int_of_outside rfl outside]
  rfl

theorem castsToNearest_castNumber (d : Decimal) (k : IntKind) :
    CastsToNearest d k (castNumber (.int k) (.decimal d)) where
  nearest := ⟨d.round.toInt, d.nearestEven_round, fun _ near => near.unique d.nearestEven_round⟩
  fits _ := castNumber_of_fits
  overflow _ := castNumber_of_outside
  accepts_iff := by
    have near := d.nearestEven_round
    rw [← k.mem_range_iff near]
    constructor
    · rintro ⟨v, accepted⟩
      by_contra outside
      rw [castNumber_of_outside near (by omega)] at accepted
      cases accepted
    · rintro ⟨lower, upper⟩
      obtain ⟨i, -, converted⟩ := castNumber_of_fits near lower upper
      exact ⟨_, converted⟩

end Library.Casts

namespace Expr

variable {c : Context} {m : Memory} {args : List Value} {e : Expr} {d : Decimal}

theorem eval_cast (shows : c.ShowsCasts) {source : Kind} (target : Kind) {v : Value}
    (type : e.ty c m = .numeric source) (typed : v.isInstanceOf (.numeric source) = true)
    (value : e.eval c m args = .ok v) :
    (call (castName target) [e]).eval c m args = castNumber target v := by
  have resolved : c.handle (castName target) (tys c m [e]) = .ok (numberCast source target) := by
    rw [tys, tys, type]
    exact shows.handle source target
  have passed : evalAll c m args [e] [.numeric source] = .ok [v] := by
    simp only [evalAll, value, bind, Except.bind, coerce_of_isInstanceOf typed, pure, Except.pure]
  rw [eval, resolved]
  change evalAll c m args [e] [.numeric source] >>= _ = _
  rw [passed]
  rfl

/-- A built-in cast takes a decimal to the nearest integer, a half to the even one, and fails where
that is not in the range of the kind. -/
theorem castsToNearest_eval (shows : c.ShowsCasts) (type : e.ty c m = .numeric .decimal)
    (value : e.eval c m args = .ok (.decimal d)) (k : IntKind) :
    CastsToNearest d k ((call (castName (.int k)) [e]).eval c m args) := by
  have typed : (Value.decimal d).isInstanceOf (.numeric .decimal) = true :=
    Value.isInstanceOf_numeric_iff.2 ⟨.decimal d, rfl, rfl⟩
  rw [eval_cast shows (.int k) type typed value]
  exact castsToNearest_castNumber d k

/-- The decimal `-128.5` is less than every `sbyte` and is cast to the least one. The whole part of
`127.5` is the greatest `sbyte`, and yet its cast fails. -/
theorem castsToNearest_eval_sbyte :
    let c : Context := (Context.new {} ⟨[]⟩).1.register Library.casts.functions
    let below : Decimal := ⟨true, 1285, 1, by decide, by decide⟩
    let above : Decimal := ⟨false, 1275, 1, by decide, by decide⟩
    let written := fun (d : Decimal) => Expr.literal (.decimal (some d)) d.text
    c.ShowsCasts ∧ (∀ d, (written d).ty c ⟨[]⟩ = .numeric .decimal)
      ∧ (∀ d, (written d).eval c ⟨[]⟩ [] = .ok (.decimal d))
      ∧ (∃ i : Integer .sbyte, i.val = -128
        ∧ (call "c_sbyte" [written below]).eval c ⟨[]⟩ [] = .ok (.number (.int .sbyte i)))
      ∧ (call "c_sbyte" [written above]).eval c ⟨[]⟩ [] = .error (.value (.overflow "sbyte")) := by
  intro c below above written
  have shows : c.ShowsCasts := Context.showsCasts_casts rfl rfl
  have belowValue : below.value = -1285 / 10 := by
    simp [Decimal.value, Decimal.numerator, below]
  have aboveValue : above.value = 1275 / 10 := by
    simp [Decimal.value, Decimal.numerator, above]
  have least : NearestEven below.value (-128) := by
    rw [belowValue]
    exact ⟨by norm_num, fun _ => by decide⟩
  have outside : NearestEven above.value 128 := by
    rw [aboveValue]
    exact ⟨by norm_num, fun _ => by decide⟩
  have type : ∀ d, (written d).ty c ⟨[]⟩ = .numeric .decimal := fun _ => rfl
  have value : ∀ d, (written d).eval c ⟨[]⟩ [] = .ok (.decimal d) := fun _ => rfl
  have casts := fun d => castsToNearest_eval shows (type d) (value d) .sbyte
  have taken := (casts below).fits (-128) least (by decide) (by decide)
  have refused := (casts above).overflow 128 outside (.inr (by decide))
  exact ⟨shows, type, value, taken, refused⟩

end Expr

end ExprLang
