import ExprLang.Proofs.Numeric.Exact

set_option autoImplicit false

/-!
Checked conversion of integers and decimals. A conversion to an integer kind cuts the number toward
zero and then either fits or overflows; a conversion to decimal keeps the value of every integer.
Where the kind of a number widens to another one, the way there loses nothing: the value stays and
the way back leads to the same number.
-/

namespace ExprLang

namespace Value

variable {n : Number} {x : ℚ} {k : IntKind}

/-- A number that fits is converted to its integer. -/
theorem convert_int_of_eq (h : n.value? = some x) {i : Integer k} (fits : i.val = truncated x) :
    (number n).convert (.int k) = .ok (number (.int k i)) := by
  apply convert_number
  rw [Number.convert_eq_narrow h, ← fits, Number.narrow_val]

/-- A number that does not fit is refused, by the name of the kind that was asked for. -/
theorem convert_int_of_outside (h : n.value? = some x)
    (outside : truncated x < k.lo ∨ k.hi < truncated x) :
    (number n).convert (.int k) = .error (.overflow k.name) := by
  have refused : n.convert (.int k) = .error (.overflow k.name) :=
    (Number.convert_eq_narrow h k).trans (Number.narrow_of_outside outside)
  simp only [convert, number?, bind, Except.bind, refused]

/-- A conversion that keeps the value of an integer or a decimal can be taken back. -/
theorem convert_back {m : Number} (hn : n.value? = some x) (hm : m.value? = some x)
    (widens : n.kind.widensTo m.kind = true) : (number m).convert n.kind = .ok (number n) := by
  cases n with
  | int k i =>
    cases hn
    exact convert_int_of_eq hm (truncated_intCast i.val).symm
  | single z => cases hn
  | double z => cases hn
  | decimal d =>
    rw [Number.kind, Kind.widensTo_iff] at widens
    simp [Kind.isInteger] at widens

end Value

/-- What checked conversion makes of the number `n`, whose value is `x`. -/
structure ConvertsExactly (n : Number) (x : ℚ) : Prop where
  /-- The number cut toward zero, where that is in the range of the kind. -/
  cut : ∀ k : IntKind, k.lo ≤ truncated x → truncated x ≤ k.hi →
    ∃ i : Integer k, i.val = truncated x
      ∧ (Value.number n).convert (.int k) = .ok (.number (.int k i))
  overflow : ∀ k : IntKind, truncated x < k.lo ∨ k.hi < truncated x →
    (Value.number n).convert (.int k) = .error (.overflow k.name)
  decimal : ∃ d : Decimal, (Value.number n).convert .decimal = .ok (.decimal d) ∧ d.value = x
  widening : ∀ k : Kind, k.isFloat = false → n.kind.widensTo k = true →
    ∃ m : Number, (Value.number n).convert k = .ok (.number m) ∧ m.kind = k ∧ m.value? = some x
      ∧ (Value.number m).convert n.kind = .ok (.number n)

/-- Integers and decimals convert to integer kinds by cutting toward zero and to decimals without a
change, and widening can be undone. -/
theorem convertsExactly_of_exact {n : Number} {x : ℚ} (h : n.value? = some x) :
    ConvertsExactly n x where
  cut k lower upper := ⟨⟨truncated x, lower, upper⟩, rfl, Value.convert_int_of_eq h rfl⟩
  overflow k outside := Value.convert_int_of_outside h outside
  decimal := by
    obtain ⟨d, converted, same⟩ := Number.convert_decimal h
    exact ⟨d, Value.convert_number converted, same⟩
  widening k exact widens := by
    obtain ⟨m, converted, isKind, value⟩ := Number.convert_exact h exact (.inr widens)
    refine ⟨m, Value.convert_number converted, isKind, value, ?_⟩
    rw [← isKind] at widens
    exact Value.convert_back h value widens

/-- The decimal `-128.9` is cut to the least `sbyte` and is too small for a `byte`; the least `int64`
is still itself after it was a decimal. -/
theorem convertsExactly_of_exact_least :
    let below : Decimal := ⟨true, 1289, 1, by decide, by decide⟩
    let least : Number := .int .int64 ⟨-9223372036854775808, by decide, by decide⟩
    (Number.decimal below).value? = some (-1289 / 10)
      ∧ (∃ i : Integer .sbyte, i.val = -128
        ∧ (Value.decimal below).convert (.int .sbyte) = .ok (.number (.int .sbyte i)))
      ∧ (Value.decimal below).convert (.int .byte) = .error (.overflow "byte")
      ∧ ∃ m : Number, (Value.number least).convert .decimal = .ok (.number m)
        ∧ (Value.number m).convert (.int .int64) = .ok (.number least) := by
  intro below least
  have value : (Number.decimal below).value? = some (-1289 / 10) := by
    simp [Number.value?, Decimal.value, Decimal.numerator, below]
  have cut : truncated (-1289 / 10) = -128 := by
    exact_mod_cast truncated_div (-1289) 10
  have converts := convertsExactly_of_exact value
  have sbyte := converts.cut .sbyte (by rw [cut]; decide) (by rw [cut]; decide)
  have byte := converts.overflow .byte (.inl (by rw [cut]; decide))
  obtain ⟨m, there, -, -, back⟩ :=
    (convertsExactly_of_exact (n := least) rfl).widening .decimal rfl rfl
  rw [cut] at sbyte
  exact ⟨value, sbyte, byte, m, there, back⟩

end ExprLang
