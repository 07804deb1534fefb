import ExprLang.Proofs.Numeric.Exact
import ExprLang.Proofs.Operator.TextOrder

set_option autoImplicit false

/-!
Relations on integers and decimals. Whatever their kinds are, two such numbers that may be compared
at all are compared as the rational numbers they are: each relation has its answer, and the answers
are those of one total order. How many places a decimal is written with makes no difference.
-/

namespace ExprLang

theorem Kind.meet?_isSome_iff (k l : Kind) :
    (meet? k l).isSome = true ↔ k = l ∨ k.widensTo l = true ∨ l.widensTo k = true := by
  unfold meet?
  by_cases same : k = l
  · simp [same]
  · by_cases up : k.widensTo l = true
    · simp [same, up]
    · by_cases down : l.widensTo k = true
      · simp [same, up, down]
      · simp [same, up, down]

namespace Operator

variable {op : Operator} {a b c : Number} {x y z : ℚ}

/-- The relations take two numbers of these kinds. -/
def Takes (a b : Number) : Prop :=
  ∀ op : Operator, op.family = .relation → op.problems (.numeric a.kind) (.numeric b.kind) = []

/-- Every relation takes two numbers whose kinds meet, and no other two. -/
theorem problems_numbers_iff (op : Operator) (relation : op.family = .relation) :
    op.problems (.numeric a.kind) (.numeric b.kind) = []
      ↔ (Kind.meet? a.kind.promoted b.kind.promoted).isSome = true := by
  change _ ↔ ((Ty.numeric a.kind).meet? (.numeric b.kind)).isSome = true
  have decided : op.problems (.numeric a.kind) (.numeric b.kind) =
      (if ((Ty.numeric a.kind).meet? (.numeric b.kind)).isSome = true then none
        else some (OperandProblem.incomparable op)).toList := by
    rw [problems, relation]
    rfl
  rw [decided, Option.toList_eq_nil_iff]
  by_cases meets : ((Ty.numeric a.kind).meet? (.numeric b.kind)).isSome = true
  · rw [if_pos meets]
    exact iff_of_true rfl meets
  · rw [if_neg meets]
    exact iff_of_false (Option.some_ne_none _) meets

theorem takes_iff : Takes a b ↔ (Kind.meet? a.kind.promoted b.kind.promoted).isSome = true :=
  ⟨fun h => (problems_numbers_iff equal rfl).1 (h equal rfl),
    fun h op relation => (problems_numbers_iff op relation).2 h⟩

/-- It does not matter which relation was asked. -/
theorem takes_of_problems (relation : op.family = .relation)
    (h : op.problems (.numeric a.kind) (.numeric b.kind) = []) : Takes a b :=
  takes_iff.2 ((problems_numbers_iff op relation).1 h)

theorem takes_self (a : Number) : Takes a a := by
  rw [takes_iff, Kind.meet?_self]
  rfl

theorem Takes.symm (h : Takes a b) : Takes b a := by
  rw [takes_iff, Kind.meet?_isSome_iff] at h ⊢
  rcases h with same | up | down
  · exact .inl same.symm
  · exact .inr (.inr up)
  · exact .inr (.inl down)

theorem apply_of_exact (relation : op.family = .relation) (ha : a.value? = some x)
    (hb : b.value? = some y) (takes : Takes a b) :
    op.apply (.number a) (.number b) = .ok (.bool (op.accepts (some (cmp x y)))) := by
  obtain ⟨j, meet⟩ := Option.isSome_iff_exists.1 (takes_iff.1 takes)
  obtain ⟨a', b', both, aKind, aValue, bKind, bValue⟩ := Value.harmonize_exact ha hb meet
  have compared : a'.compare b' = some (cmp x y) :=
    Number.compare_eq_cmp aValue bValue (aKind.trans bKind.symm)
  generalize cmp x y = o at compared ⊢
  rw [apply, relation]
  simp only [applyRelation, both, Error.ofValue_ok, compared]

/-- A relation holds of two numbers that it takes where the order of the rational numbers says so. -/
theorem holds_numbers_iff (relation : op.family = .relation) (ha : a.value? = some x)
    (hb : b.value? = some y) :
    op.Holds (.number a) (.number b) ↔ Takes a b ∧ op.Relates x y := by
  by_cases takes : Takes a b
  · rw [Holds, apply_of_exact relation ha hb takes, ← accepts_cmp_iff, and_iff_right takes,
      Except.ok.injEq, Value.bool.injEq]
  · have apart : Kind.meet? a.kind.promoted b.kind.promoted = none := by
      rw [takes_iff, Option.not_isSome_iff_eq_none] at takes
      exact takes
    rw [Holds, apply, relation]
    simp only [applyRelation_of_apart op apart, takes, false_and, reduceCtorEq]

/-- The relations on three numbers, the first two of which are `x` and `y`. -/
structure OrderNumbers (a b c : Number) (x y : ℚ) : Prop where
  /-- What one relation takes all six take. -/
  takes : ∀ op : Operator, op.family = .relation →
    op.problems (.numeric a.kind) (.numeric b.kind) = [] → Takes a b
  answer : Takes a b → ∀ op : Operator, op.family = .relation →
    ∃ p, op.apply (.number a) (.number b) = .ok (.bool p) ∧ (p = true ↔ op.Relates x y)
  equal_refl : equal.Holds (.number a) (.number a)
  equal_symm : equal.Holds (.number a) (.number b) → equal.Holds (.number b) (.number a)
  equal_trans : equal.Holds (.number a) (.number b) → equal.Holds (.number b) (.number c) →
    Takes a c → equal.Holds (.number a) (.number c)
  less_irrefl : ¬ less.Holds (.number a) (.number a)
  less_trans : less.Holds (.number a) (.number b) → less.Holds (.number b) (.number c) →
    Takes a c → less.Holds (.number a) (.number c)
  less_total : Takes a b → less.Holds (.number a) (.number b)
    ∨ equal.Holds (.number a) (.number b) ∨ less.Holds (.number b) (.number a)
  less_ne : less.Holds (.number a) (.number b) → ¬ equal.Holds (.number a) (.number b)
  /-- Equal numbers are in the same relations to a third one. -/
  congr : equal.Holds (.number a) (.number b) → Takes a c → Takes b c →
    ∀ op : Operator, op.family = .relation →
      op.apply (.number a) (.number c) = op.apply (.number b) (.number c)
        ∧ op.apply (.number c) (.number a) = op.apply (.number c) (.number b)
  /-- Decimals that differ in scale alone are equal, and nothing tells them apart. -/
  scale : ∀ d e : Decimal, a = .decimal d → b = .decimal e → x = y →
    equal.Holds (.number a) (.number b) ∧ (Takes a c → ∀ op : Operator, op.family = .relation →
      op.apply (.number a) (.number c) = op.apply (.number b) (.number c)
        ∧ op.apply (.number c) (.number a) = op.apply (.number c) (.number b))

/-- Numbers that are the same answer alike. -/
theorem apply_congr (relation : op.family = .relation) (ha : a.value? = some x)
    (hb : b.value? = some x) (hc : c.value? = some z) (takes : Takes a c) (takes' : Takes b c) :
    op.apply (.number a) (.number c) = op.apply (.number b) (.number c)
      ∧ op.apply (.number c) (.number a) = op.apply (.number c) (.number b) := by
  constructor
  · rw [apply_of_exact relation ha hc takes, apply_of_exact relation hb hc takes']
  · rw [apply_of_exact relation hc ha takes.symm, apply_of_exact relation hc hb takes'.symm]

/-- Integers and decimals are compared by value. -/
theorem orderNumbers (ha : a.value? = some x) (hb : b.value? = some y) (hc : c.value? = some z) :
    OrderNumbers a b c x y where
  takes _ relation := takes_of_problems relation
  answer takes op relation := ⟨_, apply_of_exact relation ha hb takes, accepts_cmp_iff op x y⟩
  equal_refl := (holds_numbers_iff rfl ha ha).2 ⟨takes_self a, rfl⟩
  equal_symm h := by
    obtain ⟨takes, same⟩ := (holds_numbers_iff rfl ha hb).1 h
    exact (holds_numbers_iff rfl hb ha).2 ⟨takes.symm, Eq.symm same⟩
  equal_trans h h' takes := by
    have same := ((holds_numbers_iff rfl ha hb).1 h).2
    have same' := ((holds_numbers_iff rfl hb hc).1 h').2
    exact (holds_numbers_iff rfl ha hc).2 ⟨takes, Eq.trans same same'⟩
  less_irrefl h := lt_irrefl x ((holds_numbers_iff rfl ha ha).1 h).2
  less_trans h h' takes := by
    have below := ((holds_numbers_iff rfl ha hb).1 h).2
    have below' := ((holds_numbers_iff rfl hb hc).1 h').2
    exact (holds_numbers_iff rfl ha hc).2 ⟨takes, lt_trans (α := ℚ) below below'⟩
  less_total takes := by
    rw [holds_numbers_iff rfl ha hb, holds_numbers_iff rfl ha hb, holds_numbers_iff rfl hb ha]
    rcases lt_trichotomy x y with below | same | above
    · exact .inl ⟨takes, below⟩
    · exact .inr (.inl ⟨takes, same⟩)
    · exact .inr (.inr ⟨takes.symm, above⟩)
  less_ne h h' := by
    have below := ((holds_numbers_iff rfl ha hb).1 h).2
    have same := ((holds_numbers_iff rfl ha hb).1 h').2
    exact ne_of_lt (α := ℚ) below same
  congr h takes takes' op relation := by
    obtain rfl : x = y := ((holds_numbers_iff rfl ha hb).1 h).2
    exact apply_congr relation ha hb hc takes takes'
  scale d e left right same := by
    subst left right same
    refine ⟨(holds_numbers_iff rfl ha hb).2 ⟨takes_self (.decimal d), rfl⟩, ?_⟩
    intro takes op relation
    -- Both are of one kind, so what may be compared with one may be compared with the other.
    exact apply_congr relation ha hb hc takes takes

/-- The `byte` two is equal to the decimal `2.00` and less than the `int64` three. -/
theorem orderNumbers_two :
    let two : Number := .int .byte ⟨2, by decide, by decide⟩
    let places : Number := .decimal ⟨false, 200, 2, by decide, by decide⟩
    let three : Number := .int .int64 ⟨3, by decide, by decide⟩
    two.value? = some 2 ∧ places.value? = some 2 ∧ three.value? = some 3
      ∧ OrderNumbers two places three 2 2
      ∧ equal.Holds (.number two) (.number places) ∧ less.Holds (.number places) (.number three) := by
  intro two places three
  have first : two.value? = some 2 := rfl
  have second : places.value? = some 2 := by
    norm_num [Number.value?, Decimal.value, Decimal.numerator, places]
  have third : three.value? = some 3 := rfl
  have order := orderNumbers first second third
  have later := orderNumbers second third first
  obtain ⟨p, isEqual, equal_iff⟩ := order.answer (order.takes equal rfl (by decide)) equal rfl
  obtain ⟨q, isLess, less_iff⟩ := later.answer (later.takes less rfl (by decide)) less rfl
  rw [equal_iff.2 rfl] at isEqual
  rw [less_iff.2 (by norm_num [Relates])] at isLess
  exact ⟨first, second, third, order, isEqual, isLess⟩

end Operator

end ExprLang
