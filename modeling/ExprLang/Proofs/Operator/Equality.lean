import ExprLang.Proofs.Typing.Operands

set_option autoImplicit false

/-!
Equality of two values. References of static type `object` may hold any values, so any two values
may meet here. They are told equal or unequal without an error, unless they are two numbers that
cannot be brought to one kind, which are refused as they are where their types are known.
-/

namespace ExprLang

/-- Two numbers whose kinds do not meet, as operations see them. -/
def Value.Apart (a b : Value) : Prop :=
  ∃ m n : Number, a = .number m ∧ b = .number n
    ∧ Kind.meet? m.kind.promoted n.kind.promoted = none

theorem Value.apart_number_iff {m n : Number} : (number m).Apart (number n)
    ↔ Kind.meet? m.kind.promoted n.kind.promoted = none := by
  simp [Apart]

namespace Operator

variable {op : Operator} {t u : Ty} {a b : Value}

theorem family_of_isEquality (h : op.isEquality = true) : op.family = .relation := by
  cases op with
  | equal => rfl
  | unequal => rfl
  | _ => cases h

/-- Either equality asks whether the order is that of equal values. -/
theorem accepts_of_isEquality (h : op.isEquality = true) (o : Option Ordering) :
    op.accepts o = (decide (o = some .eq) == decide (op = equal)) := by
  cases op with
  | equal => simp [accepts]
  | unequal => simp [accepts]
  | _ => cases h

/-- Either equality tells whether two values are the same, and neither fails. -/
def Tells (a b : Value) (same : Bool) : Prop :=
  ∀ op : Operator, op.isEquality = true →
    op.applyRelation a b = .ok (.bool (same == decide (op = equal)))

/-- Values that are brought into an order are the same where that is the order of equal ones. -/
theorem tells_of_order {o : Option Ordering} (answer : ∀ op : Operator, op.isEquality = true →
    op.applyRelation a b = .ok (.bool (op.accepts o))) : Tells a b (decide (o = some .eq)) := by
  intro op equality
  rw [answer op equality, accepts_of_isEquality equality o]

theorem tells_number {m n : Number} {k : Kind}
    (meet : Kind.meet? m.kind.promoted n.kind.promoted = some k) :
    ∃ same, Tells (.number m) (.number n) same := by
  rw [← m.promoted_kind, ← n.promoted_kind] at meet
  obtain ⟨m', n', both, -⟩ := Value.harmonize_of_meet? meet
  have answer : ∀ op : Operator, op.isEquality = true →
      op.applyRelation (.number m) (.number n) = .ok (.bool (op.accepts (m'.compare n'))) := by
    intro op _
    simp only [applyRelation, Value.promoted, both, Error.ofValue_ok]
  exact ⟨_, tells_of_order answer⟩

/-- Two values are the same or not, and the two equalities tell which. -/
theorem exists_tells (h : ¬ a.Apart b) : ∃ same, Tells a b same := by
  -- values of different kinds fall through to the comparison of any two values
  have other : (∀ op : Operator, op.isEquality = true →
      op.applyRelation a b = .ok (.bool (a.equal b == decide (op = equal)))) →
      ∃ same, Tells a b same := fun answer => ⟨a.equal b, answer⟩
  cases a with
  | null =>
    cases b with
    | null =>
      have answer : ∀ op : Operator, op.isEquality = true →
          op.applyRelation .null .null = .ok (.bool (op.accepts (some .eq))) :=
        fun op equality => by simp only [applyRelation, equality, if_true]
      exact ⟨_, tells_of_order answer⟩
    | _ => exact other fun op equality => by simp only [applyRelation, equality, if_true]
  | bool p =>
    cases b with
    | bool q =>
      have answer : ∀ op : Operator, op.isEquality = true →
          op.applyRelation (.bool p) (.bool q)
            = .ok (.bool (op.accepts (some (compareBool p q)))) :=
        fun op equality => by simp only [applyRelation, equality, if_true]
      exact ⟨_, tells_of_order answer⟩
    | _ => exact other fun op equality => by simp only [applyRelation, equality, if_true]
  | string s =>
    cases b with
    | string s' => exact ⟨_, tells_of_order fun op _ => rfl⟩
    | _ => exact other fun op equality => by simp only [applyRelation, equality, if_true]
  | host x =>
    cases b <;> exact other fun op equality => by simp only [applyRelation, equality, if_true]
  | number m =>
    cases b with
    | number n =>
      have meets : Kind.meet? m.kind.promoted n.kind.promoted ≠ none :=
        fun apart => h (Value.apart_number_iff.2 apart)
      obtain ⟨k, meet⟩ := Option.ne_none_iff_exists'.1 meets
      exact tells_number meet
    | _ => exact other fun op equality => by simp only [applyRelation, equality, if_true]

/-- Numbers whose kinds do not meet are refused by every relation. -/
theorem applyRelation_of_apart (op : Operator) {m n : Number}
    (h : Kind.meet? m.kind.promoted n.kind.promoted = none) :
    op.applyRelation (.number m) (.number n)
      = .error (.value (.invalidCast m.kind.promoted.name n.kind.promoted.name)) := by
  simp only [applyRelation, Value.promoted, Value.harmonize, Value.number?, bind, Except.bind,
    m.promoted_kind, n.promoted_kind, h, Error.ofValue_error]

/-- References are checked for equality by their types alone, whichever equality it is. -/
theorem problems_of_references (h : op.isEquality = true) (ht : t.isReference = true)
    (hu : u.isReference = true) :
    op.problems t u = [] ↔ t = u ∨ t = .object ∨ u = .object := by
  have relation := family_of_isEquality h
  have notNumeric : t.isNumeric = false := by
    cases t with
    | numeric k => cases ht
    | _ => rfl
  have notBoolean : t ≠ .boolean := by
    rintro rfl
    cases ht
  simp only [problems, relation, Option.toList_eq_nil_iff, relationProblem?, notNumeric, h, ht, hu,
    notBoolean, Bool.false_eq_true, false_and, not_true_eq_false, if_false, and_self, if_true]
  by_cases strings : t = .string ∧ u = .string
  · simp [strings]
  · by_cases related : t = u ∨ t = .object ∨ u = .object
    · simp [related]
    · simp [strings, related]

/-- No reference type but `object` has numbers. -/
theorem eq_object_of_number {n : Number} (ht : t.isReference = true)
    (h : (Value.number n).isInstanceOf t = true) : t = .object := by
  cases t with
  | object => rfl
  | boolean => cases ht
  | numeric k => cases ht
  | string => cases h
  | host name => cases h

/-- Equality of checked references has an answer, and inequality the opposite one, unless two
objects are numbers whose kinds do not meet. Then both fail alike. -/
theorem equality_of_references (ht : t.isReference = true) (hu : u.isReference = true)
    (checked : equal.problems t u = []) (ha : a.isInstanceOf t = true)
    (hb : b.isInstanceOf u = true) :
    unequal.problems t u = []
      ∧ (¬ a.Apart b →
        ∃ p, equal.apply a b = .ok (.bool p) ∧ unequal.apply a b = .ok (.bool (!p)))
      ∧ ∀ m n : Number, a = .number m → b = .number n →
        Kind.meet? m.kind.promoted n.kind.promoted = none →
        t = .object ∧ u = .object ∧ ∀ op : Operator, op.isEquality = true →
          op.apply a b
            = .error (.value (.invalidCast m.kind.promoted.name n.kind.promoted.name)) := by
  have both : unequal.problems t u = [] := by
    rw [problems_of_references rfl ht hu] at checked ⊢
    exact checked
  refine ⟨both, fun meets => ?_, fun m n left right apart => ?_⟩
  · obtain ⟨same, answers⟩ := exists_tells meets
    have isEqual := answers equal rfl
    have isUnequal := answers unequal rfl
    refine ⟨same, ?_, ?_⟩
    · simpa [apply, family] using isEqual
    · simpa [apply, family] using isUnequal
  · rw [left] at ha
    rw [right] at hb
    refine ⟨eq_object_of_number ht ha, eq_object_of_number hu hb, fun op equality => ?_⟩
    rw [left, right, apply, family_of_isEquality equality]
    exact applyRelation_of_apart op apart

/-- A number of objects against a smaller one, and a binary number against a decimal. -/
theorem equality_of_references_numbers :
    let seven : Value := .int32 ⟨7, by decide, by decide⟩
    let byte : Value := .number (.int .byte ⟨7, by decide, by decide⟩)
    let half : Number := .single 0.5
    let zero : Number := .decimal .zero
    Ty.isReference .object = true ∧ equal.problems .object .object = []
      ∧ seven.isInstanceOf .object = true ∧ byte.isInstanceOf .object = true
      ∧ (∃ p, equal.apply seven byte = .ok (.bool p) ∧ unequal.apply seven byte = .ok (.bool (!p)))
      ∧ equal.apply (.number half) (.number zero)
        = .error (.value (.invalidCast "single" "decimal")) := by
  intro seven byte half zero
  have checked : equal.problems .object .object = [] := by decide
  have together : ¬ seven.Apart byte := by
    show ¬ (Value.number _).Apart (.number _)
    rw [Value.apart_number_iff]
    decide
  have answers := (equality_of_references rfl rfl checked seven.isInstanceOf_object
    byte.isInstanceOf_object).2.1 together
  have refused := (equality_of_references rfl rfl checked (Value.number half).isInstanceOf_object
    (Value.number zero).isInstanceOf_object).2.2 half zero rfl rfl rfl
  exact ⟨rfl, checked, rfl, rfl, answers, refused.2.2 equal rfl⟩

/-- Not every equality of checked references has an answer: a binary number and a decimal may both
be objects. -/
theorem exists_equality_without_answer :
    ¬ ∀ (t u : Ty) (a b : Value), t.isReference = true → u.isReference = true →
      equal.problems t u = [] → a.isInstanceOf t = true → b.isInstanceOf u = true →
        ∃ p, equal.apply a b = .ok (.bool p) ∧ unequal.apply a b = .ok (.bool (!p)) := by
  intro always
  have failed : equal.apply (.number (.single 1.5)) (.decimal ⟨false, 15, 1, by decide, by decide⟩)
      = .error (.value (.invalidCast "single" "decimal")) := rfl
  obtain ⟨p, answered, -⟩ := always .object .object _ _ rfl rfl (by decide) rfl rfl
  rw [failed] at answered
  cases answered

end Operator

end ExprLang
