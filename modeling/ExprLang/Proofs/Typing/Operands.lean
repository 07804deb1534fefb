import ExprLang.Proofs.Typing.Conversion

set_option autoImplicit false

/-!
Operators on checked operands. The result is a value of the static type of the operation; what can
go wrong is arithmetic, and beside it only the comparison of two references.
-/

namespace ExprLang

/-- What comes of a computation: a value that is `good` or an error that is `bad`. -/
structure Lands {α : Type} (x : Except Error α) (good : α → Prop) (bad : Error → Prop) : Prop where
  ok : ∀ a, x = .ok a → good a
  error : ∀ e, x = .error e → bad e

namespace Lands

variable {α : Type} {x : Except Error α} {good : α → Prop} {bad : Error → Prop}

theorem of_ok {a : α} (h : good a) : Lands (.ok a) good bad where
  ok := by
    rintro _ ⟨⟩
    exact h
  error := by
    rintro _ ⟨⟩

theorem of_error {e : Error} (h : bad e) : Lands (.error e) good bad where
  ok := by
    rintro _ ⟨⟩
  error := by
    rintro _ ⟨⟩
    exact h

theorem mono {good' : α → Prop} {bad' : Error → Prop} (h : Lands x good bad)
    (hgood : ∀ a, good a → good' a) (hbad : ∀ e, bad e → bad' e) : Lands x good' bad' :=
  ⟨fun a ha => hgood a (h.ok a ha), fun e he => hbad e (h.error e he)⟩

end Lands

/-- The errors of arithmetic itself. -/
inductive Error.IsArithmetic : Error → Prop
  | divisionByZero : IsArithmetic .divisionByZero
  | overflow (op : Operator) (numeric : op.family = .numeric) : IsArithmetic (.overflow op.name)

namespace Number

/-- Arithmetic stays within a kind, and two numbers of one kind have it. -/
theorem arithmetic?_of_kind (op : Arithmetic) {m n : Number} {k : Kind} (hm : m.kind = k)
    (hn : n.kind = k) :
    (∃ r, arithmetic? op m n = some (.ok r) ∧ r.kind = k)
      ∨ ∃ fault, arithmetic? op m n = some (.error fault) := by
  subst hm
  cases m with
  | int k a =>
    cases n with
    | int l b =>
      obtain rfl : l = k := by simpa [kind] using hn
      simp only [arithmetic?, dite_true]
      cases integerOp op a b with
      | ok r => exact .inl ⟨.int l r, rfl, rfl⟩
      | error fault => exact .inr ⟨fault, rfl⟩
    | single y => simp [kind] at hn
    | double y => simp [kind] at hn
    | decimal y => simp [kind] at hn
  | single x =>
    cases n with
    | single y => exact .inl ⟨_, rfl, rfl⟩
    | int l b => simp [kind] at hn
    | double y => simp [kind] at hn
    | decimal y => simp [kind] at hn
  | double x =>
    cases n with
    | double y => exact .inl ⟨_, rfl, rfl⟩
    | int l b => simp [kind] at hn
    | single y => simp [kind] at hn
    | decimal y => simp [kind] at hn
  | decimal x =>
    cases n with
    | decimal y =>
      simp only [arithmetic?]
      cases decimalOp op x y with
      | ok r => exact .inl ⟨.decimal r, rfl, rfl⟩
      | error fault => exact .inr ⟨fault, rfl⟩
    | int l b => simp [kind] at hn
    | single y => simp [kind] at hn
    | double y => simp [kind] at hn

end Number

namespace Operator

variable {op : Operator} {t u : Ty} {a b : Value}

/-- The operands of checked arithmetic are numbers, of kinds that meet unless it is a power. -/
theorem numeric_of_problems (hop : op.family = .numeric) (h : op.problems t u = []) :
    ∃ k l, t = .numeric k ∧ u = .numeric l
      ∧ (op ≠ power → ∃ j, Kind.meet? k.promoted l.promoted = some j) := by
  simp only [problems, hop, numericProblems] at h
  cases ht : t.isNumeric with
  | false => simp [ht] at h
  | true =>
    cases hu : u.isNumeric with
    | false => simp [ht, hu] at h
    | true =>
      obtain ⟨k, rfl⟩ := Ty.isNumeric_iff.1 ht
      obtain ⟨l, rfl⟩ := Ty.isNumeric_iff.1 hu
      refine ⟨k, l, rfl, rfl, fun notPower => ?_⟩
      simp only [Ty.isNumeric, ite_true, List.append_nil, true_and, ne_eq, notPower,
        not_false_eq_true, Option.isNone_iff_eq_none, ite_eq_right_iff, reduceCtorEq, imp_false,
        Ty.meet?, Ty.kind?, bind, Option.bind] at h
      exact Option.ne_none_iff_exists'.1 h

theorem applyPower_lands (m n : Number) :
    Lands (applyPower (.number m) (.number n)) (·.isInstanceOf (.numeric .double) = true)
      Error.IsArithmetic := by
  simp only [applyPower, Value.convert_number m.convert_double,
    Value.convert_number n.convert_double, Error.ofValue_ok, bind, Except.bind]
  exact .of_ok (Value.isInstanceOf_numeric_iff.2 ⟨_, rfl, rfl⟩)

theorem applyNumeric_lands {m n : Number} {k : Kind} (hop : op.family = .numeric)
    (h : Kind.meet? m.kind.promoted n.kind.promoted = some k) :
    Lands (op.applyNumeric (.number m) (.number n)) (·.isInstanceOf (.numeric k) = true)
      Error.IsArithmetic := by
  rw [← m.promoted_kind, ← n.promoted_kind] at h
  obtain ⟨m', n', both, hm, hn⟩ := Value.harmonize_of_meet? h
  simp only [applyNumeric, Value.promoted, both, Error.ofValue_ok, bind, Except.bind]
  rcases Number.arithmetic?_of_kind op.arithmetic hm hn with ⟨r, hr, kind⟩ | ⟨fault, hr⟩
  · rw [hr]
    exact .of_ok (Value.isInstanceOf_numeric_iff.2 ⟨r, rfl, kind⟩)
  · rw [hr]
    cases fault with
    | divisionByZero => exact .of_error .divisionByZero
    | overflow => exact .of_error (.overflow op hop)

/-- Two numbers whose kinds meet compare without error. -/
theorem applyRelation_number (op : Operator) {m n : Number} {k : Kind}
    (h : Kind.meet? m.kind.promoted n.kind.promoted = some k) :
    ∃ p, op.applyRelation (.number m) (.number n) = .ok (.bool p) := by
  rw [← m.promoted_kind, ← n.promoted_kind] at h
  obtain ⟨m', n', both, -⟩ := Value.harmonize_of_meet? h
  simp [applyRelation, Value.promoted, both, Error.ofValue_ok]

theorem applyRelation_ok {v : Value} (h : op.applyRelation a b = .ok v) :
    v.isInstanceOf .boolean = true := by
  have answer : ∃ p, v = .bool p := by
    simp only [applyRelation] at h
    repeat' split at h
    all_goals cases h
    all_goals exact ⟨_, rfl⟩
  exact Value.isInstanceOf_boolean_iff.2 answer

/-- The operands of a checked relation: two numbers whose kinds meet, two booleans, or two
references. -/
theorem relation_of_problems (hop : op.family = .relation) (h : op.problems t u = []) :
    (∃ k l j, t = .numeric k ∧ u = .numeric l ∧ Kind.meet? k.promoted l.promoted = some j)
      ∨ (t = .boolean ∧ u = .boolean ∧ op.isEquality = true)
      ∨ (t.isReference = true ∧ u.isReference = true) := by
  simp only [problems, hop, Option.toList_eq_nil_iff, relationProblem?] at h
  split at h
  · rename_i strings
    obtain ⟨rfl, rfl⟩ := strings
    exact .inr (.inr ⟨rfl, rfl⟩)
  · split at h
    · rename_i numbers
      obtain ⟨k, rfl⟩ := Ty.isNumeric_iff.1 numbers.1
      obtain ⟨l, rfl⟩ := Ty.isNumeric_iff.1 numbers.2
      split at h
      · rename_i meets
        obtain ⟨j, hj⟩ := Option.isSome_iff_exists.1 meets
        exact .inl ⟨k, l, j, rfl, rfl, hj⟩
      · cases h
    · split at h
      · cases h
      · rename_i equality
        split at h
        · rename_i booleans
          exact .inr (.inl ⟨booleans.1, booleans.2, by simpa using equality⟩)
        · split at h
          · rename_i references
            exact .inr (.inr references)
          · cases h

theorem applyRelation_lands (hop : op.family = .relation) (h : op.problems t u = [])
    (ha : a.isInstanceOf t = true) (hb : b.isInstanceOf u = true) :
    Lands (op.applyRelation a b) (·.isInstanceOf .boolean = true)
      fun e => (t.isReference = true ∧ u.isReference = true) ∨ e.IsArithmetic := by
  refine ⟨fun v => applyRelation_ok, fun e failed => ?_⟩
  rcases relation_of_problems hop h with ⟨k, l, j, rfl, rfl, meet⟩ | ⟨rfl, rfl, equality⟩ | refs
  · obtain ⟨m, rfl, rfl⟩ := Value.isInstanceOf_numeric_iff.1 ha
    obtain ⟨n, rfl, rfl⟩ := Value.isInstanceOf_numeric_iff.1 hb
    obtain ⟨p, answered⟩ := applyRelation_number op meet
    rw [answered] at failed
    cases failed
  · obtain ⟨p, rfl⟩ := Value.isInstanceOf_boolean_iff.1 ha
    obtain ⟨q, rfl⟩ := Value.isInstanceOf_boolean_iff.1 hb
    simp [applyRelation, equality] at failed
  · exact .inl refs

theorem applyBoolean_lands (hop : op.family = .boolean) (h : op.problems t u = [])
    (ha : a.isInstanceOf t = true) (hb : b.isInstanceOf u = true) :
    Lands (op.applyBoolean a b) (·.isInstanceOf .boolean = true) Error.IsArithmetic := by
  simp only [problems, hop, booleanProblems, List.append_eq_nil_iff, ite_eq_left_iff,
    reduceCtorEq, imp_false, Decidable.not_not] at h
  obtain ⟨rfl, rfl⟩ := h
  obtain ⟨p, rfl⟩ := Value.isInstanceOf_boolean_iff.1 ha
  obtain ⟨q, rfl⟩ := Value.isInstanceOf_boolean_iff.1 hb
  exact .of_ok (Value.isInstanceOf_boolean_iff.2 ⟨_, rfl⟩)

/-- The operation on values of operand types that it takes. -/
theorem apply_lands (h : op.problems t u = []) (ha : a.isInstanceOf t = true)
    (hb : b.isInstanceOf u = true) :
    Lands (op.apply a b) (·.isInstanceOf (op.resultTy t u) = true)
      fun e => (op.family = .relation ∧ t.isReference = true ∧ u.isReference = true)
        ∨ e.IsArithmetic := by
  cases hop : op.family with
  | numeric =>
    obtain ⟨k, l, rfl, rfl, meets⟩ := numeric_of_problems hop h
    obtain ⟨m, rfl, rfl⟩ := Value.isInstanceOf_numeric_iff.1 ha
    obtain ⟨n, rfl, rfl⟩ := Value.isInstanceOf_numeric_iff.1 hb
    simp only [apply, resultTy, hop]
    by_cases power : op = .power
    · rw [if_pos power, if_pos power]
      exact (applyPower_lands m n).mono (fun _ h => h) fun _ h => .inr h
    · rw [if_neg power, if_neg power]
      obtain ⟨j, meet⟩ := meets power
      simp only [Ty.meet?, Ty.kind?, bind, Option.bind, meet, Option.getD_some]
      exact (applyNumeric_lands hop meet).mono (fun _ h => h) fun _ h => .inr h
  | text =>
    simp only [apply, resultTy, hop]
    exact .of_ok (Value.isInstanceOf_string_iff.2 (.inr ⟨_, rfl⟩))
  | relation =>
    simp only [apply, resultTy, hop, true_and]
    exact applyRelation_lands hop h ha hb
  | boolean =>
    simp only [apply, resultTy, hop]
    exact (applyBoolean_lands hop h ha hb).mono (fun _ h => h) fun _ h => .inr h

end Operator

end ExprLang
