import ExprLang.Evaluation

set_option autoImplicit false

/-!
Values as instances of types, and the conversions that never fail: a number converts to every kind
that its own widens to, so an argument converts to every type it may be passed for.
-/

namespace ExprLang

namespace Value

theorem isInstanceOf_numeric_iff {v : Value} {k : Kind} :
    v.isInstanceOf (.numeric k) = true ↔ ∃ n : Number, v = .number n ∧ n.kind = k := by
  cases v <;> simp [isInstanceOf, isNull, ty, Ty.isReference]

theorem isInstanceOf_boolean_iff {v : Value} :
    v.isInstanceOf .boolean = true ↔ ∃ b, v = .bool b := by
  cases v <;> simp [isInstanceOf, isNull, ty, Ty.isReference]

theorem isInstanceOf_string_iff {v : Value} :
    v.isInstanceOf .string = true ↔ v = .null ∨ ∃ s, v = .string s := by
  cases v <;> simp [isInstanceOf, isNull, ty, Ty.isReference]

theorem isNull_eq_false {v : Value} {t : Ty} (h : v.isInstanceOf t = true)
    (ht : t.isReference = false) : v.isNull = false := by
  cases t with
  | boolean =>
    obtain ⟨b, rfl⟩ := isInstanceOf_boolean_iff.1 h
    rfl
  | numeric k =>
    obtain ⟨n, rfl, -⟩ := isInstanceOf_numeric_iff.1 h
    rfl
  | string => cases ht
  | object => cases ht
  | host name => cases ht

/-- A number is an instance of `object` and of its own type, which is numeric. -/
theorem kind?_eq_of_isInstanceOf {v : Value} {t : Ty} {k : Kind} (h : v.isInstanceOf t = true)
    (ht : t.kind? = some k) : v.kind? = some k := by
  cases t with
  | numeric l =>
    cases ht
    obtain ⟨n, rfl, rfl⟩ := isInstanceOf_numeric_iff.1 h
    rfl
  | boolean => cases ht
  | string => cases ht
  | object => cases ht
  | host name => cases ht

end Value

namespace Ty

theorem kind?_eq_some_iff {t : Ty} {k : Kind} : t.kind? = some k ↔ t = .numeric k := by
  cases t <;> simp [kind?]

theorem isNumeric_iff {t : Ty} : t.isNumeric = true ↔ ∃ k, t = .numeric k := by
  cases t <;> simp [isNumeric]

/-- What a type may be passed for: itself, `object`, and for numbers the kinds they widen to. -/
theorem assignableTo_cases {t u : Ty} (h : t.assignableTo u = true) :
    u = t ∨ u = .object ∨ ∃ k l, t = .numeric k ∧ u = .numeric l ∧ k.widensTo l = true := by
  cases u with
  | object => exact .inr (.inl rfl)
  | numeric l =>
    cases t with
    | numeric k =>
      simp only [assignableTo, Bool.or_eq_true, decide_eq_true_eq] at h
      rcases h with rfl | h
      · exact .inl rfl
      · exact .inr (.inr ⟨k, l, rfl, rfl, h⟩)
    | boolean => simp [assignableTo] at h
    | string => simp [assignableTo] at h
    | object => simp [assignableTo] at h
    | host name => simp [assignableTo] at h
  | boolean => exact .inl (by simpa [assignableTo, eq_comm] using h)
  | string => exact .inl (by simpa [assignableTo, eq_comm] using h)
  | host name => exact .inl (by simpa [assignableTo, eq_comm] using h)

end Ty

namespace Number

theorem narrow_eq_ok {n : Int} {k : IntKind} {m : Number} (h : narrow n k = .ok m) :
    ∃ i : Integer k, i.val = n ∧ m = .int k i := by
  unfold narrow at h
  cases fits : Integer.ofInt? k n with
  | some i =>
    rw [fits] at h
    cases h
    exact ⟨i, Integer.ofInt?_eq_some_iff.1 fits, rfl⟩
  | none =>
    rw [fits] at h
    cases h

theorem kind_of_convert {n m : Number} {k : Kind} (h : n.convert k = .ok m) : m.kind = k := by
  by_cases same : n.kind = k
  · subst same
    rw [convert_kind] at h
    cases h
    rfl
  · unfold convert at h
    rw [if_neg same] at h
    cases k with
    | int k =>
      cases cut : orOverflow (.int k) n.wide.toInt? with
      | ok i =>
        simp only [cut, bind, Except.bind] at h
        obtain ⟨a, -, rfl⟩ := narrow_eq_ok h
        rfl
      | error e =>
        simp only [cut, bind, Except.bind] at h
        cases h
    | single => cases h; rfl
    | double => cases h; rfl
    | decimal =>
      cases there : orOverflow .decimal (n.wide.toDecimal? n.kind) with
      | ok d =>
        simp only [there] at h
        cases h
        rfl
      | error e =>
        simp only [there] at h
        cases h

theorem convert_double (n : Number) : n.convert .double = .ok (.double n.wide.toDouble) := by
  cases n <;> rfl

theorem convert_of_widensTo (n : Number) (k : Kind) (h : n.kind.widensTo k = true) :
    ∃ m, n.convert k = .ok m := by
  rcases (Kind.widensTo_iff _ _).1 h with ⟨l, k, own, rfl, -, inside⟩ | ⟨own, other⟩ | ⟨own, rfl⟩
  · cases n with
    | int l a =>
      cases own
      exact ⟨_, (convert_int a k).trans (narrow_val (a.widen inside))⟩
    | _ => cases own
  · cases n with
    | int l a =>
      cases k with
      | int k => cases other
      | single => exact ⟨_, rfl⟩
      | double => exact ⟨_, rfl⟩
      | decimal => exact ⟨_, convert_int_decimal a⟩
    | _ => cases own
  · exact ⟨_, n.convert_double⟩

theorem convert_of_le (n : Number) (k : Kind) (h : n.kind = k ∨ n.kind.widensTo k = true) :
    ∃ m, n.convert k = .ok m ∧ m.kind = k := by
  have converted : ∃ m, n.convert k = .ok m := by
    rcases h with rfl | h
    · exact ⟨n, n.convert_kind⟩
    · exact n.convert_of_widensTo k h
  obtain ⟨m, hm⟩ := converted
  exact ⟨m, hm, kind_of_convert hm⟩

theorem promoted_kind (n : Number) : n.promoted.kind = n.kind.promoted := by
  cases n <;> rfl

end Number

/-- The kind where two kinds meet is one of them, and the other is the same or widens to it. -/
theorem Kind.meet?_cases {k l j : Kind} (h : meet? k l = some j) :
    (k = j ∨ k.widensTo j = true) ∧ (l = j ∨ l.widensTo j = true) := by
  simp only [meet?] at h
  split at h
  · rename_i same
    cases h
    exact ⟨.inl rfl, .inl same.symm⟩
  · split at h
    · rename_i widens
      cases h
      exact ⟨.inr widens, .inl rfl⟩
    · split at h
      · rename_i widens
        cases h
        exact ⟨.inl rfl, .inr widens⟩
      · cases h

namespace Value

theorem convert_number {n m : Number} {k : Kind} (h : n.convert k = .ok m) :
    (number n).convert k = .ok (number m) := by
  simp only [convert, number?, bind, Except.bind, h]
  rfl

/-- A conversion of a number that succeeds is to the kind that was asked for. -/
theorem isInstanceOf_of_convert {v w : Value} {k : Kind}
    (converted : Error.ofValue (v.convert k) = .ok w) : w.isInstanceOf (.numeric k) = true := by
  cases v with
  | number n =>
    cases reached : n.convert k with
    | ok n' =>
      rw [convert_number reached] at converted
      cases converted
      exact isInstanceOf_numeric_iff.2 ⟨n', rfl, Number.kind_of_convert reached⟩
    | error e =>
      simp only [convert, number?, bind, Except.bind, reached] at converted
      cases converted
  | null => cases converted
  | bool b => cases converted
  | string s => cases converted
  | host o => cases converted

theorem harmonize_of_meet? {m n : Number} {k : Kind} (h : Kind.meet? m.kind n.kind = some k) :
    ∃ m' n' : Number, harmonize (number m) (number n) = .ok (m', n', k)
      ∧ m'.kind = k ∧ n'.kind = k := by
  obtain ⟨left, right⟩ := Kind.meet?_cases h
  obtain ⟨m', hm, hmk⟩ := m.convert_of_le k left
  obtain ⟨n', hn, hnk⟩ := n.convert_of_le k right
  refine ⟨m', n', ?_, hmk, hnk⟩
  simp only [harmonize, number?, bind, Except.bind, h, hm, hn]
  rfl

end Value

theorem coerce_of_isInstanceOf {v : Value} {k : Kind} (hv : v.isInstanceOf (.numeric k) = true) :
    coerce v (.numeric k) = .ok v := by
  obtain ⟨n, rfl, rfl⟩ := Value.isInstanceOf_numeric_iff.1 hv
  simp [coerce, Value.kind?, Ty.kind?]

/-- An argument can be made a value of the type that it is passed for. -/
theorem coerce_of_assignableTo {v : Value} {t u : Ty} (hv : v.isInstanceOf t = true)
    (h : t.assignableTo u = true) : ∃ w, coerce v u = .ok w ∧ w.isInstanceOf u = true := by
  rcases Ty.assignableTo_cases h with rfl | rfl | ⟨k, l, rfl, rfl, widens⟩
  · refine ⟨v, ?_, hv⟩
    cases hu : u.kind? with
    | none => simp [coerce, hu]
    | some k => simp [coerce, hu, Value.kind?_eq_of_isInstanceOf hv hu]
  · exact ⟨v, by simp [coerce, Ty.kind?], v.isInstanceOf_object⟩
  · obtain ⟨n, rfl, rfl⟩ := Value.isInstanceOf_numeric_iff.1 hv
    obtain ⟨m, hm, hk⟩ := n.convert_of_le l (.inr widens)
    refine ⟨.number m, ?_, Value.isInstanceOf_numeric_iff.2 ⟨m, rfl, hk⟩⟩
    have distinct : n.kind ≠ l := by
      rintro rfl
      simp [Kind.widensTo_irrefl] at widens
    simp [coerce, Value.kind?, Ty.kind?, distinct, Value.convert_number hm, Error.ofValue_ok]

end ExprLang
