import Mathlib.Data.String.Basic
import Mathlib.Order.Compare
import Mathlib.Order.WithBot
import ExprLang.Proofs.Operator.Equality

set_option autoImplicit false

/-!
Relations on operands of type string. Their values are strings and `null`, and all six relations
follow one total order: `null` comes first and strings are in the order of their characters. One
case is left out. Two `null`s are told equal, but whether one is less than the other is refused.
-/

namespace ExprLang

/-- The place of a string or `null` in the order of texts. -/
def Value.rank : Value → WithBot String
  | .string s => s
  | _ => ⊥

theorem Value.rank_inj {a b : Value} (ha : a.isInstanceOf .string = true)
    (hb : b.isInstanceOf .string = true) : a.rank = b.rank ↔ a = b := by
  rcases isInstanceOf_string_iff.1 ha with rfl | ⟨s, rfl⟩
  · rcases isInstanceOf_string_iff.1 hb with rfl | ⟨t, rfl⟩ <;> simp [rank]
  · rcases isInstanceOf_string_iff.1 hb with rfl | ⟨t, rfl⟩ <;> simp [rank]

namespace Operator

variable {op : Operator} {a b c : Value}

/-- The operator answers that the relation holds. -/
def Holds (op : Operator) (a b : Value) : Prop := op.apply a b = .ok (.bool true)

section Order

variable {α : Type} [LinearOrder α]

/-- What a relation says of two things in an order. -/
def Relates (op : Operator) (x y : α) : Prop :=
  match op with
  | less => x < y
  | lessOrEqual => x ≤ y
  | equal => x = y
  | unequal => x ≠ y
  | greaterOrEqual => y ≤ x
  | greater => y < x
  | _ => False

theorem accepts_cmp_iff (op : Operator) (x y : α) :
    op.accepts (some (cmp x y)) = true ↔ op.Relates x y := by
  rcases lt_trichotomy x y with below | rfl | above
  · rw [(cmp_eq_lt_iff x y).2 below]
    cases op <;> simp [accepts, Relates, below, below.le, below.ne, below.asymm]
  · rw [cmp_self_eq_eq]
    cases op <;> simp [accepts, Relates]
  · rw [(cmp_eq_gt_iff x y).2 above]
    cases op <;> simp [accepts, Relates, above, above.le, above.ne', above.asymm]

end Order

theorem compareText_eq_cmp (s t : String) : compareText s t = cmp s t := by
  rw [compareText, compareOfLessAndEq]
  rcases lt_trichotomy s t with less | same | greater
  · rw [(cmp_eq_lt_iff s t).2 less, if_pos (String.lt_iff_toList_lt.1 less)]
  · rw [(cmp_eq_eq_iff s t).2 same, same, if_neg (lt_irrefl _), if_pos rfl]
  · have notLess := greater.asymm
    have notSame := greater.ne'
    rw [String.lt_iff_toList_lt] at notLess
    rw [Ne, ← String.toList_inj] at notSame
    rw [(cmp_eq_gt_iff s t).2 greater, if_neg notLess, if_neg notSame]

/-- Two `null`s, and the question which of them is less. -/
def Refuses (op : Operator) (a b : Value) : Prop :=
  op.isEquality = false ∧ a = .null ∧ b = .null

theorem apply_of_strings (relation : op.family = .relation) (ha : a.isInstanceOf .string = true)
    (hb : b.isInstanceOf .string = true) (h : ¬ op.Refuses a b) :
    op.apply a b = .ok (.bool (op.accepts (some (cmp a.rank b.rank)))) := by
  have applied : op.apply a b = op.applyRelation a b := by rw [apply, relation]
  rw [applied]
  rcases Value.isInstanceOf_string_iff.1 ha with rfl | ⟨s, rfl⟩
  · rcases Value.isInstanceOf_string_iff.1 hb with rfl | ⟨t, rfl⟩
    · have equality : op.isEquality = true := by
        by_contra order
        exact h ⟨Bool.eq_false_iff.2 order, rfl, rfl⟩
      have same : cmp Value.null.rank Value.null.rank = .eq := cmp_self_eq_eq _
      rw [same]
      simp only [applyRelation, equality, if_true]
    · have first : cmp Value.null.rank (Value.string t).rank = .lt :=
        (cmp_eq_lt_iff _ _).2 (WithBot.bot_lt_coe t)
      rw [first]
      cases op <;> rfl
  · rcases Value.isInstanceOf_string_iff.1 hb with rfl | ⟨t, rfl⟩
    · have last : cmp (Value.string s).rank Value.null.rank = .gt :=
        (cmp_eq_gt_iff _ _).2 (WithBot.bot_lt_coe s)
      rw [last]
      cases op <;> rfl
    · have lifted : cmp (Value.string s).rank (Value.string t).rank = cmp s t :=
        WithBot.coe_strictMono.cmp_map_eq s t
      rw [lifted, ← compareText_eq_cmp]
      rfl

theorem apply_of_refuses (relation : op.family = .relation) (h : op.Refuses a b) :
    op.apply a b = .error (.evaluation (.incomparable "null" "null" op)) := by
  obtain ⟨order, rfl, rfl⟩ := h
  rw [apply, relation]
  simp only [applyRelation, order]
  rfl

/-- A relation holds where it is not refused and the order of texts says so. -/
theorem holds_iff (relation : op.family = .relation) (ha : a.isInstanceOf .string = true)
    (hb : b.isInstanceOf .string = true) :
    op.Holds a b ↔ ¬ op.Refuses a b ∧ op.Relates a.rank b.rank := by
  by_cases refused : op.Refuses a b
  · rw [Holds, apply_of_refuses relation refused]
    simp [refused]
  · rw [Holds, apply_of_strings relation ha hb refused, ← accepts_cmp_iff, and_iff_right refused,
      Except.ok.injEq, Value.bool.injEq]

theorem not_refuses_of_isEquality (equality : op.isEquality = true) : ¬ op.Refuses a b := by
  rintro ⟨order, -⟩
  rw [equality] at order
  cases order

theorem equal_holds_iff (ha : a.isInstanceOf .string = true) (hb : b.isInstanceOf .string = true) :
    equal.Holds a b ↔ a.rank = b.rank := by
  rw [holds_iff rfl ha hb]
  exact and_iff_right (not_refuses_of_isEquality rfl)

theorem unequal_holds_iff (ha : a.isInstanceOf .string = true)
    (hb : b.isInstanceOf .string = true) : unequal.Holds a b ↔ a.rank ≠ b.rank := by
  rw [holds_iff rfl ha hb]
  exact and_iff_right (not_refuses_of_isEquality rfl)

/-- Of two `null`s none is less, so the refusal does not show here. -/
theorem less_holds_iff (ha : a.isInstanceOf .string = true) (hb : b.isInstanceOf .string = true) :
    less.Holds a b ↔ a.rank < b.rank := by
  rw [holds_iff rfl ha hb]
  refine and_iff_right_of_imp fun below => ?_
  rintro ⟨-, rfl, rfl⟩
  exact lt_irrefl _ below

theorem greater_holds_iff (ha : a.isInstanceOf .string = true)
    (hb : b.isInstanceOf .string = true) : greater.Holds a b ↔ b.rank < a.rank := by
  rw [holds_iff rfl ha hb]
  refine and_iff_right_of_imp fun above => ?_
  rintro ⟨-, rfl, rfl⟩
  exact lt_irrefl _ above

theorem lessOrEqual_holds_iff (ha : a.isInstanceOf .string = true)
    (hb : b.isInstanceOf .string = true) :
    lessOrEqual.Holds a b ↔ ¬ (a = .null ∧ b = .null) ∧ a.rank ≤ b.rank := by
  rw [holds_iff rfl ha hb, Refuses]
  simp [isEquality, Relates]

theorem greaterOrEqual_holds_iff (ha : a.isInstanceOf .string = true)
    (hb : b.isInstanceOf .string = true) :
    greaterOrEqual.Holds a b ↔ ¬ (a = .null ∧ b = .null) ∧ b.rank ≤ a.rank := by
  rw [holds_iff rfl ha hb, Refuses]
  simp [isEquality, Relates]

/-- The relations on three values of type string. -/
structure OrderTexts (a b c : Value) : Prop where
  checked : ∀ op : Operator, op.family = .relation → op.problems .string .string = []
  /-- Every answer is the comparison of the two in one order. -/
  answer : ∀ op : Operator, op.family = .relation → ¬ op.Refuses a b →
    ∃ p, op.apply a b = .ok (.bool p) ∧ (p = true ↔ op.Relates a.rank b.rank)
  /-- The one case without an answer. -/
  refusal : ∀ op : Operator, op.family = .relation → op.Refuses a b →
    op.apply a b = .error (.evaluation (.incomparable "null" "null" op))
  nullFirst : a = .null → b ≠ .null → less.Holds a b
  ordinal : ∀ s t, a = .string s → b = .string t → (less.Holds a b ↔ s.toList < t.toList)
  equal_iff : equal.Holds a b ↔ a = b
  unequal_iff : unequal.Holds a b ↔ ¬ equal.Holds a b
  trichotomy : less.Holds a b ∧ ¬ equal.Holds a b ∧ ¬ greater.Holds a b
    ∨ ¬ less.Holds a b ∧ equal.Holds a b ∧ ¬ greater.Holds a b
    ∨ ¬ less.Holds a b ∧ ¬ equal.Holds a b ∧ greater.Holds a b
  lessOrEqual_iff : ¬ (a = .null ∧ b = .null) →
    (lessOrEqual.Holds a b ↔ less.Holds a b ∨ equal.Holds a b)
  greaterOrEqual_iff : greaterOrEqual.Holds a b ↔ lessOrEqual.Holds b a
  trans : less.Holds a b → less.Holds b c → less.Holds a c

/-- Strings and `null` are told apart and put in order by the relations, but two `null`s are only
told apart. -/
theorem orderTexts_of_strings (ha : a.isInstanceOf .string = true)
    (hb : b.isInstanceOf .string = true) (hc : c.isInstanceOf .string = true) :
    OrderTexts a b c where
  checked op relation := by
    rw [problems, relation]
    rfl
  answer op relation h :=
    ⟨_, apply_of_strings relation ha hb h, accepts_cmp_iff op a.rank b.rank⟩
  refusal op relation := apply_of_refuses relation
  nullFirst null notNull := by
    rw [less_holds_iff ha hb, null]
    have least : Value.null.rank ≤ b.rank := bot_le
    refine lt_of_le_of_ne least fun same => notNull ?_
    exact ((Value.rank_inj rfl hb).1 same).symm
  ordinal s t left right := by
    rw [less_holds_iff ha hb, left, right, ← String.lt_iff_toList_lt]
    exact WithBot.coe_lt_coe
  equal_iff := by rw [equal_holds_iff ha hb, Value.rank_inj ha hb]
  unequal_iff := by rw [unequal_holds_iff ha hb, equal_holds_iff ha hb]
  trichotomy := by
    rw [less_holds_iff ha hb, equal_holds_iff ha hb, greater_holds_iff ha hb]
    rcases lt_trichotomy a.rank b.rank with below | same | above
    · exact .inl ⟨below, below.ne, below.asymm⟩
    · exact .inr (.inl ⟨same.not_lt, same, same.not_gt⟩)
    · exact .inr (.inr ⟨above.asymm, above.ne', above⟩)
  lessOrEqual_iff some := by
    rw [lessOrEqual_holds_iff ha hb, less_holds_iff ha hb, equal_holds_iff ha hb,
      and_iff_right some, le_iff_lt_or_eq]
  greaterOrEqual_iff := by
    rw [greaterOrEqual_holds_iff ha hb, lessOrEqual_holds_iff hb ha, and_comm (a := a = .null)]
  trans below below' := by
    rw [less_holds_iff ha hb] at below
    rw [less_holds_iff hb hc] at below'
    rw [less_holds_iff ha hc]
    exact below.trans below'

/-- `null` is below the empty string, which is below another one. -/
theorem orderTexts_of_strings_null :
    Value.null.isInstanceOf .string = true ∧ (Value.string "").isInstanceOf .string = true
      ∧ (Value.string "b").isInstanceOf .string = true
      ∧ OrderTexts .null (.string "") (.string "b") :=
  ⟨rfl, rfl, rfl, orderTexts_of_strings rfl rfl rfl⟩

/-- Not every relation on values of type string has an answer: no `null` is less than or equal to
another one. -/
theorem exists_text_relation_without_answer :
    ¬ ∀ (op : Operator) (a b : Value), op.family = .relation → op.problems .string .string = [] →
      a.isInstanceOf .string = true → b.isInstanceOf .string = true →
        ∃ p, op.apply a b = .ok (.bool p) := by
  intro always
  have failed : lessOrEqual.apply .null .null
      = .error (.evaluation (.incomparable "null" "null" lessOrEqual)) := rfl
  obtain ⟨p, answered⟩ := always lessOrEqual .null .null rfl (by decide) rfl rfl
  rw [failed] at answered
  cases answered

end Operator

end ExprLang
