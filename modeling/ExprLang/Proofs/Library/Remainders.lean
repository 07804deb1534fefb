import ExprLang.Proofs.Library.Calls
import ExprLang.Proofs.Operator.IntegerArithmetic

set_option autoImplicit false

/-!
Division and `mod` on integers of one of the kinds that operations do not promote. Quotient and
remainder are there together: they make up the dividend, and the remainder is smaller than the divisor
and on the side of the dividend. Only the least integer of a signed kind has neither when it is
divided by minus one.
-/

namespace ExprLang

open Library Library.Math

namespace IntKind

/-- The range of a signed kind reaches one further down than up. -/
theorem lo_of_signed {k : IntKind} (signed : k.signed = true) : k.lo = -(k.hi + 1) := by
  cases k <;> first | rfl | cases signed

theorem lo_of_unsigned {k : IntKind} (unsigned : k.signed = false) : k.lo = 0 := by
  cases k <;> first | rfl | cases unsigned

end IntKind

namespace Integer

variable {k : IntKind} {a b : Integer k}

/-- The one pair of a kind whose quotient lies outside: its least integer and minus one, if the kind is
signed. -/
def Outside (a b : Integer k) : Prop := k.signed = true ∧ a.val = k.lo ∧ b.val = -1

instance (a b : Integer k) : Decidable (Outside a b) :=
  inferInstanceAs (Decidable (k.signed = true ∧ a.val = k.lo ∧ b.val = -1))

/-- A divisor other than one and minus one takes off at least half. -/
theorem two_mul_natAbs_tdiv_le {m n : ℤ} (large : 2 ≤ n.natAbs) :
    2 * (m.tdiv n).natAbs ≤ m.natAbs := by
  rw [Int.natAbs_tdiv]
  calc 2 * (m.natAbs / n.natAbs) ≤ n.natAbs * (m.natAbs / n.natAbs) :=
        Nat.mul_le_mul_right _ large
    _ ≤ m.natAbs := Nat.mul_div_le _ _

/-- The quotient is in the range of the kind but for one pair. -/
theorem tdiv_mem_range (nonzero : b.val ≠ 0) (inside : ¬ Outside a b) :
    k.lo ≤ a.val.tdiv b.val ∧ a.val.tdiv b.val ≤ k.hi := by
  have lower := a.lo_le
  have upper := a.le_hi
  have lower' := b.lo_le
  have top := k.zero_lt_hi
  by_cases one : b.val = 1
  · rw [one, Int.tdiv_one]
    omega
  by_cases minusOne : b.val = -1
  · have signed : k.signed = true := decide_eq_true (by omega)
    have least := k.lo_of_signed signed
    have other : a.val ≠ k.lo := fun same => inside ⟨signed, same, minusOne⟩
    rw [minusOne, Int.tdiv_neg, Int.tdiv_one]
    omega
  have halved := two_mul_natAbs_tdiv_le (m := a.val) (n := b.val) (by omega)
  cases signed : k.signed with
  | true =>
    have least := k.lo_of_signed signed
    omega
  | false =>
    have least := k.lo_of_unsigned signed
    have nonneg : 0 ≤ a.val.tdiv b.val := Int.tdiv_nonneg (by omega) (by omega)
    omega

theorem tdiv_of_outside (outside : Outside a b) : k.hi < a.val.tdiv b.val := by
  obtain ⟨signed, least, minusOne⟩ := outside
  have bottom := k.lo_of_signed signed
  rw [minusOne, least, Int.tdiv_neg, Int.tdiv_one]
  omega

theorem tmod_between (m n : ℤ) :
    (0 ≤ m → 0 ≤ m.tmod n ∧ m.tmod n ≤ m) ∧ (m ≤ 0 → m ≤ m.tmod n ∧ m.tmod n ≤ 0) := by
  have size := Int.natAbs_tmod m n
  have smaller := Nat.mod_le m.natAbs n.natAbs
  constructor
  · intro nonneg
    have above := Int.tmod_nonneg n nonneg
    omega
  · intro nonpos
    have below := Int.tmod_nonneg n (show 0 ≤ -m by omega)
    rw [Int.neg_tmod] at below
    omega

/-- A remainder is in every range that has the dividend. -/
theorem tmod_mem_range (a b : Integer k) : k.lo ≤ a.val.tmod b.val ∧ a.val.tmod b.val ≤ k.hi := by
  have between := tmod_between a.val b.val
  have lower := a.lo_le
  have upper := a.le_hi
  have bottom := k.lo_le_zero
  have top := k.zero_lt_hi
  omega

/-- And what is left of the dividend without it as well. -/
theorem tdiv_mul_mem_range (a b : Integer k) :
    k.lo ≤ a.val.tdiv b.val * b.val ∧ a.val.tdiv b.val * b.val ≤ k.hi := by
  have whole := Int.tdiv_mul_add_tmod a.val b.val
  have between := tmod_between a.val b.val
  have lower := a.lo_le
  have upper := a.le_hi
  have bottom := k.lo_le_zero
  have top := k.zero_lt_hi
  omega

theorem abs_tmod_lt {m n : ℤ} (nonzero : n ≠ 0) : |m.tmod n| < |n| := by
  have size := Int.natAbs_tmod m n
  have smaller := Nat.mod_lt m.natAbs (Int.natAbs_pos.2 nonzero)
  rw [Int.abs_eq_natAbs, Int.abs_eq_natAbs]
  omega

theorem tmod_sign (m n : ℤ) : m.tmod n = 0 ∨ (m.tmod n).sign = m.sign := by
  have sign := Int.sign_tmod m n
  by_cases divides : n ∣ m
  · exact .inl (Int.tmod_eq_zero_of_dvd divides)
  · rw [if_neg divides] at sign
    exact .inr sign

theorem rem?_of_inside (nonzero : b.val ≠ 0) (inside : ¬ Outside a b) :
    ∃ r : Integer k, r.val = a.val.tmod b.val ∧ a.rem? b = some r := by
  obtain ⟨lower, upper⟩ := tdiv_mem_range nonzero inside
  obtain ⟨lower', upper'⟩ := tmod_mem_range a b
  have quotient : a.quot? b = some ⟨_, lower, upper⟩ := quot?_eq_some_iff.2 rfl
  refine ⟨⟨_, lower', upper'⟩, rfl, ?_⟩
  rw [rem?, quotient, Option.bind_some]
  exact ofInt?_eq_some_iff.2 rfl

theorem rem?_of_outside (outside : Outside a b) : a.rem? b = none := by
  have quotient : a.quot? b = none := ofInt?_eq_none_iff.2 (.inr (tdiv_of_outside outside))
  rw [rem?, quotient, Option.bind_none]

end Integer

/-! Operations on integers of one kind -/

namespace Operator

variable {op : Operator} {k : IntKind} {a b : Integer k}

/-- Operations that are not promoted are those of the kind. -/
theorem apply_of_wide (wide : k.promoted = k) (numeric : op.family = .numeric)
    (notPower : op ≠ power) :
    op.apply (.number (.int k a)) (.number (.int k b)) =
      match Number.integerOp op.arithmetic a b with
      | .ok c => .ok (.number (.int k c))
      | .error .divisionByZero => .error .divisionByZero
      | .error .overflow => .error (.overflow op.name) := by
  have meet : Kind.meet? (Kind.int k).promoted (Kind.int k).promoted = some (.int k) := by
    rw [Kind.meet?_self, Kind.promoted, wide]
  obtain ⟨a', b', left, right, both⟩ := harmonize_integers a b meet
  obtain rfl := Integer.ext left
  obtain rfl := Integer.ext right
  exact apply_integers numeric notPower both

/-- What the kind has is the result. -/
theorem apply_of_member (wide : k.promoted = k) (numeric : op.family = .numeric)
    (notPower : op ≠ power) {c : Integer k} (exact : op.onIntegers? a.val b.val = some c.val) :
    op.apply (.number (.int k a)) (.number (.int k b)) = .ok (.number (.int k c)) := by
  rw [apply_of_wide wide numeric notPower, Number.integerOp_of_some exact, Integer.ofInt?_val]
  rfl

theorem division_of_outside (wide : k.promoted = k) (outside : Integer.Outside a b) :
    division.apply (.number (.int k a)) (.number (.int k b)) = .error (.overflow "division") := by
  have nonzero : b.val ≠ 0 := by
    rw [outside.2.2]
    decide
  have exact : division.onIntegers? a.val b.val = some (a.val.tdiv b.val) := by
    rw [onIntegers?, if_neg nonzero, truncated_div]
  have nothing := Integer.ofInt?_eq_none_iff.2 (.inr (Integer.tdiv_of_outside outside))
  rw [apply_of_wide wide rfl (by decide), Number.integerOp_of_some exact, nothing]
  rfl

theorem division_of_zero (wide : k.promoted = k) (zero : b.val = 0) :
    division.apply (.number (.int k a)) (.number (.int k b)) = .error .divisionByZero := by
  have missing : division.onIntegers? a.val b.val = none := by rw [onIntegers?, if_pos zero]
  rw [apply_of_wide wide rfl (by decide), Number.integerOp_of_none rfl (by decide) missing]

end Operator

namespace Library.Math

variable {k : IntKind} {a b : Integer k}

/-- The kinds that `mod` takes without widening. -/
def dividedKinds : List IntKind := [.int32, .uint32, .int64, .uint64]

/-- The built-in remainder of two integers. -/
def modOf (k : IntKind) : Handle := .of (modInteger (k := k))

theorem promoted_of_divided (divided : k ∈ dividedKinds) : k.promoted = k := by
  have cover : ∀ k ∈ dividedKinds, k.promoted = k := by decide
  exact cover k divided

theorem modOf_mem (divided : k ∈ dividedKinds) : ("mod", modOf k) ∈ remainders := by
  apply List.mem_append_left
  exact List.mem_map_of_mem divided

theorem modInteger_of_zero (zero : b.val = 0) : modInteger a b = .error .divisionByZero :=
  if_pos zero

theorem modInteger_of_outside (outside : Integer.Outside a b) :
    modInteger a b = .error (.overflow "mod") := by
  have nonzero : b.val ≠ 0 := by
    rw [outside.2.2]
    decide
  rw [modInteger, if_neg nonzero, Integer.rem?_of_outside outside]
  rfl

theorem modInteger_of_inside (nonzero : b.val ≠ 0) (inside : ¬ Integer.Outside a b) :
    ∃ r : Integer k, r.val = a.val.tmod b.val ∧ modInteger a b = .ok r := by
  obtain ⟨r, value, found⟩ := Integer.rem?_of_inside nonzero inside
  refine ⟨r, value, ?_⟩
  rw [modInteger, if_neg nonzero, found]
  rfl

/-- How the quotient and the remainder of `a` and `b` go together, where `whole` is made up of them. -/
structure DividesWithRemainder (a b : Integer k) (quotient remainder whole : Except Error Value) :
    Prop where
  byZero : b.val = 0 →
    quotient = .error .divisionByZero ∧ remainder = .error .divisionByZero
  overflow_iff : b.val ≠ 0 →
    (quotient = .error (.overflow "division") ∧ remainder = .error (.overflow "mod")
      ↔ k.signed = true ∧ a.val = k.lo ∧ b.val = -1)
  exact : b.val ≠ 0 → ¬ (k.signed = true ∧ a.val = k.lo ∧ b.val = -1) → ∃ q r : Integer k,
    quotient = .ok (.number (.int k q)) ∧ remainder = .ok (.number (.int k r))
      ∧ q.val * b.val + r.val = a.val ∧ whole = .ok (.number (.int k a))
      ∧ |r.val| < |b.val| ∧ (r.val = 0 ∨ r.val.sign = a.val.sign)

end Library.Math

namespace Expr

open Operator

variable {c : Context} {m : Memory} {args : List Value} {k : IntKind} {x y : Expr}
  {a b : Integer k}

theorem eval_mod (shows : c.Shows remainders) (divided : k ∈ dividedKinds)
    (left : x.Denotes c m args a) (right : y.Denotes c m args b) :
    (call "mod" [x, y]).eval c m args = (modInteger a b).map Embedded.toValue := by
  rw [← Handle.run_of_binary modInteger a b]
  exact (eval_call (shows _ (modOf_mem divided)) (.cons left (.cons right .nil))).2

/-- But for one pair, integers have a quotient and a remainder, of which the dividend is made up. -/
theorem exists_quotient_and_remainder (shows : c.Shows remainders) (divided : k ∈ dividedKinds)
    (left : x.Denotes c m args a) (right : y.Denotes c m args b) (nonzero : b.val ≠ 0)
    (inside : ¬ Integer.Outside a b) : ∃ q r : Integer k,
      q.val = a.val.tdiv b.val ∧ r.val = a.val.tmod b.val
        ∧ (operation x division y).eval c m args = .ok (.number (.int k q))
        ∧ (call "mod" [x, y]).eval c m args = .ok (.number (.int k r))
        ∧ (operation (operation (operation x division y) multiplication y) addition
            (call "mod" [x, y])).eval c m args = .ok (.number (.int k a)) := by
  have wide := promoted_of_divided divided
  obtain ⟨lower, upper⟩ := Integer.tdiv_mem_range nonzero inside
  obtain ⟨lower', upper'⟩ := Integer.tdiv_mul_mem_range a b
  obtain ⟨r, value, found⟩ := modInteger_of_inside nonzero inside
  let q : Integer k := ⟨_, lower, upper⟩
  let product : Integer k := ⟨_, lower', upper'⟩
  have quotient : (operation x division y).eval c m args = .ok (.number (.int k q)) := by
    rw [eval_operation left.value right.value]
    apply apply_of_member wide rfl (by decide)
    rw [onIntegers?, if_neg nonzero, truncated_div]
  have remainder : (call "mod" [x, y]).eval c m args = .ok (.number (.int k r)) := by
    rw [eval_mod shows divided left right, found]
    rfl
  have multiplied : (operation (operation x division y) multiplication y).eval c m args
      = .ok (.number (.int k product)) := by
    rw [eval_operation quotient right.value]
    exact apply_of_member wide rfl (by decide) rfl
  refine ⟨q, r, rfl, value, quotient, remainder, ?_⟩
  rw [eval_operation multiplied remainder]
  apply apply_of_member wide rfl (by decide)
  rw [onIntegers?, value]
  exact congrArg some (Int.tdiv_mul_add_tmod a.val b.val)

/-- Division and `mod` on two integers of a kind fail together, or else the quotient times the divisor
and the remainder make up the dividend. -/
theorem dividesWithRemainder_of_shows (shows : c.Shows remainders) (divided : k ∈ dividedKinds)
    (left : x.Denotes c m args a) (right : y.Denotes c m args b) :
    DividesWithRemainder a b ((operation x division y).eval c m args)
      ((call "mod" [x, y]).eval c m args)
      ((operation (operation (operation x division y) multiplication y) addition
        (call "mod" [x, y])).eval c m args) := by
  have wide := promoted_of_divided divided
  have quotient := eval_operation left.value right.value division
  have remainder := eval_mod shows divided left right
  have found := exists_quotient_and_remainder shows divided left right
  constructor
  case byZero =>
    intro zero
    rw [quotient, remainder, modInteger_of_zero zero]
    exact ⟨division_of_zero wide zero, rfl⟩
  case overflow_iff =>
    intro nonzero
    constructor
    · intro failed
      by_contra inside
      obtain ⟨q, r, -, -, value, -⟩ := found nonzero inside
      rw [value] at failed
      cases failed.1
    · intro outside
      rw [quotient, remainder, modInteger_of_outside outside]
      exact ⟨division_of_outside wide outside, rfl⟩
  case exact =>
    intro nonzero inside
    obtain ⟨q, r, tdiv, tmod, value, value', whole⟩ := found nonzero inside
    have small := Integer.abs_tmod_lt (m := a.val) nonzero
    have sign := Integer.tmod_sign a.val b.val
    refine ⟨q, r, value, value', ?_, whole, ?_, ?_⟩
    · rw [tdiv, tmod]
      exact Int.tdiv_mul_add_tmod a.val b.val
    · rw [tmod]
      exact small
    · rw [tmod]
      exact sign

/-- Minus seven has the quotient minus two and the remainder minus one by three; the least `int64` has
none of both by minus one. -/
theorem dividesWithRemainder_of_shows_negative :
    let seven : Integer .int32 := ⟨-7, by decide, by decide⟩
    let three : Integer .int32 := ⟨3, by decide, by decide⟩
    let least : Integer .int64 := ⟨-9223372036854775808, by decide, by decide⟩
    let minus : Integer .int64 := ⟨-1, by decide, by decide⟩
    let written := fun (k : IntKind) (a : Integer k) => literal (.integer (some (.int k a))) a.text
    ∃ c m, standard 0 {} {} = .ok (c, m) ∧ c.Shows remainders
      ∧ .int32 ∈ dividedKinds ∧ .int64 ∈ dividedKinds
      ∧ (∃ q r : Integer .int32, q.val * 3 + r.val = -7
        ∧ (operation (written _ seven) division (written _ three)).eval c m []
          = .ok (.number (.int .int32 q))
        ∧ (call "mod" [written _ seven, written _ three]).eval c m []
          = .ok (.number (.int .int32 r)))
      ∧ (call "mod" [written _ least, written _ minus]).eval c m [] = .error (.overflow "mod") := by
  intro seven three least minus written
  obtain ⟨c, m, loaded⟩ := exists_standard 0
  have shows : c.Shows remainders := by
    have package : c.Shows (math 0).functions := shows_standard loaded (by simp [packages])
    apply package.of_subset
    intro r mem
    simp only [math, List.append_assoc]
    exact List.mem_append_left _ mem
  have denotes (k : IntKind) (a : Integer k) : (written k a).Denotes c m [] a :=
    denotes_integer a a.text
  have small := dividesWithRemainder_of_shows shows (by decide) (denotes _ seven) (denotes _ three)
  have large := dividesWithRemainder_of_shows shows (by decide) (denotes _ least) (denotes _ minus)
  obtain ⟨q, r, quotient, remainder, dividend, -⟩ := small.exact (by decide) (by decide)
  have failed := (large.overflow_iff (by decide)).2 (by decide)
  exact ⟨c, m, loaded, shows, by decide, by decide, ⟨q, r, dividend, quotient, remainder⟩,
    failed.2⟩

end Expr

end ExprLang
