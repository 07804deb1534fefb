import ExprLang.Numeric.Kind
import ExprLang.Numeric.Digits

set_option autoImplicit false

/-!
Integers of a bounded kind. Every operation is the operation on `Int` followed by `ofInt?`, which is
`none` exactly outside the kind's range, so nothing wraps.
-/

namespace ExprLang

/-- An integer that lies in the range of its kind. -/
structure Integer (k : IntKind) where
  val : Int
  lo_le : k.lo ≤ val
  le_hi : val ≤ k.hi
deriving DecidableEq

namespace Integer

variable {k : IntKind}

@[ext] theorem ext {a b : Integer k} (h : a.val = b.val) : a = b := by
  cases a; cases b; cases h; rfl

/-- The member of `k` that equals `n`, if there is one. -/
def ofInt? (k : IntKind) (n : Int) : Option (Integer k) :=
  if h : k.lo ≤ n ∧ n ≤ k.hi then some ⟨n, h.1, h.2⟩ else none

def zero (k : IntKind) : Integer k := ⟨0, k.lo_le_zero, Int.le_of_lt k.zero_lt_hi⟩

/-- The `int32` that stands for "greater". -/
def one : Integer .int32 := ⟨1, by decide, by decide⟩

/-- The `int32` that stands for "less" and for "nowhere". -/
def minusOne : Integer .int32 := ⟨-1, by decide, by decide⟩

/-- The `int32` with the low bits of a natural number. -/
def lowBits (n : Nat) : Integer .int32 where
  val := (n : Int).bmod 4294967296
  lo_le := Int.le_bmod (by decide)
  le_hi := Int.le_of_lt_add_one (Int.bmod_lt (by decide))

theorem ofInt?_eq_some_iff {n : Int} {a : Integer k} : ofInt? k n = some a ↔ a.val = n := by
  constructor
  · intro h
    unfold ofInt? at h
    split at h
    · cases h; rfl
    · cases h
  · rintro rfl
    simp [ofInt?, a.lo_le, a.le_hi]

theorem ofInt?_eq_none_iff {n : Int} : ofInt? k n = none ↔ n < k.lo ∨ k.hi < n := by
  unfold ofInt?
  split <;> simp <;> omega

theorem ofInt?_val (a : Integer k) : ofInt? k a.val = some a := ofInt?_eq_some_iff.2 rfl

/-- The same integer in a kind that contains its own. -/
def widen {l : IntKind} (a : Integer k) (h : k.within l = true) : Integer l :=
  ⟨a.val, Int.le_trans ((IntKind.within_iff k l).1 h).1 a.lo_le,
    Int.le_trans a.le_hi ((IntKind.within_iff k l).1 h).2⟩

/-- The integer as operations see it. -/
def promoted (a : Integer k) : Integer k.promoted := a.widen k.within_promoted

def add? (a b : Integer k) : Option (Integer k) := ofInt? k (a.val + b.val)

def sub? (a b : Integer k) : Option (Integer k) := ofInt? k (a.val - b.val)

def mul? (a b : Integer k) : Option (Integer k) := ofInt? k (a.val * b.val)

/-- The quotient cut toward zero, for a divisor other than zero. -/
def quot? (a b : Integer k) : Option (Integer k) := ofInt? k (a.val.tdiv b.val)

/-- The remainder that goes with `quot?`: it has the sign of the dividend, and it is there only when
the quotient is. -/
def rem? (a b : Integer k) : Option (Integer k) :=
  (quot? a b).bind fun _ => ofInt? k (a.val.tmod b.val)

def abs? (a : Integer k) : Option (Integer k) := ofInt? k a.val.natAbs

/-- The integer in decimal digits, with a minus sign where it is negative. -/
def digits (a : Integer k) : List Char :=
  if a.val < 0 then '-' :: Digits.ofNat a.val.natAbs else Digits.ofNat a.val.natAbs

def text (a : Integer k) : String := String.ofList a.digits

/-- Reads an optional sign and at least one digit; a minus sign belongs to signed kinds only. -/
def parse? (k : IntKind) : List Char → Option (Integer k)
  | '+' :: ds => (Digits.toNat? ds).bind fun n => ofInt? k n
  | '-' :: ds => if k.signed then (Digits.toNat? ds).bind fun n => ofInt? k (-n) else none
  | ds => (Digits.toNat? ds).bind fun n => ofInt? k n

theorem lowBits_val {n : Nat} (fits : n ≤ 2147483647) : (lowBits n).val = n := by
  unfold lowBits
  dsimp only
  rw [Int.bmod_eq_of_le] <;> omega

theorem quot?_eq_some_iff {a b c : Integer k} : quot? a b = some c ↔ c.val = a.val.tdiv b.val :=
  ofInt?_eq_some_iff

end Integer

end ExprLang
