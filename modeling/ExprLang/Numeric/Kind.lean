set_option autoImplicit false

/-!
The numeric kinds of the expression language and the order in which they widen.

Eight integer kinds are ranges of integers, and one integer kind widens to another exactly when its
range is a proper part of the other's (`Kind.widensTo_int`). Every integer kind also widens to the
three fractional kinds, and `single` widens to `double`. Two kinds meet only when one of them widens
to the other.
-/

namespace ExprLang

/-- An integer kind is a name for a range of integers. -/
inductive IntKind
  | sbyte
  | byte
  | int16
  | uint16
  | int32
  | uint32
  | int64
  | uint64
deriving DecidableEq, Repr

namespace IntKind

def all : List IntKind := [sbyte, byte, int16, uint16, int32, uint32, int64, uint64]

def name : IntKind → String
  | sbyte => "sbyte"
  | byte => "byte"
  | int16 => "int16"
  | uint16 => "uint16"
  | int32 => "int32"
  | uint32 => "uint32"
  | int64 => "int64"
  | uint64 => "uint64"

def lo : IntKind → Int
  | sbyte => -128
  | int16 => -32768
  | int32 => -2147483648
  | int64 => -9223372036854775808
  | byte | uint16 | uint32 | uint64 => 0

def hi : IntKind → Int
  | sbyte => 127
  | byte => 255
  | int16 => 32767
  | uint16 => 65535
  | int32 => 2147483647
  | uint32 => 4294967295
  | int64 => 9223372036854775807
  | uint64 => 18446744073709551615

def signed (k : IntKind) : Bool := k.lo < 0

/-- Both bounds of `k` lie within the bounds of `l`. -/
def within (k l : IntKind) : Bool := l.lo ≤ k.lo && k.hi ≤ l.hi

/-- The kinds narrower than 32 bits take part in operations as `int32`. -/
def promoted : IntKind → IntKind
  | sbyte | byte | int16 | uint16 => int32
  | k => k

theorem mem_all (k : IntKind) : k ∈ all := by cases k <;> decide

theorem lo_le_zero (k : IntKind) : k.lo ≤ 0 := by cases k <;> decide

theorem zero_lt_hi (k : IntKind) : 0 < k.hi := by cases k <;> decide

theorem int64_lo_le (k : IntKind) : int64.lo ≤ k.lo := by cases k <;> decide

theorem hi_le_uint64 (k : IntKind) : k.hi ≤ uint64.hi := by cases k <;> decide

theorem within_iff (k l : IntKind) : k.within l = true ↔ l.lo ≤ k.lo ∧ k.hi ≤ l.hi := by
  simp [within]

theorem within_promoted (k : IntKind) : k.within k.promoted = true := by cases k <;> decide

end IntKind

/-- The kinds of numbers: integers of a range, two binary floating-point widths and decimals. -/
inductive Kind
  | int (k : IntKind)
  | single
  | double
  | decimal
deriving DecidableEq, Repr

namespace Kind

def all : List Kind := IntKind.all.map int ++ [single, double, decimal]

def name : Kind → String
  | int k => k.name
  | single => "single"
  | double => "double"
  | decimal => "decimal"

def ofName? (s : String) : Option Kind := all.find? (·.name = s)

def isInteger : Kind → Bool
  | int _ => true
  | _ => false

def isFloat : Kind → Bool
  | single | double => true
  | _ => false

/-- `k.widensTo l` when every number of kind `k` may stand where kind `l` is wanted. The table goes by
the kind that is wanted, and no kind is in its own row. -/
def widensTo (k : Kind) : Kind → Bool
  | int .sbyte | int .byte => false
  | int .int16 => (k matches int .sbyte | int .byte)
  | int .uint16 => (k matches int .byte)
  | int .int32 => (k matches int .sbyte | int .byte | int .int16 | int .uint16)
  | int .uint32 => (k matches int .byte | int .uint16)
  | int .int64 =>
    (k matches int .sbyte | int .byte | int .int16 | int .uint16 | int .int32 | int .uint32)
  | int .uint64 => (k matches int .byte | int .uint16 | int .uint32)
  | single | decimal => k.isInteger
  | double => k.isInteger || k = single

/-- The one of two kinds that the other is or widens to. -/
def meet? (k l : Kind) : Option Kind :=
  if k = l then some k
  else if k.widensTo l then some l
  else if l.widensTo k then some k
  else none

/-- Operations see the narrow integer kinds as `int32`. -/
def promoted : Kind → Kind
  | int k => int k.promoted
  | k => k

def isNarrow (k : Kind) : Bool := k.promoted ≠ k

theorem mem_all (k : Kind) : k ∈ all := by
  cases k with
  | int k => simp [all, IntKind.mem_all]
  | _ => simp [all]

/-- Between integer kinds the table is that of the ranges. -/
theorem widensTo_int (k l : IntKind) : (int k).widensTo (int l) = (k ≠ l && k.within l) := by
  cases k <;> cases l <;> decide

/-- What widens: integers to integers of a larger range and to fractions, and `single` to `double`. -/
theorem widensTo_iff (k l : Kind) : k.widensTo l = true ↔
    (∃ a b, k = int a ∧ l = int b ∧ a ≠ b ∧ a.within b = true)
      ∨ (k.isInteger = true ∧ l.isInteger = false) ∨ (k = single ∧ l = double) := by
  cases l with
  | int b =>
    cases k with
    | int a => simp [widensTo_int, isInteger]
    | _ => cases b <;> simp [widensTo, isInteger]
  | single => cases k <;> simp [widensTo, isInteger]
  | double => cases k <;> simp [widensTo, isInteger]
  | decimal => cases k <;> simp [widensTo, isInteger]

theorem isInteger_of_widensTo_int {k : Kind} {l : IntKind} (h : k.widensTo (int l) = true) :
    k.isInteger = true := by
  rcases (widensTo_iff k (int l)).1 h with ⟨a, b, rfl, -⟩ | ⟨own, -⟩ | ⟨-, other⟩
  · rfl
  · exact own
  · cases other

theorem widensTo_irrefl (k : Kind) : k.widensTo k = false := by
  cases k with
  | int k => simp [widensTo_int]
  | _ => rfl

theorem widensTo_trans (a b c : Kind) (h : a.widensTo b = true) (h' : b.widensTo c = true) :
    a.widensTo c = true := by
  revert h h'
  have cover : ∀ a ∈ all, ∀ b ∈ all, ∀ c ∈ all,
      a.widensTo b = true → b.widensTo c = true → a.widensTo c = true := by decide
  exact cover a (mem_all a) b (mem_all b) c (mem_all c)

theorem widensTo_asymm (a b : Kind) (h : a.widensTo b = true) : b.widensTo a = false := by
  cases hb : b.widensTo a with
  | false => rfl
  | true => exact absurd (widensTo_trans a b a h hb) (by simp [widensTo_irrefl])

theorem meet?_self (k : Kind) : meet? k k = some k := by simp [meet?]

end Kind

end ExprLang
