import ExprLang.Numeric.Number
import ExprLang.Value.Error

set_option autoImplicit false

/-!
Checked conversion between numeric kinds. A number is first taken to one of three wide forms,
whatever its kind; from there an integer kind is reached by way of an integer of more than 64 bits,
which is narrowed last.
-/

namespace ExprLang

namespace Decimal

/-- The decimal without its places in 64 bits, signed for a negative one and unsigned otherwise. -/
def toInt64? (d : Decimal) : Option Int :=
  let t := d.trunc
  if t.negative then (Integer.ofInt? .int64 t.toInt).map Integer.val
  else (Integer.ofInt? .uint64 t.toInt).map Integer.val

end Decimal

namespace Number

/-- What is missing does not fit into the kind. -/
def orOverflow {α : Type} (k : Kind) : Option α → Except ValueError α
  | some a => .ok a
  | none => .error (.overflow k.name)

/-- The forms that numbers of all kinds are taken to on their way to another kind. -/
inductive Wide
  | int (n : Int)
  | double (x : Float)
  | decimal (d : Decimal)

def wide : Number → Wide
  | int _ n => .int n.val
  | single x => .double (Binary.ofSingle x).toDouble
  | double x => .double x
  | decimal d => .decimal d

namespace Wide

def toSingle : Wide → Float32
  | int n => (Binary.ofInt n).toSingle
  | double x => (Binary.ofDouble x).toSingle
  | decimal d => d.toSingle

def toDouble : Wide → Float
  | int n => (Binary.ofInt n).toDouble
  | double x => x
  | decimal d => d.toDouble

/-- A number that was a `single` becomes the decimal of one. -/
def toDecimal? (source : Kind) : Wide → Option Decimal
  | int n => Decimal.ofInt? n
  | double x =>
    if source = .single then Decimal.ofSingle? (Binary.ofDouble x).toSingle
    else Decimal.ofDouble? x
  | decimal d => some d

/-- The number cut toward zero, where it is not beyond 64 bits. The greatest `uint64` as a double is
the integer above it, which `narrow` refuses. -/
def toInt? : Wide → Option Int
  | int n => some n
  | double x =>
    let t := (Binary.ofDouble x).trunc
    if !t.isFinite || t.toDouble < (Binary.ofInt IntKind.int64.lo).toDouble
        || (Binary.ofInt IntKind.uint64.hi).toDouble < t.toDouble then none
    else t.toInt?
  | decimal d => d.toInt64?

end Wide

/-- The member of `k` that equals `n`. -/
def narrow (n : Int) (k : IntKind) : Except ValueError Number :=
  (orOverflow (.int k) (Integer.ofInt? k n)).map (int k)

/-- The number in another kind. An integer kind cuts a fraction off; a number that the kind cannot
hold overflows. -/
def convert (n : Number) (target : Kind) : Except ValueError Number :=
  if n.kind = target then .ok n
  else
    match target with
    | .single => .ok (single n.wide.toSingle)
    | .double => .ok (double n.wide.toDouble)
    | .decimal => (orOverflow .decimal (n.wide.toDecimal? n.kind)).map decimal
    | .int k => do narrow (← orOverflow (.int k) n.wide.toInt?) k

theorem convert_kind (n : Number) : n.convert n.kind = .ok n := if_pos rfl

theorem narrow_val {k : IntKind} (i : Integer k) : narrow i.val k = .ok (int k i) := by
  rw [narrow, Integer.ofInt?_val]
  rfl

theorem narrow_of_outside {k : IntKind} {n : Int} (h : n < k.lo ∨ k.hi < n) :
    narrow n k = .error (.overflow k.name) := by
  rw [narrow, Integer.ofInt?_eq_none_iff.2 h]
  rfl

/-- Between integer kinds the number is only narrowed. -/
theorem convert_int {l : IntKind} (i : Integer l) (k : IntKind) :
    (int l i).convert (.int k) = narrow i.val k := by
  by_cases same : l = k
  · subst same
    exact ((int l i).convert_kind).trans (narrow_val i).symm
  · have apart : (int l i).kind ≠ .int k := fun h => same (Kind.int.inj h)
    rw [convert, if_neg apart]
    rfl

theorem convert_int_decimal {l : IntKind} (i : Integer l) :
    (int l i).convert .decimal = .ok (decimal (.ofInteger i)) := by
  have apart : (int l i).kind ≠ .decimal := fun h => by cases h
  rw [convert, if_neg apart]
  simp only [wide, Wide.toDecimal?, Decimal.ofInt?_val]
  rfl

end Number

end ExprLang
