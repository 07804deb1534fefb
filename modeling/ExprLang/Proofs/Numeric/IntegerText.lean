import Mathlib.Data.List.Induction
import Mathlib.Data.List.TakeWhile
import Mathlib.Data.Nat.Digits.Defs
import ExprLang.Numeric.Number
import ExprLang.Text.Blank

set_option autoImplicit false

/-!
The texts that read as integers. A numeral is a run of decimal digits, of any length, with an optional
sign before it, where a minus sign is for signed kinds only; it may stand between white space. Exactly
the numerals of numbers in the range of a kind are read, and every integer is written as a numeral of
itself.
-/

namespace ExprLang

/-! White space around a text -/

/-- Only characters that are trimmed off. -/
def White (cs : List Char) : Prop := ∀ c ∈ cs, isWhiteSpace c = true

theorem trimStart_append {before cs : List Char} (white : White before) :
    trimStart (before ++ cs) = trimStart cs :=
  List.dropWhile_append_of_pos white

theorem exists_eq_append_trimStart (cs : List Char) :
    ∃ before, White before ∧ cs = before ++ trimStart cs := by
  refine ⟨cs.takeWhile isWhiteSpace, ?_, List.takeWhile_append_dropWhile.symm⟩
  intro c mem
  exact List.mem_takeWhile_imp mem

theorem trimStart_of_solid {cs : List Char} (solid : ∀ c ∈ cs, isWhiteSpace c = false)
    (present : cs ≠ []) (after : List Char) : trimStart (cs ++ after) = cs ++ after := by
  obtain ⟨c, rest, rfl⟩ := List.exists_cons_of_ne_nil present
  have first := solid c List.mem_cons_self
  simp [trimStart, first]

theorem White.reverse {cs : List Char} (white : White cs) : White cs.reverse := by
  intro c mem
  exact white c (List.mem_reverse.1 mem)

theorem trim_append {before cs after : List Char} (left : White before) (right : White after)
    (solid : ∀ c ∈ cs, isWhiteSpace c = false) (present : cs ≠ []) :
    trim (before ++ cs ++ after) = cs := by
  have solid' : ∀ c ∈ cs.reverse, isWhiteSpace c = false := by
    intro c mem
    exact solid c (List.mem_reverse.1 mem)
  have present' : cs.reverse ≠ [] := by simpa using present
  have last := trimStart_of_solid solid' present' []
  rw [List.append_nil] at last
  rw [trim, List.append_assoc, trimStart_append left, trimStart_of_solid solid present,
    List.reverse_append, trimStart_append right.reverse, last, List.reverse_reverse]

theorem exists_eq_append_trim (cs : List Char) :
    ∃ before after, White before ∧ White after ∧ cs = before ++ trim cs ++ after := by
  obtain ⟨before, left, front⟩ := exists_eq_append_trimStart cs
  obtain ⟨after, right, back⟩ := exists_eq_append_trimStart (trimStart cs).reverse
  refine ⟨before, after.reverse, left, right.reverse, ?_⟩
  have turned := congrArg List.reverse back
  rw [List.reverse_reverse, List.reverse_append] at turned
  rw [trim, List.append_assoc, ← turned]
  exact front

/-! Numerals -/

namespace Digits

/-- The number whose decimal digits are `ds`, the first of them weighing most. -/
def value (ds : List Char) : ℕ := Nat.ofDigits 10 (ds.reverse.map digit)

theorem toNat_eq_value (ds : List Char) : toNat ds = value ds := by
  induction ds using List.reverseRecOn with
  | nil => rfl
  | append_singleton ds c ih =>
    rw [toNat_append_singleton, ih, value, value, List.reverse_append, List.reverse_singleton,
      List.singleton_append, List.map_cons, Nat.ofDigits_cons]
    omega

/-- At least one digit, and nothing else. -/
structure Run (ds : List Char) : Prop where
  present : ds ≠ []
  digits : ∀ c ∈ ds, '0' ≤ c ∧ c ≤ '9'

theorem isDigit_iff (c : Char) : c.isDigit = true ↔ '0' ≤ c ∧ c ≤ '9' := by
  simp only [Char.isDigit, Bool.and_eq_true, decide_eq_true_eq]
  rfl

theorem run_iff {ds : List Char} : Run ds ↔ ds ≠ [] ∧ ds.all Char.isDigit = true := by
  simp only [List.all_eq_true, isDigit_iff]
  exact ⟨fun run => ⟨run.present, run.digits⟩, fun both => ⟨both.1, both.2⟩⟩

theorem toNat?_of_run {ds : List Char} (run : Run ds) : toNat? ds = some (value ds) := by
  rw [toNat?, if_pos (run_iff.1 run), toNat_eq_value]

theorem run_of_toNat? {ds : List Char} {n : ℕ} (read : toNat? ds = some n) :
    Run ds ∧ n = value ds := by
  obtain ⟨run, same⟩ := Option.ite_none_right_eq_some.1 read
  rw [Option.some.injEq, toNat_eq_value] at same
  exact ⟨run_iff.2 run, same.symm⟩

end Digits

namespace Integer

variable {k : IntKind} {cs ds : List Char} {n : ℤ}

/-- The numerals of a kind, with the integers that they stand for. -/
inductive Numeral (k : IntKind) : List Char → ℤ → Prop
  | plain {ds : List Char} (run : Digits.Run ds) : Numeral k ds (Digits.value ds)
  | plus {ds : List Char} (run : Digits.Run ds) : Numeral k ('+' :: ds) (Digits.value ds)
  | minus {ds : List Char} (signed : k.signed = true) (run : Digits.Run ds) :
    Numeral k ('-' :: ds) (-(Digits.value ds : ℤ))

theorem Numeral.present (numeral : Numeral k cs n) : cs ≠ [] := by
  cases numeral with
  | plain run => exact run.present
  | plus run => exact List.cons_ne_nil _ _
  | minus signed run => exact List.cons_ne_nil _ _

theorem isWhiteSpace_of_digit {c : Char} (digit : '0' ≤ c ∧ c ≤ '9') : isWhiteSpace c = false := by
  have low : 48 ≤ c.toNat := digit.1
  have high : c.toNat ≤ 57 := digit.2
  simp only [isWhiteSpace, Bool.or_eq_false_iff, Bool.and_eq_false_iff, decide_eq_false_iff_not]
  omega

/-- There is no white space in a numeral. -/
theorem Numeral.solid (numeral : Numeral k cs n) : ∀ c ∈ cs, isWhiteSpace c = false := by
  intro c mem
  cases numeral with
  | plain run => exact isWhiteSpace_of_digit (run.digits c mem)
  | plus run =>
    rcases List.mem_cons.1 mem with rfl | mem
    · rfl
    · exact isWhiteSpace_of_digit (run.digits c mem)
  | minus signed run =>
    rcases List.mem_cons.1 mem with rfl | mem
    · rfl
    · exact isWhiteSpace_of_digit (run.digits c mem)

/-! Reading and writing -/

/-- A run of digits has no sign to be taken off. -/
theorem parse?_of_run {ds : List Char} (run : Digits.Run ds) :
    parse? k ds = ofInt? k (Digits.value ds) := by
  have read := Digits.toNat?_of_run run
  cases ds with
  | nil => exact absurd rfl run.present
  | cons c ds =>
    have digit := run.digits c List.mem_cons_self
    unfold parse?
    split
    · rename_i same
      cases same
      exact absurd digit (by decide)
    · rename_i same
      cases same
      exact absurd digit (by decide)
    · rw [read, Option.bind_some]

theorem parse?_of_numeral (numeral : Numeral k cs n) : parse? k cs = ofInt? k n := by
  cases numeral with
  | plain run => exact parse?_of_run run
  | plus run => rw [parse?, Digits.toNat?_of_run run, Option.bind_some]
  | minus signed run => rw [parse?, if_pos signed, Digits.toNat?_of_run run, Option.bind_some]

theorem numeral_of_parse? {a : Integer k} (read : parse? k cs = some a) : Numeral k cs a.val := by
  unfold parse? at read
  split at read
  · obtain ⟨n, digits, member⟩ := Option.bind_eq_some_iff.1 read
    obtain ⟨run, rfl⟩ := Digits.run_of_toNat? digits
    rw [ofInt?_eq_some_iff.1 member]
    exact .plus run
  · split at read
    · rename_i signed
      obtain ⟨n, digits, member⟩ := Option.bind_eq_some_iff.1 read
      obtain ⟨run, rfl⟩ := Digits.run_of_toNat? digits
      rw [ofInt?_eq_some_iff.1 member]
      exact .minus signed run
    · cases read
  · obtain ⟨n, digits, member⟩ := Option.bind_eq_some_iff.1 read
    obtain ⟨run, rfl⟩ := Digits.run_of_toNat? digits
    rw [ofInt?_eq_some_iff.1 member]
    exact .plain run

theorem parse?_eq_some_iff {a : Integer k} : parse? k cs = some a ↔ Numeral k cs a.val := by
  constructor
  · exact numeral_of_parse?
  · intro numeral
    rw [parse?_of_numeral numeral]
    exact ofInt?_val a

theorem run_ofNat (n : ℕ) : Digits.Run (Digits.ofNat n) := by
  apply Digits.run_iff.2
  exact ⟨Digits.ofNat_ne_nil n, List.all_eq_true.2 (Digits.isDigit_of_mem_ofNat n)⟩

theorem value_ofNat (n : ℕ) : Digits.value (Digits.ofNat n) = n := by
  rw [← Digits.toNat_eq_value, Digits.toNat_ofNat]

theorem numeral_digits (a : Integer k) : Numeral k a.digits a.val := by
  have run := run_ofNat a.val.natAbs
  have value := value_ofNat a.val.natAbs
  unfold digits
  by_cases negative : a.val < 0
  · have signed : k.signed = true := decide_eq_true (lt_of_le_of_lt a.lo_le negative)
    have written := Numeral.minus (k := k) signed run
    rw [value, show -(a.val.natAbs : ℤ) = a.val by omega] at written
    rw [if_pos negative]
    exact written
  · have written := Numeral.plain (k := k) run
    rw [value, show (a.val.natAbs : ℤ) = a.val by omega] at written
    rw [if_neg negative]
    exact written

/-- The text is a numeral of `n` between white space. -/
def Padded (k : IntKind) (s : String) (n : ℤ) : Prop :=
  ∃ before numeral after, s.toList = before ++ numeral ++ after ∧ White before ∧ White after
    ∧ Numeral k numeral n

theorem parse?_trim_eq_some_iff {s : String} {a : Integer k} :
    parse? k (trim s.toList) = some a ↔ Padded k s a.val := by
  rw [parse?_eq_some_iff]
  constructor
  · intro numeral
    obtain ⟨before, after, left, right, text⟩ := exists_eq_append_trim s.toList
    exact ⟨before, trim s.toList, after, text, left, right, numeral⟩
  · rintro ⟨before, cs, after, text, left, right, numeral⟩
    rw [text, trim_append left right numeral.solid numeral.present]
    exact numeral

end Integer

end ExprLang
