set_option autoImplicit false

/-!
Decimal digits of natural numbers. `ofNat` writes the digits without leading zeros and `toNat` reads
any run of digits; reading what was written gives the number back (`toNat_ofNat`).
-/

namespace ExprLang.Digits

def char (d : Nat) : Char := Char.ofNat (48 + d)

def digit (c : Char) : Nat := c.toNat - 48

/-- The digits of `n`, most significant first, and `0` for zero. -/
def ofNat (n : Nat) : List Char :=
  if n < 10 then [char n] else ofNat (n / 10) ++ [char (n % 10)]

/-- The number that a run of digits denotes; leading zeros do not count. -/
def toNat (ds : List Char) : Nat := ds.foldl (fun n c => 10 * n + digit c) 0

/-- A number is a run of at least one digit. -/
def toNat? (ds : List Char) : Option Nat :=
  if ds ≠ [] ∧ ds.all Char.isDigit then some (toNat ds) else none

/-- `ds` with zeros in front, as many as make it at least `width` long. -/
def pad (width : Nat) (ds : List Char) : List Char := List.replicate (width - ds.length) '0' ++ ds

/-- The number `n / 10 ^ places` with exactly that many digits after the point and at least one
before it. -/
def fixed (places n : Nat) : List Char :=
  let ds := pad (places + 1) (ofNat n)
  if places = 0 then ds
  else ds.take (ds.length - places) ++ '.' :: ds.drop (ds.length - places)

def length (n : Nat) : Nat := if n < 10 then 1 else length (n / 10) + 1

theorem digit_char (d : Nat) (h : d < 10) : digit (char d) = d := by
  have cover : ∀ d < 10, digit (char d) = d := by decide
  exact cover d h

theorem isDigit_char (d : Nat) (h : d < 10) : (char d).isDigit = true := by
  have cover : ∀ d < 10, (char d).isDigit = true := by decide
  exact cover d h

theorem toNat_append_singleton (ds : List Char) (c : Char) :
    toNat (ds ++ [c]) = 10 * toNat ds + digit c := by
  simp [toNat, List.foldl_append]

theorem toNat_ofNat (n : Nat) : toNat (ofNat n) = n := by
  induction n using Nat.strongRecOn with
  | _ n ih =>
    rw [ofNat]
    split
    · rename_i h
      simp [toNat, digit_char n h]
    · rename_i h
      rw [toNat_append_singleton, ih (n / 10) (by omega),
        digit_char _ (Nat.mod_lt _ (by omega))]
      omega

theorem ofNat_ne_nil (n : Nat) : ofNat n ≠ [] := by
  rw [ofNat]
  split <;> simp

theorem isDigit_of_mem_ofNat (n : Nat) (c : Char) (h : c ∈ ofNat n) : c.isDigit = true := by
  induction n using Nat.strongRecOn with
  | _ n ih =>
    rw [ofNat] at h
    split at h
    · rename_i hn
      rw [List.mem_singleton.1 h]
      exact isDigit_char n hn
    · rename_i hn
      rcases List.mem_append.1 h with h | h
      · exact ih (n / 10) (by omega) h
      · rw [List.mem_singleton.1 h]
        exact isDigit_char _ (Nat.mod_lt _ (by omega))

end ExprLang.Digits
