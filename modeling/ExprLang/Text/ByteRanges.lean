import ExprLang.Text.CharSet

set_option autoImplicit false

/-!
Sets of characters as they are encoded in bytes. A range of code points becomes sequences of ranges
of bytes: a character is in the range when its bytes are in the ranges of one of the sequences.
-/

namespace ExprLang

/-- Ranges for the bytes of a character, that of its first byte first. -/
abbrev ByteRanges := List (Nat × Nat)

namespace ByteRanges

/-- The numbers from `lo` to `hi` by their digits in base 64. There are `k` digits after the first,
which holds whatever they leave. -/
def digitRanges : (k lo hi : Nat) → List (List (Nat × Nat))
  | 0, lo, hi => [[(lo, hi)]]
  | k + 1, lo, hi =>
    let block := 64 ^ (k + 1 : Nat)
    let a := lo / block
    let b := hi / block
    if a = b then (digitRanges k (lo % block) (hi % block)).map ((a, a) :: ·)
    else
      let fromStart := lo % block = 0
      let toEnd := hi % block = block - 1
      let first :=
        if fromStart then [] else (digitRanges k (lo % block) (block - 1)).map ((a, a) :: ·)
      let last := if toEnd then [] else (digitRanges k 0 (hi % block)).map ((b, b) :: ·)
      let a := if fromStart then a else a + 1
      let b := if toEnd then b else b - 1
      first ++ (if a ≤ b then [(a, b) :: List.replicate (k + 1) (0, 63)] else []) ++ last

/-- The first byte of a character with `k` more bytes, where the digit in it is zero. -/
def firstByte : (k : Nat) → Nat
  | 0 => 0
  | 1 => 0xC0
  | 2 => 0xE0
  | _ => 0xF0

/-- The bytes of digits. -/
def ofDigits : List (Nat × Nat) → ByteRanges
  | [] => []
  | (a, b) :: ds =>
    let first := firstByte ds.length
    (first + a, first + b) :: ds.map fun (a, b) => (0x80 + a, 0x80 + b)

/-- The code points of characters, by the number of bytes after the first. -/
def lengths : List (Nat × Nat × Nat) :=
  [(0, 0, 0x7F), (1, 0x80, 0x7FF), (2, 0x800, 0xD7FF), (2, 0xE000, 0xFFFF), (3, 0x10000, 0x10FFFF)]

/-- The characters from `a` to `b`, in order. -/
def ofRange (a b : Nat) : List ByteRanges :=
  lengths.flatMap fun (k, lo, hi) =>
    let lo := max a lo
    let hi := min b hi
    if lo ≤ hi then (digitRanges k lo hi).map ofDigits else []

end ByteRanges

/-- The characters of a set, in order. -/
def CharSet.byteRanges (s : CharSet) : List ByteRanges :=
  s.ranges.flatMap fun (a, b) => ByteRanges.ofRange a b

end ExprLang
