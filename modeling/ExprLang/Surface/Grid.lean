import ExprLang.Surface.Settings

set_option autoImplicit false

/-!
Sampled values and their picture, in which ten characters stand for the tenths of the range from the
lowest to the highest value, and one more for what is no finite number.
-/

namespace ExprLang

/-- What becomes of an index beyond 64 bits: the program stops, or the high bits are dropped. It is
settled when the program is built. -/
inductive Overflow
  | stops
  | wraps
deriving DecidableEq

/-- The index that a program goes on with, if it does. -/
def Overflow.index? : Overflow → Nat → Option Nat
  | stops, n => if n < UInt64.size then some n else none
  | wraps, n => some (n % UInt64.size)

/-- Cuts a list in runs of `n` members, of which the last may be shorter. -/
def chunks {α : Type} (n : Nat) (xs : List α) : List (List α) :=
  if h : 0 < n ∧ xs ≠ [] then
    have : (xs.drop n).length < xs.length := by
      have := List.length_pos_iff.2 h.2
      rw [List.length_drop]
      omega
    xs.take n :: chunks n (xs.drop n)
  else []
termination_by xs.length

/-- Sampled values, row after row. -/
structure Grid where
  columns : Nat
  rows : Nat
  cells : List Float

namespace Grid

/-- The value of a cell, if there is one, unless the program stops. The column is compared with those
of the grid, and the row is left to the index. -/
def value? (o : Overflow) (g : Grid) (column row : UInt64) : Option (Option Float) :=
  if g.columns ≤ column.toNat then some none
  else do
    let start ← o.index? (row.toNat * g.columns)
    let index ← o.index? (start + column.toNat)
    return g.cells[index]?

/-- The range that holds a value and all of another range. -/
def widen (range : Option (Float × Float)) (x : Float) : Option (Float × Float) :=
  match range with
  | none => some (x, x)
  | some (lo, hi) => some (if x < lo then x else lo, if hi < x then x else hi)

/-- The lowest and the highest of the finite values. -/
def range? (g : Grid) : Option (Float × Float) :=
  (g.cells.filter isFiniteDouble).foldl widen none

/-- The characters from the lowest to the highest value. -/
def shades : List Char := [' ', '.', ':', '-', '=', '+', '*', '#', '%', '@']

/-- The character for a finite value in a range. -/
def shade (lo hi x : Float) : Char :=
  let span := hi - lo
  if span == 0 then ' '
  else
    let place := ((x - lo) / span * Float.ofNat (shades.length - 1))
    let index := ((Binary.ofDouble place).round .up).toInt?.getD 0
    (shades[index.toNat]?).getD ' '

def cell (lo hi x : Float) : Char := if isFiniteDouble x then shade lo hi x else '?'

def rowValues (g : Grid) : List (List Float) := chunks g.columns g.cells

def lines (g : Grid) : List String :=
  let (lo, hi) := g.range?.getD (0, 0)
  g.rowValues.map fun row => String.ofList (row.map (cell lo hi))

/-- The picture as one text with every line ended. -/
def render (g : Grid) : String := String.join (g.lines.map (· ++ "\n"))

end Grid

end ExprLang
