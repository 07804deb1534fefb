import ExprLang.Numeric.Number

set_option autoImplicit false

/-!
The grid over which a surface is sampled: columns go from the left bound to the right, rows from the
upper bound down to the lower, and both bounds of an axis are sampled where it has two cells or
more.
-/

namespace ExprLang

/-- A rectangle with a number of cells in each direction. -/
structure Settings where
  xMin : Float := -1
  xMax : Float := 1
  yMin : Float := -1
  yMax : Float := 1
  columns : Nat := 64
  rows : Nat := 24

/-- Why settings describe no grid. -/
inductive SettingsProblem
  | notFinite
  | emptyRange (xMin xMax yMin yMax : Float)
  | noCell

def SettingsProblem.message : SettingsProblem → String
  | notFinite => "bounds must be finite"
  | emptyRange xMin xMax yMin yMax =>
    let range := fun (a b : Float) => (Number.double a).text ++ ".." ++ (Number.double b).text
    "empty range x " ++ range xMin xMax ++ ", y " ++ range yMin yMax
  | noCell => "the grid needs at least one cell"

/-- Whether a double is neither infinite nor without a value. -/
def isFiniteDouble (x : Float) : Bool := (Binary.ofDouble x).isFinite

/-- The point of an axis from `first` to `last` that the cell at `index` of `count` stands for. -/
def axisPoint (first last : Float) (index count : Nat) : Float :=
  if count < 2 then first
  else first + (last - first) * Float.ofNat index / Float.ofNat (count - 1)

namespace Settings

def problem? (s : Settings) : Option SettingsProblem :=
  if ¬ [s.xMin, s.xMax, s.yMin, s.yMax].all isFiniteDouble then some .notFinite
  else if s.xMax ≤ s.xMin ∨ s.yMax ≤ s.yMin then
    some (.emptyRange s.xMin s.xMax s.yMin s.yMax)
  else if s.columns = 0 ∨ s.rows = 0 then some .noCell
  else none

def xAt (s : Settings) (column : Nat) : Float := axisPoint s.xMin s.xMax column s.columns

/-- The first row is the highest. -/
def yAt (s : Settings) (row : Nat) : Float := axisPoint s.yMax s.yMin row s.rows

end Settings

end ExprLang
