import ExprLang.Text.Case

set_option autoImplicit false

/-!
Positions and pieces of texts, counted in characters. A window is a range of positions; searches
look for the first or the last place in a window where a pattern stands.
-/

namespace ExprLang

/-- The characters from `start` up to `stop`. -/
structure Window where
  start : Nat
  stop : Nat
deriving DecidableEq, Repr

/-- Which of its two numbers keeps a window from lying in the text. -/
inductive WindowFault
  | start
  | length
deriving DecidableEq, Repr

namespace Window

/-- The window of `count` characters after `start`, or of all that follow. -/
def forward (len : Nat) (start : Int) (count : Option Int) : Except WindowFault Window :=
  if start < 0 ∨ len < start then .error .start
  else
    match count with
    | none => .ok ⟨start.toNat, len⟩
    | some n =>
      if n < 0 ∨ len < start + n then .error .length else .ok ⟨start.toNat, (start + n).toNat⟩

/-- The window of `count` characters that ends with the one at `start`, or of all up to it. Without
a start it ends with the last character. -/
def backward (len : Nat) (start : Option Int) (count : Option Int) : Except WindowFault Window :=
  let last := start.getD (len - 1)
  if last < 0 ∨ len ≤ last then .error .start
  else
    match count with
    | none => .ok ⟨0, last.toNat + 1⟩
    | some n =>
      if n < 0 ∨ last + 1 < n then .error .length
      else .ok ⟨(last + 1 - n).toNat, last.toNat + 1⟩

def inside (w : Window) (cs : List Char) : List Char := (cs.take w.stop).drop w.start

def outside (w : Window) (cs : List Char) : List Char := cs.take w.start ++ cs.drop w.stop

/-- The places in the window where `n` characters have room. -/
def places (w : Window) (n : Nat) : List Nat := List.range' w.start (w.stop + 1 - (w.start + n))

end Window

/-- Whether two characters are the same, where letter case may be told to have no meaning. -/
def sameChar (ignoreCase : Bool) (a b : Char) : Bool := a = b || (ignoreCase && Case.sameLower a b)

/-- Whether `pattern` stands at a place of the text. -/
def standsAt (ignoreCase : Bool) (pattern cs : List Char) (p : Nat) : Bool :=
  let there := (cs.drop p).take pattern.length
  there.length = pattern.length
    && (there.zip pattern).all fun (a, b) => sameChar ignoreCase a b

def findFirst? (ignoreCase : Bool) (w : Window) (pattern cs : List Char) : Option Nat :=
  (w.places pattern.length).find? (standsAt ignoreCase pattern cs)

def findLast? (ignoreCase : Bool) (w : Window) (pattern cs : List Char) : Option Nat :=
  (w.places pattern.length).reverse.find? (standsAt ignoreCase pattern cs)

/-- Whether the pattern stands anywhere in the text. -/
def occursIn (pattern : List Char) : List Char → Bool
  | [] => pattern.isEmpty
  | c :: cs => pattern.isPrefixOf (c :: cs) || occursIn pattern cs

/-- Puts `new` in the place of each `p :: ps`, from left to right. -/
def replaceAll (p : Char) (ps new : List Char) : List Char → List Char
  | [] => []
  | c :: cs =>
    if (p :: ps).isPrefixOf (c :: cs) then new ++ replaceAll p ps new (cs.drop ps.length)
    else c :: replaceAll p ps new cs
termination_by cs => cs.length
decreasing_by
  · simp only [List.length_drop, List.length_cons]
    omega
  · simp

end ExprLang
