import ExprLang.Text.Case.Runs
import ExprLang.Text.Category

set_option autoImplicit false

/-!
Lower and upper case of characters and texts. A capital sigma at the end of a word has a lower case
of its own in texts; single characters and comparisons character by character do not know the
difference.
-/

namespace ExprLang

namespace Case

/-- The code point that `n` moves to. -/
def shift (runs : List Run) (n : Nat) : Nat :=
  match runs.find? fun r => r.first ≤ n && n ≤ r.last && (n - r.first) % r.step = 0 with
  | some r => (n + r.shift).toNat
  | none => n

def map (runs : List Run) (expansions : List (Nat × List Nat)) (c : Char) : List Char :=
  match expansions.lookup c.toNat with
  | some ns => ns.map Char.ofNat
  | none => [Char.ofNat (shift runs c.toNat)]

def lowerChar (c : Char) : List Char :=
  if c.toNat < 128 then [c.toLower] else map lowerRuns lowerExpansions c

def upperChar (c : Char) : List Char :=
  if c.toNat < 128 then [c.toUpper] else map upperRuns upperExpansions c

/-- Whether the next character that matters for case has case. -/
def meetsCased (cs : List Char) : Bool :=
  match cs.dropWhile Category.isCaseIgnorable with
  | c :: _ => Category.isCased c
  | [] => false

/-- The lower case of `cs` after the characters `before`, the nearest first. -/
def lowerAfter (before : List Char) : List Char → List Char
  | [] => []
  | c :: cs =>
    let lowered :=
      if c = 'Σ' then (if meetsCased before && !meetsCased cs then ['ς'] else ['σ'])
      else lowerChar c
    lowered ++ lowerAfter (c :: before) cs

/-- Whether two characters have the same lower case. -/
def sameLower (a b : Char) : Bool := lowerChar a = lowerChar b

end Case

def lowerText (s : String) : String := String.ofList (Case.lowerAfter [] s.toList)

def upperText (s : String) : String := String.ofList (s.toList.flatMap Case.upperChar)

/-- Whether two names are the same, where letter case may be told to have no meaning. -/
def namesEqual (ignoreCase : Bool) (a b : String) : Bool :=
  a = b || (ignoreCase && lowerText a = lowerText b)

end ExprLang
