import ExprLang.Pattern.Search

set_option autoImplicit false

/-!
Replacing matches. In a replacement a dollar sign with a name or a number after it stands for the
text of a group, where braces may enclose the name; two dollar signs stand for one, and a dollar
sign before anything else for itself.
-/

namespace ExprLang.Pattern

/-- A part of a replacement. -/
inductive Piece
  | char (c : Char)
  | group (name : List Char)

/-- Whether a character can belong to the name after a dollar sign. -/
def isReferenceChar (c : Char) : Bool := c.isAlphanum || c = '_'

theorem length_dropWhile_le (p : Char → Bool) (s : List Char) :
    (s.dropWhile p).length ≤ s.length :=
  (List.dropWhile_suffix p).length_le

def template : List Char → List Piece
  | [] => []
  | '$' :: '$' :: s => .char '$' :: template s
  | '$' :: '\x7b' :: s =>
    if '\x7d' ∈ s then
      .group (s.takeWhile (· ≠ '\x7d')) :: template (s.dropWhile (· ≠ '\x7d')).tail
    else .char '$' :: template ('\x7b' :: s)
  | '$' :: s =>
    if s.takeWhile isReferenceChar = [] then .char '$' :: template s
    else .group (s.takeWhile isReferenceChar) :: template (s.dropWhile isReferenceChar)
  | c :: s => .char c :: template s
termination_by s => s.length
decreasing_by
  all_goals
    have braced := length_dropWhile_le (· ≠ '\x7d') s
    have plain := length_dropWhile_le isReferenceChar s
    simp only [List.length_cons, List.length_tail]
    omega

/-- A number without a sign or with a plus sign. -/
def groupIndex? (name : List Char) : Option Nat :=
  Digits.toNat? (if name.head? = some '+' then name.tail else name)

def slice (text : Array Char) (start stop : Nat) : List Char := (text.extract start stop).toList

/-- The text that a group of a match took part in, which may be missing. -/
def Match.text (m : Match) (text : Array Char) (index : Nat) : List Char :=
  match m.group? index with
  | some (start, stop) => slice text start stop
  | none => []

/-- What a piece of a replacement stands for in a match. -/
def Piece.expand (p : Program) (text : Array Char) (m : Match) : Piece → List Char
  | char c => [c]
  | group name =>
    match (groupIndex? name).or (p.groupNumber? (String.ofList name)) with
    | some index => m.text text index
    | none => []

/-- The text after `from` with every match replaced. -/
def replaceFrom (p : Program) (text : Array Char) (pieces : List Piece) (start : Nat) :
    List Match → List Char
  | [] => slice text start text.size
  | m :: ms =>
    slice text start m.start ++ pieces.flatMap (Piece.expand p text m)
      ++ replaceFrom p text pieces m.stop ms

namespace Program

def isMatch (p : Program) (text : String) : Bool := (p.find? text.toList.toArray 0).isSome

def firstMatch? (p : Program) (text : String) : Option String :=
  let chars := text.toList.toArray
  (p.find? chars 0).map fun m => String.ofList (m.text chars 0)

def replaceAll (p : Program) (text replacement : String) : String :=
  let chars := text.toList.toArray
  String.ofList (replaceFrom p chars (template replacement.toList) 0 (p.allMatches chars))

end Program

end ExprLang.Pattern
