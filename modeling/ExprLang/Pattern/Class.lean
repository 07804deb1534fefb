import ExprLang.Pattern.Escape

set_option autoImplicit false

/-!
Classes in brackets: characters, ranges and classes side by side, nested brackets, and intersections
and differences, which take everything on either side and apply from left to right.
-/

namespace ExprLang.Pattern

inductive ClassOperator
  | inter
  | diff
  | symmDiff

/-- The left side of an operator, with the depth of its nesting. -/
structure ClassOperand where
  set : CharSet
  depth : Nat
  op : ClassOperator

/-- A class that is being read. -/
structure ClassPart where
  negated : Bool
  /-- What is on the left of the last operator. -/
  pending : Option ClassOperand := none
  current : CharSet := CharSet.empty
  /-- How many characters and classes there are side by side. -/
  members : Nat := 0
  /-- How deep the deepest of them is nested. -/
  deepest : Nat := 0

namespace ClassPart

/-- Adds `members` characters or classes that are nested up to `depth`. -/
def add (p : ClassPart) (s : CharSet) (members : Nat := 1) (depth : Nat := 0) : ClassPart :=
  { p with
    current := p.current.union s
    members := p.members + members
    deepest := max p.deepest depth }

/-- How deep the class is nested below its brackets. -/
def depth (p : ClassPart) : Nat :=
  let right := if p.members ≤ 1 then p.deepest else p.deepest + 1
  match p.pending with
  | none => right
  | some left => max left.depth right + 1

def value (f : Flags) (p : ClassPart) : CharSet :=
  match p.pending with
  | none => p.current
  | some operand =>
    let left := f.folded operand.set
    let right := f.folded p.current
    match operand.op with
    | .inter => left.inter right
    | .diff => left.diff right
    | .symmDiff => left.symmDiff right

/-- Goes on to the right side of an operator. -/
def operate (f : Flags) (p : ClassPart) (op : ClassOperator) : ClassPart :=
  { negated := p.negated, pending := some ⟨p.value f, p.depth, op⟩ }

end ClassPart

/-- Takes hyphens off the front, with layout between them, and counts them. -/
def pastHyphens (f : Flags) : (fuel : Nat) → List Char → Nat × List Char
  | 0, s => (0, s)
  | fuel + 1, s =>
    match f.skip s with
    | '-' :: r => let (n, r) := pastHyphens f fuel r; (n + 1, r)
    | s => (0, s)

/-- Reads the beginning of a class after its bracket. Hyphens stand for themselves here, and so does
a closing bracket that nothing comes before. -/
def openClass (f : Flags) (s : List Char) : ClassPart × List Char :=
  let (negated, s) : Bool × List Char :=
    match f.skip s with
    | '^' :: s => (true, s)
    | s => (false, s)
  let (hyphens, s) := pastHyphens f (s.length + 1) s
  let start : ClassPart := { negated }
  if 0 < hyphens then (start.add (CharSet.single '-') hyphens, s)
  else
    match s with
    | ']' :: s => (start.add (CharSet.single ']'), s)
    | s => (start, s)

/-- Reads an ASCII class, which stands between colons in brackets of its own. -/
def asciiClass (f : Flags) (s : List Char) : Option (Option CharSet × List Char) :=
  match s with
  | '[' :: ':' :: s =>
    let (negated, s) : Bool × List Char :=
      match s with
      | '^' :: s => (true, s)
      | s => (false, s)
    let name := s.takeWhile (· ≠ ':')
    match s.dropWhile (· ≠ ':') with
    | ':' :: ']' :: r => (asciiClass? (String.ofList name)).map fun cs => (f.close? negated cs, r)
    | _ => none
  | _ => none

/-- Reads one character or class. -/
def classItem (f : Flags) : List Char → Option (Atom × List Char)
  | '\\' :: s => escape f s
  | c :: s => some (.literal c, s)
  | [] => none

/-- A character as a set, where it may stand in a class. -/
def memberSet? (f : Flags) (c : Char) : Option CharSet :=
  if f.unicode || c.toNat < 128 then some (CharSet.single c) else none

def Atom.set? (f : Flags) : Atom → Option CharSet
  | literal c => memberSet? f c
  | set s => some s
  | look _ => none

/-- The first character after layout and comments. A comment is looked into. -/
def peekSpaced (f : Flags) (s : List Char) : Option Char :=
  if f.verbose then
    match s.dropWhile isWhiteSpace with
    | '#' :: s => (s.dropWhile isWhiteSpace).head?
    | s => s.head?
  else s.head?

/-- Reads a character, a class or a range of characters. -/
def classRange (f : Flags) (s : List Char) : Option (CharSet × List Char) := do
  let (first, s) ← classItem f s
  match f.skip s with
  | [] => none
  | '-' :: r =>
    if peekSpaced f r = some ']' ∨ peekSpaced f r = some '-' then
      return (← first.set? f, '-' :: r)
    else
      let (second, r) ← classItem f (f.skip r)
      match first, second with
      | .literal a, .literal b =>
        let _ ← memberSet? f a
        let _ ← memberSet? f b
        if a ≤ b then return (CharSet.range a.toNat b.toNat, r) else none
      | _, _ => none
  | r => return (← first.set? f, r)

/-- A class as a whole, with the depth of its nesting. -/
structure ClosedClass where
  set : CharSet
  depth : Nat

/-- Reads the rest of a class, given the classes around it, the nearest first. -/
def classRest (f : Flags) : (fuel : Nat) → ClassPart → List ClassPart → List Char →
    Option (ClosedClass × List Char)
  | 0, _, _, _ => none
  | fuel + 1, p, outer, s =>
    match f.skip s with
    | [] => none
    | ']' :: r => do
      let cs ← f.close? p.negated (p.value f)
      match outer with
      | [] => return (⟨cs, p.depth + 1⟩, r)
      | q :: outer => classRest f fuel (q.add cs 1 (p.depth + 1)) outer r
    | '&' :: '&' :: r => classRest f fuel (p.operate f .inter) outer r
    | '-' :: '-' :: r => classRest f fuel (p.operate f .diff) outer r
    | '~' :: '~' :: r => classRest f fuel (p.operate f .symmDiff) outer r
    | '[' :: r =>
      match asciiClass f ('[' :: r) with
      | some (cs, r) => do classRest f fuel (p.add (← cs)) outer r
      | none =>
        let (q, r) := openClass f r
        classRest f fuel q (p :: outer) r
    | r => do
      let (cs, r) ← classRange f r
      classRest f fuel (p.add cs) outer r

def bracketClass (f : Flags) (s : List Char) : Option (ClosedClass × List Char) :=
  let (p, r) := openClass f s
  classRest f (s.length + 1) p [] r

end ExprLang.Pattern
