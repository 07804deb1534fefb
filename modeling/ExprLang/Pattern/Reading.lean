import ExprLang.Numeric.Digits
import ExprLang.Pattern.Class
import ExprLang.Pattern.Room
import ExprLang.Text.Category

set_option autoImplicit false

/-!
Reading patterns. A pattern is a choice of sequences of parts, each of which may be repeated; flags
that are set in a group hold up to its end. Patterns that would be too deep or too large are
refused.
-/

namespace ExprLang.Pattern

/-- What is known between two parts of a pattern. -/
structure Place where
  rest : List Char
  /-- The names of the groups that have been opened, where they have one. -/
  groups : List (Option String) := []

/-! Flags -/

def setFlag? (f : Flags) (value : Bool) : Char → Option Flags
  | 'i' => some { f with ignoreCase := value }
  | 'm' => some { f with multiLine := value }
  | 's' => some { f with dotAll := value }
  | 'U' => some { f with swapGreed := value }
  | 'u' => some { f with unicode := value }
  | 'R' => some { f with crlf := value }
  | 'x' => some { f with verbose := value }
  | _ => none

/-- Reads flags up to a colon or a closing parenthesis. Each may be named once, and flags after a
hyphen are taken back. -/
def flagList (f : Flags) (seen : List Char) (value : Bool) : List Char →
    Option (Flags × List Char × List Char)
  | [] => none
  | c :: s =>
    if c = ':' ∨ c = ')' then
      if seen.head? = some '-' then none else some (f, seen, c :: s)
    else if c ∈ seen then none
    else if c = '-' then flagList f (c :: seen) false s
    else (setFlag? f value c).bind fun f => flagList f (c :: seen) value s

/-! Names of groups -/

def isNameStart (c : Char) : Bool :=
  c = '_' || alphabetic.contains c || Category.isRecentAlphabetic c.toNat

def isNamePart (c : Char) : Bool :=
  isNameStart c || c = '.' || c = '[' || c = ']' || Category.ofChar c ∈ [.nd, .nl, .no]

def groupName (groups : List (Option String)) (s : List Char) : Option (String × List Char) :=
  let name := s.takeWhile (· ≠ '>')
  match s.dropWhile (· ≠ '>'), name with
  | _ :: r, c :: cs =>
    let text := String.ofList name
    if isNameStart c && cs.all isNamePart && !groups.contains (some text) then some (text, r)
    else none
  | _, _ => none

/-! Repetitions -/

def repetitionLimit : Nat := 0xFFFFFFFF

/-- Takes digits, with layout between them. -/
def takeDigits (f : Flags) : (fuel : Nat) → List Char → List Char × List Char
  | 0, s => ([], s)
  | fuel + 1, s =>
    match s with
    | c :: r =>
      if c.isDigit then let (ds, r) := takeDigits f fuel (f.skip r); (c :: ds, r) else ([], s)
    | [] => ([], [])

def count? (f : Flags) (s : List Char) : Option Nat × List Char :=
  let s := trimStart s
  let (ds, r) := takeDigits f s.length s
  let n := Digits.toNat ds
  (if ds = [] ∨ repetitionLimit < n then none else some n, f.skip (trimStart r))

/-- Reads the bounds of a repetition after the opening brace. -/
def bounds? (f : Flags) (s : List Char) : Option (Nat × Option Nat × List Char) := do
  let (least, s) := count? f (f.skip s)
  match s with
  | ',' :: s =>
    match f.skip s with
    | '\x7d' :: r => return (← least, none, r)
    | s =>
      let (most, s) := count? f s
      match s with
      | '\x7d' :: r => if (← least) ≤ (← most) then return (← least, ← most, r) else none
      | _ => none
  | '\x7d' :: r => return (← least, ← least, r)
  | _ => none

/-- A part of a pattern with the depth of its nesting. A setting of flags is a part without a node,
which cannot be repeated. -/
structure Fragment where
  node : Option Node
  depth : Nat := 0

namespace Fragment

/-- A list of fragments is nested deeper than they are, unless there is only one. -/
def depthOfList : List Fragment → Nat
  | [] => 0
  | [p] => p.depth
  | ps => ps.foldl (fun d p => max d p.depth) 0 + 1

def sequence (ps : List Fragment) : Fragment :=
  ⟨some (.ofSequence (ps.filterMap node)), depthOfList ps⟩

def choice (ps : List Fragment) : Fragment :=
  ⟨some (.ofChoices (ps.filterMap node)), depthOfList ps⟩

end Fragment

/-- What has been read of a choice, the last first. -/
structure Fragments where
  choices : List Fragment := []
  parts : List Fragment := []

namespace Fragments

def add (p : Fragments) (fragment : Fragment) : Fragments := { p with parts := fragment :: p.parts }

def sequence (p : Fragments) : Fragment := .sequence p.parts.reverse

def next (p : Fragments) : Fragments := { choices := p.sequence :: p.choices }

def value (p : Fragments) : Fragment := .choice (p.sequence :: p.choices).reverse

/-- Repeats the last part. -/
def repeatLast? (p : Fragments) (least : Nat) (most : Option Nat) (greedy : Bool) :
    Option Fragments :=
  match p.parts with
  | ⟨some n, depth⟩ :: parts =>
    some { p with parts := ⟨some (.ofRepetition least most greedy n), depth + 1⟩ :: parts }
  | _ => none

end Fragments

/-- Takes the question mark that makes a repetition reluctant. -/
def greed (f : Flags) (s : List Char) : Bool × List Char :=
  match s with
  | '?' :: r => (f.swapGreed, r)
  | r => (!f.swapGreed, r)

/-! Parts -/

def Flags.point? (f : Flags) : Option CharSet :=
  if ¬ f.unicode then none
  else if f.dotAll then some CharSet.all
  else if f.crlf then some (CharSet.ofChars ['\n', '\r']).complement
  else some (CharSet.single '\n').complement

def Flags.char (f : Flags) (c : Char) : Node :=
  if f.unicode || c.toNat < 128 then .set (f.folded (CharSet.single c))
  else .set (CharSet.single c)

/-- Reads a part that is no group and no repetition. -/
def simplePart (f : Flags) : List Char → Option (Fragment × List Char)
  | '\\' :: s => do
    match ← escape f s with
    | (.literal c, r) => return (⟨f.char c, 0⟩, r)
    | (.set cs, r) => return (⟨some (.set cs), 0⟩, r)
    | (.look l, r) => return (⟨some (.look l), 0⟩, r)
  | '[' :: s => (bracketClass f s).map fun (c, r) => (⟨some (.set c.set), c.depth⟩, r)
  | '.' :: s => f.point?.map fun cs => (⟨some (.set cs), 0⟩, s)
  | '^' :: s => some (⟨some (.look (if f.multiLine then .lineStart f.crlf else .textStart)), 0⟩, s)
  | '$' :: s => some (⟨some (.look (if f.multiLine then .lineEnd f.crlf else .textEnd)), 0⟩, s)
  | c :: s => some (⟨f.char c, 0⟩, s)
  | [] => none

/-- Reads a repetition of the last part, where one follows. -/
def repetition? (f : Flags) (p : Fragments) : List Char → Option (Option (Fragments × List Char))
  | '?' :: s => some (apply 0 (some 1) s)
  | '*' :: s => some (apply 0 none s)
  | '+' :: s => some (apply 1 none s)
  | '\x7b' :: s => some do
    let (least, most, r) ← bounds? f s
    let (greedy, r) := greed f (f.skip r)
    return (← p.repeatLast? least most greedy, r)
  | _ => none
where
  apply (least : Nat) (most : Option Nat) (s : List Char) : Option (Fragments × List Char) := do
    let (greedy, r) := greed f s
    return (← p.repeatLast? least most greedy, r)

/-- Where a group begins. -/
inductive Opening
  /-- A group, with its number where it captures. -/
  | group (f : Flags) (index : Option Nat) (place : Place)
  /-- Flags for the rest of the group around them. -/
  | flags (f : Flags) (rest : List Char)

/-- Reads the beginning of a group after its parenthesis. -/
def opening? (f : Flags) (place : Place) : Option Opening :=
  let captured := fun (name : Option String) (r : List Char) =>
    Opening.group f (some (place.groups.length + 1)) ⟨r, place.groups ++ [name]⟩
  let named := fun (s : List Char) =>
    (groupName place.groups s).map fun (name, r) => captured (some name) r
  match f.skip place.rest with
  | '?' :: '=' :: _ | '?' :: '!' :: _ | '?' :: '<' :: '=' :: _ | '?' :: '<' :: '!' :: _ => none
  | '?' :: 'P' :: '<' :: s => named s
  | '?' :: '<' :: s => named s
  | '?' :: s => do
    match ← flagList f [] true s with
    | (g, seen, c :: r) =>
      if c = ':' then return .group g none { place with rest := r }
      else if seen = [] then none
      else return .flags g r
    | _ => none
  | s => some (captured none s)

/-- Reads parts up to the end or to a closing parenthesis. -/
def fragments : (fuel : Nat) → Flags → Fragments → Place → Option (Fragment × Place)
  | 0, _, _, _ => none
  | fuel + 1, f, p, place => do
    let s := f.skip place.rest
    match s with
    | [] => return (p.value, ⟨[], place.groups⟩)
    | ')' :: _ => return (p.value, ⟨s, place.groups⟩)
    | '|' :: r => fragments fuel f p.next ⟨r, place.groups⟩
    | '(' :: r =>
      match ← opening? f ⟨r, place.groups⟩ with
      | .flags g r => fragments fuel g (p.add ⟨none, 0⟩) ⟨r, place.groups⟩
      | .group g index inside =>
        match ← fragments fuel g {} inside with
        | (inner, ⟨')' :: r, groups⟩) =>
          let n := match index with
            | some i => inner.node.map (Node.capture i)
            | none => inner.node
          fragments fuel f (p.add ⟨n, inner.depth + 1⟩) ⟨r, groups⟩
        | _ => none
    | s =>
      match repetition? f p s with
      | some result =>
        let (p, r) ← result
        fragments fuel f p ⟨r, place.groups⟩
      | none =>
        let (fragment, r) ← simplePart f s
        fragments fuel f (p.add fragment) ⟨r, place.groups⟩

def depthLimit : Nat := 250

/-- A pattern with the names of its groups. -/
structure Syntax where
  root : Node
  groups : List (Option String)

/-- Reads a text that is a pattern as a whole. -/
def Syntax.parse? (text : List Char) : Option Syntax := do
  let (fragment, place) ← fragments (text.length + 1) {} {} ⟨text, []⟩
  let root ← fragment.node
  if place.rest = [] ∧ fragment.depth ≤ depthLimit ∧ root.fits then return ⟨root, place.groups⟩
  else none

end ExprLang.Pattern
