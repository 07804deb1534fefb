import ExprLang.Json.Text
import ExprLang.Pattern.Property
import ExprLang.Pattern.Syntax
import ExprLang.Text.Blank
import ExprLang.Text.Folding

set_option autoImplicit false

/-!
The flags under which patterns are read, and what a backslash stands for. Where characters are
bytes, as without the flag `u`, no class may hold a character beyond ASCII.
-/

namespace ExprLang.Pattern

structure Flags where
  ignoreCase : Bool := false
  multiLine : Bool := false
  dotAll : Bool := false
  swapGreed : Bool := false
  unicode : Bool := true
  crlf : Bool := false
  verbose : Bool := false

/-! Layout -/

/-- What follows the end of the line. -/
def pastLine : List Char → List Char
  | [] => []
  | c :: s => if c = '\n' then s else pastLine s

theorem length_pastLine_le (s : List Char) : (pastLine s).length ≤ s.length := by
  induction s with
  | nil => simp [pastLine]
  | cons c s ih =>
    unfold pastLine
    split <;> simp only [List.length_cons] <;> omega

/-- What follows white space and comments. -/
def pastLayout : List Char → List Char
  | [] => []
  | c :: s =>
    if isWhiteSpace c then pastLayout s
    else if c = '#' then pastLayout (pastLine s)
    else c :: s
termination_by s => s.length
decreasing_by
  · simp
  · have := length_pastLine_le s
    simp only [List.length_cons]
    omega

/-- Passes over layout where it has no meaning. -/
def Flags.skip (f : Flags) (s : List Char) : List Char := if f.verbose then pastLayout s else s

/-! Escapes -/

/-- What a part of a pattern stands for by itself. -/
inductive Atom
  | literal (c : Char)
  | set (s : CharSet)
  | look (l : Look)

/-- Characters with a meaning in patterns, which a backslash takes from them. -/
def metaChars : List Char :=
  ['\\', '.', '+', '*', '?', '(', ')', '|', '[', ']', '\x7b', '\x7d', '^', '$', '#', '&', '-', '~']

/-- Whether a backslash before a character yields the character. -/
def isEscapable (c : Char) : Bool :=
  c ∈ metaChars || (c.toNat < 128 && !c.isAlphanum && c ≠ '<' && c ≠ '>')

def charOf? (n : Nat) : Option Char :=
  if n < 0xD800 ∨ (0xDFFF < n ∧ n ≤ CharSet.last) then some (Char.ofNat n) else none

def hexNumber? : List Char → Option Nat
  | [] => none
  | ds => ds.foldlM (fun n d => (Json.hexDigit? d).map (n * 16 + ·)) 0

/-- Takes `count` characters, with layout between them. -/
def takeSpaced (f : Flags) : (count : Nat) → List Char → Option (List Char × List Char)
  | 0, s => some ([], s)
  | count + 1, s =>
    match s with
    | [] => none
    | c :: s => (takeSpaced f count (f.skip s)).map fun (cs, r) => (c :: cs, r)

/-- Takes characters up to a closing brace, with layout between them. -/
def takeBraced (f : Flags) : (fuel : Nat) → List Char → Option (List Char × List Char)
  | 0, _ => none
  | fuel + 1, s =>
    match f.skip s with
    | [] => none
    | '\x7d' :: r => some ([], r)
    | c :: r => (takeBraced f fuel r).map fun (cs, r) => (c :: cs, r)

/-- Reads a character that is given by its number, in braces or with a fixed number of digits. -/
def numbered? (f : Flags) (digits : Nat) (s : List Char) : Option (Atom × List Char) := do
  match f.skip s with
  | '\x7b' :: s =>
    let (ds, r) ← takeBraced f (s.length + 1) s
    return (.literal (← charOf? (← hexNumber? ds)), f.skip r)
  | s =>
    let (ds, r) ← takeSpaced f digits s
    let n ← hexNumber? ds
    if digits = 2 ∧ 128 ≤ n ∧ !f.unicode then none
    else return (.literal (← charOf? n), r)

/-- A set with its variants where letter case has no meaning. -/
def Flags.folded (f : Flags) (s : CharSet) : CharSet :=
  if f.ignoreCase then (if f.unicode then s.fold else s.foldAscii) else s

/-- A class as it is meant under the flags, or its complement. -/
def Flags.close? (f : Flags) (negated : Bool) (s : CharSet) : Option CharSet :=
  let s := f.folded s
  let s := if negated then s.complement else s
  if f.unicode || s.isAscii then some s else none

/-- Reads the name of a property: a letter, or a name in braces. -/
def property (f : Flags) (negated : Bool) (s : List Char) : Option (Atom × List Char) := do
  if ¬ f.unicode then none
  else
    match f.skip s with
    | '\x7b' :: s =>
      let (name, r) ← takeBraced f (s.length + 1) s
      return (.set (← f.close? negated (← namedClass? name)), r)
    | c :: s =>
      if c = '\\' then none
      else return (.set (← f.close? negated (← property? (plainName [c]))), f.skip s)
    | [] => none

def Flags.word (f : Flags) : CharSet := if f.unicode then wordChars else asciiWord

def letterClass? (f : Flags) : Char → Option (Bool × CharSet)
  | 'd' => some (false, if f.unicode then digits else asciiDigits)
  | 'D' => some (true, if f.unicode then digits else asciiDigits)
  | 's' => some (false, if f.unicode then whiteSpace else asciiSpace)
  | 'S' => some (true, if f.unicode then whiteSpace else asciiSpace)
  | 'w' => some (false, f.word)
  | 'W' => some (true, f.word)
  | _ => none

def control? : Char → Option Char
  | 'a' => some '\x07'
  | 'f' => some '\x0c'
  | 't' => some '\t'
  | 'n' => some '\n'
  | 'r' => some '\r'
  | 'v' => some '\x0b'
  | _ => none

/-- Reads the kind of a word boundary in braces. Braces that hold anything but letters and hyphens
are left to be a repetition. -/
def boundary (f : Flags) (s : List Char) : Option (Look × List Char) :=
  let plain := (Look.boundary f.word, s)
  let isNameChar := fun (c : Char) => c.isAlpha || c = '-'
  match s with
  | '\x7b' :: inner =>
    match f.skip inner with
    | [] => none
    | c :: _ =>
      if isNameChar c then do
        let (name, r) ← takeBraced f (inner.length + 1) inner
        match String.ofList name with
        | "start" => some (.wordStart f.word, r)
        | "end" => some (.wordEnd f.word, r)
        | "start-half" => some (.noWordBefore f.word, r)
        | "end-half" => some (.noWordAfter f.word, r)
        | _ => none
      else some plain
  | _ => some plain

def escape (f : Flags) : List Char → Option (Atom × List Char)
  | [] => none
  | c :: s =>
    if isEscapable c then some (.literal c, s)
    else
      match letterClass? f c with
      | some (negated, cs) =>
        let cs := if negated then cs.complement else cs
        if f.unicode || cs.isAscii then some (.set cs, s) else none
      | none =>
        match control? c with
        | some c => some (.literal c, s)
        | none =>
          match c with
          | 'x' => numbered? f 2 s
          | 'u' => numbered? f 4 s
          | 'U' => numbered? f 8 s
          | 'p' => property f false s
          | 'P' => property f true s
          | 'A' => some (.look .textStart, s)
          | 'z' => some (.look .textEnd, s)
          | 'b' => (boundary f s).map fun (l, r) => (.look l, r)
          | 'B' => some (.look (.noBoundary f.word), s)
          | '<' => some (.look (.wordStart f.word), s)
          | '>' => some (.look (.wordEnd f.word), s)
          | _ => none

end ExprLang.Pattern
