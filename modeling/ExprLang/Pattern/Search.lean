import ExprLang.Pattern.Program

set_option autoImplicit false

/-!
Running programs. Of the matches that start furthest to the left the one counts that the preferences
of the program lead to first. A pair of instruction and position that did not lead to a match is not
tried again, so a search takes no more steps than there are such pairs.
-/

namespace ExprLang.Pattern

/-- Whether the character before or after a position is of a word. -/
def wordAt (word : CharSet) (text : Array Char) (position : Nat) : Bool :=
  (text[position]?).any word.contains

def wordBefore (word : CharSet) (text : Array Char) (position : Nat) : Bool :=
  0 < position && wordAt word text (position - 1)

def Look.holds (text : Array Char) (position : Nat) : Look → Bool
  | textStart => position = 0
  | textEnd => position = text.size
  | lineStart crlf =>
    if position = 0 then true
    else
      let before := text[position - 1]?
      before = some '\n' || (crlf && before = some '\r' && text[position]? ≠ some '\n')
  | lineEnd crlf =>
    if position = text.size then true
    else if text[position]? = some '\n' then
      !crlf || position = 0 || text[position - 1]? ≠ some '\r'
    else crlf && text[position]? = some '\r'
  | boundary word => wordBefore word text position != wordAt word text position
  | noBoundary word => wordBefore word text position == wordAt word text position
  | wordStart word => !wordBefore word text position && wordAt word text position
  | wordEnd word => wordBefore word text position && !wordAt word text position
  | noWordBefore word => !wordBefore word text position
  | noWordAfter word => !wordAt word text position

/-- Where the program is, and the slots that were marked on the way, the last first. -/
structure Thread where
  pc : Nat
  position : Nat
  marks : List (Nat × Nat)

/-- A match as its marked slots. -/
structure Match where
  marks : List (Nat × Nat)

namespace Match

/-- The part of the text that a group took part in. -/
def group? (m : Match) (index : Nat) : Option (Nat × Nat) := do
  return (← m.marks.lookup (2 * index), ← m.marks.lookup (2 * index + 1))

def start (m : Match) : Nat := ((m.group? 0).map (·.1)).getD 0

def stop (m : Match) : Nat := ((m.group? 0).map (·.2)).getD 0

end Match

/-- The pairs of instruction and position that were tried. -/
abbrev Tried := Array Bool

/-- What running threads ends with. -/
inductive Outcome
  | found (m : Match)
  | failed (tried : Tried)

namespace Program

/-- Where a thread can go next, the preferred way first. -/
def successors (p : Program) (text : Array Char) (t : Thread) : List Thread :=
  match p.code[t.pc]? with
  | some (.read s next) =>
    if (text[t.position]?).any s.contains then [⟨next, t.position + 1, t.marks⟩] else []
  | some (.check l next) => if l.holds text t.position then [⟨next, t.position, t.marks⟩] else []
  | some (.mark slot next) => [⟨next, t.position, (slot, t.position) :: t.marks⟩]
  | some (.fork first second) =>
    [⟨first, t.position, t.marks⟩, ⟨second, t.position, t.marks⟩]
  | some .accept | none => []

def accepts (p : Program) (t : Thread) : Bool :=
  match p.code[t.pc]? with
  | some .accept => true
  | _ => false

/-- Runs threads one after another, each with all that it leads to before the next. -/
def run (p : Program) (text : Array Char) : (fuel : Nat) → List Thread → Tried → Outcome
  | 0, _, tried => .failed tried
  | _, [], tried => .failed tried
  | fuel + 1, t :: ts, tried =>
    let pair := t.pc * (text.size + 1) + t.position
    if tried.getD pair true then run p text fuel ts tried
    else if p.accepts t then .found ⟨t.marks⟩
    else run p text fuel (p.successors text t ++ ts) (tried.set! pair true)

/-- How many steps a search can take. -/
def steps (p : Program) (text : Array Char) : Nat := 3 * (p.code.size + 1) * (text.size + 2)

/-- Tries to match from a position and, if that fails, from the `count` ones after it. -/
def searchFrom (p : Program) (text : Array Char) (start : Nat) :
    (count : Nat) → Tried → Option Match
  | 0, _ => none
  | count + 1, tried =>
    match p.run text (p.steps text) [⟨p.start, start, []⟩] tried with
    | .found m => some m
    | .failed tried => searchFrom p text (start + 1) count tried

def find? (p : Program) (text : Array Char) (start : Nat) : Option Match :=
  p.searchFrom text start (text.size + 1 - start)
    (Array.replicate (p.code.size * (text.size + 1)) false)

/-- The matches from a position on. None overlaps the one before it, and an empty one does not stand
where the one before it ends. -/
def matchesFrom (p : Program) (text : Array Char) : (fuel start : Nat) → (lastStop : Option Nat) →
    List Match
  | 0, _, _ => []
  | fuel + 1, start, lastStop =>
    match p.find? text start with
    | none => []
    | some m =>
      let next :=
        if m.stop = m.start ∧ some m.stop = lastStop then p.find? text (start + 1) else some m
      match next with
      | none => []
      | some m => m :: matchesFrom p text fuel m.stop (some m.stop)

def allMatches (p : Program) (text : Array Char) : List Match :=
  p.matchesFrom text (text.size + 2) 0 none

end Program

end ExprLang.Pattern
