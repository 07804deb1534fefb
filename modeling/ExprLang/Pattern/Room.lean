import ExprLang.Pattern.Syntax
import ExprLang.Text.ByteRanges

set_option autoImplicit false

/-!
The room that a pattern takes as an automaton over bytes. There are two automata, one that reads a
text forward and marks groups, and one that reads it backward; a pattern that is too large for
either is refused.
-/

namespace ExprLang.Pattern

/-- The room of a state by itself, in bytes. -/
def stateRoom : Nat := 32

/-- The room of a range of bytes with the state after it. -/
def rangeRoom : Nat := 8

/-- The room of a state that is named by a choice between states. -/
def targetRoom : Nat := 4

def forkRoom : Nat := stateRoom + 2 * targetRoom

namespace Encoded

/-- How many of the first ranges are the same. -/
def shared : ByteRanges → ByteRanges → Nat
  | r :: rs, r' :: rs' => if r = r' then shared rs rs' + 1 else 0
  | _, _ => 0

/-- How many ranges there are when those at the beginning of neighbours are shared. -/
def beginnings (before : ByteRanges) : List ByteRanges → Nat
  | [] => 0
  | s :: ss => (s.length - shared before s) + beginnings s ss

/-- The sequences that begin with the same range, side by side. -/
def byHead (ss : List ByteRanges) : List (List ByteRanges) :=
  ss.splitBy fun s s' => s.head? == s'.head?

/-- What is left of the sequences after each beginning that is no whole sequence. Sequences have at
most `n` ranges. -/
def remainders : (n : Nat) → List ByteRanges → List (List ByteRanges)
  | 0, _ => []
  | n + 1, ss =>
    if ss.all List.isEmpty then []
    else ss :: (byHead ss).flatMap fun group => remainders n (group.map List.tail)

/-- The room of sequences that share what they end with. -/
def forwardRoom (ss : List ByteRanges) : Nat :=
  let states := (remainders 4 ss).eraseDups
  states.foldl (fun room state => room + stateRoom + rangeRoom * (byHead state).length) stateRoom

/-- The room of sequences that share what they begin with. -/
def backwardRoom (ss : List ByteRanges) : Nat :=
  2 * stateRoom + stateRoom * beginnings [] ss + targetRoom * ss.length

end Encoded

def setRoom (backward : Bool) (s : CharSet) : Nat :=
  match s.ranges with
  | [] => stateRoom
  | [(a, b)] =>
    if a = b then (ByteRanges.ofRange a b).foldl (fun room c => room + stateRoom * c.length) 0
    else many
  | _ => many
where
  many : Nat :=
    if s.isAscii then 2 * stateRoom + rangeRoom * s.ranges.length
    else if backward then Encoded.backwardRoom s.byteRanges
    else Encoded.forwardRoom s.byteRanges

namespace Node

mutual

/-- The room of a pattern in one of the automata. -/
def room (backward : Bool) : Node → Nat
  | empty | look _ => stateRoom
  | set s => setRoom backward s
  | capture _ inner => inner.room backward + if backward then 0 else 2 * stateRoom
  | concat parts => rooms backward parts
  | choice parts => 2 * stateRoom + targetRoom * parts.length + rooms backward parts
  | repetition least most _ inner =>
    let once := inner.room backward
    match least, most with
    | 0, none => once + forkRoom + if inner.mayBeEmpty then forkRoom + stateRoom else 0
    | n + 1, none => (n + 1) * once + forkRoom
    | 0, some 1 => once + forkRoom + stateRoom
    | n, some m =>
      if n = m then n * once
      else n * once + (if n = 0 then stateRoom else 0) + stateRoom + (m - n) * (once + forkRoom)

def rooms (backward : Bool) : List Node → Nat
  | [] => 0
  | p :: ps => p.room backward + rooms backward ps

end

def roomLimit : Nat := 10 * 1024 * 1024

/-- Whether both automata are small enough. Each skips what comes before a match and ends in a state
of its own. -/
def fits (n : Node) : Bool :=
  let around := forkRoom + 2 * stateRoom + rangeRoom + stateRoom
  (capture 0 n).room false + around ≤ roomLimit && n.room true + around ≤ roomLimit

end Node

end ExprLang.Pattern
