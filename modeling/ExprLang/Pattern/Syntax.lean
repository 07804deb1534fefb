import ExprLang.Text.CharSet

set_option autoImplicit false

/-!
Patterns as trees. Classes are resolved to sets of characters and flags to the nodes that they
select, so that a tree means the same wherever it stands.
-/

namespace ExprLang.Pattern

/-- Conditions on a position in a text. -/
inductive Look
  | textStart
  | textEnd
  | lineStart (crlf : Bool)
  | lineEnd (crlf : Bool)
  | boundary (word : CharSet)
  | noBoundary (word : CharSet)
  | wordStart (word : CharSet)
  | wordEnd (word : CharSet)
  | noWordBefore (word : CharSet)
  | noWordAfter (word : CharSet)

inductive Node
  | empty
  | set (s : CharSet)
  | look (l : Look)
  | capture (index : Nat) (inner : Node)
  | concat (parts : List Node)
  | choice (parts : List Node)
  | repetition (least : Nat) (most : Option Nat) (greedy : Bool) (inner : Node)

namespace Node

mutual

/-- Whether the pattern matches the empty text somewhere. -/
def mayBeEmpty : Node → Bool
  | empty | look _ => true
  | set _ => false
  | capture _ inner => inner.mayBeEmpty
  | concat parts => allMayBeEmpty parts
  | choice parts => anyMayBeEmpty parts
  | repetition least _ _ inner => least = 0 || inner.mayBeEmpty

def allMayBeEmpty : List Node → Bool
  | [] => true
  | p :: ps => p.mayBeEmpty && allMayBeEmpty ps

def anyMayBeEmpty : List Node → Bool
  | [] => false
  | p :: ps => p.mayBeEmpty || anyMayBeEmpty ps

end

mutual

/-- Whether the pattern can match nothing but the empty text. -/
def onlyEmpty : Node → Bool
  | empty | look _ => true
  | set _ => false
  | capture _ inner => inner.onlyEmpty
  | concat parts | choice parts => allOnlyEmpty parts
  | repetition _ most _ inner => most = some 0 || inner.onlyEmpty

def allOnlyEmpty : List Node → Bool
  | [] => true
  | p :: ps => p.onlyEmpty && allOnlyEmpty ps

end

/-- A sequence of patterns as one. -/
def ofSequence : List Node → Node
  | [] => empty
  | [p] => p
  | ps => concat ps

def set? : Node → Option CharSet
  | set s => some s
  | _ => none

/-- A choice between patterns, of which the first has to be taken where it can. Between sets it is a
set itself. -/
def ofChoices : List Node → Node
  | [p] => p
  | ps =>
    match ps.mapM set? with
    | some sets => set (sets.foldl CharSet.union CharSet.empty)
    | none => choice ps

/-- A pattern several times. What matches nothing but the empty text need not be matched more than
once. -/
def ofRepetition (least : Nat) (most : Option Nat) (greedy : Bool) (inner : Node) : Node :=
  let (least, most) : Nat × Option Nat :=
    if inner.onlyEmpty then (min least 1, some (min (most.getD 1) 1)) else (least, most)
  if most = some 0 then empty
  else if least = 1 ∧ most = some 1 then inner
  else repetition least most greedy inner

end Node

end ExprLang.Pattern
