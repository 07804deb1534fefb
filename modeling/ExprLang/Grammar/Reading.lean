import ExprLang.Error
import ExprLang.Text.Blank

set_option autoImplicit false

/-!
Results of reading from the front of a text. What follows a part that was read is always the end of
the text it was read from, and where a character was consumed it is shorter.
-/

namespace ExprLang.Grammar

/-- A part read from the front of `s`, with what follows it. -/
structure Taken (s : List Char) (α : Type) where
  value : α
  rest : List Char
  suffix : rest <:+ s

/-- What follows a character that was passed over. -/
structure Past (s : List Char) where
  rest : List Char
  suffix : rest <:+ s
  shorter : rest.length < s.length

/-- The outcome of reading: a part, a fault after which another alternative may be tried, or a hard
fault that ends the reading. A word that is cut inside of a character is a hard fault too. -/
inductive Reading (s : List Char) (α : Type)
  | ok (taken : Taken s α)
  | fault (fault : Fault)
  | hard (fault : Fault)

namespace Taken

variable {s : List Char} {α β : Type}

theorem length_le (t : Taken s α) : t.rest.length ≤ s.length := t.suffix.length_le

def map (f : α → β) (t : Taken s α) : Taken s β := ⟨f t.value, t.rest, t.suffix⟩

/-- The same part seen as read from a longer text. -/
def within {r : List Char} (t : Taken r α) (h : r <:+ s) : Taken s α :=
  ⟨t.value, t.rest, t.suffix.trans h⟩

end Taken

namespace Reading

variable {s : List Char} {α β : Type}

def map (f : α → β) : Reading s α → Reading s β
  | ok t => ok (t.map f)
  | fault f => fault f
  | hard f => hard f

def within {r : List Char} (h : r <:+ s) : Reading r α → Reading s α
  | ok t => ok (t.within h)
  | fault f => fault f
  | hard f => hard f

/-- A part that is there or not, as a reading whose fault is at the start. -/
def ofOption : Option (Taken s α) → Reading s α
  | some t => ok t
  | none => fault ⟨.character, s⟩

/-- Another alternative is tried after a fault, and after nothing else. -/
def orElse (x : Reading s α) (y : Unit → Reading s α) : Reading s α :=
  match x with
  | ok t => ok t
  | fault _ => y ()
  | hard f => hard f

/-- Tries what is read for the entries of a list one after another. -/
def firstOf {ι : Type} (read : ι → Reading s α) : List ι → Reading s α
  | [] => fault ⟨.character, s⟩
  | i :: is => (read i).orElse fun _ => firstOf read is

end Reading

/-- What follows the blanks at the front. -/
def skipBlanks (s : List Char) : List Char := s.dropWhile isBlank

theorem skipBlanks_suffix (s : List Char) : skipBlanks s <:+ s := List.dropWhile_suffix _

theorem length_skipBlanks_le (s : List Char) : (skipBlanks s).length ≤ s.length :=
  (skipBlanks_suffix s).length_le

theorem length_lt_cons (c : Char) (s : List Char) : s.length < (c :: s).length :=
  Nat.lt_succ_self _

def past? (c : Char) : (s : List Char) → Option (Past s)
  | [] => none
  | d :: s => if d = c then some ⟨s, List.suffix_cons d s, length_lt_cons d s⟩ else none

def oneOf? (cs : List Char) : (s : List Char) → Option (Taken s Char)
  | [] => none
  | c :: s => if c ∈ cs then some ⟨c, s, List.suffix_cons c s⟩ else none

/-- Passes over one given character with blanks around it. -/
def pastSpaced? (c : Char) (s : List Char) : Option (Past s) :=
  (past? c (skipBlanks s)).map fun p =>
    ⟨skipBlanks p.rest, ((skipBlanks_suffix _).trans p.suffix).trans (skipBlanks_suffix s),
      Nat.lt_of_le_of_lt (length_skipBlanks_le _)
        (Nat.lt_of_lt_of_le p.shorter (length_skipBlanks_le s))⟩

end ExprLang.Grammar
