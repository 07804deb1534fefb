import ExprLang.Json.Basic
import ExprLang.Numeric.Digits

set_option autoImplicit false

/-!
Reading JSON texts, and writing strings. A text must be one value with nothing but blanks around it.
-/

namespace ExprLang.Json

/-- A part that was read with the shorter text that follows it. -/
abbrev Step (s : List Char) (α : Type) := Option (α × { r : List Char // r.length < s.length })

def isJsonBlank (c : Char) : Bool := c = ' ' || c = '\n' || c = '\t' || c = '\r'

def skip (s : List Char) : List Char := s.dropWhile isJsonBlank

theorem length_skip_le (s : List Char) : (skip s).length ≤ s.length :=
  (List.dropWhile_suffix _).length_le

def hexDigit? (c : Char) : Option Nat :=
  if c.isDigit then some (c.toNat - 48)
  else if 'a' ≤ c ∧ c ≤ 'f' then some (c.toNat - 87)
  else if 'A' ≤ c ∧ c ≤ 'F' then some (c.toNat - 55)
  else none

/-- The number that four digits in base sixteen denote. -/
def unit? (a b c d : Char) : Option Nat := do
  let a ← hexDigit? a
  let b ← hexDigit? b
  let c ← hexDigit? c
  let d ← hexDigit? d
  return ((a * 16 + b) * 16 + c) * 16 + d

/-- What a letter stands for after a backslash. -/
def escape? : Char → Option Char
  | '"' => some '"'
  | '\\' => some '\\'
  | '/' => some '/'
  | 'b' => some '\x08'
  | 'f' => some '\x0c'
  | 'n' => some '\n'
  | 'r' => some '\r'
  | 't' => some '\t'
  | _ => none

/-- A piece of a string: a character, or one 16 bit unit that an escape names. -/
inductive Piece
  | char (c : Char)
  | unit (n : Nat)

/-- Reads the pieces of a string up to its closing quote. -/
def pieces : (s : List Char) → Step s (List Piece)
  | [] => none
  | c :: s =>
    if c = '"' then some ([], ⟨s, Nat.lt_succ_self _⟩)
    else if c.toNat < 32 then none
    else if c = '\\' then
      match s with
      | 'u' :: a :: b :: x :: y :: s =>
        match unit? a b x y, pieces s with
        | some n, some (ps, ⟨r, h⟩) =>
          some (.unit n :: ps, ⟨r, by simp only [List.length_cons]; omega⟩)
        | _, _ => none
      | e :: s =>
        match escape? e, pieces s with
        | some d, some (ps, ⟨r, h⟩) =>
          some (.char d :: ps, ⟨r, by simp only [List.length_cons]; omega⟩)
        | _, _ => none
      | [] => none
    else
      match pieces s with
      | some (ps, ⟨r, h⟩) => some (.char c :: ps, ⟨r, by simp only [List.length_cons]; omega⟩)
      | none => none

/-- Joins pieces to characters: a high and a low unit make one, and either alone makes none. -/
def join? : List Piece → Option (List Char)
  | [] => some []
  | .char c :: ps => (join? ps).map (c :: ·)
  | .unit m :: ps =>
    if 0xD800 ≤ m ∧ m < 0xDC00 then
      match ps with
      | .unit n :: ps =>
        if 0xDC00 ≤ n ∧ n < 0xE000 then
          (join? ps).map (Char.ofNat (0x10000 + (m - 0xD800) * 0x400 + (n - 0xDC00)) :: ·)
        else none
      | _ => none
    else if 0xDC00 ≤ m ∧ m < 0xE000 then none
    else (join? ps).map (Char.ofNat m :: ·)

/-- Takes digits off the front, at least one. -/
def pastDigits? (s : List Char) : Option (List Char) :=
  if s.head?.any Char.isDigit then some (s.dropWhile Char.isDigit) else none

/-- What follows a number, if there is one. A leading zero stands alone. -/
def pastNumber? (s : List Char) : Option (List Char) := do
  let s := if s.head? = some '-' then s.tail else s
  let s ← if s.head? = some '0' then
      (if (s.tail.head?.any Char.isDigit) then none else some s.tail)
    else pastDigits? s
  let s ← if s.head? = some '.' then pastDigits? s.tail else some s
  if s.head? = some 'e' ∨ s.head? = some 'E' then
    let s := s.tail
    pastDigits? (if s.head? = some '+' ∨ s.head? = some '-' then s.tail else s)
  else some s

def word? (word : String) (value : Json) (s : List Char) : Step s Json :=
  let r := s.drop word.length
  if word.toList.isPrefixOf s then
    if h : r.length < s.length then some (value, ⟨r, h⟩) else none
  else none

def number? (s : List Char) : Step s Json :=
  match pastNumber? s with
  | some r =>
    if h : r.length < s.length then
      some (.number (String.ofList (s.take (s.length - r.length))), ⟨r, h⟩)
    else none
  | none => none

mutual

/-- Reads a value that starts at the front. -/
def value : (s : List Char) → Step s Json
  | [] => none
  | '"' :: s =>
    match pieces s with
    | some (ps, ⟨r, h⟩) =>
      some (.string ((join? ps).map String.ofList),
        ⟨r, by simp only [List.length_cons]; omega⟩)
    | none => none
  | '[' :: s =>
    match h0 : skip s with
    | ']' :: r =>
      some (.array [], ⟨r, by
        have := length_skip_le s
        simp only [h0, List.length_cons] at this ⊢
        omega⟩)
    | t =>
      match elements t with
      | some (es, ⟨r, h⟩) =>
        some (.array es, ⟨r, by
          have := length_skip_le s
          simp only [h0, List.length_cons] at this ⊢
          omega⟩)
      | none => none
  | '\x7b' :: s =>
    match h0 : skip s with
    | '\x7d' :: r =>
      some (.object [], ⟨r, by
        have := length_skip_le s
        simp only [h0, List.length_cons] at this ⊢
        omega⟩)
    | t =>
      match members t with
      | some (ms, ⟨r, h⟩) =>
        some (.object ms, ⟨r, by
          have := length_skip_le s
          simp only [h0, List.length_cons] at this ⊢
          omega⟩)
      | none => none
  | 'n' :: s => word? "null" .null ('n' :: s)
  | 't' :: s => word? "true" (.bool true) ('t' :: s)
  | 'f' :: s => word? "false" (.bool false) ('f' :: s)
  | c :: s => number? (c :: s)
termination_by s => 3 * s.length
decreasing_by
  all_goals
    have := length_skip_le s
    simp only [h0, List.length_cons] at this ⊢
    omega

def elements (s : List Char) : Step s (List Json) :=
  match value s with
  | none => none
  | some (v, ⟨r, h⟩) =>
    match h0 : skip r with
    | ']' :: r' =>
      some ([v], ⟨r', by
        have := length_skip_le r
        simp only [h0, List.length_cons] at this
        omega⟩)
    | ',' :: r' =>
      match elements (skip r') with
      | some (es, ⟨r'', h'⟩) =>
        some (v :: es, ⟨r'', by
          have := length_skip_le r
          have := length_skip_le r'
          simp only [h0, List.length_cons] at *
          omega⟩)
      | none => none
    | _ => none
termination_by 3 * s.length + 1
decreasing_by
  · omega
  · have := length_skip_le r
    have := length_skip_le r'
    simp only [h0, List.length_cons] at *
    omega

def members (s : List Char) : Step s (List (Option String × Json)) :=
  match s with
  | '"' :: s =>
    match pieces s with
    | none => none
    | some (ps, ⟨r, h⟩) =>
      let name := (join? ps).map String.ofList
      match h0 : skip r with
      | ':' :: r1 =>
        match value (skip r1) with
        | none => none
        | some (v, ⟨r2, h2⟩) =>
          match h3 : skip r2 with
          | '\x7d' :: r3 =>
            some ([(name, v)], ⟨r3, by
              have := length_skip_le r
              have := length_skip_le r1
              have := length_skip_le r2
              simp only [h0, h3, List.length_cons] at *
              omega⟩)
          | ',' :: r3 =>
            match members (skip r3) with
            | some (ms, ⟨r4, h4⟩) =>
              some ((name, v) :: ms, ⟨r4, by
                have := length_skip_le r
                have := length_skip_le r1
                have := length_skip_le r2
                have := length_skip_le r3
                simp only [h0, h3, List.length_cons] at *
                omega⟩)
            | none => none
          | _ => none
      | _ => none
  | _ => none
termination_by 3 * s.length + 1
decreasing_by
  · have := length_skip_le r
    have := length_skip_le r1
    simp only [h0, List.length_cons] at *
    omega
  · have := length_skip_le r
    have := length_skip_le r1
    have := length_skip_le r2
    have := length_skip_le r3
    simp only [h0, h3, List.length_cons] at *
    omega

end

/-- Reads a text that is one value. -/
def parse? (s : List Char) : Option Json :=
  match value (skip s) with
  | some (v, ⟨r, _⟩) => if skip r = [] then some v else none
  | none => none

def unitText (n : Nat) : List Char :=
  let digit := fun d => if d < 10 then Digits.char d else Char.ofNat (87 + d)
  [digit (n / 4096 % 16), digit (n / 256 % 16), digit (n / 16 % 16), digit (n % 16)]

/-- How a character is written in a string. -/
def encodeChar (c : Char) : List Char :=
  match c with
  | '"' => ['\\', '"']
  | '\\' => ['\\', '\\']
  | '\x08' => ['\\', 'b']
  | '\x0c' => ['\\', 'f']
  | '\n' => ['\\', 'n']
  | '\r' => ['\\', 'r']
  | '\t' => ['\\', 't']
  | c => if c.toNat < 32 then '\\' :: 'u' :: unitText c.toNat else [c]

/-- A text as a JSON string. -/
def quote (s : String) : String := String.ofList ('"' :: s.toList.flatMap encodeChar ++ ['"'])

end ExprLang.Json
