import ExprLang.Proofs.Grammar.Numerals
import ExprLang.Proofs.Grammar.Steps
import ExprLang.Proofs.Grammar.Words

set_option autoImplicit false

/-!
What may follow the text of a term. A term goes on as long as a name or a numeral does, and with
arguments and members after blanks; an operator after a blank, a comma and a closing parenthesis end
it.
-/

namespace ExprLang.Grammar

variable {o : Options} {s rest left : List Char}

/-- Nothing follows that could be taken for more of a literal or a name, or for arguments. -/
structure Stops (rest : List Char) : Prop where
  name : NameEnds rest
  fraction : fraction? rest = none
  opening : (skipBlanks rest).head? ≠ some '('

/-- Nothing follows that could be taken for a member either. -/
structure Halts (rest : List Char) : Prop extends Stops rest where
  point : (skipBlanks rest).head? ≠ some '.'

/-- A character that is no blank follows without blanks, or blanks do. -/
theorem head?_cases (rest : List Char) :
    BlankAhead rest ∨ skipBlanks rest = rest := by
  cases rest with
  | nil => exact .inr rfl
  | cons c r =>
    by_cases blank : isBlank c = true
    · exact .inl ⟨c, r, rfl, blank⟩
    · exact .inr (skipBlanks_cons (Bool.eq_false_iff.2 blank) r)

theorem BlankAhead.fraction?_eq_none (h : BlankAhead rest) : fraction? rest = none := by
  obtain ⟨c, r, rfl, blank⟩ := h
  refine Grammar.fraction?_eq_none ?_
  rintro ⟨⟩
  cases blank

/-- A term ends where, after blanks, a character stands that is no part of a name, no point and no
opening parenthesis. -/
theorem Halts.of_head
    (h : ∀ c ∈ (skipBlanks rest).head?, isNameChar c = false ∧ c ≠ '.' ∧ c ≠ '(') : Halts rest where
  opening head := (h _ head).2.2 rfl
  point head := (h _ head).2.1 rfl
  name := by
    rcases head?_cases rest with ahead | start
    · exact ahead.nameEnds
    · rw [start] at h
      exact fun c head => (h c head).1
  fraction := by
    rcases head?_cases rest with ahead | start
    · exact ahead.fraction?_eq_none
    · rw [start] at h
      exact fraction?_eq_none fun head => (h _ head).2.1 rfl

/-- After blanks comes a blank or what stands behind them. -/
theorem mem_head?_append_cons {a : List Char} (ha : Blank a) {c d : Char} {r : List Char}
    (h : d ∈ (a ++ c :: r).head?) : isBlank d = true ∨ d = c := by
  cases a with
  | nil =>
    cases h
    exact .inr rfl
  | cons b a =>
    cases h
    exact .inl (ha _ List.mem_cons_self)

theorem nameEnds_append_cons {a : List Char} (ha : Blank a) {c : Char} (hc : isNameChar c = false)
    (r : List Char) : NameEnds (a ++ c :: r) := by
  intro d head
  rcases mem_head?_append_cons ha head with blank | rfl
  · exact isNameChar_of_isBlank blank
  · exact hc

theorem digitsEnd_append_cons {a : List Char} (ha : Blank a) {c : Char} (hc : c.isDigit = false)
    (r : List Char) : DigitsEnd (a ++ c :: r) := by
  intro d head
  rcases mem_head?_append_cons ha head with blank | rfl
  · refine Bool.eq_false_iff.2 fun digit => ?_
    rw [isBlank_of_isDigit digit] at blank
    cases blank
  · exact hc

/-- A term may be followed by a point, with blanks before it, that no digit comes after. -/
theorem stops_of_point {a r : List Char} (ha : Blank a) (hr : DigitsEnd r) :
    Stops (a ++ '.' :: r) where
  name := nameEnds_append_cons ha rfl r
  opening := by
    rw [skipBlanks_append_cons ha rfl]
    rintro ⟨⟩
  fraction := by
    cases a with
    | nil => exact fraction?_eq_none_of_digitsEnd hr
    | cons b a =>
      have ahead : BlankAhead (b :: a ++ '.' :: r) := ⟨b, _, rfl, ha b List.mem_cons_self⟩
      exact ahead.fraction?_eq_none

theorem halts_of_operator {a r : List Char} {op : Operator} (ha : Blank a) (ne : a ≠ []) :
    Halts (a ++ (op.symbol.toList ++ r)) := by
  have ahead := BlankAhead.of_blank ha ne (op.symbol.toList ++ r)
  obtain ⟨c, t, eq, blank, point, opening⟩ := symbol_start op
  have head : skipBlanks (a ++ (op.symbol.toList ++ r)) = c :: (t ++ r) := by
    rw [eq]
    exact skipBlanks_append_cons ha blank (t ++ r)
  refine ⟨⟨ahead.nameEnds, ahead.fraction?_eq_none, ?_⟩, ?_⟩
  · rw [head]
    exact fun same => opening (Option.some.inj same)
  · rw [head]
    exact fun same => point (Option.some.inj same)

/-- The text ends here, or the part of it that stands in parentheses or between commas. -/
def Closes (rest : List Char) : Prop := ∀ c ∈ (skipBlanks rest).head?, c = ')' ∨ c = ','

theorem Closes.halts (h : Closes rest) : Halts rest := by
  refine .of_head fun c head => ?_
  rcases h c head with rfl | rfl <;> decide

theorem Closes.of_cons {c : Char} (hc : c = ')' ∨ c = ',') (h : skipBlanks s = c :: rest) :
    Closes s := by
  rw [Closes, h]
  rintro _ ⟨⟩
  exact hc

theorem Closes.skipBlanks (h : Closes rest) : Closes (skipBlanks rest) := by
  rwa [Closes, skipBlanks_skipBlanks]

theorem Closes.operatorSpaced_faults (words : o.UsualWords) (h : Closes rest) :
    (operatorSpaced o rest).Faults := by
  apply Grammar.operatorSpaced_faults
  apply words.operators
  intro c head
  rcases h c head with rfl | rfl <;> decide

/-! Members after a term -/

theorem followed_skipBlanks (o : Options) (e : Expr) (s : List Char) :
    followed o e (skipBlanks s) = followed o e s := by
  rw [followed, followed, skipBlanks_skipBlanks]

/-- Without a point there is no member. -/
theorem followed_of_point (e : Expr) (h : (skipBlanks rest).head? ≠ some '.') :
    followed o e rest = (e, skipBlanks rest) := by
  have noMember : memberName? (skipBlanks rest) = none := by
    refine memberName?_eq_none ?_
    rwa [skipBlanks_skipBlanks]
  obtain ⟨value, left⟩ := members_of_none e noMember
  simp only [followed, value, left, ite_self]

theorem followed_of_halts (e : Expr) (h : Halts rest) :
    followed o e rest = (e, skipBlanks rest) :=
  followed_of_point e h.point

theorem followed_member (e : Expr) {name : String} {r : List Char} (read : o.memberRead = true)
    (point : skipBlanks s = '.' :: r) (named : isName name.toList = true) (ends : NameEnds left)
    (h : skipBlanks r = name.toList ++ left) :
    followed o e s = followed o (.member e name) left := by
  have point' : skipBlanks (skipBlanks s) = '.' :: r := by rw [skipBlanks_skipBlanks, point]
  obtain ⟨p, found, past⟩ := memberName?_of_cons point' named ends h
  obtain ⟨value, rests⟩ := members_of_some e found
  rw [followed, followed, if_pos read, if_pos read, value, rests, past]

end ExprLang.Grammar
