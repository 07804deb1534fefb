import ExprLang.Json.Text
import ExprLang.Proofs.Grammar.Numerals

set_option autoImplicit false

/-!
The texts of JSON values, and that the reader takes each of them. A value has many texts: blanks can
stand between its parts, and a character of a string for itself or as an escape.
-/

namespace ExprLang.Json

open Grammar (Blank DigitRun DigitsEnd)

/-- The reader takes `v` and leaves `rest`. -/
def Step.Takes {s : List Char} {α : Type} (x : Step s α) (v : α) (rest : List Char) : Prop :=
  ∃ shorter, x = some (v, ⟨rest, shorter⟩)

/-! Blanks -/

theorem isJsonBlank_eq (c : Char) : isJsonBlank c = isBlank c := by
  rw [isJsonBlank, isBlank]
  cases decide (c = '\n') <;> cases decide (c = '\t') <;> simp

theorem skip_eq (s : List Char) : skip s = Grammar.skipBlanks s := by
  rw [skip, Grammar.skipBlanks, funext isJsonBlank_eq]

theorem blank_nil : Blank [] := fun _ mem => absurd mem List.not_mem_nil

theorem skip_append_cons {b : List Char} (blank : Blank b) {c : Char} (other : isBlank c = false)
    (s : List Char) : skip (b ++ c :: s) = c :: s := by
  rw [skip_eq, Grammar.skipBlanks_append_cons blank other]

/-! Strings -/

/-- The texts of a piece. -/
inductive PieceText : Piece → List Char → Prop
  | plain {c : Char} (noQuote : c ≠ '"') (noEscape : c ≠ '\\') (printable : 32 ≤ c.toNat) :
      PieceText (.char c) [c]
  | letter {e d : Char} (known : escape? e = some d) : PieceText (.char d) ['\\', e]
  | unit {a b x y : Char} {n : Nat} (known : unit? a b x y = some n) :
      PieceText (.unit n) ['\\', 'u', a, b, x, y]

/-- The texts of pieces, with the quote that closes them. -/
inductive PiecesText : List Piece → List Char → Prop
  | nil : PiecesText [] ['"']
  | cons {p : Piece} {ps : List Piece} {t u : List Char} (first : PieceText p t)
      (rest : PiecesText ps u) : PiecesText (p :: ps) (t ++ u)

/-- The texts of a string after the quote that opens it. -/
def StringText (s : Option String) (t : List Char) : Prop :=
  ∃ ps, PiecesText ps t ∧ s = (join? ps).map String.ofList

theorem pieces_takes {ps : List Piece} {t : List Char} (text : PiecesText ps t) (rest : List Char) :
    (pieces (t ++ rest)).Takes ps rest := by
  induction text with
  | nil =>
    rw [List.singleton_append, pieces.eq_def]
    exact ⟨Nat.lt_succ_self _, rfl⟩
  | @cons p ps t u first _ ih =>
    obtain ⟨shorter, taken⟩ := ih
    rw [List.append_assoc]
    cases first with
    | @plain c noQuote noEscape printable =>
      rw [List.singleton_append, pieces.eq_def]
      simp only [if_neg noQuote, if_neg (Nat.not_lt_of_le printable), if_neg noEscape, taken]
      exact ⟨_, rfl⟩
    | @letter e d known =>
      have noUnit : e ≠ 'u' := by
        rintro rfl
        cases known
      rw [List.cons_append, List.singleton_append, pieces.eq_3 '\\' e _ fun _ _ _ _ _ same =>
        absurd same noUnit]
      simp only [known, taken]
      exact ⟨_, rfl⟩
    | @unit a b x y n known =>
      simp only [List.cons_append, List.nil_append]
      rw [pieces.eq_2]
      simp only [known, taken]
      exact ⟨_, rfl⟩

/-- Four digits denote the number that they were written for. -/
theorem exists_unitText {n : Nat} (small : n < 0x10000) :
    ∃ a b x y, unitText n = [a, b, x, y] ∧ unit? a b x y = some n := by
  have digit :
      ∀ d < 16, hexDigit? (if d < 10 then Digits.char d else Char.ofNat (87 + d)) = some d := by
    decide
  have place : ∀ m : Nat, m % 16 < 16 := fun m => Nat.mod_lt m (by decide)
  refine ⟨_, _, _, _, rfl, ?_⟩
  simp only [unit?, digit _ (place _), bind, Option.bind, pure]
  congr 1
  omega

/-- What is written for a character stands for it. -/
theorem exists_piece_encodeChar (c : Char) :
    ∃ p, PieceText p (encodeChar c) ∧ ∀ ps, join? (p :: ps) = (join? ps).map (c :: ·) := by
  have char : ∀ ps, join? (.char c :: ps) = (join? ps).map (c :: ·) := fun _ => rfl
  unfold encodeChar
  split
  case h_8 noQuote noEscape _ _ _ _ _ =>
    split
    · rename_i control
      obtain ⟨a, b, x, y, text, known⟩ := exists_unitText (n := c.toNat) (by omega)
      have high : ¬ (0xD800 ≤ c.toNat ∧ c.toNat < 0xDC00) := by omega
      have low : ¬ (0xDC00 ≤ c.toNat ∧ c.toNat < 0xE000) := by omega
      refine ⟨.unit c.toNat, ?_, fun ps => ?_⟩
      · rw [text]
        exact .unit known
      · rw [join?.eq_def]
        simp only [if_neg high, if_neg low, Char.ofNat_toNat]
    · rename_i printable
      exact ⟨.char c, .plain noQuote noEscape (Nat.le_of_not_lt printable), char⟩
  all_goals exact ⟨_, .letter rfl, char⟩

theorem stringText_encoded (s : String) :
    StringText (some s) (s.toList.flatMap encodeChar ++ ['"']) := by
  have written : ∀ cs : List Char,
      ∃ ps, PiecesText ps (cs.flatMap encodeChar ++ ['"']) ∧ join? ps = some cs := by
    intro cs
    induction cs with
    | nil => exact ⟨[], .nil, rfl⟩
    | cons c cs ih =>
      obtain ⟨p, first, joined⟩ := exists_piece_encodeChar c
      obtain ⟨ps, rest, later⟩ := ih
      refine ⟨p :: ps, ?_, by rw [joined, later, Option.map_some]⟩
      rw [List.flatMap_cons, List.append_assoc]
      exact .cons first rest
  obtain ⟨ps, text, joined⟩ := written s.toList
  exact ⟨ps, text, by rw [joined, Option.map_some, String.ofList_toList]⟩

/-! Numbers -/

/-- What stands before the point: a zero alone, or digits that do not begin with one. -/
inductive WholeText : List Char → Prop
  | zero : WholeText ['0']
  | digits {d : Char} {ds : List Char} (first : d ≠ '0') (run : DigitRun (d :: ds)) :
      WholeText (d :: ds)

inductive FractionText : List Char → Prop
  | none : FractionText []
  | some {ds : List Char} (run : DigitRun ds) : FractionText ('.' :: ds)

inductive ExponentText : List Char → Prop
  | none : ExponentText []
  | some {e : Char} {sgn ds : List Char} (mark : e = 'e' ∨ e = 'E')
      (sign : sgn = [] ∨ sgn = ['+'] ∨ sgn = ['-']) (run : DigitRun ds) :
      ExponentText (e :: (sgn ++ ds))

/-- The texts of numbers. -/
inductive NumberText : List Char → Prop
  | intro {sgn whole fraction exponent : List Char} (sign : sgn = [] ∨ sgn = ['-'])
      (before : WholeText whole) (after : FractionText fraction) (power : ExponentText exponent) :
      NumberText (sgn ++ (whole ++ (fraction ++ exponent)))

/-- No number goes on here. -/
def NumberEnds (rest : List Char) : Prop :=
  ∀ c ∈ rest.head?, c.isDigit = false ∧ c ≠ '.' ∧ c ≠ 'e' ∧ c ≠ 'E'

theorem pastDigits?_append {ds rest : List Char} (run : DigitRun ds) (ends : DigitsEnd rest) :
    pastDigits? (ds ++ rest) = some rest := by
  obtain ⟨d, r, rfl⟩ := List.exists_cons_of_ne_nil run.nonempty
  have first : (d :: r ++ rest).head?.any Char.isDigit = true := run.all d List.mem_cons_self
  rw [pastDigits?, if_pos first, Grammar.dropWhile_append run.all ends]

theorem head?_ne_of_digitRun {ds rest : List Char} (run : DigitRun ds) {c : Char}
    (other : c.isDigit = false) : (ds ++ rest).head? ≠ some c := by
  obtain ⟨d, r, rfl⟩ := List.exists_cons_of_ne_nil run.nonempty
  have digit := run.all d List.mem_cons_self
  rintro ⟨⟩
  rw [digit] at other
  cases other

/-! What follows each part of a number -/

def pastSign (s : List Char) : List Char := if s.head? = some '-' then s.tail else s

def pastWhole? (s : List Char) : Option (List Char) :=
  if s.head? = some '0' then
    if s.tail.head?.any Char.isDigit then none else some s.tail
  else pastDigits? s

def pastFraction? (s : List Char) : Option (List Char) :=
  if s.head? = some '.' then pastDigits? s.tail else some s

def pastExponent? (s : List Char) : Option (List Char) :=
  if s.head? = some 'e' ∨ s.head? = some 'E' then
    pastDigits? (if s.tail.head? = some '+' ∨ s.tail.head? = some '-' then s.tail.tail else s.tail)
  else some s

theorem pastFraction?_bind (s : List Char) : (pastFraction? s).bind pastExponent?
    = if s.head? = some '.' then (pastDigits? s.tail).bind pastExponent? else pastExponent? s := by
  rw [pastFraction?]
  split <;> rfl

/-- What follows a number is what follows its parts one after another. -/
theorem pastNumber?_eq (s : List Char) :
    pastNumber? s
      = (pastWhole? (pastSign s)).bind fun s => (pastFraction? s).bind pastExponent? := by
  simp only [pastFraction?_bind]
  rw [pastWhole?, apply_ite fun x : Option (List Char) => x.bind _]
  rfl

theorem pastSign_append {t rest : List Char} (sign : t = [] ∨ t = ['-'])
    (unsigned : rest.head? ≠ some '-') : pastSign (t ++ rest) = rest := by
  rcases sign with rfl | rfl
  · exact if_neg unsigned
  · rfl

/-- The digits before the point do not go on. -/
theorem pastWhole?_append {t rest : List Char} (text : WholeText t) (ends : DigitsEnd rest) :
    pastWhole? (t ++ rest) = some rest := by
  cases text with
  | zero =>
    have ended : rest.head?.any Char.isDigit = false := by
      cases head : rest.head? with
      | none => rfl
      | some c => exact ends c head
    simp [pastWhole?, ended]
  | digits first run =>
    rw [pastWhole?, if_neg (by simpa using first), pastDigits?_append run ends]

theorem pastFraction?_append {t rest : List Char} (text : FractionText t)
    (ends : ∀ c ∈ rest.head?, c.isDigit = false ∧ c ≠ '.') :
    pastFraction? (t ++ rest) = some rest := by
  cases text with
  | none => exact if_neg fun point => (ends '.' point).2 rfl
  | some run => exact pastDigits?_append run fun c head => (ends c head).1

theorem pastExponent?_append {t rest : List Char} (text : ExponentText t)
    (ends : NumberEnds rest) : pastExponent? (t ++ rest) = some rest := by
  cases text with
  | none =>
    refine if_neg ?_
    rintro (mark | mark)
    · exact (ends 'e' mark).2.2.1 rfl
    · exact (ends 'E' mark).2.2.2 rfl
  | @some e sgn ds mark sign run =>
    have digits := pastDigits?_append run fun c head => (ends c head).1
    rw [pastExponent?, if_pos (by simpa using mark), List.cons_append, List.tail_cons,
      List.append_assoc]
    rcases sign with rfl | rfl | rfl
    · have unsigned : ¬ ((ds ++ rest).head? = some '+' ∨ (ds ++ rest).head? = some '-') :=
        not_or.2 ⟨head?_ne_of_digitRun run rfl, head?_ne_of_digitRun run rfl⟩
      rw [List.nil_append, if_neg unsigned, digits]
    · exact digits
    · exact digits

/-! What the parts begin with -/

theorem WholeText.exists_cons {t : List Char} (text : WholeText t) :
    ∃ d r, t = d :: r ∧ d.isDigit = true := by
  cases text with
  | zero => exact ⟨'0', [], rfl, rfl⟩
  | digits _ run => exact ⟨_, _, rfl, run.all _ List.mem_cons_self⟩

theorem FractionText.digitsEnd {t rest : List Char} (text : FractionText t)
    (ends : DigitsEnd rest) : DigitsEnd (t ++ rest) := by
  cases text with
  | none => exact ends
  | some run =>
    rintro c ⟨⟩
    rfl

theorem ExponentText.ends {t rest : List Char} (text : ExponentText t) (ends : NumberEnds rest) :
    ∀ c ∈ (t ++ rest).head?, c.isDigit = false ∧ c ≠ '.' := by
  cases text with
  | none => exact fun c head => ⟨(ends c head).1, (ends c head).2.1⟩
  | some mark =>
    rintro c ⟨⟩
    rcases mark with rfl | rfl <;> exact ⟨rfl, by decide⟩

theorem NumberText.exists_cons {t : List Char} (text : NumberText t) :
    ∃ c r, t = c :: r ∧ (c = '-' ∨ c.isDigit = true) := by
  obtain ⟨rfl | rfl, before, -, -⟩ := text
  · obtain ⟨d, r, rfl, digit⟩ := before.exists_cons
    exact ⟨d, _, rfl, .inr digit⟩
  · exact ⟨'-', _, rfl, .inl rfl⟩

theorem pastNumber?_append {t rest : List Char} (text : NumberText t) (ends : NumberEnds rest) :
    pastNumber? (t ++ rest) = some rest := by
  obtain ⟨sign, before, after, power⟩ := text
  have behind := power.ends ends
  have wholeEnds := after.digitsEnd fun c head => (behind c head).1
  obtain ⟨d, r, start, digit⟩ := before.exists_cons
  have unsigned : d ≠ '-' := by
    rintro rfl
    cases digit
  rw [pastNumber?_eq, List.append_assoc, List.append_assoc, List.append_assoc,
    pastSign_append sign (by simpa [start] using unsigned), pastWhole?_append before wholeEnds,
    Option.bind_some, pastFraction?_append after behind, Option.bind_some,
    pastExponent?_append power ends]

theorem number?_takes {t rest : List Char} (text : NumberText t) (ends : NumberEnds rest) :
    (number? (t ++ rest)).Takes (.number (String.ofList t)) rest := by
  obtain ⟨c, r, rfl, -⟩ := text.exists_cons
  have shorter : rest.length < (c :: r ++ rest).length := by
    rw [List.length_append, List.length_cons]
    omega
  have taken : (c :: r ++ rest).take ((c :: r ++ rest).length - rest.length) = c :: r := by
    rw [List.length_append, Nat.add_sub_cancel, List.take_left]
  refine ⟨shorter, ?_⟩
  rw [number?, pastNumber?_append text ends]
  simp only [dif_pos shorter, taken]

/-! Values -/

/-- The words that stand for values. -/
def words : List (String × Json) := [("null", .null), ("true", .bool true), ("false", .bool false)]

mutual

/-- The texts of a value. -/
inductive ValueText : Json → List Char → Prop
  | word {w : String} {j : Json} (known : (w, j) ∈ words) : ValueText j w.toList
  | number {t : List Char} (text : NumberText t) : ValueText (.number (String.ofList t)) t
  | string {s : Option String} {t : List Char} (text : StringText s t) :
      ValueText (.string s) ('"' :: t)
  | noElement {b : List Char} (blank : Blank b) : ValueText (.array []) ('[' :: (b ++ [']']))
  | array {js : List Json} {b t : List Char} (blank : Blank b) (elements : ElementsText js t) :
      ValueText (.array js) ('[' :: (b ++ t))
  | noMember {b : List Char} (blank : Blank b) :
      ValueText (.object []) ('\x7b' :: (b ++ ['\x7d']))
  | object {ms : List (Option String × Json)} {b t : List Char} (blank : Blank b)
      (members : MembersText ms t) : ValueText (.object ms) ('\x7b' :: (b ++ t))

/-- The texts of elements, with the bracket that closes them. -/
inductive ElementsText : List Json → List Char → Prop
  | last {j : Json} {t b : List Char} (text : ValueText j t) (blank : Blank b) :
      ElementsText [j] (t ++ (b ++ [']']))
  | more {j : Json} {js : List Json} {t b b' u : List Char} (text : ValueText j t) (blank : Blank b)
      (blank' : Blank b') (rest : ElementsText js u) :
      ElementsText (j :: js) (t ++ (b ++ ',' :: (b' ++ u)))

/-- The texts of a member. -/
inductive MemberText : Option String × Json → List Char → Prop
  | intro {name : Option String} {j : Json} {n b b' t : List Char} (string : StringText name n)
      (blank : Blank b) (blank' : Blank b') (text : ValueText j t) :
      MemberText (name, j) ('"' :: (n ++ (b ++ ':' :: (b' ++ t))))

/-- The texts of members, with the brace that closes them. -/
inductive MembersText : List (Option String × Json) → List Char → Prop
  | last {m : Option String × Json} {t b : List Char} (text : MemberText m t) (blank : Blank b) :
      MembersText [m] (t ++ (b ++ ['\x7d']))
  | more {m : Option String × Json} {ms : List (Option String × Json)} {t b b' u : List Char}
      (text : MemberText m t) (blank : Blank b) (blank' : Blank b') (rest : MembersText ms u) :
      MembersText (m :: ms) (t ++ (b ++ ',' :: (b' ++ u)))

end

/-! What the reader does at each sign -/

section steps

variable {s t r r' r'' : List Char}

theorem word?_takes (word : String) (v : Json) (some : word.toList ≠ []) (rest : List Char) :
    (word? word v (word.toList ++ rest)).Takes v rest := by
  have dropped : (word.toList ++ rest).drop word.length = rest := by
    rw [← String.length_toList, List.drop_left]
  have shorter : rest.length < (word.toList ++ rest).length := by
    have positive := List.length_pos_iff.2 some
    rw [List.length_append]
    omega
  refine ⟨shorter, ?_⟩
  have ahead : word.toList.isPrefixOf (word.toList ++ rest) = true := by simp
  simp only [word?, dropped, if_pos ahead, dif_pos shorter]

theorem value_noElement (closed : skip s = ']' :: r) : (value ('[' :: s)).Takes (.array []) r := by
  rw [value]
  split
  · rename_i same
    cases closed.symm.trans same
    exact ⟨_, rfl⟩
  · rename_i other
    exact absurd closed (other r)

theorem value_array {js : List Json} (inside : skip s = t) (some : t.head? ≠ some ']')
    (read : (elements t).Takes js r) : (value ('[' :: s)).Takes (.array js) r := by
  subst inside
  obtain ⟨shorter, taken⟩ := read
  rw [value]
  split
  · rename_i same
    rw [same] at some
    exact absurd rfl some
  · simp only [taken]
    exact ⟨_, rfl⟩

theorem value_noMember (closed : skip s = '\x7d' :: r) :
    (value ('\x7b' :: s)).Takes (.object []) r := by
  rw [value]
  split
  · rename_i same
    cases closed.symm.trans same
    exact ⟨_, rfl⟩
  · rename_i other
    exact absurd closed (other r)

theorem value_object {ms : List (Option String × Json)} (inside : skip s = t)
    (some : t.head? ≠ some '\x7d') (read : (members t).Takes ms r) :
    (value ('\x7b' :: s)).Takes (.object ms) r := by
  subst inside
  obtain ⟨shorter, taken⟩ := read
  rw [value]
  split
  · rename_i same
    rw [same] at some
    exact absurd rfl some
  · simp only [taken]
    exact ⟨_, rfl⟩

theorem elements_last {j : Json} (read : (value s).Takes j r) (closed : skip r = ']' :: r') :
    (elements s).Takes [j] r' := by
  obtain ⟨shorter, taken⟩ := read
  rw [elements, taken]
  simp only
  split
  · rename_i same
    cases closed.symm.trans same
    exact ⟨_, rfl⟩
  · rename_i same
    cases closed.symm.trans same
  · rename_i other _
    exact absurd closed (other r')

theorem elements_more {j : Json} {js : List Json} (read : (value s).Takes j r)
    (comma : skip r = ',' :: r') (rest : (elements (skip r')).Takes js r'') :
    (elements s).Takes (j :: js) r'' := by
  obtain ⟨shorter, taken⟩ := read
  obtain ⟨_, later⟩ := rest
  rw [elements, taken]
  simp only
  split
  · rename_i same
    cases comma.symm.trans same
  · rename_i same
    cases comma.symm.trans same
    simp only [later]
    exact ⟨_, rfl⟩
  · rename_i other
    exact absurd comma (other r')

/-- The reader is behind a member when it has read its name, a colon and its value. -/
inductive PastMember : List Char → Option String × Json → List Char → Prop
  | intro {n r r' rest : List Char} {ps : List Piece} {j : Json} (name : (pieces n).Takes ps r)
      (colon : skip r = ':' :: r') (read : (value (skip r')).Takes j rest) :
      PastMember ('"' :: n) ((join? ps).map String.ofList, j) rest

theorem members_last {m : Option String × Json} (past : PastMember s m r)
    (closed : skip r = '\x7d' :: r') : (members s).Takes [m] r' := by
  obtain ⟨⟨_, name⟩, colon, ⟨_, read⟩⟩ := past
  rw [members, name]
  simp only
  split
  · rename_i same
    cases colon.symm.trans same
    simp only [read]
    split
    · rename_i same
      cases closed.symm.trans same
      exact ⟨_, rfl⟩
    · rename_i same
      cases closed.symm.trans same
    · rename_i other _
      exact absurd closed (other r')
  · rename_i other
    exact absurd colon (other _)

theorem members_more {m : Option String × Json} {ms : List (Option String × Json)}
    (past : PastMember s m r) (comma : skip r = ',' :: r')
    (rest : (members (skip r')).Takes ms r'') : (members s).Takes (m :: ms) r'' := by
  obtain ⟨⟨_, name⟩, colon, ⟨_, read⟩⟩ := past
  obtain ⟨_, later⟩ := rest
  rw [members, name]
  simp only
  split
  · rename_i same
    cases colon.symm.trans same
    simp only [read]
    split
    · rename_i same
      cases comma.symm.trans same
    · rename_i same
      cases comma.symm.trans same
      simp only [later]
      exact ⟨_, rfl⟩
    · rename_i other
      exact absurd comma (other r')
  · rename_i other
    exact absurd colon (other _)

end steps

/-! What the texts begin with -/

/-- A value begins with a character that is neither a blank nor a closing bracket. -/
theorem ValueText.exists_cons {j : Json} {t : List Char} (text : ValueText j t) :
    ∃ c r, t = c :: r ∧ isBlank c = false ∧ c ≠ ']' := by
  cases text with
  | word known =>
    simp only [words, List.mem_cons, Prod.mk.injEq, List.not_mem_nil, or_false] at known
    rcases known with ⟨rfl, -⟩ | ⟨rfl, -⟩ | ⟨rfl, -⟩ <;> exact ⟨_, _, rfl, rfl, by decide⟩
  | number text =>
    obtain ⟨c, r, rfl, minus | digit⟩ := text.exists_cons
    · subst minus
      exact ⟨'-', r, rfl, rfl, by decide⟩
    · refine ⟨c, r, rfl, Grammar.isBlank_of_isDigit digit, ?_⟩
      rintro rfl
      cases digit
  | string => exact ⟨'"', _, rfl, rfl, by decide⟩
  | noElement => exact ⟨'[', _, rfl, rfl, by decide⟩
  | array => exact ⟨'[', _, rfl, rfl, by decide⟩
  | noMember => exact ⟨'\x7b', _, rfl, rfl, by decide⟩
  | object => exact ⟨'\x7b', _, rfl, rfl, by decide⟩

theorem ElementsText.exists_cons {js : List Json} {t : List Char} (text : ElementsText js t) :
    ∃ c r, t = c :: r ∧ isBlank c = false ∧ c ≠ ']' := by
  cases text with
  | last text =>
    obtain ⟨c, r, rfl, start⟩ := text.exists_cons
    exact ⟨c, _, rfl, start⟩
  | more text =>
    obtain ⟨c, r, rfl, start⟩ := text.exists_cons
    exact ⟨c, _, rfl, start⟩

theorem MembersText.exists_cons {ms : List (Option String × Json)} {t : List Char}
    (text : MembersText ms t) : ∃ r, t = '"' :: r := by
  cases text with
  | last text =>
    cases text
    exact ⟨_, rfl⟩
  | more text =>
    cases text
    exact ⟨_, rfl⟩

theorem numberEnds_nil : NumberEnds [] := by
  simp [NumberEnds]

theorem NumberEnds.append {b rest : List Char} (ends : NumberEnds rest) (blank : Blank b) :
    NumberEnds (b ++ rest) := by
  cases b with
  | nil => exact ends
  | cons d b =>
    rintro d ⟨⟩
    have here := blank d List.mem_cons_self
    simp only [isBlank, Bool.or_eq_true, decide_eq_true_eq] at here
    rcases here with ((rfl | rfl) | rfl) | rfl <;> decide

theorem numberEnds_append_cons {b : List Char} (blank : Blank b) {c : Char}
    (sign : c = ',' ∨ c = ']' ∨ c = '\x7d') (rest : List Char) : NumberEnds (b ++ c :: rest) := by
  refine NumberEnds.append ?_ blank
  rintro d ⟨⟩
  rcases sign with rfl | rfl | rfl <;> decide

theorem value_word {w : String} {j : Json} (known : (w, j) ∈ words) (rest : List Char) :
    (value (w.toList ++ rest)).Takes j rest := by
  simp only [words, List.mem_cons, Prod.mk.injEq, List.not_mem_nil, or_false] at known
  rcases known with ⟨rfl, rfl⟩ | ⟨rfl, rfl⟩ | ⟨rfl, rfl⟩
  · have taken := word?_takes "null" .null (by decide) rest
    rw [show "null".toList ++ rest = 'n' :: ("ull".toList ++ rest) from rfl] at taken ⊢
    rwa [value]
  · have taken := word?_takes "true" (.bool true) (by decide) rest
    rw [show "true".toList ++ rest = 't' :: ("rue".toList ++ rest) from rfl] at taken ⊢
    rwa [value]
  · have taken := word?_takes "false" (.bool false) (by decide) rest
    rw [show "false".toList ++ rest = 'f' :: ("alse".toList ++ rest) from rfl] at taken ⊢
    rwa [value]

theorem value_number {t rest : List Char} (text : NumberText t) (ends : NumberEnds rest) :
    (value (t ++ rest)).Takes (.number (String.ofList t)) rest := by
  have taken := number?_takes text ends
  obtain ⟨c, r, rfl, first⟩ := text.exists_cons
  have other : ∀ d : Char, d ≠ '-' → d.isDigit = false → c ≠ d := by
    rintro d noSign noDigit rfl
    rcases first with sign | digit
    · exact noSign sign
    · rw [noDigit] at digit
      cases digit
  rw [List.cons_append] at taken ⊢
  rw [value]
  · exact taken
  all_goals exact other _ (by decide) rfl

-- By recursion on how the text is built. What follows a value matters to numbers only: of all other
-- texts the last character says that they end.
mutual

/-- The reader takes every text of a value. -/
theorem ValueText.takes {j : Json} {t : List Char} (text : ValueText j t) {rest : List Char}
    (ends : NumberEnds rest) : (value (t ++ rest)).Takes j rest := by
  cases text with
  | word known => exact value_word known rest
  | number text => exact value_number text ends
  | @string s t text =>
    obtain ⟨ps, text, rfl⟩ := text
    obtain ⟨_, taken⟩ := pieces_takes text rest
    rw [List.cons_append, value, taken]
    exact ⟨_, rfl⟩
  | @noElement b blank =>
    rw [List.cons_append, List.append_assoc]
    exact value_noElement (skip_append_cons blank rfl rest)
  | @array js b t blank inside =>
    obtain ⟨c, r, rfl, start, other⟩ := inside.exists_cons
    rw [List.cons_append, List.append_assoc]
    exact value_array (skip_append_cons blank start _) (by simpa using other) (inside.takes rest)
  | @noMember b blank =>
    rw [List.cons_append, List.append_assoc]
    exact value_noMember (skip_append_cons blank rfl rest)
  | @object ms b t blank inside =>
    obtain ⟨r, rfl⟩ := inside.exists_cons
    rw [List.cons_append, List.append_assoc]
    exact value_object (skip_append_cons blank rfl _) (by simp) (inside.takes rest)

theorem ElementsText.takes {js : List Json} {t : List Char} (text : ElementsText js t)
    (rest : List Char) : (elements (t ++ rest)).Takes js rest := by
  cases text with
  | @last j t b text blank =>
    rw [List.append_assoc, List.append_assoc]
    exact elements_last (text.takes (numberEnds_append_cons blank (.inr (.inl rfl)) rest))
      (skip_append_cons blank rfl rest)
  | @more j js t b b' u text blank blank' later =>
    have again := later.takes rest
    obtain ⟨c, r, rfl, start, -⟩ := later.exists_cons
    rw [List.append_assoc, List.append_assoc, List.cons_append, List.append_assoc]
    refine elements_more (text.takes (numberEnds_append_cons blank (.inl rfl) _))
      (skip_append_cons blank rfl _) ?_
    rwa [List.cons_append, skip_append_cons blank' start]

theorem MemberText.past {m : Option String × Json} {t : List Char} (text : MemberText m t)
    {rest : List Char} (ends : NumberEnds rest) : PastMember (t ++ rest) m rest := by
  cases text with
  | @intro name j n b b' t string blank blank' text =>
    obtain ⟨ps, named, rfl⟩ := string
    have read := text.takes ends
    obtain ⟨c, r, rfl, start, -⟩ := text.exists_cons
    rw [List.cons_append, List.append_assoc, List.append_assoc, List.cons_append, List.append_assoc]
    refine .intro (pieces_takes named _) (skip_append_cons blank rfl _) ?_
    rwa [List.cons_append, skip_append_cons blank' start]

theorem MembersText.takes {ms : List (Option String × Json)} {t : List Char}
    (text : MembersText ms t) (rest : List Char) : (members (t ++ rest)).Takes ms rest := by
  cases text with
  | @last m t b text blank =>
    rw [List.append_assoc, List.append_assoc]
    exact members_last (text.past (numberEnds_append_cons blank (.inr (.inr rfl)) rest))
      (skip_append_cons blank rfl rest)
  | @more m ms t b b' u text blank blank' later =>
    have again := later.takes rest
    obtain ⟨r, rfl⟩ := later.exists_cons
    rw [List.append_assoc, List.append_assoc, List.cons_append, List.append_assoc]
    refine members_more (text.past (numberEnds_append_cons blank (.inl rfl) _))
      (skip_append_cons blank rfl _) ?_
    rwa [List.cons_append, skip_append_cons blank' rfl]

end

/-! Values that have a text -/

theorem exists_elementsText {j : Json} {js : List Json} (each : ∀ i ∈ j :: js, ∃ t, ValueText i t) :
    ∃ t, ElementsText (j :: js) t := by
  induction js generalizing j with
  | nil =>
    obtain ⟨t, text⟩ := each j List.mem_cons_self
    exact ⟨_, .last text blank_nil⟩
  | cons i js ih =>
    have ⟨⟨t, first⟩, rest⟩ := List.forall_mem_cons.1 each
    obtain ⟨u, later⟩ := ih rest
    exact ⟨_, .more first blank_nil blank_nil later⟩

theorem exists_membersText {m : Option String × Json} {ms : List (Option String × Json)}
    (each : ∀ i ∈ m :: ms, ∃ t, MemberText i t) : ∃ t, MembersText (m :: ms) t := by
  induction ms generalizing m with
  | nil =>
    obtain ⟨t, text⟩ := each m List.mem_cons_self
    exact ⟨_, .last text blank_nil⟩
  | cons i ms ih =>
    have ⟨⟨t, first⟩, rest⟩ := List.forall_mem_cons.1 each
    obtain ⟨u, later⟩ := ih rest
    exact ⟨_, .more first blank_nil blank_nil later⟩

theorem exists_arrayText {js : List Json} (each : ∀ j ∈ js, ∃ t, ValueText j t) :
    ∃ t, ValueText (.array js) t := by
  cases js with
  | nil => exact ⟨_, .noElement blank_nil⟩
  | cons j js =>
    obtain ⟨t, text⟩ := exists_elementsText each
    exact ⟨_, .array blank_nil text⟩

/-- An object has a text when its values have one, whatever strings its names are. -/
theorem exists_objectText {ms : List (String × Json)} (each : ∀ m ∈ ms, ∃ t, ValueText m.2 t) :
    ∃ t, ValueText (.object (ms.map fun (name, j) => (some name, j))) t := by
  have named : ∀ i ∈ ms.map fun (name, j) => (some name, j), ∃ t, MemberText i t := by
    intro i mem
    obtain ⟨⟨name, j⟩, inside, rfl⟩ := List.mem_map.1 mem
    obtain ⟨t, text⟩ := each (name, j) inside
    exact ⟨_, .intro (stringText_encoded name) blank_nil blank_nil text⟩
  cases ms with
  | nil => exact ⟨_, .noMember blank_nil⟩
  | cons m ms =>
    obtain ⟨t, text⟩ := exists_membersText named
    exact ⟨_, .object blank_nil text⟩

/-! Whole texts -/

/-- The texts of a value with blanks around it. -/
def Text (j : Json) (s : List Char) : Prop :=
  ∃ b t b', Blank b ∧ ValueText j t ∧ Blank b' ∧ s = b ++ (t ++ b')

theorem exists_text {j : Json} (text : ∃ t, ValueText j t) : ∃ s : String, Text j s.toList := by
  obtain ⟨t, text⟩ := text
  refine ⟨String.ofList t, [], t, [], blank_nil, text, blank_nil, ?_⟩
  rw [String.toList_ofList, List.append_nil, List.nil_append]

theorem parse?_of_takes {s t r : List Char} {j : Json} (inside : skip s = t)
    (read : (value t).Takes j r) (ends : skip r = []) : parse? s = some j := by
  subst inside
  obtain ⟨_, taken⟩ := read
  rw [parse?, taken]
  exact if_pos ends

/-- Every text of a value is read as this value. -/
theorem parse?_of_text {j : Json} {s : List Char} (text : Text j s) : parse? s = some j := by
  obtain ⟨b, t, b', blank, text, blank', rfl⟩ := text
  have ends : NumberEnds (b' ++ []) := numberEnds_nil.append blank'
  have left : skip (b' ++ []) = [] := by
    rw [skip_eq, Grammar.skipBlanks_append blank']
    rfl
  rw [List.append_nil] at ends left
  have read := text.takes ends
  obtain ⟨c, r, rfl, start, -⟩ := text.exists_cons
  exact parse?_of_takes (skip_append_cons blank start _) read left

end ExprLang.Json
