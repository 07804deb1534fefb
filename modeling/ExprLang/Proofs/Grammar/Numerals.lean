import ExprLang.Grammar.Numeral
import ExprLang.Proofs.Grammar.Reading

set_option autoImplicit false

/-!
Numerals and string literals that are read once more. A numeral is read from its own characters
wherever no digit, point with digits or letter follows, a string literal wherever it stands.
-/

namespace ExprLang.Grammar

theorem consumed_append (text rest : List Char) :
    consumed (text ++ rest) rest = String.ofList text := by
  rw [consumed, List.length_append, Nat.add_sub_cancel, List.take_left]

theorem isNameChar_of_isDigit {c : Char} (h : c.isDigit = true) : isNameChar c = true := by
  simp only [isNameChar, Char.isAlphanum, h, Bool.or_true, Bool.true_or]

theorem isBlank_of_isDigit {c : Char} (h : c.isDigit = true) : isBlank c = false :=
  isBlank_of_isNameChar (isNameChar_of_isDigit h)

/-- No digit follows. -/
def DigitsEnd (rest : List Char) : Prop := ∀ c ∈ rest.head?, c.isDigit = false

theorem NameEnds.digitsEnd {rest : List Char} (h : NameEnds rest) : DigitsEnd rest := by
  intro c head
  by_cases digit : c.isDigit = true
  · have none := h c head
    rw [isNameChar_of_isDigit digit] at none
    cases none
  · exact Bool.eq_false_iff.2 digit

/-- A run of digits. -/
structure DigitRun (ds : List Char) : Prop where
  nonempty : ds ≠ []
  all : ∀ c ∈ ds, c.isDigit = true

theorem digits?_append {ds rest : List Char} (h : DigitRun ds) (ends : DigitsEnd rest) :
    ∃ suffix, digits? (ds ++ rest) = some ⟨ds, rest, suffix⟩ := by
  have taken := takeWhile_append h.all ends
  have found : ∃ t, digits? (ds ++ rest) = some t ∧ t.value = (ds ++ rest).takeWhile Char.isDigit
      ∧ t.rest = (ds ++ rest).dropWhile Char.isDigit := by
    rw [digits?, if_neg (by rw [taken]; exact h.nonempty)]
    exact ⟨_, rfl, rfl, rfl⟩
  obtain ⟨t, found, value, left⟩ := found
  exact Taken.exists_of_eq found (value.trans taken) (left.trans (dropWhile_append h.all ends))

theorem digits?_of_eq {s ds rest : List Char} (split : s = ds ++ rest) (h : DigitRun ds)
    (ends : DigitsEnd rest) : ∃ suffix, digits? s = some ⟨ds, rest, suffix⟩ := by
  subst split
  exact digits?_append h ends

theorem digits?_eq_some {s : List Char} {t : Taken s (List Char)} (h : digits? s = some t) :
    s = t.value ++ t.rest ∧ DigitRun t.value ∧ DigitsEnd t.rest := by
  rw [digits?] at h
  split at h
  · cases h
  · rename_i nonempty
    cases h
    refine ⟨List.takeWhile_append_dropWhile.symm, ⟨nonempty, ?_⟩, head?_dropWhile s⟩
    exact fun c mem => List.all_eq_true.1 List.all_takeWhile c mem

theorem digits?_eq_none {s : List Char} (h : DigitsEnd s) : digits? s = none := by
  rw [digits?]
  cases s with
  | nil => rfl
  | cons c s => rw [List.takeWhile_cons_of_neg (by simp [h c rfl]), if_pos rfl]

/-! Fractions -/

theorem fraction?_append {ds rest : List Char} (h : DigitRun ds) (ends : DigitsEnd rest) :
    ∃ suffix, fraction? ('.' :: (ds ++ rest)) = some ⟨ds, rest, suffix⟩ := by
  obtain ⟨suffix, read⟩ := digits?_append h ends
  refine ⟨suffix.trans (List.suffix_cons '.' _), ?_⟩
  rw [fraction?, past?_cons, Option.bind_some, read]
  rfl

theorem fraction?_eq_some {s : List Char} {t : Taken s (List Char)} (h : fraction? s = some t) :
    s = '.' :: (t.value ++ t.rest) ∧ DigitRun t.value ∧ DigitsEnd t.rest := by
  obtain ⟨p, past, h⟩ := Option.bind_eq_some_iff.1 h
  obtain ⟨u, read, rfl⟩ := Option.map_eq_some_iff.1 h
  obtain ⟨split, digits, ends⟩ := digits?_eq_some read
  exact ⟨(past?_eq_some past).trans (congrArg ('.' :: ·) split), digits, ends⟩

theorem fraction?_eq_none {s : List Char} (h : s.head? ≠ some '.') : fraction? s = none := by
  rw [fraction?, past?_eq_none h]
  rfl

theorem fraction?_eq_none_of_digitsEnd {s : List Char} (h : DigitsEnd s) :
    fraction? ('.' :: s) = none := by
  rw [fraction?, past?_cons, Option.bind_some, digits?_eq_none h]
  rfl

/-! Signs -/

/-- A sign with blanks after it, or nothing. -/
inductive SignText : List Char → Bool → Prop
  | none : SignText [] false
  | minus {b : List Char} (blank : Blank b) : SignText ('-' :: b) true
  | plus {b : List Char} (blank : Blank b) : SignText ('+' :: b) false

theorem sign_split (s : List Char) :
    ∃ text, SignText text (sign s).value ∧ s = text ++ (sign s).rest := by
  have blanks : ∀ r : List Char, ∃ b, Blank b ∧ r = b ++ skipBlanks r := exists_blank_append
  cases minus : past? '-' s with
  | some p =>
    obtain ⟨b, blank, split⟩ := blanks p.rest
    refine ⟨'-' :: b, ?_, ?_⟩
    · simp only [sign, minus, Option.map_some]
      exact .minus blank
    · have left : (sign s).rest = skipBlanks p.rest := by simp only [sign, minus]; rfl
      rw [left]
      exact (past?_eq_some minus).trans (congrArg ('-' :: ·) split)
  | none =>
    cases plus : past? '+' s with
    | some p =>
      obtain ⟨b, blank, split⟩ := blanks p.rest
      refine ⟨'+' :: b, ?_, ?_⟩
      · simp only [sign, minus, plus]
        exact .plus blank
      · have left : (sign s).rest = skipBlanks p.rest := by simp only [sign, minus, plus]; rfl
        rw [left]
        exact (past?_eq_some plus).trans (congrArg ('+' :: ·) split)
    | none =>
      refine ⟨[], ?_, ?_⟩
      · simp only [sign, minus, plus]
        exact .none
      · simp only [sign, minus, plus]
        rfl

theorem sign_append {text ds : List Char} {negative : Bool} (h : SignText text negative)
    (digits : DigitRun ds) (rest : List Char) :
    (sign (text ++ (ds ++ rest))).value = negative
      ∧ (sign (text ++ (ds ++ rest))).rest = ds ++ rest := by
  obtain ⟨d, r, rfl⟩ := List.exists_cons_of_ne_nil digits.nonempty
  have digit := digits.all d List.mem_cons_self
  cases h with
  | none =>
    have minus : d ≠ '-' := by
      rintro rfl
      cases digit
    have plus : d ≠ '+' := by
      rintro rfl
      cases digit
    simp [sign, past?, minus, plus]
  | minus blank =>
    have skipped := skipBlanks_append_cons blank (isBlank_of_isDigit digit) (r ++ rest)
    simp only [List.cons_append, sign, past?_cons, Option.map_some]
    exact ⟨rfl, skipped⟩
  | @plus b blank =>
    have skipped := skipBlanks_append_cons blank (isBlank_of_isDigit digit) (r ++ rest)
    have minus : past? '-' ('+' :: (b ++ (d :: r ++ rest))) = none := past?_eq_none (by simp)
    simp only [List.cons_append] at minus
    simp only [List.cons_append, sign, minus, past?_cons, Option.map_some, Option.map_none]
    exact ⟨rfl, skipped⟩

/-! Digits with sign and fraction -/

/-- The characters of a numeral before its letter. -/
inductive NumeralText : List Char → Numeral → Prop
  | integer {sgn whole : List Char} {negative : Bool} (sign : SignText sgn negative)
      (digits : DigitRun whole) : NumeralText (sgn ++ whole) ⟨negative, whole, none⟩
  | real {sgn whole places : List Char} {negative : Bool} (sign : SignText sgn negative)
      (digits : DigitRun whole) (fraction : DigitRun places) :
      NumeralText (sgn ++ (whole ++ '.' :: places)) ⟨negative, whole, some places⟩

/-- What does not belong to a numeral any more. -/
structure NumeralEnds (n : Numeral) (rest : List Char) : Prop where
  digits : DigitsEnd rest
  fraction : n.fraction = none → fraction? rest = none

theorem numeralDigits?_eq_some {s : List Char} {t : Taken s Numeral}
    (h : numeralDigits? s = some t) :
    ∃ text, s = text ++ t.rest ∧ NumeralText text t.value ∧ NumeralEnds t.value t.rest := by
  obtain ⟨sgn, signed, split⟩ := sign_split s
  simp only [numeralDigits?, integerDigits?] at h
  cases read : digits? (sign s).rest with
  | none =>
    rw [read] at h
    cases h
  | some whole =>
    obtain ⟨splitWhole, digits, ends⟩ := digits?_eq_some read
    simp only [read, Option.map_some, Option.some.injEq] at h
    split at h
    · rename_i places found
      cases h
      obtain ⟨splitPlaces, fraction, endsPlaces⟩ := fraction?_eq_some found
      refine ⟨_, ?_, .real signed digits fraction, endsPlaces, by rintro ⟨⟩⟩
      refine split.trans ?_
      rw [List.append_assoc, List.append_assoc, List.cons_append, ← splitPlaces, ← splitWhole]
    · rename_i none
      cases h
      refine ⟨_, ?_, .integer signed digits, ends, fun _ => none⟩
      refine split.trans ?_
      rw [List.append_assoc, ← splitWhole]

/-- A numeral is read from its characters where it ends. -/
theorem numeralDigits?_append {text rest : List Char} {n : Numeral} (h : NumeralText text n)
    (ends : NumeralEnds n rest) :
    ∃ suffix, numeralDigits? (text ++ rest) = some ⟨n, rest, suffix⟩ := by
  cases h with
  | @integer sgn whole negative signed digits =>
    rw [List.append_assoc]
    obtain ⟨value, left⟩ := sign_append signed digits rest
    obtain ⟨suffix, read⟩ := digits?_of_eq left digits ends.digits
    refine ⟨suffix.trans (sign _).suffix, ?_⟩
    simp only [numeralDigits?, integerDigits?, read, Option.map_some, ends.fraction rfl, value]
  | @real sgn whole places negative signed digits fraction =>
    rw [List.append_assoc, List.append_assoc, List.cons_append]
    have point : DigitsEnd ('.' :: (places ++ rest)) := by
      rintro _ ⟨⟩
      rfl
    obtain ⟨value, left⟩ := sign_append signed digits ('.' :: (places ++ rest))
    obtain ⟨suffix, read⟩ := digits?_of_eq left digits point
    obtain ⟨suffix', found⟩ := fraction?_append fraction ends.digits
    refine ⟨(suffix'.trans suffix).trans (sign _).suffix, ?_⟩
    simp only [numeralDigits?, integerDigits?, read, Option.map_some, found, value]

theorem NumeralText.head {text : List Char} {n : Numeral} (h : NumeralText text n) :
    ∃ c r, text = c :: r ∧ (c = '-' ∨ c = '+' ∨ c.isDigit = true) := by
  have front : ∀ {sgn whole : List Char} {negative : Bool} (_ : SignText sgn negative)
      (_ : DigitRun whole) (more : List Char), ∃ c r, sgn ++ (whole ++ more) = c :: r
        ∧ (c = '-' ∨ c = '+' ∨ c.isDigit = true) := by
    intro sgn whole negative signed digits more
    cases signed with
    | none =>
      obtain ⟨d, r, rfl⟩ := List.exists_cons_of_ne_nil digits.nonempty
      exact ⟨d, r ++ more, rfl, .inr (.inr (digits.all d List.mem_cons_self))⟩
    | minus blank => exact ⟨_, _, rfl, .inl rfl⟩
    | plus blank => exact ⟨_, _, rfl, .inr (.inl rfl)⟩
  cases h with
  | integer signed digits => simpa using front signed digits []
  | real signed digits fraction => exact front signed digits _

/-! Letters -/

/-- What a numeral stands for when `letter` follows it, and whether the letter is part of it. -/
def Numeral.literal (n : Numeral) (letter : Option Char) : Literal × Bool :=
  let is := fun (cs : List Char) => letter.any (cs.contains ·)
  if is ['m', 'M'] then (.decimal (Decimal.parse? n.chars), true)
  else if is ['f', 'F'] then (.real (some (.single n.written.toSingle)), true)
  else if is ['d', 'D'] then (.real (some (.double n.written.toDouble)), true)
  else if n.fraction.isSome then (n.realOf, false)
  else if is ['i', 'I'] then (n.integerOf [.int32], true)
  else if is ['l', 'L'] then (n.integerOf [.int64], true)
  else (n.integerOf [.int32, .int64], false)

/-- The numeral of these digits, with its letter. -/
def Taken.numeral {s : List Char} (t : Taken s Numeral) : Taken s Expr :=
  let (literal, letter) := t.value.literal t.rest.head?
  let rest := if letter then t.rest.tail else t.rest
  have suffix : rest <:+ t.rest := by
    dsimp only [rest]
    split
    · exact List.tail_suffix _
    · exact List.suffix_refl _
  ⟨.literal literal (consumed s rest), rest, suffix.trans t.suffix⟩

/-- The letter is one of `letters`. -/
def OneOf (letters : List Char) (letter : Option Char) : Prop := ∃ c ∈ letters, letter = some c

instance (letters : List Char) (letter : Option Char) : Decidable (OneOf letters letter) :=
  List.decidableBEx (letter = some ·) letters

theorem any_contains (letters : List Char) (letter : Option Char) :
    letter.any (letters.contains ·) = decide (OneOf letters letter) := by
  cases letter with
  | none => simp [OneOf]
  | some c => simp [OneOf]

theorem oneOf_append_iff {cs ds : List Char} {letter : Option Char} :
    OneOf (cs ++ ds) letter ↔ OneOf cs letter ∨ OneOf ds letter := by
  simp only [OneOf, List.mem_append, or_and_right, exists_or]

/-- What a numeral stands for, by its letter. -/
theorem literal_eq (n : Numeral) (letter : Option Char) : n.literal letter =
    if OneOf decimalLetters letter then (.decimal (Decimal.parse? n.chars), true)
    else if OneOf ['f', 'F'] letter then (.real (some (.single n.written.toSingle)), true)
    else if OneOf ['d', 'D'] letter then (.real (some (.double n.written.toDouble)), true)
    else if n.fraction.isSome then (n.realOf, false)
    else if OneOf narrowLetters letter then (n.integerOf [.int32], true)
    else if OneOf wideLetters letter then (n.integerOf [.int64], true)
    else (n.integerOf [.int32, .int64], false) := by
  simp only [Numeral.literal, any_contains, decide_eq_true_eq]
  rfl

variable {s : List Char} {t : Taken s Numeral}

/-- The letter belongs to the numeral. -/
theorem Taken.numeral_letter {l : Taken t.rest Char} {v : Literal} (tail : t.rest.tail = l.rest)
    (own : t.value.literal t.rest.head? = (v, true)) :
    t.numeral = (l.within t.suffix).literal v := by
  simp only [numeral, own, if_true, tail, literal, within]

/-- The numeral ends before the letter. -/
theorem Taken.numeral_bare {v : Literal} (own : t.value.literal t.rest.head? = (v, false)) :
    t.numeral = t.literal v := by
  simp only [numeral, own, Bool.false_eq_true, if_false, literal]

theorem not_oneOf {cs : List Char} {letter : Option Char} {c : Char} (head : letter = some c)
    (other : c ∉ cs) : ¬ OneOf cs letter := by
  rintro ⟨d, mem, same⟩
  rw [head] at same
  cases same
  exact other mem

theorem exists_oneOf? {cs rest : List Char} (h : OneOf cs rest.head?) :
    ∃ l, oneOf? cs rest = some l ∧ l.value ∈ cs ∧ rest.head? = some l.value
      ∧ rest.tail = l.rest := by
  obtain ⟨c, mem, head⟩ := h
  obtain ⟨r, rfl⟩ := List.head?_eq_some_iff.1 head
  exact ⟨_, if_pos mem, mem, rfl, rfl⟩

theorem oneOf?_eq_none {cs rest : List Char} (h : ¬ OneOf cs rest.head?) :
    oneOf? cs rest = none := by
  cases rest with
  | nil => rfl
  | cons c r => exact if_neg fun mem => h ⟨c, mem, rfl⟩

/-! The three parsers -/

section

variable (read : numeralDigits? s = some t)

include read

theorem decimalLiteral?_of_letter (letter : OneOf decimalLetters t.rest.head?) :
    decimalLiteral? s = some t.numeral := by
  obtain ⟨l, found, -, -, tail⟩ := exists_oneOf? letter
  have own : t.value.literal t.rest.head? = (.decimal (Decimal.parse? t.value.chars), true) := by
    rw [literal_eq, if_pos letter]
  rw [decimalLiteral?, read, Option.bind_some, found, Taken.numeral_letter tail own]
  rfl

theorem decimalLiteral?_eq_none (other : ¬ OneOf decimalLetters t.rest.head?) :
    decimalLiteral? s = none := by
  rw [decimalLiteral?, read, Option.bind_some, oneOf?_eq_none other]
  rfl

theorem realLiteral?_of_letter (noDecimal : ¬ OneOf decimalLetters t.rest.head?)
    (letter : OneOf realLetters t.rest.head?) : realLiteral? s = some t.numeral := by
  obtain ⟨l, found, mem, head, tail⟩ := exists_oneOf? letter
  rw [realLiteral?, read, Option.bind_some, found]
  by_cases single : l.value ∈ ['f', 'F']
  · have own : t.value.literal t.rest.head?
        = (.real (some (.single t.value.written.toSingle)), true) := by
      rw [literal_eq, if_neg noDecimal, if_pos ⟨_, single, head⟩]
    rw [Taken.numeral_letter tail own]
    simp only [single, if_true]
  · have double : l.value ∈ ['d', 'D'] := (List.mem_append.1 mem).resolve_left single
    have own : t.value.literal t.rest.head?
        = (.real (some (.double t.value.written.toDouble)), true) := by
      rw [literal_eq, if_neg noDecimal, if_neg (not_oneOf head single), if_pos ⟨_, double, head⟩]
    rw [Taken.numeral_letter tail own]
    simp only [single, if_false]

theorem realLiteral?_of_fraction (noDecimal : ¬ OneOf decimalLetters t.rest.head?)
    (noReal : ¬ OneOf realLetters t.rest.head?) (fraction : t.value.fraction.isSome = true) :
    realLiteral? s = some t.numeral := by
  obtain ⟨noSingle, noDouble⟩ := not_or.1 (mt oneOf_append_iff.2 noReal)
  have own : t.value.literal t.rest.head? = (t.value.realOf, false) := by
    rw [literal_eq, if_neg noDecimal, if_neg noSingle, if_neg noDouble, if_pos fraction]
  rw [realLiteral?, read, Option.bind_some, oneOf?_eq_none noReal, Taken.numeral_bare own]
  exact if_pos fraction

theorem realLiteral?_eq_none (noReal : ¬ OneOf realLetters t.rest.head?)
    (whole : ¬ t.value.fraction.isSome = true) : realLiteral? s = none := by
  rw [realLiteral?, read, Option.bind_some, oneOf?_eq_none noReal]
  exact if_neg whole

/-- Without a fraction the digits are those of an integer. -/
theorem integerDigits?_of_whole (whole : ¬ t.value.fraction.isSome = true) :
    integerDigits? s = some t := by
  obtain ⟨u, digits, same⟩ := Option.map_eq_some_iff.1 read
  cases found : fraction? u.rest with
  | none =>
    simp only [found] at same
    rw [digits, same]
  | some places =>
    simp only [found] at same
    rw [← same] at whole
    exact absurd rfl whole

theorem integerLiteral?_of_whole (noDecimal : ¬ OneOf decimalLetters t.rest.head?)
    (noReal : ¬ OneOf realLetters t.rest.head?) (whole : ¬ t.value.fraction.isSome = true) :
    integerLiteral? s = some t.numeral := by
  obtain ⟨noSingle, noDouble⟩ := not_or.1 (mt oneOf_append_iff.2 noReal)
  rw [integerLiteral?, integerDigits?_of_whole read whole, Option.map_some]
  by_cases letter : OneOf integerLetters t.rest.head?
  · obtain ⟨l, found, mem, head, tail⟩ := exists_oneOf? letter
    rw [found]
    by_cases narrow : l.value ∈ narrowLetters
    · have own : t.value.literal t.rest.head? = (t.value.integerOf [.int32], true) := by
        rw [literal_eq, if_neg noDecimal, if_neg noSingle, if_neg noDouble, if_neg whole,
          if_pos ⟨_, narrow, head⟩]
      rw [Taken.numeral_letter tail own]
      simp only [narrow, if_true]
    · have wide : l.value ∈ wideLetters := (List.mem_append.1 mem).resolve_left narrow
      have own : t.value.literal t.rest.head? = (t.value.integerOf [.int64], true) := by
        rw [literal_eq, if_neg noDecimal, if_neg noSingle, if_neg noDouble, if_neg whole,
          if_neg (not_oneOf head narrow), if_pos ⟨_, wide, head⟩]
      rw [Taken.numeral_letter tail own]
      simp only [narrow, if_false]
  · obtain ⟨noNarrow, noWide⟩ := not_or.1 (mt oneOf_append_iff.2 letter)
    have own : t.value.literal t.rest.head? = (t.value.integerOf [.int32, .int64], false) := by
      rw [literal_eq, if_neg noDecimal, if_neg noSingle, if_neg noDouble, if_neg whole,
        if_neg noNarrow, if_neg noWide]
    rw [oneOf?_eq_none letter, Taken.numeral_bare own]

end

/-- The sorts of numerals are told apart by the fraction and the letter alone. -/
theorem numeral?_eq (s : List Char) : numeral? s = (numeralDigits? s).map Taken.numeral := by
  rw [numeral?]
  cases read : numeralDigits? s with
  | none =>
    rw [decimalLiteral?, realLiteral?, integerLiteral?, read, Option.map_eq_none_iff.1 read]
    rfl
  | some t =>
    by_cases decimal : OneOf decimalLetters t.rest.head?
    · rw [decimalLiteral?_of_letter read decimal]
      rfl
    rw [decimalLiteral?_eq_none read decimal]
    by_cases real : OneOf realLetters t.rest.head?
    · rw [realLiteral?_of_letter read decimal real]
      rfl
    by_cases fraction : t.value.fraction.isSome = true
    · rw [realLiteral?_of_fraction read decimal real fraction]
      rfl
    · rw [realLiteral?_eq_none read real fraction, integerLiteral?_of_whole read decimal real fraction]
      rfl

/-- The letters that tell the kind of a numeral. -/
def kindLetters : List Char := ['m', 'M', 'f', 'F', 'd', 'D', 'i', 'I', 'l', 'L']

theorem isNameChar_of_mem_kindLetters {c : Char} (h : c ∈ kindLetters) :
    isNameChar c = true ∧ c ≠ '.' ∧ c.isDigit = false := by
  have all : (kindLetters.all fun c => isNameChar c = true ∧ c ≠ '.' ∧ c.isDigit = false) = true :=
    by decide
  exact of_decide_eq_true (List.all_eq_true.1 all c h)

theorem literal_none (n : Numeral) : n.literal none =
    if n.fraction.isSome then (n.realOf, false) else (n.integerOf [.int32, .int64], false) :=
  rfl

/-- No other character has a meaning for the numeral. -/
theorem literal_of_not_mem {n : Numeral} {letter : Option Char}
    (h : ∀ c ∈ letter, c ∉ kindLetters) : n.literal letter = n.literal none := by
  have none : ∀ cs : List Char, cs.all (kindLetters.contains ·) = true →
      letter.any (cs.contains ·) = false := by
    intro cs sub
    simp only [List.all_eq_true, List.contains_iff_mem] at sub
    rw [any_contains, decide_eq_false_iff_not]
    rintro ⟨c, mem, rfl⟩
    exact h c rfl (sub c mem)
  rw [literal_none]
  simp only [Numeral.literal, none ['m', 'M'] (by decide), none ['f', 'F'] (by decide),
    none ['d', 'D'] (by decide), none ['i', 'I'] (by decide), none ['l', 'L'] (by decide),
    Bool.false_eq_true, if_false]

/-- A letter that belongs to a numeral is one that tells a kind. -/
theorem mem_kindLetters {n : Numeral} {letter : Option Char} (h : (n.literal letter).2 = true) :
    ∃ c, letter = some c ∧ c ∈ kindLetters := by
  by_cases plain : ∀ c ∈ letter, c ∉ kindLetters
  · rw [literal_of_not_mem plain, literal_none] at h
    split at h <;> cases h
  · cases letter with
    | none => simp at plain
    | some c => exact ⟨c, rfl, by simpa using plain⟩

theorem literal_eq_none {n : Numeral} {letter : Option Char} (h : (n.literal letter).2 = false) :
    n.literal letter = n.literal none := by
  rw [literal_none]
  by_cases m : letter.any (['m', 'M'].contains ·) = true
  · simp only [Numeral.literal, m, if_true] at h
    cases h
  by_cases f : letter.any (['f', 'F'].contains ·) = true
  · simp only [Numeral.literal, m, f, if_true, Bool.false_eq_true, if_false] at h
    cases h
  by_cases d : letter.any (['d', 'D'].contains ·) = true
  · simp only [Numeral.literal, m, f, d, if_true, Bool.false_eq_true, if_false] at h
    cases h
  by_cases fraction : n.fraction.isSome = true
  · simp only [Numeral.literal, m, f, d, fraction, Bool.false_eq_true, if_true, if_false]
  by_cases i : letter.any (['i', 'I'].contains ·) = true
  · simp only [Numeral.literal, m, f, d, fraction, i, if_true, Bool.false_eq_true, if_false] at h
    cases h
  by_cases l : letter.any (['l', 'L'].contains ·) = true
  · simp only [Numeral.literal, m, f, d, fraction, i, l, if_true, Bool.false_eq_true, if_false]
      at h
    cases h
  simp only [Numeral.literal, m, f, d, i, l, fraction, Bool.false_eq_true, if_false]

/-- What ends a name is no letter of a numeral. -/
theorem literal_of_nameEnds {n : Numeral} {rest : List Char} (ends : NameEnds rest) :
    n.literal rest.head? = n.literal none := by
  refine literal_of_not_mem fun c head mem => ?_
  have other := ends c head
  rw [(isNameChar_of_mem_kindLetters mem).1] at other
  cases other

theorem numeralEnds_cons {c : Char} (h : c ∈ kindLetters) (n : Numeral) (rest : List Char) :
    NumeralEnds n (c :: rest) := by
  obtain ⟨-, noPoint, noDigit⟩ := isNameChar_of_mem_kindLetters h
  constructor
  · rintro _ ⟨⟩
    exact noDigit
  · intro _
    exact fraction?_eq_none (by simpa using noPoint)

/-- A letter that belongs to a numeral is read with it, whatever follows. -/
theorem numeral?_append_of_letter {text : List Char} {n : Numeral} (written : NumeralText text n)
    {c : Char} {v : Literal} (own : n.literal (some c) = (v, true)) (rest : List Char) :
    ∃ suffix, numeral? (text ++ c :: rest)
      = some ⟨.literal v (String.ofList (text ++ [c])), rest, suffix⟩ := by
  obtain ⟨_, here, kind⟩ := mem_kindLetters (congrArg Prod.snd own)
  obtain rfl := Option.some.inj here
  obtain ⟨suffix, digits⟩ := numeralDigits?_append written (numeralEnds_cons kind n rest)
  have source : consumed (text ++ c :: rest) rest = String.ofList (text ++ [c]) := by
    rw [List.append_cons, consumed_append]
  simp only [numeral?_eq, digits, Option.map_some, Taken.numeral, List.head?_cons, own, if_true,
    List.tail_cons, source]
  exact ⟨(List.suffix_cons c rest).trans suffix, trivial⟩

/-- What is no letter of a numeral is left. -/
theorem numeral?_append_of_left {text rest : List Char} {n : Numeral}
    (written : NumeralText text n) (ends : NumeralEnds n rest) {v : Literal}
    (own : n.literal rest.head? = (v, false)) :
    ∃ suffix, numeral? (text ++ rest) = some ⟨.literal v (String.ofList text), rest, suffix⟩ := by
  obtain ⟨suffix, digits⟩ := numeralDigits?_append written ends
  simp only [numeral?_eq, digits, Option.map_some, Taken.numeral, own, Bool.false_eq_true, if_false,
    consumed_append]
  exact ⟨suffix, trivial⟩

/-- A numeral is read from its own characters where no name goes on and no fraction begins. -/
theorem numeral?_eq_some {s : List Char} {t : Taken s Expr} (h : numeral? s = some t) :
    ∃ v source, t.value = .literal v source ∧ s = source.toList ++ t.rest
      ∧ (∃ c r, source.toList = c :: r ∧ (c = '-' ∨ c = '+' ∨ c.isDigit = true))
      ∧ ∀ rest, NameEnds rest → fraction? rest = none →
        ∃ suffix, numeral? (source.toList ++ rest) = some ⟨.literal v source, rest, suffix⟩ := by
  obtain ⟨⟨n, left, _⟩, read, -⟩ := Option.map_eq_some_iff.1 ((numeral?_eq s).symm.trans h)
  obtain ⟨text, split, written, ends⟩ := numeralDigits?_eq_some read
  dsimp only at split written ends
  subst split
  obtain ⟨c, r, head, first⟩ := written.head
  obtain ⟨v, own⟩ : ∃ v, n.literal left.head? = (v, (n.literal left.head?).2) := ⟨_, rfl⟩
  cases letter : (n.literal left.head?).2 with
  | true =>
    obtain ⟨d, here, -⟩ := mem_kindLetters letter
    obtain ⟨more, rfl⟩ := List.head?_eq_some_iff.1 here
    rw [letter, here] at own
    obtain ⟨_, again⟩ := numeral?_append_of_letter written own more
    obtain rfl := Option.some.inj (h.symm.trans again)
    refine ⟨v, String.ofList (text ++ [d]), rfl, ?_, ?_, fun rest _ _ => ?_⟩
    · rw [String.toList_ofList, ← List.append_cons]
    · rw [String.toList_ofList, head]
      exact ⟨c, r ++ [d], rfl, first⟩
    · rw [String.toList_ofList, ← List.append_cons]
      exact numeral?_append_of_letter written own rest
  | false =>
    rw [letter] at own
    obtain ⟨_, again⟩ := numeral?_append_of_left written ends own
    obtain rfl := Option.some.inj (h.symm.trans again)
    refine ⟨v, String.ofList text, rfl, ?_, ?_, fun rest nameEnds noFraction => ?_⟩
    · rw [String.toList_ofList]
    · rw [String.toList_ofList]
      exact ⟨c, r, head, first⟩
    · rw [String.toList_ofList]
      have same : n.literal rest.head? = (v, false) := by
        rw [literal_of_nameEnds nameEnds, ← literal_eq_none letter, own]
      exact numeral?_append_of_left written ⟨nameEnds.digitsEnd, fun _ => noFraction⟩ same

theorem numeral?_eq_none {s : List Char}
    (h : ∀ c ∈ s.head?, c ≠ '-' ∧ c ≠ '+' ∧ c.isDigit = false) : numeral? s = none := by
  cases found : numeral? s with
  | none => rfl
  | some t =>
    obtain ⟨v, source, -, split, ⟨c, r, head, first⟩, -⟩ := numeral?_eq_some found
    obtain ⟨minus, plus, digit⟩ := h c (by rw [split, head]; rfl)
    rcases first with rfl | rfl | first
    · exact absurd rfl minus
    · exact absurd rfl plus
    · rw [digit] at first
      cases first

end ExprLang.Grammar
