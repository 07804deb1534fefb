import ExprLang.Grammar.Expression
import ExprLang.Proofs.Grammar.Numerals
import ExprLang.Proofs.Grammar.Words

set_option autoImplicit false

/-!
Literals that are read once more. The text of a literal is read as the same literal wherever nothing
follows that could be taken for more of it.
-/

namespace ExprLang.Grammar

/-! Strings -/

/-- The characters up to the closing quote are read as the same string, whatever follows. -/
theorem body_takes {quote : Char} {s cs left : List Char}
    (h : (StringLiteral.body quote s).Takes cs left) :
    ∃ text, s = text ++ left
      ∧ ∀ rest, (StringLiteral.body quote (text ++ rest)).Takes cs rest := by
  induction s using StringLiteral.body.induct quote generalizing cs left with
  | case1 =>
    obtain ⟨_, taken⟩ := h
    cases taken
  | case2 s =>
    have closing : ∀ rest, (StringLiteral.body quote (quote :: rest)).Takes [] rest := by
      intro rest
      rw [StringLiteral.body.eq_def]
      dsimp only
      rw [if_pos rfl]
      exact ⟨_, rfl⟩
    obtain ⟨rfl, rfl⟩ := h.unique (closing s)
    exact ⟨[quote], rfl, closing⟩
  | case3 other =>
    obtain ⟨_, taken⟩ := h
    rw [StringLiteral.body, if_neg other, if_pos rfl] at taken
    cases taken
  | case4 e s none other =>
    obtain ⟨_, taken⟩ := h
    rw [StringLiteral.body, if_neg other, if_pos rfl] at taken
    simp only [none] at taken
    cases taken
  | case5 e s d escape other ih =>
    have step : ∀ (r ds rest : List Char), (StringLiteral.body quote ('\\' :: e :: r)).Takes ds rest
        ↔ ∃ cs, (StringLiteral.body quote r).Takes cs rest ∧ d :: cs = ds := by
      intro r ds rest
      rw [StringLiteral.body, if_neg other, if_pos rfl]
      simp only [escape]
      rw [Reading.takes_within_iff, Reading.takes_map_iff]
    obtain ⟨cs, taken, rfl⟩ := (step s _ _).1 h
    obtain ⟨text, split, again⟩ := ih taken
    refine ⟨'\\' :: e :: text, by rw [split]; rfl, fun rest => ?_⟩
    exact (step (text ++ rest) _ _).2 ⟨cs, again rest, rfl⟩
  | case6 e s other plain ih =>
    have step : ∀ (r ds rest : List Char), (StringLiteral.body quote (e :: r)).Takes ds rest
        ↔ ∃ cs, (StringLiteral.body quote r).Takes cs rest ∧ e :: cs = ds := by
      intro r ds rest
      rw [StringLiteral.body.eq_def]
      dsimp only
      rw [if_neg other, if_neg plain, Reading.takes_within_iff, Reading.takes_map_iff]
    obtain ⟨cs, taken, rfl⟩ := (step s _ _).1 h
    obtain ⟨text, split, again⟩ := ih taken
    refine ⟨e :: text, by rw [split]; rfl, fun rest => ?_⟩
    exact (step (text ++ rest) _ _).2 ⟨cs, again rest, rfl⟩

theorem stringLiteral_cons_takes_iff {quote : Char} {s left : List Char} {v : Literal} :
    (stringLiteral quote (quote :: s)).Takes v left
      ↔ ∃ cs, (StringLiteral.body quote s).Takes cs left ∧ .string (String.ofList cs) = v := by
  simp only [stringLiteral, past?_cons]
  rw [Reading.takes_within_iff, Reading.takes_map_iff]

/-- A string literal is read from its own characters, whatever follows. -/
theorem stringLiteral_takes {quote : Char} {s left : List Char} {v : Literal}
    (h : (stringLiteral quote s).Takes v left) :
    ∃ text, s = quote :: (text ++ left)
      ∧ ∀ rest, (stringLiteral quote (quote :: (text ++ rest))).Takes v rest := by
  have quoted : ∃ r, s = quote :: r := by
    obtain ⟨_, taken⟩ := h
    cases opening : past? quote s with
    | none =>
      simp only [stringLiteral, opening] at taken
      cases taken
    | some p => exact ⟨p.rest, past?_eq_some opening⟩
  obtain ⟨r, rfl⟩ := quoted
  obtain ⟨cs, taken, value⟩ := stringLiteral_cons_takes_iff.1 h
  obtain ⟨text, split, again⟩ := body_takes taken
  refine ⟨text, by rw [split], fun rest => ?_⟩
  exact stringLiteral_cons_takes_iff.2 ⟨cs, again rest, value⟩

theorem stringLiteral_faults {quote : Char} {s : List Char} (h : s.head? ≠ some quote) :
    (stringLiteral quote s).Faults := by
  simp only [stringLiteral, past?_eq_none h]
  exact ⟨_, rfl⟩

/-! Words -/

theorem wordLiteral_eq_ok {v : Literal} {word : String} {ignoreCase : Bool} {s : List Char}
    {t : Taken s Expr} (plain : PlainWord word.toList)
    (h : wordLiteral v word ignoreCase s = .ok t) :
    ∃ source, t.value = .literal v source ∧ s = source.toList ++ t.rest
      ∧ isName source.toList = true ∧ namesEqual ignoreCase source word = true := by
  obtain ⟨u, found, rfl⟩ := Reading.map_eq_ok_iff.1 h
  obtain ⟨split, named, -, same⟩ := keyword_eq_ok plain found
  exact ⟨u.value, rfl, split, named, same⟩

theorem wordLiteral_append {v : Literal} {word source : String} {ignoreCase : Bool}
    {rest : List Char} (plain : PlainWord word.toList) (named : isName source.toList = true)
    (ends : NameEnds rest) (same : namesEqual ignoreCase source word = true) :
    (wordLiteral v word ignoreCase (source.toList ++ rest)).Takes (.literal v source) rest :=
  Reading.takes_map_iff.2 ⟨source, keyword_append plain named ends same, rfl⟩

theorem wordLiteral_faults {v : Literal} {word name : String} {ignoreCase : Bool}
    {rest : List Char} (plain : PlainWord word.toList) (named : isName name.toList = true)
    (ends : NameEnds rest) (other : namesEqual ignoreCase name word = false) :
    (wordLiteral v word ignoreCase (name.toList ++ rest)).Faults :=
  Reading.map_faults_iff.2 (keyword_faults plain named ends other)

theorem wordLiteral_faults_of_head {v : Literal} {word : String} {ignoreCase : Bool}
    {s : List Char} (plain : PlainWord word.toList) (h : ∀ c ∈ s.head?, isNameStart c = false) :
    (wordLiteral v word ignoreCase s).Faults :=
  Reading.map_faults_iff.2 (keyword_faults_of_head plain h)

/-! Literals -/

variable {o : Options} {s : List Char}

theorem literal_of_null {t : Taken s Expr}
    (null : wordLiteral .null o.nullWord o.ignoreNullCase s = .ok t) : literal o s = .ok t :=
  Reading.orElse_of_ok null

theorem literal_of_numeral {t : Taken s Expr}
    (null : (wordLiteral .null o.nullWord o.ignoreNullCase s).Faults)
    (numeral : numeral? s = some t) : literal o s = .ok t := by
  rw [literal, Reading.orElse_of_faults null]
  exact Reading.orElse_of_ok (Reading.ofOption_eq_ok_iff.2 numeral)

/-- The alternatives before the words of truth values do not fit. -/
structure NoNullOrNumeral (o : Options) (s : List Char) : Prop where
  null : (wordLiteral .null o.nullWord o.ignoreNullCase s).Faults
  numeral : numeral? s = none

/-- The alternatives before a string literal do not fit. -/
structure NoSimpleLiteral (o : Options) (s : List Char) : Prop extends NoNullOrNumeral o s where
  isTrue : (wordLiteral (.boolean true) o.trueWord o.ignoreBooleanCase s).Faults
  isFalse : (wordLiteral (.boolean false) o.falseWord o.ignoreBooleanCase s).Faults

theorem NoNullOrNumeral.literal_eq (h : NoNullOrNumeral o s) : literal o s =
    (wordLiteral (.boolean true) o.trueWord o.ignoreBooleanCase s).orElse fun _ =>
    (wordLiteral (.boolean false) o.falseWord o.ignoreBooleanCase s).orElse fun _ =>
    quotedLiteral o s := by
  rw [literal, Reading.orElse_of_faults h.null,
    Reading.orElse_of_faults (Reading.ofOption_faults_iff.2 h.numeral)]

theorem literal_of_true {t : Taken s Expr} (h : NoNullOrNumeral o s)
    (isTrue : wordLiteral (.boolean true) o.trueWord o.ignoreBooleanCase s = .ok t) :
    literal o s = .ok t := by
  rw [h.literal_eq]
  exact Reading.orElse_of_ok isTrue

theorem literal_of_false {t : Taken s Expr} (h : NoNullOrNumeral o s)
    (isTrue : (wordLiteral (.boolean true) o.trueWord o.ignoreBooleanCase s).Faults)
    (isFalse : wordLiteral (.boolean false) o.falseWord o.ignoreBooleanCase s = .ok t) :
    literal o s = .ok t := by
  rw [h.literal_eq, Reading.orElse_of_faults isTrue]
  exact Reading.orElse_of_ok isFalse

theorem NoSimpleLiteral.literal_eq (h : NoSimpleLiteral o s) :
    literal o s = quotedLiteral o s := by
  rw [h.toNoNullOrNumeral.literal_eq, Reading.orElse_of_faults h.isTrue,
    Reading.orElse_of_faults h.isFalse]

/-- A literal is that of the first alternative that does not end with a fault. -/
theorem literal_ok_cases {t : Taken s Expr} (h : literal o s = .ok t) :
    wordLiteral .null o.nullWord o.ignoreNullCase s = .ok t ∨ numeral? s = some t
      ∨ wordLiteral (.boolean true) o.trueWord o.ignoreBooleanCase s = .ok t
      ∨ wordLiteral (.boolean false) o.falseWord o.ignoreBooleanCase s = .ok t
      ∨ NoSimpleLiteral o s ∧ quotedLiteral o s = .ok t := by
  simp only [literal, Reading.orElse_eq_ok_iff, Reading.ofOption_eq_ok_iff,
    Reading.ofOption_faults_iff] at h
  rcases h with null | ⟨noNull, numeral | ⟨noNumeral, isTrue | ⟨noTrue, isFalse | ⟨noFalse, quoted⟩⟩⟩⟩
  · exact .inl null
  · exact .inr (.inl numeral)
  · exact .inr (.inr (.inl isTrue))
  · exact .inr (.inr (.inr (.inl isFalse)))
  · exact .inr (.inr (.inr (.inr ⟨⟨⟨noNull, noNumeral⟩, noTrue, noFalse⟩, quoted⟩)))

/-- The word is tried for a literal: nothing before it fits. -/
inductive TriesLiteral (o : Options) (s : List Char) : String → Bool → Prop
  | null : TriesLiteral o s o.nullWord o.ignoreNullCase
  | isTrue (before : NoNullOrNumeral o s) : TriesLiteral o s o.trueWord o.ignoreBooleanCase
  | isFalse (before : NoNullOrNumeral o s)
      (noTrue : (wordLiteral (.boolean true) o.trueWord o.ignoreBooleanCase s).Faults) :
      TriesLiteral o s o.falseWord o.ignoreBooleanCase

theorem wordLiteral_eq_hard_iff {v : Literal} {word : String} {ignoreCase : Bool} {f : Fault} :
    wordLiteral v word ignoreCase s = .hard f ↔ keyword word ignoreCase s = .hard f :=
  Reading.map_eq_hard_iff

theorem quotedLiteral_eq_hard_iff {f : Fault} :
    quotedLiteral o s = .hard f ↔ stringLiteral o.quote.char s = .hard f := by
  rw [quotedLiteral]
  cases stringLiteral o.quote.char s <;> simp

/-- A hard fault of a literal is that of a word or that of a string literal. -/
theorem literal_eq_hard_iff {f : Fault} : literal o s = .hard f
    ↔ (∃ word ignoreCase, TriesLiteral o s word ignoreCase ∧ keyword word ignoreCase s = .hard f)
      ∨ NoSimpleLiteral o s ∧ stringLiteral o.quote.char s = .hard f := by
  simp only [literal, Reading.orElse_eq_hard_iff, Reading.ofOption_faults_iff,
    Reading.ofOption_ne_hard, false_or, wordLiteral_eq_hard_iff, quotedLiteral_eq_hard_iff]
  constructor
  · rintro (null | ⟨noNull, noNumeral, isTrue | ⟨noTrue, isFalse | ⟨noFalse, string⟩⟩⟩)
    · exact .inl ⟨_, _, .null, null⟩
    · exact .inl ⟨_, _, .isTrue ⟨noNull, noNumeral⟩, isTrue⟩
    · exact .inl ⟨_, _, .isFalse ⟨noNull, noNumeral⟩ noTrue, isFalse⟩
    · exact .inr ⟨⟨⟨noNull, noNumeral⟩, noTrue, noFalse⟩, string⟩
  · rintro (⟨word, ignoreCase, tried, failed⟩ | ⟨simple, string⟩)
    · cases tried with
      | null => exact .inl failed
      | isTrue before => exact .inr ⟨before.null, before.numeral, .inl failed⟩
      | isFalse before noTrue =>
        exact .inr ⟨before.null, before.numeral, .inr ⟨noTrue, .inl failed⟩⟩
    · exact .inr ⟨simple.null, simple.numeral, .inr ⟨simple.isTrue, .inr ⟨simple.isFalse, string⟩⟩⟩

theorem quotedLiteral_takes_iff {e : Expr} {left : List Char} : (quotedLiteral o s).Takes e left
    ↔ ∃ v, (stringLiteral o.quote.char s).Takes v left ∧ .literal v (consumed s left) = e := by
  rw [quotedLiteral]
  cases stringLiteral o.quote.char s with
  | ok t =>
    constructor
    · rintro ⟨_, ⟨⟩⟩
      exact ⟨t.value, ⟨t.suffix, rfl⟩, rfl⟩
    · rintro ⟨v, ⟨_, ⟨⟩⟩, rfl⟩
      exact ⟨_, rfl⟩
  | fault f => simp [Reading.not_takes_fault]
  | hard f => simp [Reading.not_takes_hard]

theorem NoSimpleLiteral.takes_iff (h : NoSimpleLiteral o s) {e : Expr} {left : List Char} :
    (literal o s).Takes e left
      ↔ ∃ v, (stringLiteral o.quote.char s).Takes v left ∧ .literal v (consumed s left) = e := by
  rw [h.literal_eq, quotedLiteral_takes_iff]

theorem NoSimpleLiteral.faults (h : NoSimpleLiteral o s)
    (string : (stringLiteral o.quote.char s).Faults) : (literal o s).Faults := by
  obtain ⟨f, fault⟩ := string
  rw [h.literal_eq, quotedLiteral, fault]
  exact Reading.fault_faults f

theorem exists_literal_of_takes {e : Expr} {left : List Char} (h : (literal o s).Takes e left) :
    ∃ v source, e = .literal v source := by
  have words : ∀ {v : Literal} {word : String} {ignoreCase : Bool} {t : Taken s Expr},
      wordLiteral v word ignoreCase s = .ok t → ∃ w source, t.value = .literal w source := by
    intro v word ignoreCase t found
    obtain ⟨u, -, rfl⟩ := Reading.map_eq_ok_iff.1 found
    exact ⟨v, u.value, rfl⟩
  obtain ⟨suffix, read⟩ := h
  rcases literal_ok_cases read with null | numeral | isTrue | isFalse | ⟨-, quoted⟩
  · exact words null
  · obtain ⟨v, source, value, -⟩ := numeral?_eq_some numeral
    exact ⟨v, source, value⟩
  · exact words isTrue
  · exact words isFalse
  · obtain ⟨v, -, rfl⟩ := quotedLiteral_takes_iff.1 ⟨suffix, quoted⟩
    exact ⟨v, _, rfl⟩

/-- What stands at the front of a quoted text. -/
theorem quote_char (q : Quote) : isBlank q.char = false ∧ isNameChar q.char = false
    ∧ q.char ≠ '-' ∧ q.char ≠ '+' ∧ q.char ≠ '(' ∧ q.char ≠ ')' := by
  cases q <;> decide

theorem not_numeral_of_isNameStart {c : Char} (h : isNameStart c = true) :
    c ≠ '-' ∧ c ≠ '+' ∧ c.isDigit = false :=
  forall_ascii (P := fun c => isNameStart c = true → c ≠ '-' ∧ c ≠ '+' ∧ c.isDigit = false)
    (by decide) (toNat_lt_of_isNameChar (isNameChar_of_isNameStart h)) h

theorem numeral?_eq_none_of_isName {cs : List Char} (h : isName cs = true) (rest : List Char) :
    numeral? (cs ++ rest) = none := by
  obtain ⟨c, r, rfl, start, -⟩ := isName_iff.1 h
  refine numeral?_eq_none fun d head => ?_
  cases head
  exact not_numeral_of_isNameStart start

theorem stringLiteral_faults_of_isName (q : Quote) {cs : List Char} (h : isName cs = true)
    (rest : List Char) : (stringLiteral q.char (cs ++ rest)).Faults := by
  refine stringLiteral_faults ?_
  obtain ⟨c, r, rfl, start, -⟩ := isName_iff.1 h
  rintro ⟨⟩
  obtain ⟨-, noName, -⟩ := quote_char q
  rw [isNameChar_of_isNameStart start] at noName
  cases noName

/-- A text that is a literal wherever nothing follows that could belong to it. -/
structure LiteralText (o : Options) (v : Literal) (source : String) : Prop where
  start : ∃ c r, source.toList = c :: r ∧ isBlank c = false
  reads : ∀ rest, NameEnds rest → fraction? rest = none →
    (literal o (source.toList ++ rest)).Takes (.literal v source) rest

theorem start_of_isName {cs : List Char} (h : isName cs = true) :
    ∃ c r, cs = c :: r ∧ isBlank c = false := by
  obtain ⟨c, r, eq, start, -⟩ := isName_iff.1 h
  exact ⟨c, r, eq, isBlank_of_isNameChar (isNameChar_of_isNameStart start)⟩

section Texts

variable (words : o.UsualWords)

include words

theorem plain_null : PlainWord o.nullWord.toList := .of_mem (by rw [words.null]; decide)

theorem plain_true : PlainWord o.trueWord.toList := .of_mem (by rw [words.true]; decide)

theorem plain_false : PlainWord o.falseWord.toList := .of_mem (by rw [words.false]; decide)

/-- Only strings are literals that begin with none of the characters of the others. -/
theorem noSimpleLiteral_of_head
    (h : ∀ c ∈ s.head?, isNameChar c = false ∧ c ≠ '-' ∧ c ≠ '+') : NoSimpleLiteral o s := by
  have noName : ∀ c ∈ s.head?, isNameStart c = false := by
    intro c head
    refine Bool.eq_false_iff.2 fun start => ?_
    have none := (h c head).1
    rw [isNameChar_of_isNameStart start] at none
    cases none
  have noDigit : ∀ c ∈ s.head?, c ≠ '-' ∧ c ≠ '+' ∧ c.isDigit = false := by
    intro c head
    obtain ⟨none, minus, plus⟩ := h c head
    refine ⟨minus, plus, Bool.eq_false_iff.2 fun digit => ?_⟩
    rw [isNameChar_of_isDigit digit] at none
    cases none
  exact ⟨⟨wordLiteral_faults_of_head (plain_null words) noName, numeral?_eq_none noDigit⟩,
    wordLiteral_faults_of_head (plain_true words) noName,
    wordLiteral_faults_of_head (plain_false words) noName⟩

theorem literalText_null {source : String} (named : isName source.toList = true)
    (same : namesEqual o.ignoreNullCase source o.nullWord = true) :
    LiteralText o .null source where
  start := start_of_isName named
  reads rest ends _ := by
    obtain ⟨suffix, found⟩ := wordLiteral_append (plain_null words) named ends same
    exact ⟨suffix, literal_of_null found⟩

theorem literalText_true {source : String} (named : isName source.toList = true)
    (same : namesEqual o.ignoreBooleanCase source o.trueWord = true) :
    LiteralText o (.boolean true) source where
  start := start_of_isName named
  reads rest ends _ := by
    have noNull : namesEqual o.ignoreNullCase source o.nullWord = false :=
      namesEqual_eq_false_of_same same (by rw [words.true, words.null]; decide)
    obtain ⟨suffix, found⟩ := wordLiteral_append (plain_true words) named ends same
    exact ⟨suffix, literal_of_true ⟨wordLiteral_faults (plain_null words) named ends noNull,
      numeral?_eq_none_of_isName named rest⟩ found⟩

theorem literalText_false {source : String} (named : isName source.toList = true)
    (same : namesEqual o.ignoreBooleanCase source o.falseWord = true) :
    LiteralText o (.boolean false) source where
  start := start_of_isName named
  reads rest ends _ := by
    have noNull : namesEqual o.ignoreNullCase source o.nullWord = false :=
      namesEqual_eq_false_of_same same (by rw [words.false, words.null]; decide)
    have noTrue : namesEqual o.ignoreBooleanCase source o.trueWord = false :=
      namesEqual_eq_false_of_same same (by rw [words.false, words.true]; decide)
    obtain ⟨suffix, found⟩ := wordLiteral_append (plain_false words) named ends same
    exact ⟨suffix, literal_of_false ⟨wordLiteral_faults (plain_null words) named ends noNull,
      numeral?_eq_none_of_isName named rest⟩
      (wordLiteral_faults (plain_true words) named ends noTrue) found⟩

theorem literalText_numeral {v : Literal} {source : String} {c : Char} {r : List Char}
    (head : source.toList = c :: r) (first : c = '-' ∨ c = '+' ∨ c.isDigit = true)
    (reads : ∀ rest, NameEnds rest → fraction? rest = none →
      ∃ suffix, numeral? (source.toList ++ rest) = some ⟨.literal v source, rest, suffix⟩) :
    LiteralText o v source where
  start := by
    refine ⟨c, r, head, ?_⟩
    rcases first with rfl | rfl | digit
    · rfl
    · rfl
    · exact isBlank_of_isDigit digit
  reads rest ends fraction := by
    have noName : ∀ d ∈ (source.toList ++ rest).head?, isNameStart d = false := by
      rw [head]
      rintro _ ⟨⟩
      refine Bool.eq_false_iff.2 fun start => ?_
      obtain ⟨minus, plus, noDigit⟩ := not_numeral_of_isNameStart start
      rcases first with rfl | rfl | digit
      · exact minus rfl
      · exact plus rfl
      · rw [noDigit] at digit
        cases digit
    have noNull : (wordLiteral .null o.nullWord o.ignoreNullCase (source.toList ++ rest)).Faults :=
      wordLiteral_faults_of_head (plain_null words) noName
    obtain ⟨suffix, found⟩ := reads rest ends fraction
    exact ⟨suffix, literal_of_numeral noNull found⟩

theorem literalText_string {v : Literal} {text : List Char}
    (reads : ∀ rest, (stringLiteral o.quote.char (o.quote.char :: (text ++ rest))).Takes v rest) :
    LiteralText o v (String.ofList (o.quote.char :: text)) := by
  obtain ⟨blank, name, minus, plus, -⟩ := quote_char o.quote
  refine ⟨⟨o.quote.char, text, String.toList_ofList, blank⟩, fun rest _ _ => ?_⟩
  rw [String.toList_ofList, List.cons_append]
  refine (noSimpleLiteral_of_head words ?_).takes_iff.2 ⟨v, reads rest, ?_⟩
  · rintro _ ⟨⟩
    exact ⟨name, minus, plus⟩
  · rw [← List.cons_append, consumed_append]

/-- What is read as a literal is the text of that literal. -/
theorem literal_takes {e : Expr} {left : List Char} (h : (literal o s).Takes e left) :
    ∃ v source, e = .literal v source ∧ s = source.toList ++ left ∧ LiteralText o v source := by
  obtain ⟨suffix, read⟩ := h
  rcases literal_ok_cases read with null | numeral | isTrue | isFalse | ⟨-, quoted⟩
  · obtain ⟨source, value, split, named, same⟩ := wordLiteral_eq_ok (plain_null words) null
    exact ⟨_, source, value, split, literalText_null words named same⟩
  · obtain ⟨v, source, value, split, ⟨c, r, head, first⟩, reads⟩ := numeral?_eq_some numeral
    exact ⟨v, source, value, split, literalText_numeral words head first reads⟩
  · obtain ⟨source, value, split, named, same⟩ := wordLiteral_eq_ok (plain_true words) isTrue
    exact ⟨_, source, value, split, literalText_true words named same⟩
  · obtain ⟨source, value, split, named, same⟩ := wordLiteral_eq_ok (plain_false words) isFalse
    exact ⟨_, source, value, split, literalText_false words named same⟩
  · obtain ⟨v, taken, rfl⟩ := quotedLiteral_takes_iff.1 ⟨suffix, quoted⟩
    obtain ⟨text, split, reads⟩ := stringLiteral_takes taken
    have source : consumed s left = String.ofList (o.quote.char :: text) := by
      rw [split, ← List.cons_append, consumed_append]
    refine ⟨v, _, rfl, ?_, ?_⟩
    · rw [source, String.toList_ofList]
      exact split
    · rw [source]
      exact literalText_string words reads

theorem literal_faults_of_head (h : ∀ c ∈ s.head?, isNameChar c = false ∧ c ≠ '-' ∧ c ≠ '+')
    (quote : s.head? ≠ some o.quote.char) : (literal o s).Faults :=
  (noSimpleLiteral_of_head words h).faults (stringLiteral_faults quote)

/-- A name that is not the word of a literal. -/
structure NoLiteralWord (o : Options) (name : String) : Prop where
  null : namesEqual o.ignoreNullCase name o.nullWord = false
  isTrue : namesEqual o.ignoreBooleanCase name o.trueWord = false
  isFalse : namesEqual o.ignoreBooleanCase name o.falseWord = false

theorem literal_faults_of_name {name : String} {rest : List Char}
    (named : isName name.toList = true) (ends : NameEnds rest) (other : NoLiteralWord o name) :
    (literal o (name.toList ++ rest)).Faults := by
  have simple : NoSimpleLiteral o (name.toList ++ rest) :=
    ⟨⟨wordLiteral_faults (plain_null words) named ends other.null,
        numeral?_eq_none_of_isName named rest⟩,
      wordLiteral_faults (plain_true words) named ends other.isTrue,
      wordLiteral_faults (plain_false words) named ends other.isFalse⟩
  exact simple.faults (stringLiteral_faults_of_isName o.quote named rest)

end Texts

end ExprLang.Grammar
