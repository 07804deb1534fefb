import Mathlib.Data.Bool.AllAny
import Mathlib.Data.Int.Notation
import Mathlib.Tactic.SplitIfs
import ExprLang.Proofs.Grammar.Quoting
import ExprLang.Typing

set_option autoImplicit false

/-!
Whole texts that are numerals. The letter behind the digits and the fraction tell what sort of numeral a
text is, and a fraction before a letter for integers makes it none. An integer is of the kind that its
letter tells, or of the first kind that has it, at any length of its digits.
-/

namespace ExprLang

open Grammar

/-- The sort of a literal that is a numeral. -/
def Literal.sort? : Literal → Option NumeralSort
  | .integer _ => some .integer
  | .real _ => some .real
  | .decimal _ => some .decimal
  | _ => none

theorem Literal.eq_integer_of_sort {v : Literal} (sort : v.sort? = some .integer) :
    ∃ w, v = .integer w := by
  cases v with
  | integer w => exact ⟨w, rfl⟩
  | _ => cases sort

namespace Grammar

variable {o : Options} {text : List Char} {n : Numeral} {letter : Option Char} {c : Char}

/-- The sort that the letter and the fraction of a numeral tell, if they go together. -/
def Numeral.sort? (n : Numeral) (letter : Option Char) : Option NumeralSort :=
  if OneOf decimalLetters letter then some .decimal
  else if OneOf realLetters letter then some .real
  else if n.fraction.isSome then if OneOf integerLetters letter then none else some .real
  else some .integer

/-- The kinds that an integer can have. -/
def integerKinds (letter : Option Char) : List IntKind :=
  (if OneOf wideLetters letter then [] else [.int32])
    ++ (if OneOf narrowLetters letter then [] else [.int64])

theorem OneOf.isSome {letters : List Char} (one : OneOf letters letter) : letter.isSome = true := by
  obtain ⟨c, -, rfl⟩ := one
  rfl

theorem OneOf.apart {cs ds : List Char} (one : OneOf cs letter) (disjoint : cs.all (· ∉ ds)) :
    ¬ OneOf ds letter := by
  obtain ⟨c, mem, rfl⟩ := one
  rintro ⟨d, mem', same⟩
  cases same
  exact List.all_iff_forall_prop.1 disjoint c mem mem'

/-- There is no letter, or one that tells a kind. -/
def Known (letter : Option Char) : Prop := ∀ c ∈ letter, c ∈ kindLetters

/-- Letters that tell a kind belong to one sort. -/
theorem Known.cases (known : Known letter) : letter = none ∨ OneOf decimalLetters letter
    ∨ OneOf realLetters letter ∨ OneOf integerLetters letter := by
  cases letter with
  | none => exact .inl rfl
  | some c =>
    have one : OneOf (decimalLetters ++ (realLetters ++ integerLetters)) (some c) :=
      ⟨c, known c rfl, rfl⟩
    rw [oneOf_append_iff, oneOf_append_iff] at one
    exact .inr one

/-! The sort of a numeral -/

theorem sort?_eq_decimal_iff : n.sort? letter = some .decimal ↔ OneOf decimalLetters letter := by
  unfold Numeral.sort?
  split_ifs <;> simp [*]

theorem sort?_eq_real_iff : n.sort? letter = some .real ↔ ¬ OneOf decimalLetters letter
    ∧ (n.fraction.isSome ∧ ¬ OneOf integerLetters letter ∨ OneOf realLetters letter) := by
  unfold Numeral.sort?
  split_ifs <;> simp [*]

theorem sort?_eq_integer_iff : n.sort? letter = some .integer ↔ ¬ OneOf decimalLetters letter
    ∧ ¬ OneOf realLetters letter ∧ n.fraction = none := by
  rw [← Option.not_isSome_iff_eq_none]
  unfold Numeral.sort?
  split_ifs <;> simp [*]

theorem sort?_eq_none_iff :
    n.sort? letter = none ↔ n.fraction.isSome ∧ OneOf integerLetters letter := by
  have noDecimal (one : OneOf integerLetters letter) : ¬ OneOf decimalLetters letter :=
    one.apart (by decide)
  have noReal (one : OneOf integerLetters letter) : ¬ OneOf realLetters letter :=
    one.apart (by decide)
  unfold Numeral.sort?
  split_ifs with decimal real fraction integer
  · simpa using fun _ one => noDecimal one decimal
  · simpa using fun _ one => noReal one real
  · simp [fraction, integer]
  · simp [integer]
  · simp [fraction]

theorem literal_of_integer (sort : n.sort? letter = some .integer) :
    n.literal letter = (n.integerOf (integerKinds letter), decide (OneOf integerLetters letter)) := by
  obtain ⟨noDecimal, noReal, whole⟩ := sort?_eq_integer_iff.1 sort
  obtain ⟨noSingle, noDouble⟩ := not_or.1 (mt oneOf_append_iff.2 noReal)
  have noFraction : ¬ n.fraction.isSome = true := Option.not_isSome_iff_eq_none.2 whole
  rw [literal_eq, if_neg noDecimal, if_neg noSingle, if_neg noDouble, if_neg noFraction]
  unfold integerKinds
  by_cases narrow : OneOf narrowLetters letter
  · have noWide : ¬ OneOf wideLetters letter := narrow.apart (by decide)
    have integer : OneOf integerLetters letter := oneOf_append_iff.2 (.inl narrow)
    simp only [narrow, noWide, integer, if_true, if_false, decide_true]
    rfl
  · by_cases wide : OneOf wideLetters letter
    · have integer : OneOf integerLetters letter := oneOf_append_iff.2 (.inr wide)
      simp only [narrow, wide, integer, if_true, if_false, decide_true]
      rfl
    · have noInteger : ¬ OneOf integerLetters letter := fun one =>
        (oneOf_append_iff.1 one).elim narrow wide
      simp only [narrow, wide, noInteger, if_false, decide_false]
      rfl

/-- The letter of a numeral that has a sort belongs to it. -/
theorem literal_of_sort {k : NumeralSort} (known : Known letter) (sort : n.sort? letter = some k) :
    (n.literal letter).1.sort? = some k ∧ (n.literal letter).2 = letter.isSome := by
  cases k with
  | decimal =>
    have decimal := sort?_eq_decimal_iff.1 sort
    rw [literal_eq, if_pos decimal]
    exact ⟨rfl, decimal.isSome.symm⟩
  | real =>
    obtain ⟨noDecimal, others⟩ := sort?_eq_real_iff.1 sort
    rw [literal_eq, if_neg noDecimal]
    by_cases real : OneOf realLetters letter
    · by_cases single : OneOf ['f', 'F'] letter
      · rw [if_pos single]
        exact ⟨rfl, real.isSome.symm⟩
      · have double := (oneOf_append_iff.1 real).resolve_left single
        rw [if_neg single, if_pos double]
        exact ⟨rfl, real.isSome.symm⟩
    · obtain ⟨noSingle, noDouble⟩ := not_or.1 (mt oneOf_append_iff.2 real)
      obtain ⟨fraction, noInteger⟩ := others.resolve_right real
      have bare : letter = none := by
        rcases known.cases with bare | decimal | real' | integer
        · exact bare
        · exact absurd decimal noDecimal
        · exact absurd real' real
        · exact absurd integer noInteger
      rw [if_neg noSingle, if_neg noDouble, if_pos fraction, bare]
      exact ⟨rfl, rfl⟩
  | integer =>
    rw [literal_of_integer sort]
    refine ⟨rfl, ?_⟩
    obtain ⟨noDecimal, noReal, -⟩ := sort?_eq_integer_iff.1 sort
    rcases known.cases with rfl | decimal | real | integer
    · rfl
    · exact absurd decimal noDecimal
    · exact absurd real noReal
    · rw [decide_eq_true integer, integer.isSome]

/-- A fraction leaves a letter that is one for integers. -/
theorem literal_of_no_sort (sort : n.sort? letter = none) : (n.literal letter).2 = false := by
  obtain ⟨fraction, integer⟩ := sort?_eq_none_iff.1 sort
  have noDecimal : ¬ OneOf decimalLetters letter := integer.apart (by decide)
  have noSingle : ¬ OneOf ['f', 'F'] letter := integer.apart (by decide)
  have noDouble : ¬ OneOf ['d', 'D'] letter := integer.apart (by decide)
  rw [literal_eq, if_neg noDecimal, if_neg noSingle, if_neg noDouble, if_pos fraction]

/-! Reading a numeral -/

theorem Known.numeralEnds (known : Known letter) (n : Numeral) : NumeralEnds n letter.toList := by
  cases letter with
  | none => exact ⟨forall_mem_head?_nil, fun _ => rfl⟩
  | some c => exact numeralEnds_cons (known c rfl) n []

/-- A numeral and its letter are read together, or the letter is left. -/
theorem numeral?_append_letter (h : NumeralText text n) (known : Known letter) {v : Literal} :
    (n.literal letter = (v, letter.isSome) → ∃ suffix, numeral? (text ++ letter.toList)
        = some ⟨.literal v (String.ofList (text ++ letter.toList)), [], suffix⟩)
      ∧ (n.literal letter = (v, false) → ∃ suffix, numeral? (text ++ letter.toList)
        = some ⟨.literal v (String.ofList text), letter.toList, suffix⟩) := by
  have here : letter.toList.head? = letter := by cases letter <;> rfl
  have bare (own : n.literal letter = (v, false)) : ∃ suffix, numeral? (text ++ letter.toList)
      = some ⟨.literal v (String.ofList text), letter.toList, suffix⟩ :=
    numeral?_append_of_left h (known.numeralEnds n) (by rw [here]; exact own)
  refine ⟨?_, bare⟩
  intro own
  cases letter with
  | none =>
    have source : String.ofList (text ++ (none : Option Char).toList) = String.ofList text :=
      congrArg String.ofList (List.append_nil text)
    rw [source]
    exact bare own
  | some c => exact numeral?_append_of_letter h own []

/-- A text with a numeral in front begins with no blank and with no name. -/
theorem NumeralText.start (h : NumeralText text n) (rest : List Char) :
    skipBlanks (text ++ rest) = text ++ rest
      ∧ ∀ c ∈ (text ++ rest).head?, isNameStart c = false := by
  obtain ⟨c, r, rfl, first⟩ := h.head
  constructor
  · apply skipBlanks_cons
    rcases first with rfl | rfl | digit
    · rfl
    · rfl
    · exact isBlank_of_isDigit digit
  · intro d head
    cases head
    apply Bool.eq_false_iff.2
    intro name
    obtain ⟨minus, plus, noDigit⟩ := not_numeral_of_isNameStart name
    rcases first with rfl | rfl | digit
    · exact minus rfl
    · exact plus rfl
    · rw [noDigit] at digit
      cases digit

/-- What is left of a text makes it no expression. -/
theorem parse_of_remainder {text : String} {e : Expr} {rest : List Char}
    (read : (expression o text.toList).Takes e rest) (left : rest ≠ []) :
    Expr.parse o text = .error (.malformed text (.remainder rest)) := by
  obtain ⟨suffix, read⟩ := read
  rw [Expr.parse, read]
  exact if_neg left

section

variable (words : o.DefaultWords)

include words

theorem literal_takes_numeral (h : NumeralText text n) {rest left : List Char} {e : Expr}
    (read : ∃ suffix, numeral? (text ++ rest) = some ⟨e, left, suffix⟩) :
    (literal o (text ++ rest)).Takes e left := by
  obtain ⟨suffix, read⟩ := read
  have noNull : (wordLiteral .null o.nullWord o.ignoreNullCase (text ++ rest)).Faults :=
    wordLiteral_faults_of_head (plain_null words.usual) (h.start rest).2
  exact ⟨suffix, literal_of_numeral noNull read⟩

theorem parse_of_sort (h : NumeralText text n) (known : Known letter) {k : NumeralSort}
    (sort : n.sort? letter = some k) : Expr.parse o (String.ofList (text ++ letter.toList))
      = .ok (.literal (n.literal letter).1 (String.ofList (text ++ letter.toList))) := by
  have own : n.literal letter = ((n.literal letter).1, letter.isSome) :=
    Prod.ext rfl (literal_of_sort known sort).2
  have read := (numeral?_append_letter h known).1 own
  apply Expr.parse_eq_ok_iff.2
  rw [String.toList_ofList]
  apply expression_of_literal (noSimpleLiteral_of_head words.usual forall_mem_head?_nil) (h.start _).1
  exact literal_takes_numeral words h read

theorem operatorSpaced_letter (mem : c ∈ integerLetters) : (operatorSpaced o [c]).Faults := by
  have single : ∀ c ∈ integerLetters, skipBlanks [c] = [c] ∧ c ∉ symbolHeads
      ∧ isName (String.ofList [c]).toList = true ∧ ∀ word ∈ ["and", "or", "xor"],
        lowerText (String.ofList [c]) ≠ lowerText word :=
    List.all_iff_forall_prop.1 (by decide)
  obtain ⟨start, noSymbol, named, others⟩ := single c mem
  have noOperator : (operator o [c]).Faults := by
    rw [operator_eq_word (by simpa using noSymbol)]
    apply Reading.firstOf_faults_iff.2
    intro entry entered
    apply Reading.map_faults_iff.2
    have listed : entry.1 ∈ ["and", "or", "xor"] := by
      simp only [operatorWords, words.and, words.or, words.xor, List.mem_cons,
        List.not_mem_nil, or_false] at entered
      rcases entered with rfl | rfl | rfl <;> decide
    have noWord :
        (keyword entry.1 o.ignoreOperatorCase ((String.ofList [c]).toList ++ [])).Faults :=
      keyword_faults (plain_operatorWords words entry entered) named forall_mem_head?_nil
        (namesEqual_eq_false (others entry.1 listed))
    rwa [String.toList_ofList, List.append_nil] at noWord
  apply operatorSpaced_faults
  rwa [start]

/-- A letter that is left is no part of an expression. -/
theorem parse_of_no_sort (h : NumeralText text n) (known : Known letter)
    (sort : n.sort? letter = none) : Expr.parse o (String.ofList (text ++ letter.toList))
      = .error (.malformed (String.ofList (text ++ letter.toList))
        (.remainder letter.toList)) := by
  have own : n.literal letter = ((n.literal letter).1, false) :=
    Prod.ext rfl (literal_of_no_sort sort)
  have read := literal_takes_numeral words h ((numeral?_append_letter h known).2 own)
  obtain ⟨-, c, mem, rfl⟩ := sort?_eq_none_iff.1 sort
  let e : Expr := .literal (n.literal (some c)).1 (String.ofList text)
  have single : ∀ c ∈ integerLetters, skipBlanks [c] = [c] ∧ (skipBlanks [c]).head? ≠ some '.' :=
    List.all_iff_forall_prop.1 (by decide)
  obtain ⟨start, noPoint⟩ := single c mem
  have first : (term o (text ++ [c])).Takes e [c] := by
    apply term_takes_iff.2
    refine ⟨e, [c], ?_, ?_⟩
    · rw [(h.start [c]).1]
      exact primary_of_literal read
    · rw [followed_of_point e noPoint, start]
  apply parse_of_remainder (e := e) ?_ (List.cons_ne_nil c [])
  rw [String.toList_ofList]
  exact expression_takes_iff.2
    ⟨e, [c], first, operands_of_none (operatorSpaced_letter words mem)⟩

end

/-! The value of an integer -/

variable {m : ℤ} {k : IntKind} {kinds : List IntKind}

/-- The integer as a member of the first of some kinds that has it. -/
def firstOf (m : ℤ) (kinds : List IntKind) : Option Number :=
  kinds.findSome? fun k => (Integer.ofInt? k m).map (.int k)

/-- A kind that is allowed and has the integer is taken. -/
theorem firstOf_of_fits {out : Prop} [Decidable out] (allowed : ¬ out) (lower : k.lo ≤ m)
    (upper : m ≤ k.hi) : ∃ a : Integer k, a.val = m
      ∧ firstOf m ((if out then [] else [k]) ++ kinds) = some (.int k a) := by
  have member : Integer.ofInt? k m = some ⟨m, lower, upper⟩ := Integer.ofInt?_eq_some_iff.2 rfl
  refine ⟨⟨m, lower, upper⟩, rfl, ?_⟩
  rw [if_neg allowed, firstOf, List.singleton_append, List.findSome?_cons, member]
  rfl

/-- Otherwise it is one of the further kinds. -/
theorem firstOf_of_not_fits {out : Prop} [Decidable out] (outside : out ∨ m < k.lo ∨ k.hi < m) :
    firstOf m ((if out then [] else [k]) ++ kinds) = firstOf m kinds := by
  by_cases excluded : out
  · rw [if_pos excluded, List.nil_append]
  · have missing := Integer.ofInt?_eq_none_iff.2 (outside.resolve_left excluded)
    rw [if_neg excluded, firstOf, List.singleton_append, List.findSome?_cons, missing]
    rfl

/-- The integer is an `int32`, and its letter allows this. -/
def FitsNarrow (m : ℤ) (letter : Option Char) : Prop :=
  ¬ OneOf wideLetters letter ∧ -2147483648 ≤ m ∧ m ≤ 2147483647

/-- The integer is an `int64`, and its letter allows this. -/
def FitsWide (m : ℤ) (letter : Option Char) : Prop :=
  ¬ OneOf narrowLetters letter ∧ -9223372036854775808 ≤ m ∧ m ≤ 9223372036854775807

/-- What the integer `m` with a letter has as its value. -/
structure HasInteger (m : ℤ) (letter : Option Char) (v : Option Number) : Prop where
  int32_iff : (∃ a : Integer .int32, a.val = m ∧ v = some (.int .int32 a)) ↔ FitsNarrow m letter
  int64_iff : (∃ a : Integer .int64, a.val = m ∧ v = some (.int .int64 a))
    ↔ FitsWide m letter ∧ ¬ FitsNarrow m letter
  absent_iff : v = none ↔ ¬ FitsNarrow m letter ∧ ¬ FitsWide m letter

theorem hasInteger_firstOf (m : ℤ) (letter : Option Char) :
    HasInteger m letter (firstOf m (integerKinds letter)) := by
  have outside {letters : List Char} {lo hi : ℤ}
      (unfit : ¬ (¬ OneOf letters letter ∧ lo ≤ m ∧ m ≤ hi)) :
      OneOf letters letter ∨ m < lo ∨ hi < m := by
    by_cases excluded : OneOf letters letter
    · exact .inl excluded
    · have range : ¬ (lo ≤ m ∧ m ≤ hi) := fun range => unfit ⟨excluded, range⟩
      omega
  unfold integerKinds
  by_cases narrow : FitsNarrow m letter
  · obtain ⟨a, same, value⟩ := firstOf_of_fits (k := .int32) narrow.1 narrow.2.1 narrow.2.2
    rw [value]
    constructor
    · exact iff_of_true ⟨a, same, rfl⟩ narrow
    · exact iff_of_false (by simp) (fun fits => fits.2 narrow)
    · exact iff_of_false (by simp) (fun fits => fits.1 narrow)
  rw [firstOf_of_not_fits (k := .int32) (outside narrow),
    ← List.append_nil (if OneOf narrowLetters letter then ([] : List IntKind) else [.int64])]
  by_cases wide : FitsWide m letter
  · obtain ⟨a, same, value⟩ := firstOf_of_fits (k := .int64) wide.1 wide.2.1 wide.2.2
    rw [value]
    constructor
    · exact iff_of_false (by simp) narrow
    · exact iff_of_true ⟨a, same, rfl⟩ ⟨wide, narrow⟩
    · exact iff_of_false (by simp) (fun fits => fits.2 wide)
  rw [firstOf_of_not_fits (k := .int64) (outside wide)]
  constructor
  · exact iff_of_false (by simp [firstOf]) narrow
  · exact iff_of_false (by simp [firstOf]) (fun fits => wide fits.1)
  · exact iff_of_true rfl ⟨narrow, wide⟩

/-! Numerals as expressions -/

/-- The text is read as a numeral of a sort, which keeps the text. -/
def ReadAs (o : Options) (source : String) (k : NumeralSort) : Prop :=
  ∃ v : Literal, v.sort? = some k ∧ Expr.parse o source = .ok (.literal v source)

/-- What a text with the digits of `n` and a letter is read as. -/
structure ClassifiesNumeral (o : Options) (n : Numeral) (letter : Option Char) (source : String) :
    Prop where
  decimal_iff : ReadAs o source .decimal ↔ OneOf decimalLetters letter
  real_iff : ReadAs o source .real ↔ ¬ OneOf decimalLetters letter
    ∧ (n.fraction.isSome ∧ ¬ OneOf integerLetters letter ∨ OneOf realLetters letter)
  integer_iff : ReadAs o source .integer ↔ ¬ OneOf decimalLetters letter
    ∧ ¬ OneOf realLetters letter ∧ n.fraction = none
  refused_iff : (∃ problem, Expr.parse o source = .error (.malformed source problem))
    ↔ n.fraction.isSome ∧ OneOf integerLetters letter
  /-- Whatever is read keeps the text as it is written. -/
  written : ∀ e, Expr.parse o source = .ok e → ∃ v, e = .literal v source
  integer : ∀ v, Expr.parse o source = .ok (.literal (.integer v) source) →
    HasInteger n.toInt letter v
  /-- An integer in none of its kinds is a problem of each context. -/
  unreadable : Expr.parse o source = .ok (.literal (.integer none) source) →
    ∀ (c : Context) (m : Memory), c.options = o → ∃ problem,
      c.check m source = .error (.semantic [problem])
        ∧ problem.message = "Error parsing '" ++ source ++ "' as integer literal."

theorem message_unreadable (source : String) : (Problem.unreadable .integer source).message
    = "Error parsing '" ++ source ++ "' as integer literal." := by
  have ending : "' as " ++ ("integer" ++ " literal.") = "' as integer literal." := by decide
  calc (Problem.unreadable .integer source).message
    _ = "Error parsing '" ++ source ++ "' as " ++ "integer" ++ " literal." := rfl
    _ = "Error parsing '" ++ source ++ ("' as " ++ ("integer" ++ " literal.")) := by
      rw [String.append_assoc, String.append_assoc]
    _ = "Error parsing '" ++ source ++ "' as integer literal." := by rw [ending]

theorem readAs_iff (words : o.DefaultWords) (h : NumeralText text n) (known : Known letter)
    (k : NumeralSort) :
    ReadAs o (String.ofList (text ++ letter.toList)) k ↔ n.sort? letter = some k := by
  constructor
  · intro ⟨v, sort, read⟩
    cases found : n.sort? letter with
    | none =>
      rw [parse_of_no_sort words h known found] at read
      cases read
    | some k' =>
      rw [parse_of_sort words h known found] at read
      cases read
      rw [← sort, (literal_of_sort known found).1]
  · intro sort
    exact ⟨_, (literal_of_sort known sort).1, parse_of_sort words h known sort⟩

/-- A numeral with a letter or none is of the sort that they tell together, at any length. -/
theorem classifiesNumeral (words : o.DefaultWords) (h : NumeralText text n)
    (known : ∀ c ∈ letter, c ∈ kindLetters) :
    ClassifiesNumeral o n letter (String.ofList (text ++ letter.toList)) := by
  constructor
  case decimal_iff => rw [readAs_iff words h known, sort?_eq_decimal_iff]
  case real_iff => rw [readAs_iff words h known, sort?_eq_real_iff]
  case integer_iff => rw [readAs_iff words h known, sort?_eq_integer_iff]
  case refused_iff =>
    rw [← sort?_eq_none_iff]
    cases found : n.sort? letter with
    | none => exact iff_of_true ⟨_, parse_of_no_sort words h known found⟩ rfl
    | some k =>
      refine iff_of_false ?_ nofun
      intro ⟨problem, failed⟩
      rw [parse_of_sort words h known found] at failed
      cases failed
  case written =>
    intro e read
    cases found : n.sort? letter with
    | none =>
      rw [parse_of_no_sort words h known found] at read
      cases read
    | some k =>
      rw [parse_of_sort words h known found] at read
      cases read
      exact ⟨_, rfl⟩
  case integer =>
    intro v read
    have sort := (readAs_iff words h known .integer).1 ⟨_, rfl, read⟩
    have value := literal_of_integer sort
    rw [parse_of_sort words h known sort, value] at read
    cases read
    exact hasInteger_firstOf n.toInt letter
  case unreadable =>
    intro read c m language
    have parsed : c.parse (String.ofList (text ++ letter.toList)) = .ok _ := language ▸ read
    refine ⟨_, ?_, message_unreadable _⟩
    rw [Context.check, parsed]
    rfl

/-- The least `int32` is one also with a blank after its sign, the next integer below is an `int64`, and
a fraction has no letter for integers. -/
theorem classifiesNumeral_limits :
    let o : Options := {}
    o.DefaultWords
      ∧ NumeralText "- 2147483648".toList ⟨true, "2147483648".toList, none⟩
      ∧ NumeralText "-2147483649".toList ⟨true, "2147483649".toList, none⟩
      ∧ NumeralText "1.5".toList ⟨false, ['1'], some ['5']⟩
      ∧ (∃ a : Integer .int32, a.val = -2147483648 ∧ Expr.parse o "- 2147483648"
        = .ok (.literal (.integer (some (.int .int32 a))) "- 2147483648"))
      ∧ (∃ a : Integer .int64, a.val = -2147483649 ∧ Expr.parse o "-2147483649"
        = .ok (.literal (.integer (some (.int .int64 a))) "-2147483649"))
      ∧ ∃ problem, Expr.parse o "1.5l" = .error (.malformed "1.5l" problem) := by
  intro o
  have words : o.DefaultWords := ⟨rfl, rfl, rfl, rfl, rfl, rfl, rfl, rfl⟩
  have least : NumeralText "- 2147483648".toList ⟨true, "2147483648".toList, none⟩ :=
    .integer (.minus (b := [' ']) (by decide)) ⟨by decide, List.all_eq_true.1 rfl⟩
  have below : NumeralText "-2147483649".toList ⟨true, "2147483649".toList, none⟩ :=
    .integer (.minus (b := []) (by decide)) ⟨by decide, List.all_eq_true.1 rfl⟩
  have whole : DigitRun ['1'] := ⟨by decide, List.all_eq_true.1 rfl⟩
  have places : DigitRun ['5'] := ⟨by decide, List.all_eq_true.1 rfl⟩
  have fraction : NumeralText "1.5".toList ⟨false, ['1'], some ['5']⟩ := .real .none whole places
  have narrow : ClassifiesNumeral o _ none _ := classifiesNumeral words least nofun
  have wide : ClassifiesNumeral o _ none _ := classifiesNumeral words below nofun
  have long : ∀ c ∈ some 'l', c ∈ kindLetters := by
    intro c same
    cases same
    decide
  have refused : ClassifiesNumeral o _ (some 'l') _ := classifiesNumeral words fraction long
  have bare {letters : List Char} : ¬ OneOf letters none := nofun
  obtain ⟨v, sort, read⟩ := narrow.integer_iff.2 ⟨bare, bare, rfl⟩
  obtain ⟨v, rfl⟩ := Literal.eq_integer_of_sort sort
  obtain ⟨a, value, rfl⟩ := (narrow.integer v read).int32_iff.2 ⟨bare, by decide, by decide⟩
  obtain ⟨v, sort, read'⟩ := wide.integer_iff.2 ⟨bare, bare, rfl⟩
  obtain ⟨v, rfl⟩ := Literal.eq_integer_of_sort sort
  obtain ⟨b, value', rfl⟩ := (wide.integer v read').int64_iff.2
    ⟨⟨bare, by decide, by decide⟩, fun fits => absurd fits.2.1 (by decide)⟩
  exact ⟨words, least, below, fraction, ⟨a, value, read⟩, ⟨b, value', read'⟩,
    refused.refused_iff.2 ⟨rfl, by decide⟩⟩

end Grammar

end ExprLang
