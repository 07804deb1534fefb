import Mathlib.Logic.Relation
import ExprLang.Proofs.Grammar.Quoting

set_option autoImplicit false

/-!
Hard faults. A reader calls others at places in the text, and a hard fault of one that it calls is its
own; so a broken string literal that the reading of a text reaches at any depth ends it, and so does a
word that is cut inside of a character. There is no other cause of a hard fault.
-/

namespace ExprLang.Grammar

/-- The readers of the grammar. One of operands has a chain that it goes on with. -/
inductive Reader
  | expression
  | operands (chain : Expr)
  | operator
  | word (word : String) (ignoreCase : Bool)
  | term
  | primary
  | literal
  | string
  | call
  | arguments
  | moreArguments
  | group

/-- A reader and the text that is in front of it. -/
abbrev Place := Reader × List Char

/-- A reader calls another one, after what it has read before. -/
inductive Calls (o : Options) : Place → Place → Prop
  | first (s : List Char) : Calls o (.expression, s) (.term, s)
  | chain {s r : List Char} {v : Expr} (first : (term o s).Takes v r) :
      Calls o (.expression, s) (.operands v, r)
  | operator (s : List Char) (chain : Expr) :
      Calls o (.operands chain, s) (.operator, skipBlanks s)
  | operatorWord {s : List Char} {word : String} (tried : TriesOperator o s word) :
      Calls o (.operator, s) (.word word o.ignoreOperatorCase, s)
  | operand {s : List Char} {chain : Expr} {op : Taken s Operator}
      (found : operatorSpaced o s = .ok op) : Calls o (.operands chain, s) (.term, op.rest)
  | operands {s r : List Char} {chain v : Expr} {op : Taken s Operator}
      (found : operatorSpaced o s = .ok op) (operand : (term o op.rest).Takes v r)
      (shorter : r.length < s.length) :
      Calls o (.operands chain, s) (.operands (chain.append op.value v), r)
  | primary (s : List Char) : Calls o (.term, s) (.primary, skipBlanks s)
  | literal (s : List Char) : Calls o (.primary, s) (.literal, s)
  | literalWord {s : List Char} {word : String} {ignoreCase : Bool}
      (tried : TriesLiteral o s word ignoreCase) :
      Calls o (.literal, s) (.word word ignoreCase, s)
  | string {s : List Char} (simple : NoSimpleLiteral o s) : Calls o (.literal, s) (.string, s)
  | call {s : List Char} (noLiteral : (Grammar.literal o s).Faults) :
      Calls o (.primary, s) (.call, s)
  | group {s : List Char} (noLiteral : (Grammar.literal o s).Faults)
      (noCall : (Grammar.call o s).Faults) (noName : ident? o s = none) :
      Calls o (.primary, s) (.group, s)
  | arguments {s r opening : List Char} {name : String}
      (named : ∃ suffix, name? s = some ⟨name, r, suffix⟩) (opened : PastSpaced '(' r opening) :
      Calls o (.call, s) (.arguments, opening)
  | argument (s : List Char) : Calls o (.arguments, s) (.expression, s)
  | moreArguments {s r : List Char} {v : Expr} (first : (expression o s).Takes v r) :
      Calls o (.arguments, s) (.moreArguments, r)
  | next {s opening : List Char} (passed : PastSpaced ',' s opening) :
      Calls o (.moreArguments, s) (.expression, opening)
  | afterNext {s r opening : List Char} {v : Expr} (passed : PastSpaced ',' s opening)
      (next : (expression o opening).Takes v r) : Calls o (.moreArguments, s) (.moreArguments, r)
  | inside {s opening : List Char} (opened : PastSpaced '(' s opening) :
      Calls o (.group, s) (.expression, opening)

/-- The reader ends with a hard fault. -/
def Fails (o : Options) (f : Fault) : Place → Prop
  | (.expression, s) => expression o s = .hard f
  | (.operands chain, s) => operands o chain s = .hard f
  | (.operator, s) => Grammar.operator o s = .hard f
  | (.word word ignoreCase, s) => keyword word ignoreCase s = .hard f
  | (.term, s) => term o s = .hard f
  | (.primary, s) => primary o s = .hard f
  | (.literal, s) => literal o s = .hard f
  | (.string, s) => stringLiteral o.quote.char s = .hard f
  | (.call, s) => call o s = .hard f
  | (.arguments, s) => arguments o s = .hard f
  | (.moreArguments, s) => moreArguments o s = .hard f
  | (.group, s) => group o s = .hard f

variable {o : Options} {s r opening : List Char} {v chain : Expr} {f : Fault} {p p' : Place}

/-! A hard fault goes up -/

theorem expression_hard_of_term (failed : term o s = .hard f) : expression o s = .hard f := by
  rw [expression, failed]

theorem expression_hard_of_operands (first : (term o s).Takes v r)
    (failed : operands o v r = .hard f) : expression o s = .hard f := by
  obtain ⟨suffix, first⟩ := first
  rw [expression, first]
  exact Reading.within_eq_hard_iff.2 failed

theorem operands_hard_of_operator (failed : operator o (skipBlanks s) = .hard f) :
    operands o chain s = .hard f := by
  rw [operands, operatorSpaced_eq_hard_iff.2 failed]

theorem operands_hard_of_term {op : Taken s Operator} (found : operatorSpaced o s = .ok op)
    (failed : term o op.rest = .hard f) : operands o chain s = .hard f := by
  rw [operands, found]
  simp only [failed]

theorem operands_hard_of_operands {op : Taken s Operator} (found : operatorSpaced o s = .ok op)
    (operand : (term o op.rest).Takes v r) (shorter : r.length < s.length)
    (failed : operands o (chain.append op.value v) r = .hard f) :
    operands o chain s = .hard f := by
  obtain ⟨suffix, operand⟩ := operand
  rw [operands, found]
  simp only [operand, if_pos shorter]
  exact Reading.within_eq_hard_iff.2 failed

theorem term_hard (failed : primary o (skipBlanks s) = .hard f) : term o s = .hard f := by
  rw [term, failed]

theorem primary_hard_of_literal (failed : literal o s = .hard f) : primary o s = .hard f := by
  rw [primary, failed]

theorem primary_hard_of_call (noLiteral : (literal o s).Faults) (failed : call o s = .hard f) :
    primary o s = .hard f := by
  obtain ⟨_, noLiteral⟩ := noLiteral
  rw [primary, noLiteral]
  simp only [failed]

theorem primary_hard_of_group (noLiteral : (literal o s).Faults) (noCall : (call o s).Faults)
    (noName : ident? o s = none) (failed : group o s = .hard f) : primary o s = .hard f := by
  obtain ⟨_, noLiteral⟩ := noLiteral
  obtain ⟨_, noCall⟩ := noCall
  rw [primary, noLiteral]
  simp only [noCall, noName, failed]

theorem call_hard {name : String} (named : ∃ suffix, name? s = some ⟨name, r, suffix⟩)
    (opened : PastSpaced '(' r opening) (failed : arguments o opening = .hard f) :
    call o s = .hard f := by
  obtain ⟨_, named⟩ := named
  obtain ⟨_, opened, rfl⟩ := opened
  rw [call, named]
  simp only [opened, failed]

theorem arguments_hard_of_expression (failed : expression o s = .hard f) :
    arguments o s = .hard f := by
  rw [arguments, failed]

theorem arguments_hard_of_more (first : (expression o s).Takes v r)
    (failed : moreArguments o r = .hard f) : arguments o s = .hard f := by
  obtain ⟨suffix, first⟩ := first
  rw [arguments, first]
  exact Reading.within_eq_hard_iff.2 (Reading.map_eq_hard_iff.2 failed)

theorem moreArguments_hard_of_expression (passed : PastSpaced ',' s opening)
    (failed : expression o opening = .hard f) : moreArguments o s = .hard f := by
  obtain ⟨_, passed, rfl⟩ := passed
  rw [moreArguments, passed]
  simp only [failed]

theorem moreArguments_hard_of_more (passed : PastSpaced ',' s opening)
    (next : (expression o opening).Takes v r) (failed : moreArguments o r = .hard f) :
    moreArguments o s = .hard f := by
  obtain ⟨_, passed, rfl⟩ := passed
  obtain ⟨suffix, next⟩ := next
  rw [moreArguments, passed]
  simp only [next]
  exact Reading.within_eq_hard_iff.2 (Reading.map_eq_hard_iff.2 failed)

theorem group_hard (opened : PastSpaced '(' s opening) (failed : expression o opening = .hard f) :
    group o s = .hard f := by
  obtain ⟨_, opened, rfl⟩ := opened
  rw [group, opened]
  simp only [failed]

/-- A hard fault of a reader is one of the reader that calls it. -/
theorem Fails.of_calls (calls : Calls o p p') (failed : Fails o f p') :
    Fails o f p := by
  cases calls with
  | first => exact expression_hard_of_term failed
  | chain first => exact expression_hard_of_operands first failed
  | operator s chain => exact operands_hard_of_operator failed
  | operatorWord tried => exact operator_eq_hard_iff.2 ⟨_, tried, failed⟩
  | operand found => exact operands_hard_of_term found failed
  | operands found operand shorter => exact operands_hard_of_operands found operand shorter failed
  | primary => exact term_hard failed
  | literal => exact primary_hard_of_literal failed
  | call noLiteral => exact primary_hard_of_call noLiteral failed
  | group noLiteral noCall noName => exact primary_hard_of_group noLiteral noCall noName failed
  | literalWord tried => exact literal_eq_hard_iff.2 (.inl ⟨_, _, tried, failed⟩)
  | string simple => exact literal_eq_hard_iff.2 (.inr ⟨simple, failed⟩)
  | arguments named opened => exact call_hard named opened failed
  | argument => exact arguments_hard_of_expression failed
  | moreArguments first => exact arguments_hard_of_more first failed
  | next passed => exact moreArguments_hard_of_expression passed failed
  | afterNext passed next => exact moreArguments_hard_of_more passed next failed
  | inside opened => exact group_hard opened failed

/-- So it is one of every reader that has called this one, however far away. -/
theorem Fails.of_reached (reached : Relation.ReflTransGen (Calls o) p p')
    (failed : Fails o f p') : Fails o f p := by
  induction reached using Relation.ReflTransGen.head_induction_on with
  | refl => exact failed
  | head calls _ ih => exact .of_calls calls ih

/-! A hard fault comes from below -/

theorem expression_hard_cases (failed : expression o s = .hard f) : term o s = .hard f
    ∨ ∃ v r, (term o s).Takes v r ∧ operands o v r = .hard f := by
  rw [expression] at failed
  cases first : term o s with
  | ok t =>
    simp only [first] at failed
    exact .inr ⟨t.value, t.rest, Reading.takes_of_ok rfl, Reading.within_eq_hard_iff.1 failed⟩
  | fault f' => simp [first] at failed
  | hard f' =>
    simp only [first] at failed
    exact .inl failed

theorem operands_hard_cases (failed : operands o chain s = .hard f) :
    operator o (skipBlanks s) = .hard f ∨ ∃ op, operatorSpaced o s = .ok op
      ∧ (term o op.rest = .hard f ∨ ∃ v r, (term o op.rest).Takes v r ∧ r.length < s.length
        ∧ operands o (chain.append op.value v) r = .hard f) := by
  rw [operands] at failed
  cases found : operatorSpaced o s with
  | fault f' => simp [found] at failed
  | hard f' =>
    simp only [found] at failed
    cases failed
    exact .inl (operatorSpaced_eq_hard_iff.1 found)
  | ok op =>
    refine .inr ⟨op, rfl, ?_⟩
    cases operand : term o op.rest with
    | ok t =>
      by_cases shorter : t.rest.length < s.length
      · simp only [found, operand, if_pos shorter] at failed
        exact .inr ⟨t.value, t.rest, Reading.takes_of_ok rfl, shorter,
          Reading.within_eq_hard_iff.1 failed⟩
      · simp [found, operand, shorter] at failed
    | fault f' => simp [found, operand] at failed
    | hard f' =>
      simp only [found, operand] at failed
      exact .inl (by simpa using failed)

theorem term_hard_cases (failed : term o s = .hard f) : primary o (skipBlanks s) = .hard f := by
  rw [term] at failed
  cases read : primary o (skipBlanks s) with
  | ok t => simp [read] at failed
  | fault f' => simp [read] at failed
  | hard f' => simpa [read] using failed

theorem primary_hard_cases (failed : primary o s = .hard f) : literal o s = .hard f
    ∨ (literal o s).Faults ∧ (call o s = .hard f
      ∨ (call o s).Faults ∧ ident? o s = none ∧ group o s = .hard f) := by
  rw [primary] at failed
  cases read : literal o s with
  | ok t => simp [read] at failed
  | hard f' =>
    simp only [read] at failed
    exact .inl failed
  | fault f' =>
    refine .inr ⟨⟨f', rfl⟩, ?_⟩
    cases called : call o s with
    | ok t => simp [read, called] at failed
    | hard f'' =>
      simp only [read, called] at failed
      exact .inl failed
    | fault f'' =>
      cases named : ident? o s with
      | some t => simp [read, called, named] at failed
      | none =>
        simp only [read, called, named] at failed
        exact .inr ⟨⟨f'', rfl⟩, rfl, failed⟩

theorem call_hard_cases (failed : call o s = .hard f) : ∃ name r opening,
    (∃ suffix, name? s = some ⟨name, r, suffix⟩) ∧ PastSpaced '(' r opening
      ∧ arguments o opening = .hard f := by
  rw [call] at failed
  cases named : name? s with
  | none => simp [named] at failed
  | some name =>
    cases opened : pastSpaced? '(' name.rest with
    | none => simp [named, opened] at failed
    | some opening =>
      refine ⟨name.value, name.rest, opening.rest, ⟨name.suffix, rfl⟩, ⟨opening, opened, rfl⟩, ?_⟩
      simp only [named, opened] at failed
      cases read : arguments o opening.rest with
      | ok t =>
        simp only [read] at failed
        split at failed
        · cases failed
        · split at failed <;> cases failed
      | fault f' => simp [read] at failed
      | hard f' => simpa [read] using failed

theorem arguments_hard_cases {s : List Char} (failed : arguments o s = .hard f) :
    expression o s = .hard f
      ∨ ∃ v r, (expression o s).Takes v r ∧ moreArguments o r = .hard f := by
  rw [arguments] at failed
  cases first : expression o s with
  | ok t =>
    simp only [first] at failed
    exact .inr ⟨t.value, t.rest, Reading.takes_of_ok rfl,
      Reading.map_eq_hard_iff.1 (Reading.within_eq_hard_iff.1 failed)⟩
  | fault f' => simp [first] at failed
  | hard f' =>
    simp only [first] at failed
    exact .inl (by simpa using failed)

theorem moreArguments_hard_cases (failed : moreArguments o s = .hard f) :
    ∃ opening, PastSpaced ',' s opening ∧ (expression o opening = .hard f
      ∨ ∃ v r, (expression o opening).Takes v r ∧ moreArguments o r = .hard f) := by
  rw [moreArguments] at failed
  cases passed : pastSpaced? ',' s with
  | none => simp [passed] at failed
  | some comma =>
    refine ⟨comma.rest, ⟨comma, passed, rfl⟩, ?_⟩
    cases next : expression o comma.rest with
    | ok t =>
      simp only [passed, next] at failed
      exact .inr ⟨t.value, t.rest, Reading.takes_of_ok rfl,
        Reading.map_eq_hard_iff.1 (Reading.within_eq_hard_iff.1 failed)⟩
    | fault f' => simp [passed, next] at failed
    | hard f' =>
      simp only [passed, next] at failed
      exact .inl (by simpa using failed)

theorem group_hard_cases (failed : group o s = .hard f) :
    ∃ opening, PastSpaced '(' s opening ∧ expression o opening = .hard f := by
  rw [group] at failed
  cases opened : pastSpaced? '(' s with
  | none => simp [opened] at failed
  | some opening =>
    refine ⟨opening.rest, ⟨opening, opened, rfl⟩, ?_⟩
    cases read : expression o opening.rest with
    | ok t =>
      simp only [opened, read] at failed
      split at failed <;> cases failed
    | fault f' => simp [opened, read] at failed
    | hard f' => simpa [opened, read] using failed

/-- The readers that call no other. -/
inductive Innermost : Reader → Prop
  | string : Innermost .string
  | word (word : String) (ignoreCase : Bool) : Innermost (.word word ignoreCase)

/-- Any other reader has a hard fault only from one that it calls. -/
theorem Fails.cases (failed : Fails o f p) :
    Innermost p.1 ∨ ∃ p', Calls o p p' ∧ Fails o f p' := by
  obtain ⟨reader, s⟩ := p
  cases reader with
  | string => exact .inl .string
  | word word ignoreCase => exact .inl (.word word ignoreCase)
  | operator =>
    obtain ⟨word, tried, read⟩ := operator_eq_hard_iff.1 failed
    exact .inr ⟨_, .operatorWord tried, read⟩
  | expression =>
    rcases expression_hard_cases failed with first | ⟨v, r, first, more⟩
    · exact .inr ⟨_, .first s, first⟩
    · exact .inr ⟨_, .chain first, more⟩
  | operands chain =>
    rcases operands_hard_cases failed with
      operator | ⟨op, found, operand | ⟨v, r, operand, shorter, more⟩⟩
    · exact .inr ⟨_, .operator s chain, operator⟩
    · exact .inr ⟨_, .operand found, operand⟩
    · exact .inr ⟨_, .operands found operand shorter, more⟩
  | term => exact .inr ⟨_, .primary s, term_hard_cases failed⟩
  | primary =>
    rcases primary_hard_cases failed with read | ⟨noLiteral, called | ⟨noCall, noName, grouped⟩⟩
    · exact .inr ⟨_, .literal s, read⟩
    · exact .inr ⟨_, .call noLiteral, called⟩
    · exact .inr ⟨_, .group noLiteral noCall noName, grouped⟩
  | literal =>
    rcases literal_eq_hard_iff.1 failed with ⟨word, ignoreCase, tried, read⟩ | ⟨simple, string⟩
    · exact .inr ⟨_, .literalWord tried, read⟩
    · exact .inr ⟨_, .string simple, string⟩
  | call =>
    obtain ⟨name, r, opening, named, opened, list⟩ := call_hard_cases failed
    exact .inr ⟨_, .arguments named opened, list⟩
  | arguments =>
    rcases arguments_hard_cases failed with first | ⟨v, r, first, more⟩
    · exact .inr ⟨_, .argument s, first⟩
    · exact .inr ⟨_, .moreArguments first, more⟩
  | moreArguments =>
    obtain ⟨opening, passed, next | ⟨v, r, next, more⟩⟩ := moreArguments_hard_cases failed
    · exact .inr ⟨_, .next passed, next⟩
    · exact .inr ⟨_, .afterNext passed next, more⟩
  | group =>
    obtain ⟨opening, opened, inner⟩ := group_hard_cases failed
    exact .inr ⟨_, .inside opened, inner⟩

/-- How far the reading has still to go at most: each call is for less text or for a smaller part. -/
def Place.size : Place → Nat
  | (.expression, s) => 10 * s.length + 6
  | (.operands _, s) => 10 * s.length + 5
  | (.operator, s) => 10 * s.length + 1
  | (.word _ _, s) => 10 * s.length
  | (.term, s) => 10 * s.length + 4
  | (.primary, s) => 10 * s.length + 3
  | (.literal, s) => 10 * s.length + 2
  | (.string, s) => 10 * s.length + 1
  | (.call, s) => 10 * s.length + 2
  | (.arguments, s) => 10 * s.length + 8
  | (.moreArguments, s) => 10 * s.length + 7
  | (.group, s) => 10 * s.length + 2

theorem Calls.size_lt (calls : Calls o p p') : p'.size < p.size := by
  cases calls with
  | chain first =>
    have := first.length_le
    simp only [Place.size]
    omega
  | @operand s chain op found =>
    have := op.length_le
    simp only [Place.size]
    omega
  | operands found operand shorter =>
    simp only [Place.size]
    omega
  | primary s | operator s chain =>
    have := length_skipBlanks_le s
    simp only [Place.size]
    omega
  | arguments named opened =>
    obtain ⟨suffix, -⟩ := named
    have := suffix.length_le
    have := opened.length_lt
    simp only [Place.size]
    omega
  | moreArguments first =>
    have := first.length_le
    simp only [Place.size]
    omega
  | next passed =>
    have := passed.length_lt
    simp only [Place.size]
    omega
  | afterNext passed next =>
    have := passed.length_lt
    have := next.length_le
    simp only [Place.size]
    omega
  | inside opened =>
    have := opened.length_lt
    simp only [Place.size]
    omega
  | first | operatorWord | literal | literalWord | string | call | group | argument =>
    simp only [Place.size]
    omega

/-- Every hard fault is that of a string literal or of a word. -/
theorem Fails.exists_innermost (failed : Fails o f p) : ∃ p',
    Relation.ReflTransGen (Calls o) p p' ∧ Innermost p'.1 ∧ Fails o f p' := by
  induction size : p.size using Nat.strongRecOn generalizing p with
  | ind n ih =>
    rcases failed.cases with innermost | ⟨p', calls, failed'⟩
    · exact ⟨p, .refl, innermost, failed⟩
    · have smaller := calls.size_lt
      obtain ⟨r, reached, source⟩ := ih p'.size (by omega) failed' rfl
      exact ⟨r, .head calls reached, source⟩

/-- The reading of the text comes to a place where a string literal is to be read. -/
def Reaches (o : Options) (text : String) (r : List Char) : Prop :=
  Relation.ReflTransGen (Calls o) (.expression, text.toList) (.string, r)

/-- The reading of the text comes to a place where a word is tried. -/
def ReachesWord (o : Options) (text word : String) (ignoreCase : Bool) (r : List Char) : Prop :=
  Relation.ReflTransGen (Calls o) (.expression, text.toList) (.word word ignoreCase, r)

theorem parse_malformed_iff {text : String} :
    Expr.parse o text = .error (.malformed text (.hard f))
      ↔ Fails o f (.expression, text.toList) ∧ f.code ≠ .torn := by
  rw [Expr.parse, Fails]
  cases expression o text.toList with
  | ok t => by_cases done : t.rest = [] <;> simp [done]
  | fault g => simp
  | hard g =>
    by_cases torn : g.code = .torn
    · simp [Error.ofHard, torn]
      rintro rfl
      exact torn
    · simp [Error.ofHard, torn]
      rintro rfl
      exact torn

theorem parse_stopped_iff {text : String} : Expr.parse o text = .error .aborted
    ↔ ∃ f, Fails o f (.expression, text.toList) ∧ f.code = .torn := by
  rw [Expr.parse]
  simp only [Fails]
  cases expression o text.toList with
  | ok t => by_cases done : t.rest = [] <;> simp [done]
  | fault g => simp
  | hard g => by_cases torn : g.code = .torn <;> simp [Error.ofHard, torn]

theorem Broken.code_ne_torn {q : Quote} {r : List Char} (broken : Broken q.char r f) :
    f.code ≠ .torn := by
  cases broken <;> simp

theorem parse_hard_iff {text : String} :
    Expr.parse o text = .error (.malformed text (.hard f))
      ↔ ∃ r, Reaches o text (o.quote.char :: r) ∧ Broken o.quote.char r f := by
  rw [parse_malformed_iff]
  constructor
  · intro ⟨failed, whole⟩
    obtain ⟨⟨reader, s⟩, reached, innermost, source⟩ := failed.exists_innermost
    cases innermost with
    | string =>
      obtain ⟨r, rfl, broken⟩ := stringLiteral_hard_iff.1 source
      exact ⟨r, reached, broken⟩
    | word word ignoreCase =>
      obtain ⟨-, rfl⟩ := keyword_eq_hard_iff.1 source
      exact absurd rfl whole
  · intro ⟨r, reached, broken⟩
    have string : Fails o f (.string, o.quote.char :: r) :=
      stringLiteral_hard_iff.2 ⟨r, rfl, broken⟩
    exact ⟨string.of_reached reached, broken.code_ne_torn⟩

/-- The program stops at a word that is cut inside of a character, and nowhere else. -/
theorem parse_aborted_iff {text : String} : Expr.parse o text = .error .aborted
    ↔ ∃ word ignoreCase r, ReachesWord o text word ignoreCase r ∧ Torn word ignoreCase r := by
  rw [parse_stopped_iff]
  constructor
  · intro ⟨f, failed, torn⟩
    obtain ⟨⟨reader, s⟩, reached, innermost, source⟩ := failed.exists_innermost
    cases innermost with
    | string =>
      obtain ⟨r, rfl, broken⟩ := stringLiteral_hard_iff.1 source
      exact absurd torn broken.code_ne_torn
    | word word ignoreCase =>
      exact ⟨word, ignoreCase, s, reached, (keyword_eq_hard_iff.1 source).1⟩
  · intro ⟨word, ignoreCase, r, reached, torn⟩
    have source : Fails o ⟨.torn, r⟩ (.word word ignoreCase, r) :=
      keyword_eq_hard_iff.2 ⟨torn, rfl⟩
    exact ⟨_, source.of_reached reached, rfl⟩

/-- How the string literals of a language are read. -/
structure ReadsStrings (o : Options) : Prop where
  takes_iff : ∀ s w left, (stringLiteral o.quote.char s).Takes w left
    ↔ ∃ text v, s = text ++ left ∧ QuotedText o.quote text v ∧ w = .string v
  unique : ∀ text text' v v' left left', QuotedText o.quote text v → QuotedText o.quote text' v' →
    text ++ left = text' ++ left' → text = text' ∧ v = v'
  /-- Unless another literal begins with a quote, the literal keeps the quoted text. -/
  source : ∀ s left e, NoSimpleLiteral o s → ((literal o s).Takes e left
    ↔ ∃ text v, s = text ++ left ∧ QuotedText o.quote text v
      ∧ e = .literal (.string v) (String.ofList text))
  writes : ∀ v rest, (stringLiteral o.quote.char ((quoted o.quote v).toList ++ rest)).Takes
    (.string v) rest
  parses : ∀ v, NoSimpleLiteral o (quoted o.quote v).toList → NoSimpleLiteral o [] →
    Expr.parse o (quoted o.quote v) = .ok (.literal (.string v) (quoted o.quote v))
  parsesUsual : o.UsualWords → ∀ v,
    Expr.parse o (quoted o.quote v) = .ok (.literal (.string v) (quoted o.quote v))
  /-- After an opening quote there is no other outcome. -/
  otherwise : ∀ s, (¬ ∃ text v left, o.quote.char :: s = text ++ left ∧ QuotedText o.quote text v) →
    ∃ f, stringLiteral o.quote.char (o.quote.char :: s) = .hard f ∧ Broken o.quote.char s f
  /-- A literal that is broken makes the whole text one that is no expression, wherever it stands. -/
  fails_iff : ∀ text f, Expr.parse o text = .error (.malformed text (.hard f))
    ↔ ∃ r, Reaches o text (o.quote.char :: r) ∧ Broken o.quote.char r f

/-- String literals are read exactly where quoted texts stand, and what begins like one and is none ends
the reading of the whole text. -/
theorem readsStrings (o : Options) : ReadsStrings o := by
  constructor
  case takes_iff =>
    intro s w left
    exact stringLiteral_takes_iff
  case unique =>
    intro text text' v v' left left' first second same
    obtain ⟨texts, values, -⟩ := quotedText_unique first second same
    exact ⟨texts, values⟩
  case source =>
    intro s left e simple
    exact literal_takes_quoted simple
  case writes =>
    intro v rest
    exact stringLiteral_takes_iff.2 ⟨_, v, rfl, quotedText_quoted o.quote v, rfl⟩
  case parses =>
    intro v simple simple'
    exact parse_quoted simple simple'
  case parsesUsual =>
    intro words v
    apply parse_quoted
    · apply noSimpleLiteral_of_head words
      intro c head
      rw [quoted, String.toList_ofList] at head
      cases head
      obtain ⟨-, name, minus, plus, -⟩ := quote_char o.quote
      exact ⟨name, minus, plus⟩
    · exact noSimpleLiteral_of_head words forall_mem_head?_nil
  case otherwise =>
    intro s none
    rcases closed_or_broken o.quote s with ⟨inner, cs, left, split, items⟩ | ⟨f, broken⟩
    · refine absurd ⟨o.quote.char :: (inner ++ [o.quote.char]), String.ofList cs, left, ?_, ?_⟩ none
      · rw [split, List.cons_append, List.append_assoc]
        rfl
      · exact ⟨inner, rfl, String.toList_ofList.symm ▸ items⟩
    · exact ⟨f, stringLiteral_hard_iff.2 ⟨s, rfl, broken⟩, broken⟩
  case fails_iff =>
    intro text f
    exact parse_hard_iff

end ExprLang.Grammar
