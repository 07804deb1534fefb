import ExprLang.Proofs.Grammar.Closure
import ExprLang.Proofs.Grammar.Literals
import ExprLang.Proofs.Grammar.Names

set_option autoImplicit false

/-!
String literals and their grammar. Between quotes stand items, each of which is a character for itself
or an escape; where an opening quote is followed by something else, the reading ends for good. Every
string has a quoted text that is read as this string.
-/

namespace ExprLang.Grammar

/-- What can stand after a backslash, and what it stands for there. -/
def escapes (quote : Char) : List (Char × Char) :=
  [(quote, quote), ('\\', '\\'), ('a', '\x07'), ('b', '\x08'), ('f', '\x0c'), ('n', '\n'),
    ('r', '\r'), ('t', '\t'), ('v', '\x0b')]

/-- The texts of one character. -/
inductive Item (quote : Char) : List Char → Char → Prop
  | plain {c : Char} (other : c ≠ quote) (noEscape : c ≠ '\\') : Item quote [c] c
  | escape {e d : Char} (known : (e, d) ∈ escapes quote) : Item quote ['\\', e] d

/-- Items one after another, with the characters that they stand for. -/
inductive Items (quote : Char) : List Char → List Char → Prop
  | nil : Items quote [] []
  | cons {item text : List Char} {d : Char} {ds : List Char} (first : Item quote item d)
      (rest : Items quote text ds) : Items quote (item ++ text) (d :: ds)

/-- What follows an opening quote is not closed, or has a backslash where no escape is. The fault is
at the end or at the backslash. -/
inductive Broken (quote : Char) : List Char → Fault → Prop
  | unclosed {text cs : List Char} (items : Items quote text cs) :
      Broken quote text ⟨.character, []⟩
  | escape {text cs rest : List Char} (items : Items quote text cs)
      (unknown : ∀ e ∈ rest.head?, ∀ d, (e, d) ∉ escapes quote) :
      Broken quote (text ++ '\\' :: rest) ⟨.escape, '\\' :: rest⟩

theorem Broken.cons {quote d : Char} {item text : List Char} {f : Fault}
    (first : Item quote item d) (broken : Broken quote text f) : Broken quote (item ++ text) f := by
  cases broken with
  | unclosed items => exact .unclosed (.cons first items)
  | escape items unknown =>
    rw [← List.append_assoc]
    exact .escape (.cons first items) unknown

theorem escape?_eq_some_iff {q : Quote} {e d : Char} :
    StringLiteral.escape? q.char e = some d ↔ (e, d) ∈ escapes q.char := by
  constructor
  · intro known
    unfold StringLiteral.escape? at known
    split at known
    · rename_i same
      subst same
      cases known
      exact List.mem_cons_self
    · apply List.mem_cons_of_mem
      split at known <;> cases known <;> decide
  · intro known
    simp only [escapes, List.mem_cons, List.not_mem_nil, or_false, Prod.mk.injEq] at known
    rcases known with ⟨rfl, rfl⟩ | known
    · exact if_pos rfl
    · -- No quote is one of the other characters.
      rcases known with ⟨rfl, rfl⟩ | ⟨rfl, rfl⟩ | ⟨rfl, rfl⟩ | ⟨rfl, rfl⟩ | ⟨rfl, rfl⟩ | ⟨rfl, rfl⟩
        | ⟨rfl, rfl⟩ | ⟨rfl, rfl⟩ <;> cases q <;> rfl

/-! Between the quotes -/

section

variable {q : Quote} {c d e : Char} {s left item text cs rest : List Char} {f : Fault}

theorem body_quote (s : List Char) : (StringLiteral.body q.char (q.char :: s)).Takes [] s := by
  rw [StringLiteral.body.eq_def]
  dsimp only
  rw [if_pos rfl]
  exact ⟨_, rfl⟩

theorem quote_ne_backslash (q : Quote) : '\\' ≠ q.char := by
  cases q <;> decide

theorem body_item (first : Item q.char item d) (s : List Char) : ∃ suffix,
    StringLiteral.body q.char (item ++ s)
      = ((StringLiteral.body q.char s).map (d :: ·)).within suffix := by
  cases first with
  | plain other noEscape =>
    rw [List.singleton_append, StringLiteral.body.eq_def]
    dsimp only
    rw [if_neg other, if_neg noEscape]
    exact ⟨_, rfl⟩
  | @escape e d known =>
    have escape := escape?_eq_some_iff.2 known
    refine ⟨(List.suffix_cons e s).trans (List.suffix_cons '\\' (e :: s)), ?_⟩
    change StringLiteral.body q.char ('\\' :: e :: s) = _
    rw [StringLiteral.body, if_neg (quote_ne_backslash q), if_pos rfl]
    simp only [escape]

theorem body_item_takes (first : Item q.char item d)
    (rest : (StringLiteral.body q.char s).Takes cs left) :
    (StringLiteral.body q.char (item ++ s)).Takes (d :: cs) left := by
  obtain ⟨suffix, read⟩ := body_item first s
  rw [read, Reading.takes_within_iff, Reading.takes_map_iff]
  exact ⟨cs, rest, rfl⟩

theorem body_item_hard (first : Item q.char item d)
    (rest : StringLiteral.body q.char s = .hard f) :
    StringLiteral.body q.char (item ++ s) = .hard f := by
  obtain ⟨suffix, read⟩ := body_item first s
  rw [read, Reading.within_eq_hard_iff, Reading.map_eq_hard_iff]
  exact rest

/-- A backslash where no escape stands is a hard fault. -/
theorem body_unknown (unknown : ∀ e ∈ rest.head?, ∀ d, (e, d) ∉ escapes q.char) :
    StringLiteral.body q.char ('\\' :: rest) = .hard ⟨.escape, '\\' :: rest⟩ := by
  cases rest with
  | nil => rw [StringLiteral.body, if_neg (quote_ne_backslash q), if_pos rfl]
  | cons e rest =>
    have none : StringLiteral.escape? q.char e = none := by
      apply Option.eq_none_iff_forall_ne_some.2
      intro d known
      exact unknown e rfl d (escape?_eq_some_iff.1 known)
    rw [StringLiteral.body, if_neg (quote_ne_backslash q), if_pos rfl]
    simp only [none]

theorem body_takes_of_items (items : Items q.char text cs) (left : List Char) :
    (StringLiteral.body q.char (text ++ q.char :: left)).Takes cs left := by
  induction items with
  | nil => exact body_quote left
  | cons first rest ih =>
    rw [List.append_assoc]
    exact body_item_takes first ih

theorem body_hard_of_items (items : Items q.char text cs)
    (rest : StringLiteral.body q.char s = .hard f) :
    StringLiteral.body q.char (text ++ s) = .hard f := by
  induction items with
  | nil => exact rest
  | cons first items ih =>
    rw [List.append_assoc]
    exact body_item_hard first ih

theorem body_hard_of_broken (broken : Broken q.char s f) :
    StringLiteral.body q.char s = .hard f := by
  cases broken with
  | unclosed items =>
    rw [← List.append_nil s]
    exact body_hard_of_items items rfl
  | escape items unknown => exact body_hard_of_items items (body_unknown unknown)

/-- After an opening quote stand items up to a closing one, or what follows is broken. -/
theorem closed_or_broken (q : Quote) (s : List Char) :
    (∃ text cs left, s = text ++ q.char :: left ∧ Items q.char text cs)
      ∨ ∃ f, Broken q.char s f := by
  have further {item s : List Char} {d : Char} (first : Item q.char item d)
      (ih : (∃ text cs left, s = text ++ q.char :: left ∧ Items q.char text cs)
        ∨ ∃ f, Broken q.char s f) :
      (∃ text cs left, item ++ s = text ++ q.char :: left ∧ Items q.char text cs)
        ∨ ∃ f, Broken q.char (item ++ s) f := by
    rcases ih with ⟨text, cs, left, rfl, items⟩ | ⟨f, broken⟩
    · exact .inl ⟨item ++ text, d :: cs, left, (List.append_assoc ..).symm, .cons first items⟩
    · exact .inr ⟨f, broken.cons first⟩
  induction s using StringLiteral.body.induct q.char with
  | case1 => exact .inr ⟨_, .unclosed .nil⟩
  | case2 s => exact .inl ⟨[], [], s, rfl, .nil⟩
  | case3 other =>
    have broken : Broken q.char ([] ++ ['\\']) ⟨.escape, ['\\']⟩ :=
      .escape .nil forall_mem_head?_nil
    exact .inr ⟨_, broken⟩
  | case4 e s none other =>
    have broken : Broken q.char ([] ++ '\\' :: e :: s) ⟨.escape, '\\' :: e :: s⟩ := by
      apply Broken.escape .nil
      intro e' head d known
      cases head
      rw [escape?_eq_some_iff.2 known] at none
      cases none
    exact .inr ⟨_, broken⟩
  | case5 e s d escape other ih => exact further (.escape (escape?_eq_some_iff.1 escape)) ih
  | case6 c s other plain ih => exact further (.plain other plain) ih

theorem body_takes_iff : (StringLiteral.body q.char s).Takes cs left
    ↔ ∃ text, s = text ++ q.char :: left ∧ Items q.char text cs := by
  constructor
  · intro taken
    rcases closed_or_broken q s with ⟨text, ds, rest, rfl, items⟩ | ⟨f, broken⟩
    · obtain ⟨rfl, rfl⟩ := taken.unique (body_takes_of_items items rest)
      exact ⟨text, rfl, items⟩
    · rw [body_hard_of_broken broken] at taken
      exact absurd taken Reading.not_takes_hard
  · intro ⟨text, split, items⟩
    rw [split]
    exact body_takes_of_items items left

theorem body_hard_iff : StringLiteral.body q.char s = .hard f ↔ Broken q.char s f := by
  constructor
  · intro failed
    rcases closed_or_broken q s with ⟨text, ds, rest, rfl, items⟩ | ⟨f', broken⟩
    · have taken := body_takes_of_items items rest
      rw [failed] at taken
      exact absurd taken Reading.not_takes_hard
    · rw [body_hard_of_broken broken] at failed
      cases failed
      exact broken
  · exact body_hard_of_broken

end

/-! Quoted texts -/

/-- A quoted text and the string that it stands for. -/
def QuotedText (q : Quote) (text : List Char) (v : String) : Prop :=
  ∃ inner, text = q.char :: (inner ++ [q.char]) ∧ Items q.char inner v.toList

/-- The characters of a string as items: quotes and backslashes get a backslash. -/
def escaped (quote : Char) (cs : List Char) : List Char :=
  cs.flatMap fun c => if c = quote ∨ c = '\\' then ['\\', c] else [c]

/-- A string in quotes. -/
def quoted (q : Quote) (v : String) : String :=
  String.ofList (q.char :: (escaped q.char v.toList ++ [q.char]))

variable {q : Quote} {s left : List Char} {v : String} {o : Options}

theorem items_escaped (quote : Char) (cs : List Char) : Items quote (escaped quote cs) cs := by
  induction cs with
  | nil => exact .nil
  | cons c cs ih =>
    rw [escaped, List.flatMap_cons]
    apply Items.cons _ ih
    by_cases special : c = quote ∨ c = '\\'
    · rw [if_pos special]
      apply Item.escape
      rcases special with rfl | rfl
      · exact List.mem_cons_self
      · exact List.mem_cons_of_mem _ List.mem_cons_self
    · rw [if_neg special]
      exact .plain (fun same => special (.inl same)) (fun same => special (.inr same))

theorem quotedText_quoted (q : Quote) (v : String) : QuotedText q (quoted q v).toList v := by
  refine ⟨escaped q.char v.toList, ?_, items_escaped q.char v.toList⟩
  rw [quoted, String.toList_ofList]

/-- A string literal is read where a quoted text stands, and takes just this text. -/
theorem stringLiteral_takes_iff {w : Literal} : (stringLiteral q.char s).Takes w left
    ↔ ∃ text v, s = text ++ left ∧ QuotedText q text v ∧ w = .string v := by
  constructor
  · intro taken
    obtain ⟨text, rfl, -⟩ := stringLiteral_takes taken
    obtain ⟨cs, inside, rfl⟩ := stringLiteral_cons_takes_iff.1 taken
    obtain ⟨inner, split, items⟩ := body_takes_iff.1 inside
    refine ⟨q.char :: (inner ++ [q.char]), String.ofList cs, ?_, ⟨inner, rfl, ?_⟩, rfl⟩
    · rw [split, List.cons_append, List.append_assoc]
      rfl
    · rwa [String.toList_ofList]
  · intro ⟨text, v, split, ⟨inner, quotes, items⟩, value⟩
    have opened : s = q.char :: (inner ++ q.char :: left) := by
      rw [split, quotes, List.cons_append, List.append_assoc]
      rfl
    rw [opened, stringLiteral_cons_takes_iff]
    refine ⟨v.toList, body_takes_iff.2 ⟨inner, rfl, items⟩, ?_⟩
    rw [String.ofList_toList, value]

/-- After an opening quote nothing but a quoted text is read, and everything else is a hard fault. -/
theorem stringLiteral_hard_iff {f : Fault} : stringLiteral q.char s = .hard f
    ↔ ∃ r, s = q.char :: r ∧ Broken q.char r f := by
  cases opening : past? q.char s with
  | none =>
    have absent (r : List Char) : s ≠ q.char :: r := by
      intro same
      rw [same, past?_cons] at opening
      cases opening
    simp only [stringLiteral, opening, reduceCtorEq, false_iff, not_exists, not_and]
    intro r same
    exact absurd same (absent r)
  | some p =>
    have split := past?_eq_some opening
    simp only [stringLiteral, opening]
    rw [Reading.within_eq_hard_iff, Reading.map_eq_hard_iff, body_hard_iff]
    constructor
    · intro broken
      exact ⟨p.rest, split, broken⟩
    · intro found
      obtain ⟨r, same, broken⟩ := found
      rw [split, List.cons.injEq] at same
      rwa [same.2]

theorem quotedText_unique {text text' left left' : List Char} {v v' : String}
    (first : QuotedText q text v) (second : QuotedText q text' v')
    (same : text ++ left = text' ++ left') : text = text' ∧ v = v' ∧ left = left' := by
  have taken : (stringLiteral q.char (text ++ left)).Takes (.string v) left :=
    stringLiteral_takes_iff.2 ⟨text, v, rfl, first, rfl⟩
  have taken' : (stringLiteral q.char (text ++ left)).Takes (.string v') left' :=
    stringLiteral_takes_iff.2 ⟨text', v', same, second, rfl⟩
  obtain ⟨value, rfl⟩ := taken.unique taken'
  cases value
  exact ⟨List.append_cancel_right same, rfl, rfl⟩

/-- The source of a string literal is the quoted text. -/
theorem literal_takes_quoted (simple : NoSimpleLiteral o s) {e : Expr} :
    (literal o s).Takes e left ↔ ∃ text v, s = text ++ left ∧ QuotedText o.quote text v
      ∧ e = .literal (.string v) (String.ofList text) := by
  rw [simple.takes_iff]
  constructor
  · intro ⟨w, taken, node⟩
    obtain ⟨text, v, split, quotes, value⟩ := stringLiteral_takes_iff.1 taken
    refine ⟨text, v, split, quotes, ?_⟩
    rw [← node, value, split, consumed_append]
  · intro ⟨text, v, split, quotes, node⟩
    refine ⟨.string v, stringLiteral_takes_iff.2 ⟨text, v, split, quotes, rfl⟩, ?_⟩
    rw [node, split, consumed_append]

/-! Whole texts -/

theorem term_nil_faults (simple : NoSimpleLiteral o []) : (term o []).Faults := by
  apply term_faults
  apply primary_faults
  · exact simple.faults (stringLiteral_faults nofun)
  · exact call_faults_of_name rfl
  · exact ident?_eq_none rfl
  · exact group_faults nofun

theorem operands_nil (simple : NoSimpleLiteral o []) (e : Expr) : (operands o e []).Takes e [] := by
  cases found : operatorSpaced o [] with
  | fault f => exact operands_of_none ⟨f, found⟩
  | hard f =>
    obtain ⟨word, -, failed⟩ := operator_eq_hard_iff.1 (operatorSpaced_eq_hard_iff.1 found)
    exact absurd (keyword_eq_hard_iff.1 failed).1 (not_torn_of_ascii (List.forall_mem_nil _))
  | ok op =>
    have rest : op.rest = [] := List.suffix_nil.1 op.suffix
    apply operands_of_faults found
    rw [rest]
    exact term_nil_faults simple

/-- A text that is one literal is read as this literal. -/
theorem expression_of_literal (simple : NoSimpleLiteral o []) {e : Expr}
    (start : skipBlanks s = s) (read : (literal o s).Takes e []) :
    (expression o s).Takes e [] := by
  have first := term_of_primary_nil start (primary_of_literal read)
  exact expression_takes_iff.2 ⟨e, [], first, operands_nil simple e⟩

theorem parse_quoted (simple : NoSimpleLiteral o (quoted o.quote v).toList)
    (simple' : NoSimpleLiteral o []) : Expr.parse o (quoted o.quote v)
      = .ok (.literal (.string v) (quoted o.quote v)) := by
  apply Expr.parse_eq_ok_iff.2
  apply expression_of_literal simple'
  · rw [quoted, String.toList_ofList]
    exact skipBlanks_cons (quote_char o.quote).1 _
  · apply (literal_takes_quoted simple).2
    refine ⟨_, v, (List.append_nil _).symm, quotedText_quoted o.quote v, ?_⟩
    rw [String.ofList_toList]

end ExprLang.Grammar
