import Mathlib.Data.List.Forall2
import ExprLang.Proofs.Grammar.Following
import ExprLang.Proofs.Grammar.Legible
import ExprLang.Proofs.Grammar.Rendering
import ExprLang.Proofs.Grouping

set_option autoImplicit false

/-!
Texts of expressions that are read once more. Each text of a legible expression is read as the
expression with a group around each operation, whatever blanks stand between its parts, and with the
operators that the language takes their usual spellings for.
-/

namespace ExprLang

namespace Expr

mutual

/-- The expression with a group around each operation, and each operator as what its usual spelling
is read as. There is none when a spelling is not that of an operator. -/
def reread (o : Options) : Expr → Option Expr
  | literal value source => some (literal value source)
  | ident name => some (ident name)
  | call name arguments => (rereadAll o arguments).map (call name)
  | conditional name arguments => (rereadAll o arguments).map (conditional name)
  | nullTest name arguments => (rereadAll o arguments).map (nullTest name)
  | member target name => (target.reread o).map (member · name)
  | group inner => (inner.reread o).map group
  | operation left op right => do
    let left ← left.reread o
    let op ← o.reading? op
    let right ← right.reread o
    return group (operation left op right)

def rereadAll (o : Options) : List Expr → Option (List Expr)
  | [] => some []
  | e :: es => do
    let e ← e.reread o
    let es ← rereadAll o es
    return e :: es

end

variable {o : Options} {e e' : Expr} {es es' : List Expr}

theorem isOperation_of_reread (h : e.reread o = some e') : e'.isOperation = false := by
  cases e with
  | literal v source | ident name =>
    cases h
    rfl
  | call name es | conditional name es | nullTest name es | member target name | group inner =>
    obtain ⟨_, -, rfl⟩ := Option.map_eq_some_iff.1 h
    rfl
  | operation left op right =>
    simp only [reread, Option.bind_eq_bind, Option.bind_eq_some_iff] at h
    obtain ⟨_, -, _, -, _, -, made⟩ := h
    cases made
    rfl

/-- What holds of each part and what it is read as holds of lists of them. -/
theorem forall₂_of_rereadAll {R : Expr → Expr → Prop}
    (h : ∀ e ∈ es, ∀ e', e.reread o = some e' → R e e') (all : rereadAll o es = some es') :
    List.Forall₂ R es es' := by
  induction es generalizing es' with
  | nil =>
    cases all
    exact .nil
  | cons e es ih =>
    obtain ⟨head, tail⟩ := List.forall_mem_cons.1 h
    simp only [rereadAll, Option.bind_eq_bind, Option.bind_eq_some_iff] at all
    obtain ⟨first, read, rest, others, made⟩ := all
    cases made
    exact .cons (head first read) (ih tail others)

/-- Every operator of the expression is read from its usual spelling. -/
def Usual (o : Options) (e : Expr) : Prop :=
  ∀ left op right, (operation left op right).Within e → o.reading? op = some op

theorem Usual.of_mem_children {x : Expr} (h : e.Usual o) (hx : x ∈ e.children) : x.Usual o :=
  fun left op right inside => h left op right (inside.trans (within_of_mem_children hx))

/-- Where that is so only groups come in. -/
theorem reread_eq_grouped (usual : e.Usual o) : e.reread o = some e.grouped := by
  have all : ∀ es : List Expr, (∀ e ∈ es, e.reread o = some e.grouped) →
      rereadAll o es = some (groupedAll es) := by
    intro es h
    induction es with
    | nil => rfl
    | cons e es ih =>
      obtain ⟨head, tail⟩ := List.forall_mem_cons.1 h
      rw [rereadAll, head, ih tail]
      rfl
  induction e with
  | literal v source => rfl
  | ident name => rfl
  | call name es ih =>
    rw [reread, all es fun e mem => ih e mem (usual.of_mem_children mem)]
    rfl
  | conditional name es ih =>
    rw [reread, all es fun e mem => ih e mem (usual.of_mem_children mem)]
    rfl
  | nullTest name es ih =>
    rw [reread, all es fun e mem => ih e mem (usual.of_mem_children mem)]
    rfl
  | member target name ih =>
    rw [reread, ih (usual.of_mem_children (by simp [children]))]
    rfl
  | group inner ih =>
    rw [reread, ih (usual.of_mem_children (by simp [children]))]
    rfl
  | operation left op right ihl ihr =>
    rw [reread, ihl (usual.of_mem_children (by simp [children])),
      ihr (usual.of_mem_children (by simp [children])), usual left op right .refl]
    rfl

end Expr

namespace Grammar

variable {o : Options} {s rest left : List Char} {e e' : Expr}

theorem skipBlanks_append_start {a cs : List Char} (ha : Blank a)
    (start : ∃ c r, cs = c :: r ∧ isBlank c = false) (rest : List Char) :
    skipBlanks (a ++ (cs ++ rest)) = cs ++ rest := by
  obtain ⟨c, r, rfl, blank⟩ := start
  rw [skipBlanks_append ha, List.cons_append, skipBlanks_cons blank]

theorem RendersCall.start {name : String} {es : List Expr} {cs : List Char}
    (h : RendersCall name es cs) (named : isName name.toList = true) :
    ∃ c r, cs = c :: r ∧ isBlank c = false := by
  cases h
  obtain ⟨c, r, eq, blank⟩ := start_of_isName named
  exact ⟨c, _, by rw [eq, List.cons_append], blank⟩

/-- No text of an expression begins with a blank. -/
theorem Renders.start {cs : List Char} (h : Renders e cs) (readable : e.Readable o) :
    ∃ c r, cs = c :: r ∧ isBlank c = false := by
  have own := readable e .refl
  induction e generalizing cs with
  | literal v source =>
    cases h
    exact own.start
  | ident name =>
    cases h
    exact start_of_isName own.1
  | call name es =>
    cases h with
    | call h => exact h.start own.named
  | conditional name es =>
    cases h with
    | conditional h => exact h.start own.named
  | nullTest name es =>
    cases h with
    | nullTest h => exact h.start own.named
  | member target name ih =>
    cases h with
    | member h =>
      have inner := readable.of_mem_children (x := target) (by simp [Expr.children])
      obtain ⟨c, r, rfl, blank⟩ := ih h inner (inner target .refl)
      exact ⟨c, _, rfl, blank⟩
  | group inner =>
    cases h
    exact ⟨_, _, rfl, rfl⟩
  | operation left op right =>
    cases h
    exact ⟨_, _, rfl, rfl⟩

/-- Each text of the first expression is read as the second one, wherever a term can stand. -/
def Rereads (o : Options) (e e' : Expr) : Prop :=
  ∀ {cs rest s : List Char}, Renders e cs → e.Readable o → Stops rest →
    skipBlanks s = cs ++ rest → (term o s).Takes (followed o e' rest).1 (followed o e' rest).2

theorem term_of_primary {v : Expr} {r : List Char} (h : (primary o (skipBlanks s)).Takes v r) :
    (term o s).Takes (followed o v r).1 (followed o v r).2 :=
  term_takes_iff.2 ⟨v, r, h, rfl⟩

theorem rereads_literal (v : Literal) (source : String) :
    Rereads o (.literal v source) (.literal v source) := by
  intro cs rest s text readable stops eq
  cases text
  have read := (readable _ .refl).reads rest stops.name stops.fraction
  rw [← eq] at read
  exact term_of_primary (primary_of_literal read)

theorem stops_of_member {a b : List Char} (ha : Blank a) (hb : Blank b) {name : String}
    (named : isName name.toList = true) (rest : List Char) :
    Stops (a ++ '.' :: (b ++ (name.toList ++ rest))) := by
  obtain ⟨c, r, head, start, -⟩ := isName_iff.1 named
  refine stops_of_point ha ?_
  rw [head]
  exact digitsEnd_append_cons hb (not_numeral_of_isNameStart start).2.2 (r ++ rest)

theorem rereads_member {target target' : Expr} {name : String} (h : Rereads o target target') :
    Rereads o (.member target name) (.member target' name) := by
  intro cs rest s text readable stops eq
  obtain ⟨read, named⟩ := readable _ .refl
  cases text with
  | @member _ _ cs a b text ha hb =>
    simp only [List.append_assoc, List.cons_append] at eq
    have inner := readable.of_mem_children (x := target) (by simp [Expr.children])
    have taken := h text inner (stops_of_member ha hb named rest) eq
    have point := skipBlanks_append_cons ha (c := '.') rfl (b ++ (name.toList ++ rest))
    have after := skipBlanks_append_start hb (start_of_isName named) rest
    rw [followed_member target' read point named stops.name after] at taken
    exact taken

/-- Between arguments stand commas, and after the last one a parenthesis. -/
theorem RendersMore.closes {es : List Expr} {cs : List Char} (h : RendersMore es cs)
    (closing : skipBlanks rest = ')' :: left) : Closes (cs ++ rest) := by
  cases h with
  | nil => exact .of_cons (.inl rfl) closing
  | @cons _ _ cs ds a b _ _ ha _ =>
    rw [List.append_assoc, List.cons_append]
    exact .of_cons (.inr rfl) (skipBlanks_append_cons ha rfl _)

section UsualWords

variable (words : o.UsualWords)

include words

theorem rereads_ident (name : String) : Rereads o (.ident name) (.ident name) := by
  intro cs rest s text readable stops eq
  obtain ⟨named, notReserved⟩ := readable _ .refl
  cases text
  have read := literal_faults_of_name words named stops.name (noLiteral_of_isKeyword notReserved)
  rw [← eq] at read
  have taken := name?_of_eq eq named stops.name
  have called : (call o (skipBlanks s)).Faults := call_faults_of_opening taken stops.opening
  exact term_of_primary (primary_of_ident read called (ident?_of_name? taken notReserved))

/-- An expression ends where the text does, or the part of it that the expression stands in. -/
theorem expression_of_rereads {cs : List Char} (h : Rereads o e e') (text : Renders e cs)
    (readable : e.Readable o) (closes : Closes rest) (eq : skipBlanks s = cs ++ rest) :
    (expression o s).Takes e' (skipBlanks rest) := by
  have first := h text readable closes.halts.toStops eq
  rw [followed_of_halts _ closes.halts] at first
  exact expression_takes_iff.2
    ⟨_, _, first, operands_of_none (closes.skipBlanks.operatorSpaced_faults words)⟩

/-- Neither a literal nor a name begins with a parenthesis. -/
theorem faults_of_parenthesis {c : Char} (hc : c = '(' ∨ c = ')') (eq : s = c :: rest) :
    (literal o s).Faults ∧ name? s = none := by
  subst eq
  obtain ⟨-, -, -, -, opening, closing⟩ := quote_char o.quote
  have quote : c ≠ o.quote.char := by
    rcases hc with rfl | rfl
    · exact opening.symm
    · exact closing.symm
  have plain : isNameChar c = false ∧ c ≠ '-' ∧ c ≠ '+' ∧ isNameStart c = false := by
    rcases hc with rfl | rfl <;> decide
  obtain ⟨noName, minus, plus, noStart⟩ := plain
  refine ⟨literal_faults_of_head words ?_ fun same => quote (Option.some.inj same),
    name?_eq_none ?_⟩
  · rintro _ ⟨⟩
    exact ⟨noName, minus, plus⟩
  · rintro _ ⟨⟩
    exact noStart

theorem expression_faults_of_closing (eq : skipBlanks s = ')' :: rest) :
    (expression o s).Faults := by
  obtain ⟨read, named⟩ := faults_of_parenthesis words (.inr rfl) eq
  have grouped : (group o (skipBlanks s)).Faults := by
    refine group_faults ?_
    rw [skipBlanks_skipBlanks, eq]
    rintro ⟨⟩
  exact expression_faults
    (term_faults (primary_faults read (call_faults_of_name named) (ident?_eq_none named) grouped))

theorem moreArguments_of_rereads {es es' : List Expr} {cs : List Char}
    (h : List.Forall₂ (Rereads o) es es') (text : RendersMore es cs)
    (readable : ∀ e ∈ es, e.Readable o) (closing : skipBlanks rest = ')' :: left)
    (eq : skipBlanks s = skipBlanks (cs ++ rest)) :
    ∃ t, (moreArguments o s).Takes es' t ∧ skipBlanks t = ')' :: left := by
  induction h generalizing cs s with
  | nil =>
    cases text
    rw [List.nil_append, closing] at eq
    exact ⟨s, moreArguments_nil (by rw [eq]; rintro ⟨⟩), eq⟩
  | cons head _ ih =>
    cases text with
    | @cons _ _ cs ds a b text more ha hb =>
      obtain ⟨own, others⟩ := List.forall_mem_cons.1 readable
      simp only [List.append_assoc, List.cons_append] at eq
      rw [skipBlanks_append_cons ha rfl] at eq
      have start := skipBlanks_append_start hb (text.start own) (ds ++ rest)
      rw [← skipBlanks_skipBlanks] at start
      have read := expression_of_rereads words head text own (more.closes closing) start
      obtain ⟨t, taken, left⟩ := ih more others (skipBlanks_skipBlanks (ds ++ rest))
      exact ⟨t, moreArguments_cons (.of_cons eq) read taken, left⟩

theorem arguments_of_rereads {es es' : List Expr} {cs : List Char}
    (h : List.Forall₂ (Rereads o) es es') (text : RendersAll es cs)
    (readable : ∀ e ∈ es, e.Readable o) (closing : skipBlanks rest = ')' :: left)
    (eq : skipBlanks s = skipBlanks (cs ++ rest)) :
    ∃ t, (arguments o s).Takes es' t ∧ skipBlanks t = ')' :: left := by
  cases text with
  | nil =>
    cases h
    rw [List.nil_append, closing] at eq
    exact ⟨s, arguments_nil (expression_faults_of_closing words eq), eq⟩
  | @cons e es cs ds text more =>
    obtain ⟨e', es', head, tail, rfl⟩ := List.forall₂_cons_left_iff.1 h
    obtain ⟨own, others⟩ := List.forall_mem_cons.1 readable
    have start := skipBlanks_append_start blank_nil (text.start own) (ds ++ rest)
    rw [List.append_assoc] at eq
    have read := expression_of_rereads words head text own (more.closes closing) (eq.trans start)
    obtain ⟨t, taken, left⟩ := moreArguments_of_rereads words tail more others closing
      (skipBlanks_skipBlanks _)
    exact ⟨t, arguments_cons read taken, left⟩

/-- A call is read from its texts as the node that its name stands for. -/
theorem term_of_rendersCall {node : String → List Expr → Expr} {name : String}
    {es es' : List Expr} {cs : List Char} (callName : CallName o name node)
    (h : List.Forall₂ (Rereads o) es es')
    (readable : ∀ e ∈ es, e.Readable o) (text : RendersCall name es cs)
    (eq : skipBlanks s = cs ++ rest) :
    (term o s).Takes (followed o (node name es') rest).1 (followed o (node name es') rest).2 := by
  cases text with
  | @intro _ _ cs a b c text ha hb hc =>
    simp only [List.append_assoc, List.cons_append, List.nil_append] at eq
    have ends := nameEnds_append_cons ha (c := '(') rfl (b ++ (cs ++ (c ++ ')' :: rest)))
    have read := literal_faults_of_name words callName.named ends callName.noLiteral
    rw [← eq] at read
    have opening := skipBlanks_append_cons ha (c := '(') rfl (b ++ (cs ++ (c ++ ')' :: rest)))
    have closing := skipBlanks_append_cons hc (c := ')') rfl rest
    have start : skipBlanks (skipBlanks (b ++ (cs ++ (c ++ ')' :: rest))))
        = skipBlanks (cs ++ (c ++ ')' :: rest)) := by
      rw [skipBlanks_skipBlanks, skipBlanks_append hb]
    obtain ⟨t, taken, left⟩ := arguments_of_rereads words h text readable closing start
    have called := call_of_arguments (name?_of_eq eq callName.named ends) (.of_cons opening) taken
      (.of_cons left) (callName.node es')
    have whole := term_of_primary (primary_of_call read called)
    rwa [followed_skipBlanks] at whole

/-- What stands in parentheses is read as a group. -/
theorem term_of_parentheses {inner : Expr} {r t : List Char} (eq : skipBlanks s = '(' :: r)
    (taken : (expression o (skipBlanks r)).Takes inner t) (closing : skipBlanks t = ')' :: rest) :
    (term o s).Takes (followed o (.group inner) rest).1 (followed o (.group inner) rest).2 := by
  obtain ⟨read, named⟩ := faults_of_parenthesis words (.inl rfl) eq
  have opening : PastSpaced '(' (skipBlanks s) (skipBlanks r) :=
    .of_cons (by rw [skipBlanks_skipBlanks, eq])
  have grouped := group_of_expression opening taken (.of_cons closing)
  have whole := term_of_primary
    (primary_of_group read (call_faults_of_name named) (ident?_eq_none named) grouped)
  rwa [followed_skipBlanks] at whole

theorem rereads_group {inner inner' : Expr} (h : Rereads o inner inner') :
    Rereads o (.group inner) (.group inner') := by
  intro cs rest s text readable _ eq
  cases text with
  | @group _ cs a b text ha hb =>
    simp only [List.append_assoc, List.cons_append, List.nil_append] at eq
    have own := readable.of_mem_children (x := inner) (by simp [Expr.children])
    have closing := skipBlanks_append_cons hb (c := ')') rfl rest
    have start := skipBlanks_append_start ha (text.start own) (b ++ ')' :: rest)
    rw [← skipBlanks_skipBlanks] at start
    have taken := expression_of_rereads words h text own (.of_cons (.inl rfl) closing) start
    rw [closing] at taken
    exact term_of_parentheses words eq taken (skipBlanks_cons rfl rest)

omit words in
theorem operatorSpaced_of_reading {b c tail : List Char} {op op' : Operator}
    (reads : o.ReadsOperators) (means : o.reading? op = some op') (hb : Blank b) (hc : Blank c)
    (ne : c ≠ []) (eq : skipBlanks s = skipBlanks (b ++ (op.symbol.toList ++ (c ++ tail)))) :
    ∃ t, operatorSpaced o s = .ok t ∧ t.value = op' ∧ t.rest = skipBlanks (c ++ tail)
      ∧ t.rest.length < s.length := by
  obtain ⟨first, others, symbol, blank, -⟩ := symbol_start op
  rw [skipBlanks_append_start hb ⟨first, others, symbol, blank⟩] at eq
  obtain ⟨suffix, found⟩ := reads.of_eq means (BlankAhead.of_blank hc ne tail) eq
  have shorter : (skipBlanks (c ++ tail)).length < s.length := by
    have part := congrArg List.length eq
    rw [symbol, List.length_append, List.length_cons] at part
    have := length_skipBlanks_le (c ++ tail)
    have := length_skipBlanks_le s
    omega
  rw [operatorSpaced, found]
  exact ⟨_, rfl, rfl, rfl, shorter⟩

/-- An operator and its right operand are read after the left one. -/
theorem operands_of_rereads {chain operand operand' : Expr} {b c ds : List Char}
    {op op' : Operator} (reads : o.ReadsOperators) (means : o.reading? op = some op')
    (h : Rereads o operand operand') (text : Renders operand ds) (own : operand.Readable o)
    (alone : chain.isOperation = false) (hb : Blank b) (hc : Blank c) (ne : c ≠ [])
    (closes : Closes rest)
    (eq : skipBlanks s = skipBlanks (b ++ (op.symbol.toList ++ (c ++ (ds ++ rest))))) :
    (operands o chain s).Takes (.operation chain op' operand') (skipBlanks rest) := by
  obtain ⟨t, spaced, rfl, after, shorter⟩ := operatorSpaced_of_reading reads means hb hc ne eq
  have start := skipBlanks_append_start hc (text.start own) rest
  rw [← skipBlanks_skipBlanks, ← after] at start
  have taken := h text own closes.halts.toStops start
  rw [followed_of_halts _ closes.halts] at taken
  have shorter := Nat.lt_of_le_of_lt taken.length_le shorter
  refine operands_of_some spaced taken shorter ?_
  rw [Expr.append_of_not_isOperation alone]
  exact operands_of_none (closes.skipBlanks.operatorSpaced_faults words)

theorem rereads_operation {left left' right right' : Expr} {op op' : Operator}
    (reads : o.ReadsOperators) (means : o.reading? op = some op') (hl : Rereads o left left')
    (alone : left'.isOperation = false) (hr : Rereads o right right') :
    Rereads o (.operation left op right) (.group (.operation left' op' right')) := by
  intro cs rest s text readable _ eq
  cases text with
  | @operation _ _ _ cs ds a b c d textl textr ha hb bne hc cne hd =>
    simp only [List.append_assoc, List.cons_append, List.nil_append] at eq
    have ownl := readable.of_mem_children (x := left) (by simp [Expr.children])
    have ownr := readable.of_mem_children (x := right) (by simp [Expr.children])
    have closing := skipBlanks_append_cons hd (c := ')') rfl rest
    have halts : Halts (b ++ (op.symbol.toList ++ (c ++ (ds ++ (d ++ ')' :: rest))))) :=
      halts_of_operator hb bne
    have start := skipBlanks_append_start ha (textl.start ownl)
      (b ++ (op.symbol.toList ++ (c ++ (ds ++ (d ++ ')' :: rest)))))
    rw [← skipBlanks_skipBlanks] at start
    have first := hl textl ownl halts.toStops start
    rw [followed_of_halts _ halts] at first
    have more := operands_of_rereads words reads means hr textr ownr alone hb hc cne
      (.of_cons (.inl rfl) closing) (skipBlanks_skipBlanks _)
    have whole := expression_takes_iff.2 ⟨_, _, first, more⟩
    rw [closing] at whole
    exact term_of_parentheses words eq whole (skipBlanks_cons rfl rest)

/-- Each text of a legible expression is read as the expression that it is read again as. -/
theorem rereads (reads : o.ReadsOperators) (e : Expr) :
    ∀ e', e.reread o = some e' → Rereads o e e' := by
  induction e with
  | literal v source =>
    rintro _ ⟨⟩
    exact rereads_literal v source
  | ident name =>
    rintro _ ⟨⟩
    exact rereads_ident words name
  | call name es ih =>
    intro e' again cs rest s text readable _ eq
    obtain ⟨es', all, rfl⟩ := Option.map_eq_some_iff.1 again
    cases text with
    | call text =>
      exact term_of_rendersCall words (readable _ .refl) (Expr.forall₂_of_rereadAll ih all)
        (fun _ mem => readable.of_mem_children mem) text eq
  | conditional name es ih =>
    intro e' again cs rest s text readable _ eq
    obtain ⟨es', all, rfl⟩ := Option.map_eq_some_iff.1 again
    cases text with
    | conditional text =>
      exact term_of_rendersCall words (readable _ .refl) (Expr.forall₂_of_rereadAll ih all)
        (fun _ mem => readable.of_mem_children mem) text eq
  | nullTest name es ih =>
    intro e' again cs rest s text readable _ eq
    obtain ⟨es', all, rfl⟩ := Option.map_eq_some_iff.1 again
    cases text with
    | nullTest text =>
      exact term_of_rendersCall words (readable _ .refl) (Expr.forall₂_of_rereadAll ih all)
        (fun _ mem => readable.of_mem_children mem) text eq
  | member target name ih =>
    intro e' again
    obtain ⟨target', inner, rfl⟩ := Option.map_eq_some_iff.1 again
    exact rereads_member (ih target' inner)
  | group inner ih =>
    intro e' again
    obtain ⟨inner', inside, rfl⟩ := Option.map_eq_some_iff.1 again
    exact rereads_group words (ih inner' inside)
  | operation left op right ihl ihr =>
    intro e' again
    simp only [Expr.reread, Option.bind_eq_bind, Option.bind_eq_some_iff] at again
    obtain ⟨left', againl, op', means, right', againr, made⟩ := again
    cases made
    exact rereads_operation words reads means (ihl left' againl)
      (Expr.isOperation_of_reread againl) (ihr right' againr)

end UsualWords

end Grammar

namespace Expr

open Grammar

variable {o : Options} {e e' : Expr}

/-- A text of a legible expression, with any blanks, is read as the expression that it is read again
as. -/
theorem parse_of_reread (words : o.UsualWords) (reads : o.ReadsOperators) (readable : e.Readable o)
    (again : e.reread o = some e') {cs a b : List Char} (text : Renders e cs) (ha : Blank a)
    (hb : Blank b) : parse o (String.ofList (a ++ (cs ++ b))) = .ok e' := by
  have nothing : skipBlanks b = [] := by
    have skipped := skipBlanks_append hb []
    rwa [List.append_nil] at skipped
  have closes : Closes b := by
    rw [Closes, nothing]
    rintro _ ⟨⟩
  have start := skipBlanks_append_start ha (text.start readable) b
  have read :=
    expression_of_rereads words (rereads words reads e e' again) text readable closes start
  rw [nothing] at read
  rw [parse_eq_ok_iff, String.toList_ofList]
  exact read

theorem parse_source_of_reread (words : o.UsualWords) (reads : o.ReadsOperators)
    (readable : e.Readable o) (again : e.reread o = some e') : parse o e.source = .ok e' := by
  have read := parse_of_reread words reads readable again (renders_source e) blank_nil blank_nil
  rwa [List.nil_append, List.append_nil, String.ofList_toList] at read

/-- With the words that a language starts with only groups come in. -/
theorem parse_of_renders (words : o.DefaultWords) (readable : e.Readable o) {cs a b : List Char}
    (text : Renders e cs) (ha : Blank a) (hb : Blank b) :
    parse o (String.ofList (a ++ (cs ++ b))) = .ok e.grouped :=
  parse_of_reread words.usual words.readsOperators readable
    (reread_eq_grouped fun _ op _ _ => words.reading?_eq op) text ha hb

/-- An expression that was read is read again from its source, with a group around each operation.
-/
theorem parse_source_grouped (words : o.DefaultWords)
    (letters : o.ignoreFunctionCase = false ∨ o.ignoringCase = o) {text : String}
    (h : parse o text = .ok e) : parse o e.source = .ok e.grouped := by
  have readable : e.Readable o := of_parse (closed_readable words.usual letters) h
  exact parse_source_of_reread words.usual words.readsOperators readable
    (reread_eq_grouped fun _ op _ _ => words.reading?_eq op)

/-- The source of an expression that was read is read as the same expression up to groups, and no
context of the language tells the two apart. -/
theorem parse_source (words : o.DefaultWords)
    (letters : o.ignoreFunctionCase = false ∨ o.ignoringCase = o) {text : String}
    (h : parse o text = .ok e) : ∃ e', parse o e.source = .ok e' ∧ e'.ungroup = e.ungroup
      ∧ ∀ (c : Context) (m : Memory), c.options = o →
        e'.problems c m = e.problems c m ∧ e'.ty c m = e.ty c m
          ∧ (∀ args, e'.eval c m args = e.eval c m args)
          ∧ (∀ args, c.interpret m e.source args = c.interpret m text args)
          ∧ c.compile m e.source = c.compile m text := by
  have again := parse_source_grouped words letters h
  have same := ungroup_grouped e
  refine ⟨e.grouped, again, same, fun c m options => ?_⟩
  have read : c.parse text = .ok e := by rwa [Context.parse, options]
  have reread : c.parse e.source = .ok e.grouped := by rwa [Context.parse, options]
  refine ⟨Context.problems_of_ungroup same, ?_, fun args => ?_, fun args => ?_, ?_⟩
  · rw [← ty_ungroup, same, ty_ungroup]
  · rw [← eval_ungroup, same, eval_ungroup]
  · exact Context.interpret_of_ungroup reread read same args
  · exact Context.compile_of_ungroup reread read same

/-- A chain of operators, with a call, members, a sign and a string in it. -/
theorem parse_source_chain :
    let o : Options := { memberRead := true, quote := .single, ignoreOperatorCase := true }
    let source := "((a + (2 * if(b.x, c, - 1.5).y)) and ('it\\'s' <> d))"
    o.DefaultWords ∧ o.ignoreFunctionCase = false
      ∧ ∃ e, parse o "a+2*if(b . x, c ,- 1.5).y AND 'it\\'s'<>d" = .ok e ∧ e.source = source
        ∧ ∃ e', parse o source = .ok e' ∧ e'.ungroup = e.ungroup := by
  intro o source
  have words : o.DefaultWords := by constructor <;> rfl
  have sources : (parse o "a+2*if(b . x, c ,- 1.5).y AND 'it\\'s'<>d").toOption.map Expr.source
      = some source := by
    decide +kernel
  refine ⟨words, rfl, ?_⟩
  cases read : parse o "a+2*if(b . x, c ,- 1.5).y AND 'it\\'s'<>d" with
  | error err =>
    rw [read] at sources
    cases sources
  | ok e =>
    rw [read] at sources
    have text : e.source = source := Option.some.inj sources
    obtain ⟨e', reread, same, -⟩ := parse_source words (.inl rfl) read
    exact ⟨e, rfl, text, e', text ▸ reread, same⟩

end Expr

end ExprLang
