import ExprLang.Proofs.Grammar.Reparse

set_option autoImplicit false

/-!
Expressions whose texts are not read to their end. One part that is not is enough: no group is
closed after it, no operand and no argument follows it, and of a call around it no more than the
name is read.
-/

namespace ExprLang.Grammar

variable {o : Options} {s rest left : List Char} {e : Expr} {es : List Expr}

/-- Reading fails, or it ends before an opening parenthesis. -/
def Sticks {s : List Char} (x : Reading s Expr) : Prop :=
  x.Faults ∨ ∃ v r, x.Takes v ('(' :: r)

/-- No text of the expression is read to its end, wherever a term can stand. -/
structure Stuck (o : Options) (e : Expr) : Prop where
  start : ∀ {cs : List Char}, Renders e cs → ∃ c r, cs = c :: r ∧ isBlank c = false ∧ c ≠ ')'
  sticks : ∀ {cs rest s : List Char}, Renders e cs → Stops rest → skipBlanks s = cs ++ rest →
    Sticks (term o s)

/-- All texts of the expression are read to their end, as one and the same expression. -/
structure Passes (o : Options) (e : Expr) : Prop where
  readable : e.Readable o
  reads : ∃ e', Rereads o e e'

/-- What is left after blanks, if the text begins with a part that is not read to its end. -/
theorem Stuck.skipBlanks_append {a cs : List Char} (h : Stuck o e) (text : Renders e cs)
    (ha : Blank a) (rest : List Char) :
    skipBlanks (skipBlanks (a ++ (cs ++ rest))) = cs ++ rest := by
  obtain ⟨c, r, front, blank, -⟩ := h.start text
  rw [skipBlanks_skipBlanks, skipBlanks_append_start ha ⟨c, r, front, blank⟩]

theorem skipBlanks_opening (r : List Char) : skipBlanks ('(' :: r) = '(' :: r :=
  skipBlanks_cons rfl r

theorem start_of_isName_append {cs : List Char} (named : isName cs = true) (rest : List Char) :
    ∃ c r, cs ++ rest = c :: r ∧ isBlank c = false ∧ c ≠ ')' := by
  obtain ⟨c, r, rfl, start, -⟩ := isName_iff.1 named
  refine ⟨c, r ++ rest, rfl, isBlank_of_isNameChar (isNameChar_of_isNameStart start), ?_⟩
  rintro rfl
  exact absurd start (by decide)

theorem symbol_ne_closing (op : Operator) (rest : List Char) :
    (op.symbol.toList ++ rest).head? ≠ some ')' := by
  cases op <;> exact nofun

theorem exists_forall₂ {R : Expr → Expr → Prop} (h : ∀ e ∈ es, ∃ e', R e e') :
    ∃ es', List.Forall₂ R es es' := by
  induction es with
  | nil => exact ⟨[], .nil⟩
  | cons e es ih =>
    obtain ⟨⟨e', head⟩, tail⟩ := List.forall_mem_cons.1 h
    obtain ⟨es', rest⟩ := ih tail
    exact ⟨e' :: es', .cons head rest⟩

section UsualWords

variable (words : o.UsualWords)

include words

theorem operatorSpaced_opening (r : List Char) : (operatorSpaced o ('(' :: r)).Faults := by
  apply operatorSpaced_faults
  apply words.operators
  rw [skipBlanks_opening]
  rintro _ ⟨⟩
  decide

/-- A chain does not go on at an opening parenthesis. -/
theorem expression_sticks (h : Sticks (term o s)) : Sticks (expression o s) := by
  rcases h with fault | ⟨v, r, read⟩
  · exact .inl (expression_faults fault)
  · exact .inr ⟨v, r, expression_takes_iff.2
      ⟨v, _, read, operands_of_none (operatorSpaced_opening words r)⟩⟩

theorem term_faults_of_group {r : List Char} (eq : skipBlanks s = '(' :: r)
    (grouped : (group o (skipBlanks s)).Faults) : (term o s).Faults := by
  obtain ⟨read, named⟩ := faults_of_parenthesis words (.inl rfl) eq
  exact term_faults
    (primary_faults read (call_faults_of_name named) (ident?_eq_none named) grouped)

/-- What does not go on to the closing parenthesis is no group. -/
theorem term_faults_of_closing {v : Expr} {r t : List Char} (eq : skipBlanks s = '(' :: r)
    (read : (expression o (skipBlanks r)).Takes v t) (open' : (skipBlanks t).head? ≠ some ')') :
    (term o s).Faults := by
  have opening : PastSpaced '(' (skipBlanks s) (skipBlanks r) :=
    .of_cons (by rw [skipBlanks_skipBlanks, eq])
  exact term_faults_of_group words eq (group_faults_of_closing opening read open')

theorem term_faults_of_sticks {r : List Char} (eq : skipBlanks s = '(' :: r)
    (h : Sticks (expression o (skipBlanks r))) : (term o s).Faults := by
  rcases h with fault | ⟨v, t, read⟩
  · have opening : PastSpaced '(' (skipBlanks s) (skipBlanks r) :=
      .of_cons (by rw [skipBlanks_skipBlanks, eq])
    exact term_faults_of_group words eq (group_faults_of_expression opening fault)
  · refine term_faults_of_closing words eq read ?_
    rw [skipBlanks_opening]
    rintro ⟨⟩

/-! Groups, members and operations -/

theorem stuck_group {inner : Expr} (h : Stuck o inner) : Stuck o (.group inner) where
  start text := by
    cases text
    exact ⟨_, _, rfl, rfl, by decide⟩
  sticks := by
    intro cs rest s text _ eq
    cases text with
    | @group _ cs a b text ha hb =>
      simp only [List.append_assoc, List.cons_append, List.nil_append] at eq
      have closing := skipBlanks_append_cons hb (c := ')') rfl rest
      have halts := (Closes.of_cons (.inl rfl) closing).halts
      have start := h.skipBlanks_append text ha (b ++ ')' :: rest)
      have sticks := expression_sticks words (h.sticks text halts.toStops start)
      exact .inl (term_faults_of_sticks words eq sticks)

omit words in
theorem stuck_member {target : Expr} {name : String} (h : Stuck o target)
    (named : isName name.toList = true) : Stuck o (.member target name) where
  start text := by
    cases text with
    | member text =>
      obtain ⟨c, r, rfl, blank, other⟩ := h.start text
      exact ⟨c, _, rfl, blank, other⟩
  sticks := by
    intro cs rest s text _ eq
    cases text with
    | @member _ _ cs a b text ha hb =>
      simp only [List.append_assoc, List.cons_append] at eq
      exact h.sticks text (stops_of_member ha hb named rest) eq

omit words in
theorem start_of_operation {left right : Expr} {op : Operator} {cs : List Char}
    (text : Renders (.operation left op right) cs) :
    ∃ c r, cs = c :: r ∧ isBlank c = false ∧ c ≠ ')' := by
  cases text
  exact ⟨_, _, rfl, rfl, by decide⟩

theorem stuck_left {left right : Expr} {op : Operator} (h : Stuck o left) :
    Stuck o (.operation left op right) where
  start := start_of_operation
  sticks := by
    intro cs rest s text _ eq
    cases text with
    | @operation _ _ _ cs ds a b c d text _ ha hb ne _ _ _ =>
      simp only [List.append_assoc, List.cons_append, List.nil_append] at eq
      have halts : Halts (b ++ (op.symbol.toList ++ (c ++ (ds ++ (d ++ ')' :: rest))))) :=
        halts_of_operator hb ne
      have start := h.skipBlanks_append text ha
        (b ++ (op.symbol.toList ++ (c ++ (ds ++ (d ++ ')' :: rest)))))
      have sticks := expression_sticks words (h.sticks text halts.toStops start)
      exact .inl (term_faults_of_sticks words eq sticks)

/-- What reads the left operand of an operation does not get to the closing parenthesis. -/
theorem stuck_operands {left left' right : Expr} {op : Operator} (own : left.Readable o)
    (hl : Rereads o left left')
    (h : ∀ {ds c d rest s : List Char}, Renders right ds → Blank c → c ≠ [] → Blank d →
      skipBlanks s = op.symbol.toList ++ (c ++ (ds ++ (d ++ ')' :: rest))) →
      ∃ v r, (operands o left' s).Takes v r ∧ (skipBlanks r).head? ≠ some ')') :
    Stuck o (.operation left op right) where
  start := start_of_operation
  sticks := by
    intro cs rest s text _ eq
    cases text with
    | @operation _ _ _ cs ds a b c d textl textr ha hb bne hc cne hd =>
      simp only [List.append_assoc, List.cons_append, List.nil_append] at eq
      have halts : Halts (b ++ (op.symbol.toList ++ (c ++ (ds ++ (d ++ ')' :: rest))))) :=
        halts_of_operator hb bne
      have start := skipBlanks_append_start ha (textl.start own)
        (b ++ (op.symbol.toList ++ (c ++ (ds ++ (d ++ ')' :: rest)))))
      rw [← skipBlanks_skipBlanks] at start
      have first := hl textl own halts.toStops start
      rw [followed_of_halts _ halts] at first
      obtain ⟨x, y, symbol, blank, -⟩ := symbol_start op
      have after := skipBlanks_append_start hb ⟨x, y, symbol, blank⟩
        (c ++ (ds ++ (d ++ ')' :: rest)))
      rw [← skipBlanks_skipBlanks] at after
      obtain ⟨v, r, more, open'⟩ := h textr hc cne hd after
      have whole := expression_takes_iff.2 ⟨_, _, first, more⟩
      exact .inl (term_faults_of_closing words eq whole open')

/-- A right operand that is not read to its end ends the chain before or in it. -/
theorem stuck_right (reads : o.ReadsOperators) {left left' right : Expr} {op op' : Operator}
    (own : left.Readable o) (hl : Rereads o left left') (means : o.reading? op = some op')
    (hr : Stuck o right) : Stuck o (.operation left op right) := by
  refine stuck_operands words own hl ?_
  intro ds c d rest s text hc cne hd eq
  have closing := skipBlanks_append_cons hd (c := ')') rfl rest
  have halts := (Closes.of_cons (.inl rfl) closing).halts
  have spaced : skipBlanks s
      = skipBlanks ([] ++ (op.symbol.toList ++ (c ++ (ds ++ (d ++ ')' :: rest))))) := by
    rw [List.nil_append, ← eq, skipBlanks_skipBlanks]
  obtain ⟨t, found, -, after, shorter⟩ :=
    operatorSpaced_of_reading reads means blank_nil hc cne spaced
  have start := hr.skipBlanks_append text hc (d ++ ')' :: rest)
  rw [← after] at start
  rcases hr.sticks text halts.toStops start with fault | ⟨v, r, read⟩
  · refine ⟨left', s, operands_of_faults found fault, ?_⟩
    rw [eq]
    exact symbol_ne_closing op _
  · have shorter := Nat.lt_of_le_of_lt read.length_le shorter
    refine ⟨_, _, operands_of_some found read shorter
      (operands_of_none (operatorSpaced_opening words r)), ?_⟩
    rw [skipBlanks_opening]
    exact nofun

/-! Arguments -/

theorem moreArguments_of_stuck {cs : List Char} (each : ∀ e ∈ es, Passes o e ∨ Stuck o e)
    (one : ∃ e ∈ es, Stuck o e) (text : RendersMore es cs) (closing : skipBlanks rest = ')' :: left)
    (eq : skipBlanks s = skipBlanks (cs ++ rest)) :
    ∃ vs t, (moreArguments o s).Takes vs t ∧ (skipBlanks t).head? ≠ some ')' := by
  induction es generalizing cs s with
  | nil =>
    obtain ⟨e, mem, -⟩ := one
    cases mem
  | cons e es ih =>
    cases text with
    | @cons _ _ cs ds a b text more ha hb =>
      obtain ⟨head, tail⟩ := List.forall_mem_cons.1 each
      simp only [List.append_assoc, List.cons_append] at eq
      rw [skipBlanks_append_cons ha rfl] at eq
      have closes := more.closes closing
      by_cases stuck : Stuck o e
      · have start := stuck.skipBlanks_append text hb (ds ++ rest)
        have sticks := expression_sticks words (stuck.sticks text closes.halts.toStops start)
        rcases sticks with fault | ⟨v, r, read⟩
        · refine ⟨_, _, moreArguments_of_faults (.of_cons eq) fault, ?_⟩
          rw [eq]
          exact nofun
        · have nothing : (moreArguments o ('(' :: r)).Takes [] ('(' :: r) :=
            moreArguments_nil (by rw [skipBlanks_opening]; exact nofun)
          refine ⟨_, _, moreArguments_cons (.of_cons eq) read nothing, ?_⟩
          rw [skipBlanks_opening]
          exact nofun
      · obtain ⟨own, e', reads⟩ := head.resolve_right stuck
        have start := skipBlanks_append_start hb (text.start own) (ds ++ rest)
        rw [← skipBlanks_skipBlanks] at start
        have read := expression_of_rereads words reads text own closes start
        have later : ∃ e ∈ es, Stuck o e := by
          simpa only [List.exists_mem_cons_iff, stuck, false_or] using one
        obtain ⟨vs, t, taken, open'⟩ :=
          ih tail later more (skipBlanks_skipBlanks (ds ++ rest))
        exact ⟨_, t, moreArguments_cons (.of_cons eq) read taken, open'⟩

theorem arguments_of_stuck {cs : List Char} (each : ∀ e ∈ es, Passes o e ∨ Stuck o e)
    (one : ∃ e ∈ es, Stuck o e) (text : RendersAll es cs) (closing : skipBlanks rest = ')' :: left)
    (eq : skipBlanks s = skipBlanks (cs ++ rest)) :
    ∃ vs t, (arguments o s).Takes vs t ∧ (skipBlanks t).head? ≠ some ')' := by
  cases text with
  | nil =>
    obtain ⟨e, mem, -⟩ := one
    cases mem
  | @cons e es cs ds text more =>
    obtain ⟨head, tail⟩ := List.forall_mem_cons.1 each
    rw [List.append_assoc] at eq
    have closes := more.closes closing
    by_cases stuck : Stuck o e
    · obtain ⟨c, r, front, blank, other⟩ := stuck.start text
      have start := eq.trans (skipBlanks_append_start blank_nil ⟨c, r, front, blank⟩ (ds ++ rest))
      have sticks := expression_sticks words (stuck.sticks text closes.halts.toStops start)
      rcases sticks with fault | ⟨v, r', read⟩
      · refine ⟨_, _, arguments_nil fault, ?_⟩
        rw [start, front]
        exact fun same => other (Option.some.inj same)
      · have nothing : (moreArguments o ('(' :: r')).Takes [] ('(' :: r') :=
          moreArguments_nil (by rw [skipBlanks_opening]; exact nofun)
        refine ⟨_, _, arguments_cons read nothing, ?_⟩
        rw [skipBlanks_opening]
        exact nofun
    · obtain ⟨own, e', reads⟩ := head.resolve_right stuck
      have start := eq.trans (skipBlanks_append_start blank_nil (text.start own) (ds ++ rest))
      have read := expression_of_rereads words reads text own closes start
      have later : ∃ e ∈ es, Stuck o e := by
        simpa only [List.exists_mem_cons_iff, stuck, false_or] using one
      obtain ⟨vs, t, taken, open'⟩ := moreArguments_of_stuck words tail later more closing
        (skipBlanks_skipBlanks (ds ++ rest))
      exact ⟨_, t, arguments_cons read taken, open'⟩

/-! Calls -/

/-- Of a call that is not read no more than the name is, and that only if it is not reserved. -/
theorem sticks_of_name {name : String} {r : List Char} (named : isName name.toList = true)
    (noLiteral : NoLiteralWord o name) (eq : skipBlanks s = name.toList ++ rest)
    (ends : NameEnds rest) (opening : skipBlanks rest = '(' :: r)
    (called : (call o (skipBlanks s)).Faults) : Sticks (term o s) := by
  have read := literal_faults_of_name words named ends noLiteral
  rw [← eq] at read
  have found := name?_of_eq eq named ends
  cases reserved : o.isKeyword name with
  | true =>
    obtain ⟨x, y, front, first, -⟩ := isName_iff.1 named
    have noGroup : (skipBlanks (skipBlanks s)).head? ≠ some '(' := by
      rw [skipBlanks_skipBlanks, eq, front]
      rintro ⟨⟩
      exact absurd first (by decide)
    exact .inl (term_faults (primary_faults read called
      (ident?_eq_none_of_isKeyword found reserved) (group_faults noGroup)))
  | false =>
    have whole := term_of_primary (primary_of_ident read called (ident?_of_name? found reserved))
    rw [followed_of_point _ (by rw [opening]; exact nofun), opening] at whole
    exact .inr ⟨_, _, whole⟩

theorem faults_of_call {name : String} {cs a b c : List Char} (named : isName name.toList = true)
    (each : ∀ e ∈ es, Passes o e ∨ Stuck o e)
    (bad : (∃ e ∈ es, Stuck o e) ∨ ∀ es', callNode? o name es' = none) (text : RendersAll es cs)
    (ha : Blank a) (hb : Blank b) (hc : Blank c)
    (eq : s = name.toList ++ (a ++ '(' :: (b ++ (cs ++ (c ++ ')' :: rest))))) :
    (call o s).Faults := by
  have ends := nameEnds_append_cons ha (c := '(') rfl (b ++ (cs ++ (c ++ ')' :: rest)))
  have opening := skipBlanks_append_cons ha (c := '(') rfl (b ++ (cs ++ (c ++ ')' :: rest)))
  have closing := skipBlanks_append_cons hc (c := ')') rfl rest
  have start : skipBlanks (skipBlanks (b ++ (cs ++ (c ++ ')' :: rest))))
      = skipBlanks (cs ++ (c ++ ')' :: rest)) := by
    rw [skipBlanks_skipBlanks, skipBlanks_append hb]
  have found := name?_of_eq eq named ends
  by_cases one : ∃ e ∈ es, Stuck o e
  · obtain ⟨vs, t, taken, open'⟩ := arguments_of_stuck words each one text closing start
    exact call_faults_of_closing found (.of_cons opening) taken open'
  · have pass : ∀ e ∈ es, Passes o e := fun e mem =>
      (each e mem).resolve_right fun stuck => one ⟨e, mem, stuck⟩
    obtain ⟨es', all⟩ := exists_forall₂ fun e mem => (pass e mem).reads
    obtain ⟨t, taken, left⟩ :=
      arguments_of_rereads words all text (fun e mem => (pass e mem).readable) closing start
    exact call_faults_of_node found (.of_cons opening) taken (.of_cons left)
      (bad.resolve_left one es')

/-- A call is not read if its arguments are not read to their end, or if its name is none that can be
called. -/
theorem stuck_of_call {node : String → List Expr → Expr} {name : String}
    (renders : ∀ {cs : List Char}, Renders (node name es) cs → RendersCall name es cs)
    (named : isName name.toList = true) (noLiteral : NoLiteralWord o name)
    (each : ∀ e ∈ es, Passes o e ∨ Stuck o e)
    (bad : (∃ e ∈ es, Stuck o e) ∨ ∀ es', callNode? o name es' = none) :
    Stuck o (node name es) where
  start text := by
    cases renders text
    exact start_of_isName_append named _
  sticks := by
    intro cs rest s text _ eq
    cases renders text with
    | @intro _ _ cs a b c list ha hb hc =>
      simp only [List.append_assoc, List.cons_append, List.nil_append] at eq
      have ends := nameEnds_append_cons ha (c := '(') rfl (b ++ (cs ++ (c ++ ')' :: rest)))
      have opening := skipBlanks_append_cons ha (c := '(') rfl (b ++ (cs ++ (c ++ ')' :: rest)))
      have called := faults_of_call words named each bad list ha hb hc eq
      exact sticks_of_name words named noLiteral eq ends opening called

omit words in
theorem stuck_of_literal {name : String} {v : Literal} (named : isName name.toList = true)
    (literal : LiteralText o v name) : Stuck o (.call name es) where
  start text := by
    cases text with
    | call text =>
      cases text
      exact start_of_isName_append named _
  sticks := by
    intro cs rest s text _ eq
    cases text with
    | call text =>
      cases text with
      | @intro _ _ cs a b c _ ha _ _ =>
        simp only [List.append_assoc, List.cons_append, List.nil_append] at eq
        have ends := nameEnds_append_cons ha (c := '(') rfl (b ++ (cs ++ (c ++ ')' :: rest)))
        have opening := skipBlanks_append_cons ha (c := '(') rfl (b ++ (cs ++ (c ++ ')' :: rest)))
        have noPoint : (a ++ '(' :: (b ++ (cs ++ (c ++ ')' :: rest)))).head? ≠ some '.' := by
          intro head
          rcases mem_head?_append_cons ha head with blank | same
          · exact absurd blank (by decide)
          · cases same
        have read := literal.reads _ ends (fraction?_eq_none noPoint)
        rw [← eq] at read
        have taken := term_of_primary (primary_of_literal read)
        rw [followed_of_point _ (by rw [opening]; exact nofun), opening] at taken
        exact .inr ⟨_, _, taken⟩

end UsualWords

/-- With the words that a language starts with what is legible is read to its end. -/
theorem passes_of_readable (words : o.DefaultWords) (readable : e.Readable o) : Passes o e where
  readable := readable
  reads := by
    have usual : e.Usual o := fun _ op _ _ => words.reading?_eq op
    exact ⟨e.grouped, rereads words.usual words.readsOperators e _ (Expr.reread_eq_grouped usual)⟩

theorem Stuck.not_parse (words : o.UsualWords) (h : Stuck o e) (e' : Expr) :
    Expr.parse o e.source ≠ .ok e' := by
  intro parsed
  have taken := Expr.parse_eq_ok_iff.1 parsed
  have text := renders_source e
  have halts : Halts [] := .of_head (by simp [skipBlanks])
  obtain ⟨c, r, front, blank, -⟩ := h.start text
  have begins : skipBlanks e.source.toList = e.source.toList ++ [] := by
    rw [front, skipBlanks_cons blank, List.append_nil]
  rcases expression_sticks words (h.sticks text halts.toStops begins) with ⟨f, fault⟩ | ⟨v, r, other⟩
  · rw [fault] at taken
    exact Reading.not_takes_fault taken
  · exact absurd (taken.unique other).2 nofun

end ExprLang.Grammar
