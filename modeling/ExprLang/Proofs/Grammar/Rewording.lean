import ExprLang.Proofs.Grammar.Stuck

set_option autoImplicit false

/-!
Sources in languages with other words for operators. A source has the usual spellings of operators,
so it is read as the same expression again exactly when the language has these spellings for all
operators of the expression. An operator whose spelling the language does not have is where reading
stops: what stands in parentheses around it is no expression.
-/

namespace ExprLang

open Grammar

namespace Options

/-- The words for operators are names, all different, and read only as they are written; names of
functions are read as they are written too. All other words are those that a language starts with.
-/
structure NamedOperators (o : Options) : Prop where
  named : ∀ entry ∈ operatorWords o, isName entry.1.toList = true
  different : ((operatorWords o).map (·.1)).Nodup
  operatorCase : o.ignoreOperatorCase = false
  functionCase : o.ignoreFunctionCase = false
  isTrue : o.trueWord = "true"
  isFalse : o.falseWord = "false"
  null : o.nullWord = "null"
  conditional : o.conditionalWord = "if"
  nullTest : o.nullTestWord = "isnull"

/-- How an operator is written in a language. -/
def spelling (o : Options) : Operator → String
  | .and => o.andWord
  | .or => o.orWord
  | .xor => o.xorWord
  | op => op.symbol

end Options

namespace Grammar

variable {o : Options} {s rest left : List Char} {word name : String}

/-! Words that are read as they are written -/

theorem keyword_exact_eq_ok {t : Taken s String} (h : keyword word false s = .ok t) :
    t.value = word ∧ s = word.toList ++ t.rest ∧ NameEnds t.rest := by
  obtain ⟨u, found, ends, rfl⟩ := keyword_cases h
  obtain ⟨ignore, -⟩ | ⟨-, value, split⟩ := spelling_cases found
  · cases ignore
  · have same : String.ofList u.value = word := by rw [value, String.ofList_toList]
    exact ⟨same, split, ends⟩

theorem keyword_self (word : String) (ends : NameEnds rest) :
    (keyword word false (word.toList ++ rest)).Takes word rest := by
  have begins : word.toList.isPrefixOf (word.toList ++ rest) = true :=
    List.isPrefixOf_iff_prefix.2 (List.prefix_append _ _)
  have open' : ¬ (rest.head?.any isNameChar = true) := by
    cases rest with
    | nil => simp
    | cons c rest => simp [ends c rfl]
  have found : ∃ t, keyword word false (word.toList ++ rest) = .ok t := by
    rw [keyword, spelling, if_neg Bool.false_ne_true, if_pos begins]
    simp only [List.drop_left, open']
    exact ⟨_, rfl⟩
  obtain ⟨t, found⟩ := found
  obtain ⟨value, split, -⟩ := keyword_exact_eq_ok found
  exact .of_eq found value (List.append_cancel_left split).symm

theorem keyword_exact_faults_of_ne (named : isName word.toList = true)
    (named' : isName name.toList = true) (ends : NameEnds rest) (ne : word ≠ name) :
    (keyword word false (name.toList ++ rest)).Faults := by
  apply keyword_faults_of_ne_ok not_torn_of_exact
  intro t found
  obtain ⟨-, split, ends'⟩ := keyword_exact_eq_ok found
  obtain ⟨same, -⟩ := append_inj_of_nameEnds (isNameChar_of_isName named')
    (isNameChar_of_isName named) ends ends' split
  exact ne (String.toList_inj.1 same.symm)

/-- The reading takes the part where there is one, and ends with a fault where there is none. -/
def Reading.Gives {α : Type} (x : Reading s α) (rest : List Char) : Option α → Prop
  | some v => x.Takes v rest
  | none => x.Faults

/-- Of several words that are names the one that stands there is read. -/
theorem firstOf_keyword {entries : List (String × Operator)}
    (named : ∀ entry ∈ entries, isName entry.1.toList = true) (named' : isName name.toList = true)
    (ends : NameEnds rest) :
    (Reading.firstOf (fun (word, op) =>
        (keyword word false (name.toList ++ rest)).map fun _ => op) entries).Gives rest
      ((entries.find? (·.1 = name)).map (·.2)) := by
  induction entries with
  | nil => exact Reading.fault_faults _
  | cons entry entries ih =>
    obtain ⟨head, tail⟩ := List.forall_mem_cons.1 named
    obtain ⟨word, op⟩ := entry
    rw [Reading.firstOf, List.find?_cons]
    by_cases here : word = name
    · subst here
      obtain ⟨suffix, found⟩ := keyword_self word ends
      simp only [decide_true, found]
      exact ⟨suffix, rfl⟩
    · have passed := keyword_exact_faults_of_ne head named' ends here
      simp only [here, decide_false]
      rw [Reading.orElse_of_faults (Reading.map_faults_iff.2 passed)]
      exact ih tail

end Grammar

namespace Options.NamedOperators

variable {o : Options} (h : o.NamedOperators)

include h

/-- What is read where the usual spelling of an operator stands. -/
theorem operator_gives {rest : List Char} (op : Operator) (ahead : BlankAhead rest) :
    (operator o (op.symbol.toList ++ rest)).Gives rest (o.reading? op) := by
  by_cases symbol : op.family = .boolean
  · have named : isName op.symbol.toList = true := by
      revert symbol
      cases op <;> decide
    have noSymbol : ∀ c ∈ (op.symbol.toList ++ rest).head?, c ∉ symbolHeads := by
      obtain ⟨c, r, eq, start, -⟩ := isName_iff.1 named
      rw [eq]
      rintro _ ⟨⟩
      exact not_symbolHead_of_isNameStart start
    rw [operator_eq_word noSymbol, h.operatorCase, reading?, if_pos symbol]
    exact firstOf_keyword h.named named ahead.nameEnds
  · rw [reading?, if_neg symbol]
    exact operator_symbol o symbol ahead

theorem readsOperators : o.ReadsOperators := by
  intro op op' rest means ahead
  have read := h.operator_gives op ahead
  rwa [means] at read

theorem usual : o.UsualWords where
  operators s head := by
    rw [operator_eq_word fun c mem => (head c mem).1]
    refine Reading.firstOf_faults_iff.2 fun entry mem => Reading.map_faults_iff.2 ?_
    rw [h.operatorCase]
    apply keyword_faults_of_ne_ok not_torn_of_exact
    intro t found
    obtain ⟨-, split, -⟩ := keyword_exact_eq_ok found
    obtain ⟨c, r, eq, start, -⟩ := isName_iff.1 (h.named entry mem)
    have none := (head c (by rw [split, eq]; rfl)).2
    rw [start] at none
    cases none
  true := h.isTrue
  false := h.isFalse
  null := h.null
  conditional := h.conditional
  nullTest := h.nullTest

/-- An operator is read as itself from its usual spelling when this is how it is written. -/
theorem reading?_eq_self_iff (op : Operator) :
    o.reading? op = some op ↔ o.spelling op = op.symbol := by
  by_cases symbol : op.family = .boolean
  · obtain ⟨⟨andOr, andXor⟩, orXor⟩ : (o.andWord ≠ o.orWord ∧ o.andWord ≠ o.xorWord)
        ∧ o.orWord ≠ o.xorWord := by
      simpa [operatorWords, not_or] using h.different
    rw [reading?, if_pos symbol]
    simp only [operatorWords, List.find?_cons, List.find?_nil]
    cases op with
    | and | or | xor =>
      simp only [spelling, Operator.symbol]
      grind
    | _ => cases symbol
  · rw [reading?, if_neg symbol]
    revert symbol
    cases op <;> simp [spelling, Operator.family]

end Options.NamedOperators

/-! Where reading stops -/

namespace Grammar

variable {o : Options} {e : Expr} {es : List Expr}

/-- An operator that the language does not have is where a chain ends. -/
theorem stuck_symbol (h : o.NamedOperators) {left left' right : Expr} {op : Operator}
    (own : left.Readable o) (hl : Rereads o left left') (unread : o.reading? op = none) :
    Stuck o (.operation left op right) := by
  refine stuck_operands h.usual own hl ?_
  intro ds c d rest s _ hc cne _ eq
  have ahead := BlankAhead.of_blank hc cne (ds ++ (d ++ ')' :: rest))
  have none := h.operator_gives op ahead
  rw [unread, ← eq] at none
  refine ⟨left', s, operands_of_none (operatorSpaced_faults none), ?_⟩
  rw [eq]
  exact symbol_ne_closing op _

theorem exists_of_rereadAll (unread : Expr.rereadAll o es = none) :
    ∃ e ∈ es, e.reread o = none := by
  induction es with
  | nil => cases unread
  | cons e es ih =>
    cases again : e.reread o with
    | none => exact ⟨e, List.mem_cons_self, again⟩
    | some e' =>
      cases others : Expr.rereadAll o es with
      | none =>
        obtain ⟨x, mem, none⟩ := ih others
        exact ⟨x, List.mem_cons_of_mem e mem, none⟩
      | some es' =>
        rw [Expr.rereadAll, again, others] at unread
        cases unread

/-- A call with an argument that the language does not read. -/
theorem stuck_of_unread (h : o.NamedOperators) {node : String → List Expr → Expr} {name : String}
    (renders : ∀ {cs : List Char}, Renders (node name es) cs → RendersCall name es cs)
    (callName : CallName o name node) (readable : ∀ e ∈ es, e.Readable o)
    (ih : ∀ e ∈ es, e.Readable o → e.reread o = none → Stuck o e)
    (unread : Expr.rereadAll o es = none) : Stuck o (node name es) := by
  have each : ∀ e ∈ es, Passes o e ∨ Stuck o e := by
    intro e mem
    cases again : e.reread o with
    | none => exact .inr (ih e mem (readable e mem) again)
    | some e' => exact .inl ⟨readable e mem, e', rereads h.usual h.readsOperators e e' again⟩
  obtain ⟨e, mem, none⟩ := exists_of_rereadAll unread
  exact stuck_of_call h.usual renders callName.named callName.noLiteral each
    (.inl ⟨e, mem, ih e mem (readable e mem) none⟩)

/-- An expression is stuck when the language lacks one of the spellings in it. -/
theorem stuck_of_reread (h : o.NamedOperators) (e : Expr) (readable : e.Readable o)
    (unread : e.reread o = none) : Stuck o e := by
  have words := h.usual
  have reads := h.readsOperators
  induction e with
  | literal v source => cases unread
  | ident name => cases unread
  | call name es ih =>
    exact stuck_of_unread h rendersCall_of_call (readable _ .refl)
      (fun _ mem => readable.of_mem_children mem) ih (Option.map_eq_none_iff.1 unread)
  | conditional name es ih =>
    exact stuck_of_unread h rendersCall_of_conditional (readable _ .refl)
      (fun _ mem => readable.of_mem_children mem) ih (Option.map_eq_none_iff.1 unread)
  | nullTest name es ih =>
    exact stuck_of_unread h rendersCall_of_nullTest (readable _ .refl)
      (fun _ mem => readable.of_mem_children mem) ih (Option.map_eq_none_iff.1 unread)
  | member target name ih =>
    have inner := readable.of_mem_children (x := target) (by simp [Expr.children])
    exact stuck_member (ih inner (Option.map_eq_none_iff.1 unread)) (readable _ .refl).2
  | group inner ih =>
    have inside := readable.of_mem_children (x := inner) (by simp [Expr.children])
    exact stuck_group words (ih inside (Option.map_eq_none_iff.1 unread))
  | operation left op right ihl ihr =>
    have ownl := readable.of_mem_children (x := left) (by simp [Expr.children])
    have ownr := readable.of_mem_children (x := right) (by simp [Expr.children])
    cases againl : left.reread o with
    | none => exact stuck_left words (ihl ownl againl)
    | some left' =>
      have hl : Rereads o left left' := rereads words reads left left' againl
      cases means : o.reading? op with
      | none => exact stuck_symbol h ownl hl means
      | some op' =>
        cases againr : right.reread o with
        | none => exact stuck_right words reads ownl hl means (ihr ownr againr)
        | some right' =>
          rw [Expr.reread, againl, means, againr] at unread
          cases unread

end Grammar

namespace Expr

variable {o : Options} {e e' : Expr} {es es' : List Expr}

/-! Which operators an expression that is the same again can have -/

theorem usual_of_children (h : ∀ x ∈ e.children, x.Usual o)
    (own : ∀ left op right, e = operation left op right → o.reading? op = some op) :
    e.Usual o := by
  intro left op right inside
  cases inside with
  | refl => exact own left op right rfl
  | child inside mem => exact h _ mem left op right inside

theorem usual_of_no_operation (h : ∀ x ∈ e.children, x.Usual o)
    (none : ∀ left op right, e ≠ operation left op right) : e.Usual o :=
  usual_of_children h fun left op right same => absurd same (none left op right)

theorem forall_usual_of_forall₂
    (h : List.Forall₂ (fun e e' => e'.ungroup = e.ungroup → e.Usual o) es es')
    (same : ungroupAll es' = ungroupAll es) : ∀ e ∈ es, e.Usual o := by
  induction h with
  | nil => simp
  | cons head _ ih =>
    rw [ungroupAll, ungroupAll, List.cons.injEq] at same
    exact List.forall_mem_cons.2 ⟨head same.1, ih same.2⟩

/-- An expression that is the same again up to groups has no operator that is read as another. -/
theorem usual_of_reread (again : e.reread o = some e') (same : e'.ungroup = e.ungroup) :
    e.Usual o := by
  induction e generalizing e' with
  | literal v source => exact usual_of_no_operation (by simp [children]) (by simp)
  | ident name => exact usual_of_no_operation (by simp [children]) (by simp)
  | call name es ih =>
    obtain ⟨es', all, rfl⟩ := Option.map_eq_some_iff.1 again
    have parts := forall₂_of_rereadAll (fun e mem _ again => ih e mem again) all
    rw [ungroup, ungroup, call.injEq] at same
    exact usual_of_no_operation (forall_usual_of_forall₂ parts same.2) (by simp)
  | conditional name es ih =>
    obtain ⟨es', all, rfl⟩ := Option.map_eq_some_iff.1 again
    have parts := forall₂_of_rereadAll (fun e mem _ again => ih e mem again) all
    rw [ungroup, ungroup, conditional.injEq] at same
    exact usual_of_no_operation (forall_usual_of_forall₂ parts same.2) (by simp)
  | nullTest name es ih =>
    obtain ⟨es', all, rfl⟩ := Option.map_eq_some_iff.1 again
    have parts := forall₂_of_rereadAll (fun e mem _ again => ih e mem again) all
    rw [ungroup, ungroup, nullTest.injEq] at same
    exact usual_of_no_operation (forall_usual_of_forall₂ parts same.2) (by simp)
  | member target name ih =>
    obtain ⟨target', inner, rfl⟩ := Option.map_eq_some_iff.1 again
    rw [ungroup, ungroup, member.injEq] at same
    exact usual_of_no_operation (List.forall_mem_singleton.2 (ih inner same.1)) (by simp)
  | group inner ih =>
    obtain ⟨inner', inside, rfl⟩ := Option.map_eq_some_iff.1 again
    rw [ungroup, ungroup] at same
    exact usual_of_no_operation (List.forall_mem_singleton.2 (ih inside same)) (by simp)
  | operation left op right ihl ihr =>
    simp only [reread, Option.bind_eq_bind, Option.bind_eq_some_iff] at again
    obtain ⟨left', againl, op', means, right', againr, made⟩ := again
    cases made
    rw [ungroup, ungroup, ungroup, operation.injEq] at same
    obtain ⟨samel, rfl, samer⟩ := same
    refine usual_of_children ?_ ?_
    · simpa [children] using ⟨ihl againl samel, ihr againr samer⟩
    · intro left op right same
      cases same
      exact means

/-- The source of an expression that was read is read as the same expression, up to groups, exactly
when each of its operators is written in the language as it usually is. -/
theorem parse_source_iff (h : o.NamedOperators) {text : String} (read : parse o text = .ok e) :
    (∃ e', parse o e.source = .ok e' ∧ e'.ungroup = e.ungroup)
      ↔ ∀ left op right, (operation left op right).Within e → o.spelling op = op.symbol := by
  have readable : e.Readable o := of_parse (closed_readable h.usual (.inl h.functionCase)) read
  have usual : e.Usual o
      ↔ ∀ left op right, (operation left op right).Within e → o.spelling op = op.symbol := by
    simp only [Usual, h.reading?_eq_self_iff]
  rw [← usual]
  constructor
  · intro ⟨e', reread, same⟩
    cases again : e.reread o with
    | some again' =>
      rw [parse_source_of_reread h.usual h.readsOperators readable again] at reread
      obtain rfl := Except.ok.inj reread
      exact usual_of_reread again same
    | none =>
      exact absurd reread ((stuck_of_reread h e readable again).not_parse h.usual e')
  · intro usual
    exact ⟨e.grouped, parse_source_of_reread h.usual h.readsOperators readable
      (reread_eq_grouped usual), ungroup_grouped e⟩

/-- A disjunction in a language with another word for conjunctions. -/
theorem parse_source_iff_disjunction :
    let o : Options := { andWord := "und" }
    o.NamedOperators ∧ ∃ e, parse o "a or b" = .ok e ∧ e.source = "(a or b)"
      ∧ ((∃ e', parse o e.source = .ok e' ∧ e'.ungroup = e.ungroup)
        ↔ ∀ left op right, (operation left op right).Within e → o.spelling op = op.symbol) := by
  intro o
  have operators : o.NamedOperators := by
    constructor
    · decide
    · decide
    all_goals rfl
  have sources : (parse o "a or b").toOption.map source = some "(a or b)" := by decide +kernel
  cases read : parse o "a or b" with
  | error err =>
    rw [read] at sources
    cases sources
  | ok e =>
    rw [read] at sources
    exact ⟨operators, e, rfl, Option.some.inj sources, parse_source_iff operators read⟩

/-- A conjunction in this language has a source that is no expression. -/
theorem exists_source_that_is_not_read :
    let o : Options := { andWord := "und" }
    (∀ word ∈ [o.andWord, o.orWord, o.xorWord], isName word.toList = true)
      ∧ (o.nullTestWord :: o.keywords).Nodup
      ∧ ∃ e, parse o "a und b" = .ok e ∧ ¬ ∃ e', parse o e.source = .ok e' := by
  intro o
  have sources : (parse o "a und b").toOption.map source = some "(a and b)" := by decide +kernel
  have unread : (parse o "(a and b)").isOk = false := by decide +kernel
  refine ⟨by decide, by decide, ?_⟩
  cases read : parse o "a und b" with
  | error err =>
    rw [read] at sources
    cases sources
  | ok e =>
    rw [read] at sources
    refine ⟨e, rfl, fun ⟨e', reread⟩ => ?_⟩
    rw [Option.some.inj sources] at reread
    rw [reread] at unread
    cases unread

end Expr

end ExprLang
