import ExprLang.Proofs.Grammar.Steps

set_option autoImplicit false

/-!
Induction over what the grammar reads. A property that each way of making an expression keeps holds
of every expression that is read.
-/

namespace ExprLang.Grammar

variable {o : Options} {P : Expr → Prop}

theorem ident?_eq_some {s : List Char} {t : Taken s Expr} (h : ident? o s = some t) :
    ∃ name, t.value = .ident name ∧ isName name.toList = true ∧ o.isKeyword name = false
      ∧ ∃ suffix, name? s = some ⟨name, t.rest, suffix⟩ := by
  rw [ident?] at h
  split at h
  · rename_i u named
    split at h
    · cases h
    · rename_i notReserved
      cases h
      have notReserved := Bool.eq_false_iff.2 notReserved
      exact ⟨u.value, rfl, (name?_eq_some named).1, notReserved, u.suffix, named⟩
  · cases h

/-- The ways in which the grammar makes expressions keep a property. -/
structure Closed (o : Options) (P : Expr → Prop) : Prop where
  literals : ∀ {s left e}, (literal o s).Takes e left → P e
  idents : ∀ {name : String}, isName name.toList = true → o.isKeyword name = false → P (.ident name)
  calls : ∀ {name : String} {es e}, isName name.toList = true → (∀ x ∈ es, P x) →
    callNode? o name es = some e → P e
  memberReads : ∀ {target} {name : String}, o.memberRead = true → isName name.toList = true →
    P target → P (.member target name)
  groups : ∀ {inner}, P inner → P (.group inner)
  chains : ∀ {chain operand} op, P chain → P operand → P (chain.append op operand)

theorem Closed.of_members (h : Closed o P) (read : o.memberRead = true) (target : Expr)
    (s : List Char) (ht : P target) : P (members target s).value := by
  induction target, s using members.induct with
  | case1 target s none => rwa [(members_of_none target none).1]
  | case2 target s p name found ih =>
    rw [(members_of_some target found).1]
    exact ih (h.memberReads read (memberName?_eq_some found) ht)

theorem Closed.of_followed (h : Closed o P) {e v : Expr} {s left : List Char}
    (eq : followed o v s = (e, left)) (hv : P v) : P e := by
  rw [followed] at eq
  split at eq
  · rename_i read
    cases eq
    exact h.of_members read v (skipBlanks s) hv
  · cases eq
    exact hv

mutual

theorem Closed.of_expression (h : Closed o P) (s : List Char) {e : Expr} {left : List Char}
    (read : (expression o s).Takes e left) : P e := by
  obtain ⟨v, r, first, more⟩ := expression_takes_iff.1 read
  have := first.length_le
  exact h.of_operands r v (h.of_term s first) more
termination_by 10 * s.length + 6

theorem Closed.of_operands (h : Closed o P) (s : List Char) (chain : Expr) {e : Expr}
    {left : List Char} (hchain : P chain) (read : (operands o chain s).Takes e left) : P e := by
  rcases operands_takes read with ⟨rfl, -⟩ | ⟨op, -, v, r, operand, shorter, more⟩
  · exact hchain
  · have := op.length_le
    exact h.of_operands r _ (h.chains op.value hchain (h.of_term op.rest operand)) more
termination_by 10 * s.length + 5

theorem Closed.of_term (h : Closed o P) (s : List Char) {e : Expr} {left : List Char}
    (read : (term o s).Takes e left) : P e := by
  obtain ⟨v, r, head, eq⟩ := term_takes_iff.1 read
  have := length_skipBlanks_le s
  exact h.of_followed eq (h.of_primary (skipBlanks s) head)
termination_by 10 * s.length + 4

theorem Closed.of_primary (h : Closed o P) (s : List Char) {e : Expr} {left : List Char}
    (read : (primary o s).Takes e left) : P e := by
  rcases primary_takes read with text | called | ⟨suffix, named⟩ | grouped
  · exact h.literals text
  · exact h.of_call s called
  · obtain ⟨name, rfl, name, notReserved, -⟩ := ident?_eq_some named
    exact h.idents name notReserved
  · exact h.of_group s grouped
termination_by 10 * s.length + 3

theorem Closed.of_call (h : Closed o P) (s : List Char) {e : Expr} {left : List Char}
    (read : (call o s).Takes e left) : P e := by
  obtain ⟨name, r, opening, es, t, ⟨suffix, named⟩, opened, list, -, node⟩ := call_takes read
  have := suffix.length_le
  have := opened.length_lt
  exact h.calls (name?_eq_some named).1 (h.of_arguments opening list) node
termination_by 10 * s.length + 2

theorem Closed.of_arguments (h : Closed o P) (s : List Char) {es : List Expr} {left : List Char}
    (read : (arguments o s).Takes es left) : ∀ e ∈ es, P e := by
  rcases arguments_takes read with rfl | ⟨v, r, vs, first, more, rfl⟩
  · simp
  · have := first.length_le
    exact List.forall_mem_cons.2 ⟨h.of_expression s first, h.of_moreArguments r more⟩
termination_by 10 * s.length + 8

theorem Closed.of_moreArguments (h : Closed o P) (s : List Char) {es : List Expr} {left : List Char}
    (read : (moreArguments o s).Takes es left) : ∀ e ∈ es, P e := by
  rcases moreArguments_takes read with rfl | ⟨opening, v, r, vs, passed, first, more, rfl⟩
  · simp
  · have := passed.length_lt
    have := first.length_le
    exact List.forall_mem_cons.2 ⟨h.of_expression opening first, h.of_moreArguments r more⟩
termination_by 10 * s.length + 7

theorem Closed.of_group (h : Closed o P) (s : List Char) {e : Expr} {left : List Char}
    (read : (group o s).Takes e left) : P e := by
  obtain ⟨opening, v, r, opened, inner, -, rfl⟩ := group_takes read
  have := opened.length_lt
  exact h.groups (h.of_expression opening inner)
termination_by 10 * s.length + 2

end

end ExprLang.Grammar

namespace ExprLang

/-- An expression that is read as a whole text. -/
theorem Expr.parse_eq_ok_iff {o : Options} {text : String} {e : Expr} :
    parse o text = .ok e ↔ (Grammar.expression o text.toList).Takes e [] := by
  rw [parse]
  cases Grammar.expression o text.toList with
  | ok t =>
    by_cases done : t.rest = []
    · simp [done, Grammar.Reading.takes_ok_iff]
    · simp [done, Grammar.Reading.takes_ok_iff]
  | fault f => simp [Grammar.Reading.not_takes_fault]
  | hard f => simp [Grammar.Reading.not_takes_hard]

/-- What the grammar's ways of making expressions keep holds of every text that is read. -/
theorem Expr.of_parse {o : Options} {P : Expr → Prop} {text : String} {e : Expr}
    (closed : Grammar.Closed o P) (h : parse o text = .ok e) : P e :=
  closed.of_expression text.toList (parse_eq_ok_iff.1 h)

end ExprLang
