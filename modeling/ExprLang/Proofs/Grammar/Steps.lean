import ExprLang.Grammar.Expression
import ExprLang.Proofs.Grammar.Reading

set_option autoImplicit false

/-!
One step of each reader of the grammar: what it takes in terms of what the readers that it calls
take. The readers are not unfolded anywhere else.
-/

namespace ExprLang.Grammar

open Reading

variable {o : Options} {s left : List Char} {e : Expr}

/-- What is left after a character with blanks around it, if it stands here. -/
def PastSpaced (c : Char) (s left : List Char) : Prop :=
  ∃ p, pastSpaced? c s = some p ∧ p.rest = left

theorem PastSpaced.length_lt {c : Char} (h : PastSpaced c s left) : left.length < s.length := by
  obtain ⟨p, -, rfl⟩ := h
  exact p.shorter

theorem PastSpaced.of_cons {c : Char} {r : List Char} (h : skipBlanks s = c :: r) :
    PastSpaced c s (skipBlanks r) := by
  obtain ⟨_, _, found⟩ := pastSpaced?_of_cons h
  exact ⟨_, found, rfl⟩

/-! Members -/

theorem memberName?_eq_some {p : Past s} {name : String} (h : memberName? s = some (p, name)) :
    isName name.toList = true := by
  rw [memberName?] at h
  split at h
  · cases h
  · split at h
    · cases h
    · rename_i named
      cases h
      exact (name?_eq_some named).1

theorem memberName?_of_cons {r : List Char} {name : String} (point : skipBlanks s = '.' :: r)
    (named : isName name.toList = true) (ends : NameEnds left)
    (h : skipBlanks r = name.toList ++ left) :
    ∃ p, memberName? s = some (p, name) ∧ p.rest = skipBlanks left := by
  obtain ⟨_, _, passed⟩ := pastSpaced?_of_cons point
  obtain ⟨_, read⟩ := name?_of_eq h named ends
  rw [memberName?, passed]
  simp only [read]
  exact ⟨_, rfl, rfl⟩

theorem memberName?_eq_none (h : (skipBlanks s).head? ≠ some '.') : memberName? s = none := by
  rw [memberName?, pastSpaced?_eq_none h]

theorem members_of_none (target : Expr) (h : memberName? s = none) :
    (members target s).value = target ∧ (members target s).rest = s := by
  rw [members, h]
  exact ⟨rfl, rfl⟩

theorem members_of_some (target : Expr) {p : Past s} {name : String}
    (h : memberName? s = some (p, name)) :
    (members target s).value = (members (.member target name) p.rest).value
      ∧ (members target s).rest = (members (.member target name) p.rest).rest := by
  rw [members, h]
  exact ⟨rfl, rfl⟩

/-- What a term has become, and what is left, where its own text is read. -/
def followed (o : Options) (e : Expr) (s : List Char) : Expr × List Char :=
  if o.memberRead then ((members e (skipBlanks s)).value, (members e (skipBlanks s)).rest)
  else (e, skipBlanks s)

theorem finish_eq (t : Taken s Expr) :
    ((t.finish o).value, (t.finish o).rest) = followed o t.value t.rest := by
  rw [Taken.finish, followed]
  by_cases members : o.memberRead = true
  · simp only [members, if_true]
    rfl
  · simp only [members]
    rfl

/-! Terms -/

theorem term_takes_iff : (term o s).Takes e left
    ↔ ∃ v r, (primary o (skipBlanks s)).Takes v r ∧ followed o v r = (e, left) := by
  rw [term]
  cases primary o (skipBlanks s) with
  | ok t =>
    have finished : followed o t.value t.rest = _ :=
      (finish_eq (t.within (skipBlanks_suffix s))).symm
    rw [exists_takes_ok_iff, finished, Prod.mk.injEq]
    exact takes_ok_iff
  | fault f => simp [not_takes_fault]
  | hard f => simp [not_takes_hard]

theorem primary_takes (h : (primary o s).Takes e left) :
    (literal o s).Takes e left ∨ (call o s).Takes e left
      ∨ (∃ suffix, ident? o s = some ⟨e, left, suffix⟩) ∨ (group o s).Takes e left := by
  rw [primary] at h
  cases read : literal o s with
  | ok t => exact .inl (by simpa only [read] using h)
  | hard f => exact absurd (by simpa only [read] using h) not_takes_hard
  | fault f =>
  cases called : call o s with
  | ok t => exact .inr (.inl (by simpa only [read, called] using h))
  | hard f => exact absurd (by simpa only [read, called] using h) not_takes_hard
  | fault f =>
  cases named : ident? o s with
  | some t =>
    simp only [read, called, named, takes_ok_iff] at h
    exact .inr (.inr (.inl (Taken.exists_of_eq rfl h.1 h.2)))
  | none => exact .inr (.inr (.inr (by simpa only [read, called, named] using h)))

theorem primary_of_literal (h : (literal o s).Takes e left) : (primary o s).Takes e left := by
  obtain ⟨suffix, read⟩ := h
  rw [primary, read]
  exact ⟨suffix, rfl⟩

theorem primary_of_call (read : (literal o s).Faults) (h : (call o s).Takes e left) :
    (primary o s).Takes e left := by
  obtain ⟨_, read⟩ := read
  obtain ⟨suffix, called⟩ := h
  rw [primary, read]
  simp only [called]
  exact ⟨suffix, rfl⟩

theorem ident?_of_name? {name : String} (named : ∃ suffix, name? s = some ⟨name, left, suffix⟩)
    (h : o.isKeyword name = false) : ∃ suffix, ident? o s = some ⟨.ident name, left, suffix⟩ := by
  obtain ⟨suffix, named⟩ := named
  refine ⟨suffix, ?_⟩
  rw [ident?, named]
  simp only [h]
  rfl

theorem ident?_eq_none_of_isKeyword {name : String}
    (named : ∃ suffix, name? s = some ⟨name, left, suffix⟩) (h : o.isKeyword name = true) :
    ident? o s = none := by
  obtain ⟨_, named⟩ := named
  rw [ident?, named]
  simp only [h]
  rfl

theorem ident?_eq_none (h : name? s = none) : ident? o s = none := by
  rw [ident?, h]

theorem primary_of_ident (read : (literal o s).Faults) (called : (call o s).Faults)
    (h : ∃ suffix, ident? o s = some ⟨e, left, suffix⟩) : (primary o s).Takes e left := by
  obtain ⟨_, read⟩ := read
  obtain ⟨_, called⟩ := called
  obtain ⟨suffix, named⟩ := h
  rw [primary, read]
  simp only [called, named]
  exact ⟨suffix, rfl⟩

theorem primary_of_group (read : (literal o s).Faults) (called : (call o s).Faults)
    (named : ident? o s = none) (h : (group o s).Takes e left) : (primary o s).Takes e left := by
  obtain ⟨_, read⟩ := read
  obtain ⟨_, called⟩ := called
  rw [primary, read]
  simpa only [called, named] using h

theorem term_faults (h : (primary o (skipBlanks s)).Faults) : (term o s).Faults := by
  obtain ⟨f, fault⟩ := h
  rw [term, fault]
  exact ⟨f, rfl⟩

theorem primary_faults (read : (literal o s).Faults) (called : (call o s).Faults)
    (named : ident? o s = none) (grouped : (group o s).Faults) : (primary o s).Faults := by
  obtain ⟨_, read⟩ := read
  obtain ⟨_, called⟩ := called
  rw [primary, read]
  simpa only [called, named] using grouped

/-! Chains -/

theorem expression_takes_iff : (expression o s).Takes e left
    ↔ ∃ v r, (term o s).Takes v r ∧ (operands o v r).Takes e left := by
  rw [expression]
  cases term o s with
  | ok t => rw [exists_takes_ok_iff, takes_within_iff]
  | fault f => simp [not_takes_fault]
  | hard f => simp [not_takes_hard]

theorem expression_faults (h : (term o s).Faults) : (expression o s).Faults := by
  obtain ⟨f, fault⟩ := h
  rw [expression, fault]
  exact ⟨f, rfl⟩

theorem operands_of_none (h : (operatorSpaced o s).Faults) : (operands o e s).Takes e s := by
  obtain ⟨_, none⟩ := h
  rw [operands, none]
  exact ⟨_, rfl⟩

theorem operands_takes {chain : Expr} (h : (operands o chain s).Takes e left) :
    (e = chain ∧ left = s) ∨ ∃ op, operatorSpaced o s = .ok op ∧ ∃ v r, (term o op.rest).Takes v r
      ∧ r.length < s.length ∧ (operands o (chain.append op.value v) r).Takes e left := by
  rw [operands] at h
  cases found : operatorSpaced o s with
  | fault f =>
    simp only [found, takes_ok_iff] at h
    exact .inl ⟨h.1.symm, h.2.symm⟩
  | hard f => exact absurd (by simpa only [found] using h) not_takes_hard
  | ok op =>
  simp only [found] at h
  cases read : term o op.rest with
  | fault f =>
    simp only [read, takes_ok_iff] at h
    exact .inl ⟨h.1.symm, h.2.symm⟩
  | hard f => exact absurd (by simpa only [read] using h) not_takes_hard
  | ok t =>
    simp only [read] at h
    split at h
    · rename_i shorter
      exact .inr ⟨op, rfl, t.value, t.rest, read ▸ takes_ok_iff.2 ⟨rfl, rfl⟩, shorter,
        takes_within_iff.1 h⟩
    · exact absurd h not_takes_fault

theorem operands_of_some {chain v : Expr} {r : List Char} {op : Taken s Operator}
    (found : operatorSpaced o s = .ok op) (read : (term o op.rest).Takes v r)
    (shorter : r.length < s.length)
    (h : (operands o (chain.append op.value v) r).Takes e left) :
    (operands o chain s).Takes e left := by
  obtain ⟨suffix, read⟩ := read
  rw [operands, found]
  simp only [read, if_pos shorter]
  exact takes_within_iff.2 h

/-- A chain ends before an operator that no term comes after. -/
theorem operands_of_faults {op : Taken s Operator} (found : operatorSpaced o s = .ok op)
    (h : (term o op.rest).Faults) : (operands o e s).Takes e s := by
  obtain ⟨_, fault⟩ := h
  rw [operands, found]
  simp only [fault]
  exact ⟨_, rfl⟩

/-- A round that reads nothing is a fault. -/
theorem operands_faults {chain v : Expr} {r : List Char} {op : Taken s Operator}
    (found : operatorSpaced o s = .ok op) (read : (term o op.rest).Takes v r)
    (empty : ¬ r.length < s.length) : (operands o chain s).Faults := by
  obtain ⟨suffix, read⟩ := read
  rw [operands, found]
  simp only [read, if_neg empty]
  exact ⟨_, rfl⟩

/-! Groups and calls -/

theorem group_takes (h : (group o s).Takes e left) : ∃ opening v r, PastSpaced '(' s opening
    ∧ (expression o opening).Takes v r ∧ PastSpaced ')' r left ∧ e = .group v := by
  rw [group] at h
  cases opened : pastSpaced? '(' s with
  | none => exact absurd (by simpa only [opened] using h) not_takes_fault
  | some opening =>
  simp only [opened] at h
  cases read : expression o opening.rest with
  | fault f => exact absurd (by simpa only [read] using h) not_takes_fault
  | hard f => exact absurd (by simpa only [read] using h) not_takes_hard
  | ok t =>
  simp only [read] at h
  cases closed : pastSpaced? ')' t.rest with
  | none => exact absurd (by simpa only [closed] using h) not_takes_fault
  | some closing =>
  simp only [closed, takes_ok_iff] at h
  obtain ⟨rfl, rest⟩ := h
  exact ⟨opening.rest, t.value, t.rest, ⟨opening, opened, rfl⟩, read ▸ takes_ok_iff.2 ⟨rfl, rfl⟩,
    ⟨closing, closed, rest⟩, rfl⟩

theorem group_of_expression {opening r : List Char} (opened : PastSpaced '(' s opening)
    (read : (expression o opening).Takes e r) (closed : PastSpaced ')' r left) :
    (group o s).Takes (.group e) left := by
  obtain ⟨_, opened, rfl⟩ := opened
  obtain ⟨_, read⟩ := read
  obtain ⟨_, closed, rest⟩ := closed
  rw [group, opened]
  simp only [read, closed]
  exact takes_ok_iff.2 ⟨rfl, rest⟩

theorem group_faults (h : (skipBlanks s).head? ≠ some '(') : (group o s).Faults := by
  rw [group, pastSpaced?_eq_none h]
  exact ⟨_, rfl⟩

theorem group_faults_of_expression {opening : List Char} (opened : PastSpaced '(' s opening)
    (h : (expression o opening).Faults) : (group o s).Faults := by
  obtain ⟨_, opened, rfl⟩ := opened
  obtain ⟨_, fault⟩ := h
  rw [group, opened]
  simp only [fault]
  exact ⟨_, rfl⟩

theorem group_faults_of_closing {opening r : List Char} (opened : PastSpaced '(' s opening)
    (read : (expression o opening).Takes e r) (h : (skipBlanks r).head? ≠ some ')') :
    (group o s).Faults := by
  obtain ⟨_, opened, rfl⟩ := opened
  obtain ⟨_, read⟩ := read
  rw [group, opened]
  simp only [read, pastSpaced?_eq_none h]
  exact ⟨_, rfl⟩

theorem call_takes (h : (call o s).Takes e left) : ∃ name r opening es t,
    (∃ suffix, name? s = some ⟨name, r, suffix⟩) ∧ PastSpaced '(' r opening
      ∧ (arguments o opening).Takes es t ∧ PastSpaced ')' t left
      ∧ callNode? o name es = some e := by
  rw [call] at h
  cases named : name? s with
  | none => exact absurd (by simpa only [named] using h) not_takes_fault
  | some name =>
  simp only [named] at h
  cases opened : pastSpaced? '(' name.rest with
  | none => exact absurd (by simpa only [opened] using h) not_takes_fault
  | some opening =>
  simp only [opened] at h
  cases read : arguments o opening.rest with
  | fault f => exact absurd (by simpa only [read] using h) not_takes_fault
  | hard f => exact absurd (by simpa only [read] using h) not_takes_hard
  | ok t =>
  simp only [read] at h
  cases closed : pastSpaced? ')' t.rest with
  | none => exact absurd (by simpa only [closed] using h) not_takes_fault
  | some closing =>
  simp only [closed] at h
  cases node : callNode? o name.value t.value with
  | none => exact absurd (by simpa only [node] using h) not_takes_fault
  | some e' =>
  simp only [node, takes_ok_iff] at h
  obtain ⟨rfl, rest⟩ := h
  exact ⟨name.value, name.rest, opening.rest, t.value, t.rest, ⟨name.suffix, rfl⟩,
    ⟨opening, opened, rfl⟩, read ▸ takes_ok_iff.2 ⟨rfl, rfl⟩, ⟨closing, closed, rest⟩, node⟩

theorem call_of_arguments {name : String} {r opening t : List Char} {es : List Expr}
    (named : ∃ suffix, name? s = some ⟨name, r, suffix⟩) (opened : PastSpaced '(' r opening)
    (read : (arguments o opening).Takes es t) (closed : PastSpaced ')' t left)
    (node : callNode? o name es = some e) : (call o s).Takes e left := by
  obtain ⟨_, named⟩ := named
  obtain ⟨_, opened, rfl⟩ := opened
  obtain ⟨_, read⟩ := read
  obtain ⟨_, closed, rest⟩ := closed
  rw [call, named]
  simp only [opened, read, closed, node]
  exact takes_ok_iff.2 ⟨rfl, rest⟩

theorem call_faults_of_name (h : name? s = none) : (call o s).Faults := by
  rw [call, h]
  exact ⟨_, rfl⟩

theorem call_faults_of_opening {name : String} {r : List Char}
    (named : ∃ suffix, name? s = some ⟨name, r, suffix⟩) (h : (skipBlanks r).head? ≠ some '(') :
    (call o s).Faults := by
  obtain ⟨_, named⟩ := named
  rw [call, named]
  simp only [pastSpaced?_eq_none h]
  exact ⟨_, rfl⟩

theorem call_faults_of_closing {name : String} {r opening t : List Char} {es : List Expr}
    (named : ∃ suffix, name? s = some ⟨name, r, suffix⟩) (opened : PastSpaced '(' r opening)
    (read : (arguments o opening).Takes es t) (h : (skipBlanks t).head? ≠ some ')') :
    (call o s).Faults := by
  obtain ⟨_, named⟩ := named
  obtain ⟨_, opened, rfl⟩ := opened
  obtain ⟨_, read⟩ := read
  rw [call, named]
  simp only [opened, read, pastSpaced?_eq_none h]
  exact ⟨_, rfl⟩

/-- A name that cannot be called. -/
theorem call_faults_of_node {name : String} {r opening t left : List Char} {es : List Expr}
    (named : ∃ suffix, name? s = some ⟨name, r, suffix⟩) (opened : PastSpaced '(' r opening)
    (read : (arguments o opening).Takes es t) (closed : PastSpaced ')' t left)
    (node : callNode? o name es = none) : (call o s).Faults := by
  obtain ⟨_, named⟩ := named
  obtain ⟨_, opened, rfl⟩ := opened
  obtain ⟨_, read⟩ := read
  obtain ⟨_, closed, -⟩ := closed
  rw [call, named]
  simp only [opened, read, closed, node]
  exact ⟨_, rfl⟩

/-! Arguments -/

variable {es : List Expr}

theorem moreArguments_takes (h : (moreArguments o s).Takes es left) :
    es = [] ∨ ∃ opening v r vs, PastSpaced ',' s opening ∧ (expression o opening).Takes v r
      ∧ (moreArguments o r).Takes vs left ∧ es = v :: vs := by
  rw [moreArguments] at h
  cases passed : pastSpaced? ',' s with
  | none =>
    simp only [passed, takes_ok_iff] at h
    exact .inl h.1.symm
  | some comma =>
  simp only [passed] at h
  cases read : expression o comma.rest with
  | fault f =>
    simp only [read, takes_ok_iff] at h
    exact .inl h.1.symm
  | hard f => exact absurd (by simpa only [read] using h) not_takes_hard
  | ok t =>
  simp only [read, takes_within_iff, takes_map_iff] at h
  obtain ⟨vs, more, rfl⟩ := h
  exact .inr ⟨comma.rest, t.value, t.rest, vs, ⟨comma, passed, rfl⟩,
    read ▸ takes_ok_iff.2 ⟨rfl, rfl⟩, more, rfl⟩

theorem moreArguments_nil (h : (skipBlanks s).head? ≠ some ',') :
    (moreArguments o s).Takes [] s := by
  rw [moreArguments, pastSpaced?_eq_none h]
  exact ⟨_, rfl⟩

/-- A comma that no expression comes after is left. -/
theorem moreArguments_of_faults {opening : List Char} (passed : PastSpaced ',' s opening)
    (h : (expression o opening).Faults) : (moreArguments o s).Takes [] s := by
  obtain ⟨_, passed, rfl⟩ := passed
  obtain ⟨_, fault⟩ := h
  rw [moreArguments, passed]
  simp only [fault]
  exact ⟨_, rfl⟩

theorem moreArguments_cons {opening r : List Char} (passed : PastSpaced ',' s opening)
    (read : (expression o opening).Takes e r) (more : (moreArguments o r).Takes es left) :
    (moreArguments o s).Takes (e :: es) left := by
  obtain ⟨_, passed, rfl⟩ := passed
  obtain ⟨_, read⟩ := read
  rw [moreArguments, passed]
  simp only [read, takes_within_iff, takes_map_iff]
  exact ⟨es, more, rfl⟩

theorem arguments_takes (h : (arguments o s).Takes es left) :
    es = [] ∨ ∃ v r vs, (expression o s).Takes v r ∧ (moreArguments o r).Takes vs left
      ∧ es = v :: vs := by
  rw [arguments] at h
  cases read : expression o s with
  | fault f =>
    simp only [read, takes_ok_iff] at h
    exact .inl h.1.symm
  | hard f => exact absurd (by simpa only [read] using h) not_takes_hard
  | ok t =>
  simp only [read, takes_within_iff, takes_map_iff] at h
  obtain ⟨vs, more, rfl⟩ := h
  exact .inr ⟨t.value, t.rest, vs, takes_ok_iff.2 ⟨rfl, rfl⟩, more, rfl⟩

theorem arguments_nil (h : (expression o s).Faults) : (arguments o s).Takes [] s := by
  obtain ⟨_, fault⟩ := h
  rw [arguments, fault]
  exact ⟨_, rfl⟩

theorem arguments_cons {r : List Char} (read : (expression o s).Takes e r)
    (more : (moreArguments o r).Takes es left) : (arguments o s).Takes (e :: es) left := by
  obtain ⟨_, read⟩ := read
  rw [arguments, read]
  simp only [takes_within_iff, takes_map_iff]
  exact ⟨es, more, rfl⟩

end ExprLang.Grammar
