import ExprLang.Proofs.Grammar.Legible

set_option autoImplicit false

/-!
A language that stops telling the names of functions apart by letter case. It reads every text as
before, faults included; only the names of calls come out in lower case.
-/

namespace ExprLang

/-- The same language where letter case has no meaning in the names of functions. -/
def Options.foldingCalls (o : Options) : Options := { o with ignoreFunctionCase := true }

namespace Expr

mutual

/-- The expression with the names of calls in lower case. -/
def lowerCalls : Expr → Expr
  | literal value source => literal value source
  | ident name => ident name
  | call name arguments => call (lowerText name) (lowerCallsAll arguments)
  | conditional name arguments => conditional name (lowerCallsAll arguments)
  | nullTest name arguments => nullTest name (lowerCallsAll arguments)
  | member target name => member target.lowerCalls name
  | group inner => group inner.lowerCalls
  | operation left op right => operation left.lowerCalls op right.lowerCalls

def lowerCallsAll : List Expr → List Expr
  | [] => []
  | e :: es => e.lowerCalls :: lowerCallsAll es

end

theorem lowerCallsAll_eq_map (es : List Expr) : lowerCallsAll es = es.map lowerCalls := by
  induction es with
  | nil => rfl
  | cons e es ih => rw [lowerCallsAll, ih, List.map_cons]

theorem children_lowerCalls (e : Expr) : e.lowerCalls.children = e.children.map lowerCalls := by
  cases e with
  | call name es => exact lowerCallsAll_eq_map es
  | conditional name es => exact lowerCallsAll_eq_map es
  | nullTest name es => exact lowerCallsAll_eq_map es
  | _ => rfl

/-- The calls of the expression in lower case are its calls in lower case. -/
theorem call_within_lowerCalls_iff {e : Expr} {name : String} {es : List Expr} :
    (call name es).Within e.lowerCalls
      ↔ ∃ n es', (call n es').Within e ∧ lowerText n = name ∧ es'.map lowerCalls = es := by
  rw [within_map_iff children_lowerCalls]
  constructor
  · rintro ⟨y, inside, same⟩
    cases y with
    | call n es' =>
      rw [lowerCalls, lowerCallsAll_eq_map] at same
      cases same
      exact ⟨n, es', inside, rfl, rfl⟩
    | _ => cases same
  · rintro ⟨n, es', inside, rfl, rfl⟩
    exact ⟨_, inside, by rw [lowerCalls, lowerCallsAll_eq_map]⟩

theorem lowerCalls_append (chain : Expr) (op : Operator) (operand : Expr) :
    (chain.append op operand).lowerCalls = chain.lowerCalls.append op operand.lowerCalls := by
  induction chain with
  | operation left root right _ ih =>
    rw [append, lowerCalls, append]
    split
    · rw [lowerCalls, ih]
    · rfl
  | _ => rfl

end Expr

namespace Grammar

open ExprLang.Expr

variable {o : Options} {s : List Char}

theorem map_within {α β : Type} {r s : List Char} (f : α → β) (h : r <:+ s) (x : Reading r α) :
    (x.within h).map f = (x.map f).within h := by
  cases x <;> rfl

/-! What has no names of functions is read as before -/

theorem literal_foldingCalls (o : Options) (s : List Char) :
    literal o.foldingCalls s = (literal o s).map lowerCalls := by
  have same : literal o.foldingCalls s = literal o s := rfl
  rw [same]
  cases read : literal o s with
  | ok t =>
    have takes : (literal o s).Takes t.value t.rest := read ▸ ⟨t.suffix, rfl⟩
    obtain ⟨v, source, value⟩ := exists_literal_of_takes takes
    obtain ⟨e, rest, suffix⟩ := t
    subst value
    rfl
  | fault f => rfl
  | hard f => rfl

theorem ident?_foldingCalls (o : Options) (s : List Char) :
    ident? o.foldingCalls s = (ident? o s).map (·.map lowerCalls) := by
  have same : ident? o.foldingCalls s = ident? o s := rfl
  rw [same, ident?]
  cases name? s with
  | none => rfl
  | some t =>
    dsimp only
    split <;> rfl

theorem callNode?_foldingCalls (exact : o.ignoreFunctionCase = false) (name : String)
    (es : List Expr) : callNode? o.foldingCalls name (es.map lowerCalls)
      = (callNode? o name es).map lowerCalls := by
  have keyword : o.foldingCalls.isKeyword name = o.isKeyword name := rfl
  rw [callNode?, callNode?, keyword, exact, ← lowerCallsAll_eq_map]
  simp only [Options.foldingCalls]
  split
  · rfl
  split
  · rfl
  split
  · rfl
  · rfl

theorem members_lowerCalls (target : Expr) (s : List Char) :
    members target.lowerCalls s = (members target s).map lowerCalls := by
  induction target, s using members.induct with
  | case1 target s none => rw [members, none, members, none]; rfl
  | case2 target s p name found ih =>
    rw [members, found, members, found]
    rw [lowerCalls] at ih
    simp only [ih]
    rfl

theorem finish_foldingCalls (t : Taken s Expr) :
    (t.map lowerCalls).finish o.foldingCalls = (t.finish o).map lowerCalls := by
  have reads : o.foldingCalls.memberRead = o.memberRead := rfl
  simp only [Taken.finish, reads]
  split
  · simp only [Taken.map, members_lowerCalls]
    rfl
  · rfl

mutual

theorem expression_foldingCalls (exact : o.ignoreFunctionCase = false) (s : List Char) :
    expression o.foldingCalls s = (expression o s).map lowerCalls := by
  rw [expression, expression, term_foldingCalls exact s]
  cases term o s with
  | fault f => rfl
  | hard f => rfl
  | ok t =>
    have := t.length_le
    have more := operands_foldingCalls exact t.value t.rest
    exact (congrArg (·.within t.suffix) more).trans (map_within ..).symm
termination_by 10 * s.length + 6

theorem operands_foldingCalls (exact : o.ignoreFunctionCase = false) (chain : Expr)
    (s : List Char) : operands o.foldingCalls chain.lowerCalls s
      = (operands o chain s).map lowerCalls := by
  have operator : operatorSpaced o.foldingCalls s = operatorSpaced o s := rfl
  rw [operands, operands, operator]
  cases operatorSpaced o s with
  | fault f => rfl
  | hard f => rfl
  | ok op =>
    have := op.length_le
    dsimp only
    rw [term_foldingCalls exact op.rest]
    cases term o op.rest with
    | fault f => rfl
    | hard f => rfl
    | ok t =>
      dsimp only [Reading.map, Taken.map]
      by_cases shorter : t.rest.length < s.length
      · have more := operands_foldingCalls exact (chain.append op.value t.value) t.rest
        rw [lowerCalls_append] at more
        rw [if_pos shorter, if_pos shorter, more]
        exact (map_within ..).symm
      · rw [if_neg shorter, if_neg shorter]
termination_by 10 * s.length + 5

theorem term_foldingCalls (exact : o.ignoreFunctionCase = false) (s : List Char) :
    term o.foldingCalls s = (term o s).map lowerCalls := by
  have := length_skipBlanks_le s
  rw [term, term, primary_foldingCalls exact (skipBlanks s)]
  cases primary o (skipBlanks s) with
  | fault f => rfl
  | hard f => rfl
  | ok t => exact congrArg Reading.ok (finish_foldingCalls (t.within (skipBlanks_suffix s)))
termination_by 10 * s.length + 4

theorem primary_foldingCalls (exact : o.ignoreFunctionCase = false) (s : List Char) :
    primary o.foldingCalls s = (primary o s).map lowerCalls := by
  rw [primary, primary, literal_foldingCalls, call_foldingCalls exact s, ident?_foldingCalls,
    group_foldingCalls exact s]
  cases literal o s with
  | ok t => rfl
  | hard f => rfl
  | fault f =>
  cases call o s with
  | ok t => rfl
  | hard f => rfl
  | fault f =>
  cases ident? o s with
  | some t => rfl
  | none => rfl
termination_by 10 * s.length + 3

theorem call_foldingCalls (exact : o.ignoreFunctionCase = false) (s : List Char) :
    call o.foldingCalls s = (call o s).map lowerCalls := by
  rw [call, call]
  cases name? s with
  | none => rfl
  | some name =>
  dsimp only
  cases pastSpaced? '(' name.rest with
  | none => rfl
  | some opening =>
  have := name.length_le
  have := opening.shorter
  dsimp only
  rw [arguments_foldingCalls exact opening.rest]
  cases arguments o opening.rest with
  | fault f => rfl
  | hard f => rfl
  | ok list =>
  dsimp only [Reading.map, Taken.map]
  cases pastSpaced? ')' list.rest with
  | none => rfl
  | some closing =>
  dsimp only
  rw [callNode?_foldingCalls exact]
  cases callNode? o name.value list.value with
  | none => rfl
  | some e => rfl
termination_by 10 * s.length + 2

theorem arguments_foldingCalls (exact : o.ignoreFunctionCase = false) (s : List Char) :
    arguments o.foldingCalls s = (arguments o s).map (·.map lowerCalls) := by
  rw [arguments, arguments, expression_foldingCalls exact s]
  cases expression o s with
  | fault f => rfl
  | hard f => rfl
  | ok t =>
    have := t.length_le
    dsimp only [Reading.map, Taken.map]
    rw [moreArguments_foldingCalls exact t.rest]
    cases moreArguments o t.rest <;> rfl
termination_by 10 * s.length + 8

theorem moreArguments_foldingCalls (exact : o.ignoreFunctionCase = false) (s : List Char) :
    moreArguments o.foldingCalls s = (moreArguments o s).map (·.map lowerCalls) := by
  rw [moreArguments, moreArguments]
  cases pastSpaced? ',' s with
  | none => rfl
  | some comma =>
  have := comma.shorter
  dsimp only
  rw [expression_foldingCalls exact comma.rest]
  cases expression o comma.rest with
  | fault f => rfl
  | hard f => rfl
  | ok t =>
    have := t.length_le
    dsimp only [Reading.map, Taken.map]
    rw [moreArguments_foldingCalls exact t.rest]
    cases moreArguments o t.rest <;> rfl
termination_by 10 * s.length + 7

theorem group_foldingCalls (exact : o.ignoreFunctionCase = false) (s : List Char) :
    group o.foldingCalls s = (group o s).map lowerCalls := by
  rw [group, group]
  cases pastSpaced? '(' s with
  | none => rfl
  | some opening =>
  have := opening.shorter
  dsimp only
  rw [expression_foldingCalls exact opening.rest]
  cases expression o opening.rest with
  | fault f => rfl
  | hard f => rfl
  | ok t =>
  dsimp only [Reading.map, Taken.map]
  cases pastSpaced? ')' t.rest with
  | none => rfl
  | some closing => rfl
termination_by 10 * s.length + 2

end

/-! Names of calls -/

/-- An expression all of whose calls have names of the form that the grammar reads. -/
def NamedCalls (e : Expr) : Prop :=
  ∀ x : Expr, x.Within e → ∀ name es, x = .call name es → isName name.toList = true

theorem namedCalls_of_children {e : Expr} (other : ∀ name es, e ≠ .call name es)
    (parts : ∀ x ∈ e.children, NamedCalls x) : NamedCalls e :=
  forall_within_of_children (fun name es same => absurd same (other name es)) parts

theorem closed_namedCalls (o : Options) : Closed o NamedCalls where
  literals read := by
    obtain ⟨v, source, rfl⟩ := exists_literal_of_takes read
    exact namedCalls_of_children (by simp) (by simp [children])
  idents _ _ := namedCalls_of_children (by simp) (by simp [children])
  calls {name} es e named parts node := by
    rw [callNode?] at node
    split at node
    · cases node
      exact namedCalls_of_children (by simp) parts
    split at node
    · cases node
      exact namedCalls_of_children (by simp) parts
    split at node
    · cases node
    · cases node
      refine forall_within_of_children ?_ parts
      rintro _ _ ⟨⟩
      split
      · exact isName_lowerText named
      · exact named
  memberReads _ _ target := namedCalls_of_children (by simp) (by simpa [children] using target)
  groups inner := namedCalls_of_children (by simp) (by simpa [children] using inner)
  chains op chain operand := forall_within_append op (by simp) chain operand

end Grammar

theorem Expr.isName_of_parse {o : Options} {text : String} {e : Expr} (read : parse o text = .ok e)
    {name : String} {es : List Expr} (inside : (call name es).Within e) :
    Grammar.isName name.toList = true :=
  of_parse (Grammar.closed_namedCalls o) read _ inside name es rfl

/-- A text is read as the same expression, with the names of calls in lower case, or it is refused
for the same reason. -/
theorem Expr.parse_foldingCalls {o : Options} (exact : o.ignoreFunctionCase = false)
    (text : String) : parse o.foldingCalls text = (parse o text).map lowerCalls := by
  rw [parse, parse, Grammar.expression_foldingCalls exact]
  cases Grammar.expression o text.toList with
  | fault f => rfl
  | hard f => rfl
  | ok t =>
    dsimp only [Grammar.Reading.map, Grammar.Taken.map]
    split <;> rfl

end ExprLang
