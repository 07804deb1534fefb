import ExprLang.Proofs.Grammar.Closure
import ExprLang.Proofs.Grammar.RecasedLiterals

set_option autoImplicit false

/-!
Two texts that differ in letter case only are read in lockstep: at every point both are read, with
expressions that differ in letter case only, or neither is. So both texts pass the check of a
context where letter case has no meaning, with the same type and the same values, or neither does.
-/

namespace ExprLang.Grammar

variable {o : Options} {s t : List Char}

/-! Names, members and calls -/

theorem ident?_recased (blind : o.IgnoresCase) (h : Recased o .plain s t) :
    Option.Rel (Agree o Expr.Recased) (ident? o s) (ident? o t) := by
  have names := name?_recased h
  unfold ident?
  generalize name? s = a at names ⊢
  generalize name? t = b at names ⊢
  cases names with
  | none => exact .none
  | @some x y both =>
    dsimp only
    rw [Options.isKeyword_congr blind.letters both.value]
    split
    · exact .none
    · exact .some (both.map fun _ _ same => .ident same)

theorem callNode?_recased (blind : o.IgnoresCase) {name name' : String} {es es' : List Expr}
    (same : SameName name name') (arguments : List.Forall₂ Expr.Recased es es') :
    Option.Rel Expr.Recased (callNode? o name es) (callNode? o name' es') := by
  have ignoreConditional := blind.everywhere (·.ignoreConditionalCase) rfl
  have ignoreNullTest := blind.everywhere (·.ignoreNullTestCase) rfl
  have ignoreFunction := blind.everywhere (·.ignoreFunctionCase) rfl
  rw [callNode?, callNode?, ignoreConditional, ignoreNullTest, ignoreFunction,
    namesEqual_congr same rfl, namesEqual_congr same rfl,
    Options.isKeyword_congr blind.letters same]
  split
  · exact .some (.conditional name name' arguments)
  split
  · exact .some (.nullTest name name' arguments)
  split
  · exact .none
  · rw [if_pos rfl, if_pos rfl, show lowerText name = lowerText name' from same]
    exact .some (.call _ arguments)

theorem memberName?_recased (read : o.memberRead = true) (h : Recased o .plain s t) :
    Option.Rel (fun x y => x.2 = y.2 ∧ Recased o .plain x.1.rest y.1.rest) (memberName? s)
      (memberName? t) := by
  have point : Option.Rel (fun p q => Recased o .point p.rest q.rest) (pastSpaced? '.' s)
      (pastSpaced? '.' t) := by
    have next : Zone.next o .plain '.' = .point :=
      (if_neg (point_ne_quote o.quote)).trans (if_pos ⟨rfl, read⟩)
    refine rel_map (past?_recased rfl h.skipBlanks_plain) fun p q rests => ?_
    rw [next] at rests
    exact rests.skipBlanks_point
  unfold memberName?
  generalize pastSpaced? '.' s = a at point ⊢
  generalize pastSpaced? '.' t = b at point ⊢
  cases point with
  | none => exact .none
  | @some p q rests =>
    have names := name?_recased_point rests
    dsimp only
    generalize name? p.rest = x at names ⊢
    generalize name? q.rest = y at names ⊢
    cases names with
    | none => exact .none
    | some both => exact .some ⟨both.value, both.rest.skipBlanks_plain⟩

theorem members_recased (read : o.memberRead = true) {e e' : Expr} (target : Expr.Recased e e')
    (h : Recased o .plain s t) : Agree o Expr.Recased (members e s) (members e' t) := by
  induction e, s using members.induct generalizing e' t with
  | case1 e s none =>
    have names := memberName?_recased read h
    rw [none] at names
    generalize found : memberName? t = b at names
    cases names
    rw [members, none, members, found]
    exact ⟨target, h⟩
  | case2 e s p name found ih =>
    have names := memberName?_recased read h
    rw [found] at names
    generalize found' : memberName? t = b at names
    cases names with
    | @some _ x both =>
      obtain ⟨q, name'⟩ := x
      obtain ⟨rfl, rests⟩ := both
      rw [members, found, members, found']
      exact (ih (.member name target) rests).within p.suffix q.suffix

theorem finish_recased {x : Taken s Expr} {y : Taken t Expr} (both : Agree o Expr.Recased x y) :
    Agree o Expr.Recased (x.finish o) (y.finish o) := by
  unfold Taken.finish
  dsimp only
  by_cases read : o.memberRead = true
  · rw [if_pos read, if_pos read]
    exact (members_recased read both.value both.rest.skipBlanks_plain).within _ _
  · rw [if_neg read, if_neg read]
    exact ⟨both.value, both.rest.skipBlanks_plain⟩

/-! Expressions -/

mutual

theorem expression_recased (blind : o.IgnoresCase) (s t : List Char) (h : Recased o .plain s t) :
    Similar o Expr.Recased (expression o s) (expression o t) := by
  have first := term_recased blind s t h
  rw [expression.eq_def o s, expression.eq_def o t]
  generalize term o s = a at first ⊢
  generalize term o t = b at first ⊢
  cases first with
  | fault f g => exact .fault f g
  | hard f g => exact .hard f g
  | @ok x y both =>
    have := x.length_le
    exact (operands_recased blind x.rest y.rest both.rest both.value).within x.suffix y.suffix
termination_by 10 * s.length + 6

theorem operands_recased (blind : o.IgnoresCase) (s t : List Char) (h : Recased o .plain s t)
    {e e' : Expr} (chain : Expr.Recased e e') :
    Similar o Expr.Recased (operands o e s) (operands o e' t) := by
  have operator := operatorSpaced_recased blind h
  have length := h.length_eq
  rw [operands.eq_def o e s, operands.eq_def o e' t]
  generalize operatorSpaced o s = a at operator ⊢
  generalize operatorSpaced o t = b at operator ⊢
  cases operator with
  | fault f g => exact .ok ⟨chain, h⟩
  | hard f g => exact .hard f g
  | @ok op op' both =>
    have := op.length_le
    have operand := term_recased blind op.rest op'.rest both.rest
    dsimp only
    generalize term o op.rest = x at operand ⊢
    generalize term o op'.rest = y at operand ⊢
    cases operand with
    | fault f g => exact .ok ⟨chain, h⟩
    | hard f g => exact .hard f g
    | @ok u v terms =>
      have length' := terms.rest.length_eq
      dsimp only
      rw [← length', ← length, both.value]
      split
      · rename_i shorter
        have grown := Expr.Recased.append op'.value chain terms.value
        exact (operands_recased blind u.rest v.rest terms.rest grown).within _ _
      · exact .fault _ _
termination_by 10 * s.length + 5

theorem term_recased (blind : o.IgnoresCase) (s t : List Char) (h : Recased o .plain s t) :
    Similar o Expr.Recased (term o s) (term o t) := by
  have := length_skipBlanks_le s
  have start := primary_recased blind (skipBlanks s) (skipBlanks t) h.skipBlanks_plain
  rw [term.eq_def o s, term.eq_def o t]
  generalize primary o (skipBlanks s) = a at start ⊢
  generalize primary o (skipBlanks t) = b at start ⊢
  cases start with
  | fault f g => exact .fault f g
  | hard f g => exact .hard f g
  | ok both => exact .ok (finish_recased (both.within _ _))
termination_by 10 * s.length + 4

theorem primary_recased (blind : o.IgnoresCase) (s t : List Char) (h : Recased o .plain s t) :
    Similar o Expr.Recased (primary o s) (primary o t) := by
  have literals := literal_recased blind h
  have calls := call_recased blind s t h
  have names := ident?_recased blind h
  have groups := group_recased blind s t h
  rw [primary.eq_def o s, primary.eq_def o t]
  generalize literal o s = a at literals ⊢
  generalize literal o t = a' at literals ⊢
  cases literals with
  | ok both => exact .ok both
  | hard f g => exact .hard f g
  | fault f g =>
  generalize call o s = b at calls ⊢
  generalize call o t = b' at calls ⊢
  cases calls with
  | ok both => exact .ok both
  | hard f g => exact .hard f g
  | fault f g =>
  generalize ident? o s = c at names ⊢
  generalize ident? o t = c' at names ⊢
  cases names with
  | some both => exact .ok both
  | none => exact groups
termination_by 10 * s.length + 3

theorem call_recased (blind : o.IgnoresCase) (s t : List Char) (h : Recased o .plain s t) :
    Similar o Expr.Recased (call o s) (call o t) := by
  have names := name?_recased h
  rw [call.eq_def o s, call.eq_def o t]
  generalize name? s = a at names ⊢
  generalize name? t = a' at names ⊢
  cases names with
  | none => exact .fault _ _
  | @some name name' named =>
  have openings := pastSpaced?_recased (c := '(') (by decide) named.rest
  dsimp only
  generalize pastSpaced? '(' name.rest = b at openings ⊢
  generalize pastSpaced? '(' name'.rest = b' at openings ⊢
  cases openings with
  | none => exact .fault _ _
  | @some opening opening' opened =>
  have := name.length_le
  have := opening.shorter
  have lists := arguments_recased blind opening.rest opening'.rest opened
  dsimp only
  generalize arguments o opening.rest = c at lists ⊢
  generalize arguments o opening'.rest = c' at lists ⊢
  cases lists with
  | fault f g => exact .fault f g
  | hard f g => exact .hard f g
  | @ok list list' read =>
  have closings := pastSpaced?_recased (c := ')') (by decide) read.rest
  dsimp only
  generalize pastSpaced? ')' list.rest = d at closings ⊢
  generalize pastSpaced? ')' list'.rest = d' at closings ⊢
  cases closings with
  | none => exact .fault _ _
  | @some closing closing' closed =>
  have nodes := callNode?_recased blind named.value read.value
  dsimp only
  generalize callNode? o name.value list.value = e at nodes ⊢
  generalize callNode? o name'.value list'.value = e' at nodes ⊢
  cases nodes with
  | none => exact .fault _ _
  | some node => exact .ok ⟨node, closed⟩
termination_by 10 * s.length + 2

theorem arguments_recased (blind : o.IgnoresCase) (s t : List Char) (h : Recased o .plain s t) :
    Similar o (List.Forall₂ Expr.Recased) (arguments o s) (arguments o t) := by
  have first := expression_recased blind s t h
  rw [arguments.eq_def o s, arguments.eq_def o t]
  generalize expression o s = a at first ⊢
  generalize expression o t = b at first ⊢
  cases first with
  | fault f g => exact .ok ⟨.nil, h⟩
  | hard f g => exact .hard f g
  | @ok x y both =>
    have := x.length_le
    have more := moreArguments_recased blind x.rest y.rest both.rest
    exact (more.map fun _ _ rest => .cons both.value rest).within x.suffix y.suffix
termination_by 10 * s.length + 8

theorem moreArguments_recased (blind : o.IgnoresCase) (s t : List Char)
    (h : Recased o .plain s t) :
    Similar o (List.Forall₂ Expr.Recased) (moreArguments o s) (moreArguments o t) := by
  have commas := pastSpaced?_recased (c := ',') (by decide) h
  rw [moreArguments.eq_def o s, moreArguments.eq_def o t]
  generalize pastSpaced? ',' s = a at commas ⊢
  generalize pastSpaced? ',' t = a' at commas ⊢
  cases commas with
  | none => exact .ok ⟨.nil, h⟩
  | @some comma comma' passed =>
  have := comma.shorter
  have first := expression_recased blind comma.rest comma'.rest passed
  dsimp only
  generalize expression o comma.rest = b at first ⊢
  generalize expression o comma'.rest = b' at first ⊢
  cases first with
  | fault f g => exact .ok ⟨.nil, h⟩
  | hard f g => exact .hard f g
  | @ok x y both =>
    have := x.length_le
    have more := moreArguments_recased blind x.rest y.rest both.rest
    exact (more.map fun _ _ rest => .cons both.value rest).within _ _
termination_by 10 * s.length + 7

theorem group_recased (blind : o.IgnoresCase) (s t : List Char) (h : Recased o .plain s t) :
    Similar o Expr.Recased (group o s) (group o t) := by
  have openings := pastSpaced?_recased (c := '(') (by decide) h
  rw [group.eq_def o s, group.eq_def o t]
  generalize pastSpaced? '(' s = a at openings ⊢
  generalize pastSpaced? '(' t = a' at openings ⊢
  cases openings with
  | none => exact .fault _ _
  | @some opening opening' opened =>
  have := opening.shorter
  have inner := expression_recased blind opening.rest opening'.rest opened
  dsimp only
  generalize expression o opening.rest = b at inner ⊢
  generalize expression o opening'.rest = b' at inner ⊢
  cases inner with
  | fault f g => exact .fault f g
  | hard f g => exact .hard f g
  | @ok x y both =>
  have closings := pastSpaced?_recased (c := ')') (by decide) both.rest
  dsimp only
  generalize pastSpaced? ')' x.rest = d at closings ⊢
  generalize pastSpaced? ')' y.rest = d' at closings ⊢
  cases closings with
  | none => exact .fault _ _
  | @some closing closing' closed => exact .ok ⟨.group both.value, closed⟩
termination_by 10 * s.length + 2

end

end ExprLang.Grammar

namespace ExprLang

open Grammar

/-- Both texts are expressions, which differ in letter case only, or none is. -/
theorem Expr.parse_recased {o : Options} (blind : o.IgnoresCase) {s t : String}
    (h : Grammar.Recased o .plain s.toList t.toList) :
    Option.Rel Expr.Recased (parse o s).toOption (parse o t).toOption := by
  have read := expression_recased blind s.toList t.toList h
  rw [parse, parse]
  generalize expression o s.toList = a at read ⊢
  generalize expression o t.toList = b at read ⊢
  cases read with
  | fault f g => exact .none
  | hard f g => exact .none
  | @ok x y both =>
    have whole : x.rest = [] ↔ y.rest = [] := by
      rw [← List.length_eq_zero_iff, ← List.length_eq_zero_iff, both.rest.length_eq]
    dsimp only
    by_cases done : x.rest = []
    · rw [if_pos done, if_pos (whole.1 done)]
      exact .some both.value
    · rw [if_neg done, if_neg fun done' => done (whole.2 done')]
      exact .none

namespace Context

variable {c : Context} {m : Memory} {s t : String}

theorem check_recased (blind : c.IgnoresCase m)
    (h : Grammar.Recased c.options .plain s.toList t.toList) :
    Option.Rel Expr.Recased (c.check m s).toOption (c.check m t).toOption := by
  have own : c.options.IgnoresCase := (blind c.frame List.mem_cons_self).options
  have read : Option.Rel Expr.Recased (c.parse s).toOption (c.parse t).toOption :=
    Expr.parse_recased own h
  rw [check, check, toOption_bind, toOption_bind]
  refine rel_bind read fun e e' both => ?_
  have pass := both.problems_iff blind
  generalize e.problems c m = ps at pass ⊢
  generalize e'.problems c m = ps' at pass ⊢
  cases ps with
  | nil =>
    obtain rfl := pass.1 rfl
    exact .some both
  | cons p ps =>
    cases ps' with
    | nil => cases pass.2 rfl
    | cons p' ps' => exact .none

theorem interpret_recased (blind : c.IgnoresCase m)
    (h : Grammar.Recased c.options .plain s.toList t.toList) (args : List Value) :
    (c.interpret m s args).toOption = (c.interpret m t args).toOption := by
  have checked := check_recased blind h
  rw [interpret, interpret, toOption_bind, toOption_bind]
  generalize (c.check m s).toOption = a at checked ⊢
  generalize (c.check m t).toOption = b at checked ⊢
  cases checked with
  | none => rfl
  | @some e e' both =>
    rw [Option.bind_some, Option.bind_some, toOption_bind, toOption_bind,
      both.eval_toOption blind]

/-- Where letter case has no meaning, texts that differ in the case of ASCII letters outside of
string literals and the names of members pass the check together, with one static type, and have the
same values. -/
theorem texts_agree (c : Context) (m : Memory) (blind : c.IgnoresCase m) (s t : String)
    (h : Grammar.Recased c.options .plain s.toList t.toList) :
    ((∃ e, c.check m s = .ok e) ↔ ∃ e, c.check m t = .ok e)
      ∧ (∀ e e', c.check m s = .ok e → c.check m t = .ok e' → e.ty c m = e'.ty c m)
      ∧ ∀ args v, c.interpret m s args = .ok v ↔ c.interpret m t args = .ok v := by
  have checked := check_recased blind h
  refine ⟨?_, ?_, ?_⟩
  · simp only [← toOption_eq_some_iff]
    generalize (c.check m s).toOption = a at checked ⊢
    generalize (c.check m t).toOption = b at checked ⊢
    cases checked with
    | none => simp
    | some both => simp
  · intro e e' left right
    rw [toOption_eq_some_iff.2 left, toOption_eq_some_iff.2 right] at checked
    cases checked with
    | some both => exact both.ty_eq blind
  · intro args v
    rw [← toOption_eq_some_iff, ← toOption_eq_some_iff, interpret_recased blind h args]

/-- A parameter, a variable, words, a numeral, a string and a member. -/
theorem texts_agree_conditional :
    let o : Options := { Options.ignoringCase {} with memberRead := true }
    let c : Context := ⟨⟨o, MemberTable.standard.resolver, 0, [], [⟨"Given", .boolean⟩]⟩, []⟩
    let m : Memory := ⟨[[("text", ⟨.string "Aa", false⟩)]]⟩
    let s := "If(Given And text = \"Aa\", Text.Length, 2L)"
    let t := "IF(GIVEN and TEXT = \"Aa\", tExt.Length, 2l)"
    let two : Value := .number (.int .int64 ⟨2, by decide, by decide⟩)
    c.IgnoresCase m ∧ Grammar.Recased c.options .plain s.toList t.toList
      ∧ (∀ args v, c.interpret m s args = .ok v ↔ c.interpret m t args = .ok v)
      ∧ (c.check m s).isOk = true ∧ (c.check m t).isOk = true
      ∧ c.interpret m s [.bool true] = .ok two ∧ c.interpret m t [.bool true] = .ok two := by
  intro o c m s t two
  have blind : c.IgnoresCase m := by
    intro f mem
    obtain rfl := List.mem_singleton.1 mem
    exact ⟨⟨⟨rfl, rfl, rfl, rfl, rfl, rfl, rfl, rfl⟩, rfl⟩, List.pairwise_singleton _ _,
      List.pairwise_singleton _ _⟩
  have recased : Grammar.Recased c.options .plain s.toList t.toList := by
    decide +kernel
  have agree := (texts_agree c m blind s t recased).2.2
  have value : c.interpret m s [.bool true] = .ok two :=
    toOption_eq_some_iff.1 (by decide +kernel)
  exact ⟨blind, recased, agree, by decide +kernel, by decide +kernel, value,
    (agree _ _).1 value⟩

end Context

end ExprLang
