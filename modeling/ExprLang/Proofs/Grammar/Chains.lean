import ExprLang.Proofs.Grammar.Closure
import ExprLang.Proofs.Grammar.Literals
import ExprLang.Proofs.Precedence

set_option autoImplicit false

/-!
What is read as an expression is a chain of terms, and no term is an operation by itself. So the
tree of an expression is the only one that has its operands and operators in the order of the text
and tighter operators below looser ones.
-/

namespace ExprLang.Grammar

open ExprLang.Expr

variable {o : Options} {s left : List Char} {e : Expr}

/-! No term is an operation -/

theorem callNode?_operand {name : String} {es : List Expr} (h : callNode? o name es = some e) :
    e.isOperation = false := by
  unfold callNode? at h
  repeat' split at h
  all_goals cases h
  all_goals rfl

theorem primary_operand (h : (primary o s).Takes e left) : e.isOperation = false := by
  rcases primary_takes h with text | called | ⟨suffix, named⟩ | grouped
  · obtain ⟨v, source, rfl⟩ := exists_literal_of_takes text
    rfl
  · have ⟨_, _, _, _, _, _, _, _, _, node⟩ := call_takes called
    exact callNode?_operand node
  · obtain ⟨name, rfl, -⟩ := ident?_eq_some named
    rfl
  · obtain ⟨opening, inner, r, -, -, -, rfl⟩ := group_takes grouped
    rfl

theorem members_operand (target : Expr) (s : List Char) (h : target.isOperation = false) :
    (members target s).value.isOperation = false := by
  induction target, s using members.induct with
  | case1 target s none => rwa [(members_of_none target none).1]
  | case2 target s p name found ih =>
    rw [(members_of_some target found).1]
    exact ih rfl

theorem term_operand (h : (term o s).Takes e left) : e.isOperation = false := by
  obtain ⟨v, r, head, eq⟩ := term_takes_iff.1 h
  have alone := primary_operand head
  unfold followed at eq
  split at eq
  · cases eq
    exact members_operand v (skipBlanks r) alone
  · cases eq
    exact alone

/-! Chains -/

/-- Operators, each with a term after it, as they are read one after another. -/
inductive ReadsOn (o : Options) : List Char → List (Operator × Expr) → List Char → Prop
  | stop (s : List Char) : ReadsOn o s [] s
  | next {s r left : List Char} {op : Taken s Operator} {operand : Expr}
      {rest : List (Operator × Expr)} (operator : operatorSpaced o s = .ok op)
      (read : (term o op.rest).Takes operand r) (more : ReadsOn o r rest left) :
      ReadsOn o s ((op.value, operand) :: rest) left

theorem ReadsOn.operands {rest : List (Operator × Expr)} (h : ReadsOn o s rest left) :
    ∀ x ∈ rest, x.2.isOperation = false := by
  induction h with
  | stop s => simp
  | next operator read _ ih => exact List.forall_mem_cons.2 ⟨term_operand read, ih⟩

theorem operands_chain (s : List Char) (first : Expr) (h : (operands o first s).Takes e left) :
    ∃ rest, ReadsOn o s rest left ∧ e = chain first rest := by
  rcases operands_takes h with ⟨rfl, rfl⟩ | ⟨op, found, v, r, read, shorter, more⟩
  · exact ⟨[], .stop _, rfl⟩
  · obtain ⟨rest, readsOn, grown⟩ := operands_chain r (first.append op.value v) more
    exact ⟨(op.value, v) :: rest, .next found read readsOn, grown⟩
termination_by s.length

/-- An expression is what the chain of its terms grows to. -/
theorem expression_chain (h : (expression o s).Takes e left) :
    ∃ first r rest, (term o s).Takes first r ∧ ReadsOn o r rest left ∧ e = chain first rest := by
  obtain ⟨first, r, read, more⟩ := expression_takes_iff.1 h
  obtain ⟨rest, readsOn, grown⟩ := operands_chain r first more
  exact ⟨first, r, rest, read, readsOn, grown⟩

end ExprLang.Grammar

namespace ExprLang.Expr

open ExprLang.Grammar

/-- The tree of a chain of operands has them and the operators in the order in which they are
written, with tighter operators below looser ones and equal ones to the left, and is the only such
tree. Expressions are read as chains of terms, which are such operands. -/
theorem precedence :
    (∀ (first : Expr) (rest : List (Operator × Expr)), first.isOperation = false →
        (∀ x ∈ rest, x.2.isOperation = false) →
        ∀ e, e = chain first rest ↔ e.inorder = written first rest ∧ e.Ordered)
      ∧ ∀ (o : Options) (s left : List Char) (e : Expr), (expression o s).Takes e left →
        ∃ first r rest, (term o s).Takes first r ∧ ReadsOn o r rest left ∧ e = chain first rest
          ∧ first.isOperation = false ∧ ∀ x ∈ rest, x.2.isOperation = false := by
  constructor
  · intro first rest alone operands e
    have sequence : (chain first rest).inorder = written first rest := by
      rw [inorder_chain operands first, inorder_operand alone, written, List.singleton_append]
    have ordered := ordered_chain operands (ordered_operand alone)
    constructor
    · intro same
      exact same ▸ ⟨sequence, ordered⟩
    · intro ⟨same, inOrder⟩
      exact inOrder.unique ordered (same.trans sequence.symm)
  · intro o s left e read
    obtain ⟨first, r, rest, start, readsOn, grown⟩ := expression_chain read
    exact ⟨first, r, rest, start, readsOn, grown, term_operand start, readsOn.operands⟩

/-- A group takes part in a chain as one operand, whatever is in it. -/
theorem precedence_group :
    let sum : Expr := .group (.operation (.ident "a") .addition (.ident "b"))
    let rest : List (Operator × Expr) :=
      [(.less, .ident "c"), (.multiplication, sum), (.subtraction, .ident "d"),
        (.power, .ident "e")]
    let tree : Expr := .operation (.ident "x") .less (.operation
      (.operation (.ident "c") .multiplication sum) .subtraction
      (.operation (.ident "d") .power (.ident "e")))
    (Expr.ident "x").isOperation = false ∧ (∀ x ∈ rest, x.2.isOperation = false)
      ∧ tree.inorder = written (.ident "x") rest ∧ tree.Ordered
      ∧ ∀ e, e.inorder = written (.ident "x") rest → e.Ordered → e = tree := by
  intro sum rest tree
  have operands : ∀ x ∈ rest, x.2.isOperation = false := by simp [rest, sum, isOperation]
  have unique := precedence.1 (.ident "x") rest rfl operands
  have grown : tree = chain (.ident "x") rest := rfl
  have ⟨sequence, ordered⟩ := (unique tree).1 grown
  refine ⟨rfl, operands, sequence, ordered, fun e same inOrder => ?_⟩
  exact ((unique e).2 ⟨same, inOrder⟩).trans grown.symm

end ExprLang.Expr
