import ExprLang.Proofs.Grouping

set_option autoImplicit false

/-!
Chains of operands and operators as trees. Growing a chain from left to right keeps what is written,
in the order in which it is written, and keeps tighter operators below looser ones. There is one
such tree for each chain.
-/

namespace ExprLang

/-- A part of a chain. -/
inductive ChainPart
  | operand (e : Expr)
  | operator (op : Operator)

namespace Expr

/-- The operands and operators of a chain, left to right. Whatever is no operation is an operand as
it stands, so a group is never looked into. -/
def inorder : Expr → List ChainPart
  | operation left op right => left.inorder ++ .operator op :: right.inorder
  | e => [.operand e]

/-- A chain as it is written: an operand, and operators with an operand after each. -/
def written (first : Expr) (rest : List (Operator × Expr)) : List ChainPart :=
  .operand first :: rest.flatMap fun (op, operand) => [.operator op, .operand operand]

/-- The tree that a chain grows to. -/
def chain (first : Expr) (rest : List (Operator × Expr)) : Expr :=
  rest.foldl (fun e (op, operand) => e.append op operand) first

/-- The operator of an operation. -/
def root? : Expr → Option Operator
  | operation _ op _ => some op
  | _ => none

/-- In every operation of the chain, the operation on the left binds at least as tightly, and the
one on the right binds tighter. -/
def Ordered : Expr → Prop
  | operation left op right => left.Ordered ∧ right.Ordered
      ∧ (∀ l ∈ left.root?, l.priority ≤ op.priority) ∧ ∀ r ∈ right.root?, r.priority < op.priority
  | _ => True

/-- Induction on a chain: its operands are taken as they stand. -/
theorem chain_induct {motive : Expr → Prop} (operand : ∀ e, e.isOperation = false → motive e)
    (operation : ∀ left op right, motive left → motive right → motive (operation left op right))
    (e : Expr) : motive e := by
  induction e with
  | operation left op right ihl ihr => exact operation left op right ihl ihr
  | _ => exact operand _ rfl

theorem inorder_operand {e : Expr} (h : e.isOperation = false) : e.inorder = [.operand e] := by
  cases e with
  | operation left op right => cases h
  | _ => rfl

theorem root?_operand {e : Expr} (h : e.isOperation = false) : e.root? = none := by
  cases e with
  | operation left op right => cases h
  | _ => rfl

theorem ordered_operand {e : Expr} (h : e.isOperation = false) : e.Ordered := by
  cases e with
  | operation left op right => cases h
  | _ => exact trivial

/-- Nothing is lost or written twice, and nothing changes its place. -/
theorem inorder_append (e : Expr) (op : Operator) {operand : Expr}
    (h : operand.isOperation = false) :
    (e.append op operand).inorder = e.inorder ++ [.operator op, .operand operand] := by
  have last := inorder_operand h
  induction e using chain_induct with
  | operand e alone =>
    rw [append_of_not_isOperation alone, inorder, last]
  | operation left root right _ ihr =>
    unfold append
    split
    · simp only [inorder, ihr, List.append_assoc, List.cons_append]
    · simp only [inorder, last]

/-- An operator that is appended becomes the root, or the root stays. -/
theorem root?_append (e : Expr) (op : Operator) (operand : Expr) :
    (e.append op operand).root? = some op ∨ (e.append op operand).root? = e.root? := by
  cases alone : e.isOperation with
  | false =>
    left
    rw [append_of_not_isOperation alone, root?]
  | true =>
    cases e with
    | operation left root right =>
      unfold append
      split
      · right
        rfl
      · left
        rfl
    | _ => cases alone

/-- The chain stays in order: the operator goes below those of its right edge that are looser. -/
theorem ordered_append {e operand : Expr} (op : Operator) (ordered : e.Ordered)
    (h : operand.isOperation = false) : (e.append op operand).Ordered := by
  have above : ∀ {left : Expr}, left.Ordered → (∀ l ∈ left.root?, l.priority ≤ op.priority) →
      (operation left op operand).Ordered := by
    intro left ordered bound
    have none : ∀ r ∈ operand.root?, r.priority < op.priority := by simp [root?_operand h]
    exact ⟨ordered, ordered_operand h, bound, none⟩
  induction e using chain_induct with
  | operand e alone =>
    rw [append_of_not_isOperation alone]
    exact above ordered (by simp [root?_operand alone])
  | operation left root right _ ihr =>
    have whole := ordered
    obtain ⟨leftOrdered, rightOrdered, leftBound, rightBound⟩ := ordered
    unfold append
    split
    · rename_i tighter
      refine ⟨leftOrdered, ihr rightOrdered, leftBound, fun r below => ?_⟩
      have edge := root?_append right op operand
      rcases edge with new | kept
      · rw [new] at below
        cases below
        exact tighter
      · exact rightBound r (kept ▸ below)
    · rename_i looser
      apply above whole
      intro l same
      cases same
      exact Nat.le_of_not_lt looser

theorem inorder_chain {rest : List (Operator × Expr)}
    (h : ∀ x ∈ rest, x.2.isOperation = false) (e : Expr) :
    (chain e rest).inorder
      = e.inorder ++ rest.flatMap fun (op, operand) => [.operator op, .operand operand] := by
  induction rest generalizing e with
  | nil => simp [chain]
  | cons x rest ih =>
    have first := h x List.mem_cons_self
    have others := fun y hy => h y (List.mem_cons_of_mem x hy)
    have grown := ih others (e.append x.1 x.2)
    rw [inorder_append e x.1 first] at grown
    simpa [chain] using grown

theorem ordered_chain {rest : List (Operator × Expr)} (h : ∀ x ∈ rest, x.2.isOperation = false)
    {e : Expr} (ordered : e.Ordered) : (chain e rest).Ordered := by
  induction rest generalizing e with
  | nil => exact ordered
  | cons x rest ih =>
    have first := h x List.mem_cons_self
    have others := fun y hy => h y (List.mem_cons_of_mem x hy)
    exact ih others (ordered_append x.1 ordered first)

/-- The root binds at least as loosely as any operator of the chain. -/
theorem Ordered.le_root {e : Expr} (ordered : e.Ordered) {op : Operator}
    (mem : .operator op ∈ e.inorder) : ∃ root ∈ e.root?, op.priority ≤ root.priority := by
  induction e using chain_induct with
  | operand e alone =>
    rw [inorder_operand alone] at mem
    simp at mem
  | operation left root right ihl ihr =>
    obtain ⟨leftOrdered, rightOrdered, leftBound, rightBound⟩ := ordered
    refine ⟨root, rfl, ?_⟩
    simp only [inorder, List.mem_append, List.mem_cons, ChainPart.operator.injEq] at mem
    rcases mem with before | rfl | after
    · obtain ⟨l, found, bound⟩ := ihl leftOrdered before
      exact Nat.le_trans bound (leftBound l found)
    · exact Nat.le_refl _
    · obtain ⟨r, found, bound⟩ := ihr rightOrdered after
      exact Nat.le_of_lt (Nat.lt_of_le_of_lt bound (rightBound r found))

/-- The operators before the root bind at least as tightly, those after it bind tighter. -/
theorem Ordered.sides {left right : Expr} {root : Operator}
    (ordered : (operation left root right).Ordered) :
    (∀ op, .operator op ∈ left.inorder → op.priority ≤ root.priority)
      ∧ ∀ op, .operator op ∈ right.inorder → op.priority < root.priority := by
  obtain ⟨leftOrdered, rightOrdered, leftBound, rightBound⟩ := ordered
  refine ⟨fun op mem => ?_, fun op mem => ?_⟩
  · obtain ⟨l, found, bound⟩ := leftOrdered.le_root mem
    exact Nat.le_trans bound (leftBound l found)
  · obtain ⟨r, found, bound⟩ := rightOrdered.le_root mem
    exact Nat.lt_of_le_of_lt bound (rightBound r found)

end Expr

/-- Two ways to split one list at an element are the same, or each element is on the one side of the
other. -/
theorem split_cases {α : Type} {a b c d : List α} {x y : α} (h : a ++ x :: b = c ++ y :: d) :
    (a = c ∧ x = y ∧ b = d) ∨ (x ∈ c ∧ y ∈ b) ∨ (y ∈ a ∧ x ∈ d) := by
  rcases List.append_eq_append_iff.1 h with ⟨m, rfl, eq⟩ | ⟨m, rfl, eq⟩
  · cases m with
    | nil =>
      simp only [List.nil_append, List.cons.injEq] at eq
      exact .inl ⟨by simp, eq.1, eq.2⟩
    | cons z m =>
      simp only [List.cons_append, List.cons.injEq] at eq
      obtain ⟨rfl, rfl⟩ := eq
      exact .inr (.inl ⟨by simp, by simp⟩)
  · cases m with
    | nil =>
      simp only [List.nil_append, List.cons.injEq] at eq
      exact .inl ⟨by simp, eq.1.symm, eq.2.symm⟩
    | cons z m =>
      simp only [List.cons_append, List.cons.injEq] at eq
      obtain ⟨rfl, rfl⟩ := eq
      exact .inr (.inr ⟨by simp, by simp⟩)

namespace Expr

/-- An operation is never written like an operand. -/
theorem eq_of_inorder_operand {e other : Expr} (alone : e.isOperation = false)
    (same : e.inorder = other.inorder) : e = other := by
  rw [inorder_operand alone] at same
  cases h : other.isOperation with
  | false =>
    rw [inorder_operand h] at same
    simpa using same
  | true =>
    cases other with
    | operation left op right =>
      have length := congrArg List.length same
      have before : left.inorder ≠ [] := by
        cases left <;> simp [inorder]
      have some := List.length_pos_iff.2 before
      simp only [inorder, List.length_append, List.length_cons, List.length_nil] at length
      omega
    | _ => cases h

/-- Two chains in order that are written alike are the same tree. -/
theorem Ordered.unique {e other : Expr} (ordered : e.Ordered) (ordered' : other.Ordered)
    (same : e.inorder = other.inorder) : e = other := by
  induction e using chain_induct generalizing other with
  | operand e alone => exact eq_of_inorder_operand alone same
  | operation left root right ihl ihr =>
    cases other with
    | operation left' root' right' =>
      have ⟨leftLe, rightLt⟩ := ordered.sides
      have ⟨leftLe', rightLt'⟩ := ordered'.sides
      have roots : left.inorder ++ .operator root :: right.inorder
          = left'.inorder ++ .operator root' :: right'.inorder := same
      -- were the roots at two places, each would have to bind tighter than the other
      rcases split_cases roots with ⟨before, at_root, after⟩ | ⟨mem, mem'⟩ | ⟨mem', mem⟩
      · have equalLeft := ihl ordered.1 ordered'.1 before
        have equalRight := ihr ordered.2.1 ordered'.2.1 after
        cases at_root
        rw [equalLeft, equalRight]
      · have le := leftLe' root mem
        have lt := rightLt root' mem'
        omega
      · have le := leftLe root' mem'
        have lt := rightLt' root mem
        omega
    | _ => exact (eq_of_inorder_operand rfl same.symm).symm

end Expr

end ExprLang
