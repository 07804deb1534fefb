import Mathlib.Data.List.Basic
import Mathlib.Tactic.SplitIfs
import ExprLang.Checking
import ExprLang.Proofs.Grouping

set_option autoImplicit false

/-!
What the semantic check reports. It keeps what was found before, and it passes exactly when it adds
nothing. What it adds are the reports of the single nodes, parts before wholes and from left to right,
of all nodes whose parts have nothing to report.
-/

namespace ExprLang

namespace Check

/-- A check that adds certain problems, whatever was found before, and that passes if there are none. -/
def Reports (x : Check) (ps : List Problem) : Prop :=
  ∀ found, x.run found = pure (decide (ps = []), found ++ ps)

variable {x y : Check} {ps qs : List Problem}

theorem reports_pass : pass.Reports [] := by
  intro found
  rw [List.append_nil]
  rfl

@[simp] theorem run_report (p : Problem) (found : List Problem) :
    (report p).run found = (pure (false, found ++ [p]) : Id _) := rfl

theorem reports_report (p : Problem) : (report p).Reports [p] := run_report p

theorem reports_resolved {α : Type} (r : Except Problem α) :
    (resolved r).Reports (Expr.problemOf r) := by
  cases r with
  | ok a => exact reports_pass
  | error p => exact reports_report p

theorem Reports.both (first : x.Reports ps) (second : y.Reports qs) :
    (x.both y).Reports (ps ++ qs) := by
  intro found
  rw [Check.both, StateT.run_bind, first found, pure_bind, StateT.run_bind, second (found ++ ps)]
  simp only [pure_bind, StateT.run_pure, List.append_eq_nil_iff, Bool.decide_and, Bool.and_comm,
    List.append_assoc]

/-- Where the parts have something to report nothing is added to it. -/
theorem Reports.before (parts : x.Reports ps) (own : y.Reports qs) :
    (x.before y).Reports (if ps = [] then qs else ps) := by
  intro found
  rw [Check.before, StateT.run_bind, parts found]
  by_cases none : ps = []
  · simp only [none, decide_true, if_true, List.append_nil]
    exact own found
  · simp only [none, decide_false, if_false]
    rfl

/-- Two conditions that are looked at one after the other. -/
theorem reports_two (P Q : Prop) [Decidable P] [Decidable Q] (p q : Problem) :
    Reports (do
        let mut ok := true
        if P then ok ← report p
        if Q then ok ← report q
        return ok)
      ((if P then [p] else []) ++ if Q then [q] else []) := by
  intro found
  by_cases first : P
  · by_cases second : Q <;> simp [first, second]
  · by_cases second : Q <;> simp [first, second]

end Check

open Check

namespace Operator

theorem checkBoolean_reports (op : Operator) (t u : Ty) :
    (op.checkBoolean t u).Reports ((op.booleanProblems t u).map .operands) := by
  have two := reports_two (t ≠ .boolean) (u ≠ .boolean) (.operands (.notBoolean .left op))
    (.operands (.notBoolean .right op))
  have same : (op.booleanProblems t u).map Problem.operands
      = (if t ≠ .boolean then [.operands (.notBoolean .left op)] else [])
        ++ if u ≠ .boolean then [.operands (.notBoolean .right op)] else [] := by
    simp only [booleanProblems, List.map_append, apply_ite (List.map Problem.operands), List.map_nil,
      List.map_cons, ite_not]
  rw [same]
  exact two

theorem checkNumeric_reports (op : Operator) (t u : Ty) :
    (op.checkNumeric t u).Reports ((op.numericProblems t u).map .operands) := by
  intro found
  unfold checkNumeric numericProblems
  cases left : t.isNumeric with
  | false => cases right : u.isNumeric <;> simp
  | true =>
    cases right : u.isNumeric with
    | false => simp
    | true =>
      by_cases apart : op ≠ power ∧ (t.meet? u).isNone = true
      · simp [apart]
      · simp only [ne_eq, Option.isNone_iff_eq_none] at apart
        simp [apart]

/-- At most one problem keeps values from being compared. -/
theorem checkRelation_eq (op : Operator) (t u : Ty) : op.checkRelation t u
    = (op.relationProblem? t u).elim pass fun p => report (.operands p) := by
  unfold checkRelation relationProblem?
  split_ifs <;> rfl

theorem checkRelation_reports (op : Operator) (t u : Ty) :
    (op.checkRelation t u).Reports ((op.relationProblem? t u).toList.map .operands) := by
  rw [checkRelation_eq]
  cases op.relationProblem? t u with
  | none => exact reports_pass
  | some p => exact reports_report _

theorem check_reports (op : Operator) (t u : Ty) :
    (op.check t u).Reports ((op.problems t u).map .operands) := by
  unfold check problems
  cases op.family with
  | numeric => exact op.checkNumeric_reports t u
  | text => exact reports_pass
  | relation => exact op.checkRelation_reports t u
  | boolean => exact op.checkBoolean_reports t u

end Operator

namespace Expr

variable {c : Context} {m : Memory}

theorem checkOwn_reports (e : Expr) : (e.checkOwn c m).Reports (e.ownProblems c m) := by
  cases e with
  | literal v source =>
    cases v with
    | null => exact reports_pass
    | boolean b => exact reports_pass
    | integer n => cases n with
      | none => exact reports_report _
      | some n => exact reports_pass
    | real n => cases n with
      | none => exact reports_report _
      | some n => exact reports_pass
    | decimal d => cases d with
      | none => exact reports_report _
      | some d => exact reports_pass
    | string s => exact reports_pass
  | ident name =>
    rw [checkOwn, ownProblems]
    cases c.name? m name with
    | some b => exact reports_pass
    | none => exact reports_report _
  | call name arguments => exact reports_resolved _
  | conditional name arguments =>
    rcases arguments with _ | ⟨condition, _ | ⟨first, _ | ⟨second, _ | ⟨fourth, rest⟩⟩⟩⟩
    case cons.cons.cons.nil =>
      have same : (conditional name [condition, first, second]).ownProblems c m
          = (if condition.ty c m ≠ .boolean then [.conditionNotBoolean] else [])
            ++ if (branchTy? (first.ty c m) (second.ty c m)).isNone then [.branchesDiffer] else [] := by
        simp only [ownProblems, tys, ne_eq, ite_not]
        cases branchTy? (first.ty c m) (second.ty c m) <;> rfl
      rw [same]
      exact reports_two _ _ .conditionNotBoolean .branchesDiffer
    all_goals exact reports_report _
  | nullTest name arguments =>
    rw [checkOwn, ownProblems]
    split
    · exact reports_pass
    · exact reports_report _
  | member target name => exact reports_resolved _
  | group inner => exact reports_pass
  | operation left op right => exact op.check_reports _ _

theorem checkAll_reports {es : List Expr} (h : ∀ e ∈ es, (e.check c m).Reports (e.problems c m)) :
    (checkAll c m es).Reports (es.flatMap (problems c m)) := by
  induction es with
  | nil => exact reports_pass
  | cons e es ih =>
    obtain ⟨head, tail⟩ := List.forall_mem_cons.1 h
    exact head.both (ih tail)

theorem check_reports (e : Expr) : (e.check c m).Reports (e.problems c m) := by
  induction e with
  | literal v source => exact checkOwn_reports _
  | ident name => exact checkOwn_reports _
  | call name arguments ih =>
    rw [problems_eq_children]
    exact (checkAll_reports ih).before (checkOwn_reports _)
  | conditional name arguments ih =>
    rw [problems_eq_children]
    exact (checkAll_reports ih).before (checkOwn_reports _)
  | nullTest name arguments ih =>
    rw [problems_eq_children]
    exact (checkAll_reports ih).before (checkOwn_reports _)
  | member target name ih =>
    rw [problems_eq_children, children, List.flatMap_singleton]
    exact ih.before (checkOwn_reports _)
  | group inner ih =>
    rw [problems_eq_children, children, List.flatMap_singleton]
    exact ih.before (checkOwn_reports _)
  | operation left op right ihl ihr =>
    have both : [left, right].flatMap (problems c m) = left.problems c m ++ right.problems c m := by
      simp
    rw [problems_eq_children, children, both]
    exact (ihl.both ihr).before (checkOwn_reports _)

/-! Nodes in order -/

mutual

/-- The nodes of an expression, those of its parts from left to right before the expression itself. -/
def postorder : Expr → List Expr
  | literal v source => [literal v source]
  | ident name => [ident name]
  | call name arguments => postorderAll arguments ++ [call name arguments]
  | conditional name arguments => postorderAll arguments ++ [conditional name arguments]
  | nullTest name arguments => postorderAll arguments ++ [nullTest name arguments]
  | member target name => target.postorder ++ [member target name]
  | group inner => inner.postorder ++ [group inner]
  | operation left op right => left.postorder ++ right.postorder ++ [operation left op right]

/-- The nodes of several expressions, one after the other. -/
def postorderAll : List Expr → List Expr
  | [] => []
  | e :: es => e.postorder ++ postorderAll es

end

theorem postorderAll_eq_flatMap (es : List Expr) : postorderAll es = es.flatMap postorder := by
  induction es with
  | nil => rfl
  | cons e es ih => rw [postorderAll, ih, List.flatMap_cons]

theorem postorder_eq_children (e : Expr) :
    e.postorder = e.children.flatMap postorder ++ [e] := by
  cases e with
  | literal v source => rfl
  | ident name => rfl
  | call name arguments => rw [postorder, children, postorderAll_eq_flatMap]
  | conditional name arguments => rw [postorder, children, postorderAll_eq_flatMap]
  | nullTest name arguments => rw [postorder, children, postorderAll_eq_flatMap]
  | member target name => rw [postorder, children, List.flatMap_singleton]
  | group inner => rw [postorder, children, List.flatMap_singleton]
  | operation left op right => simp [postorder, children]

/-- All nodes are there. -/
theorem mem_postorder_iff {x e : Expr} : x ∈ e.postorder ↔ x.Within e := by
  induction e using children_induct with
  | h e ih =>
    rw [postorder_eq_children, List.mem_append, List.mem_flatMap, List.mem_singleton]
    constructor
    · rintro (⟨y, part, mem⟩ | rfl)
      · exact ((ih y part).1 mem).child part
      · exact .refl
    · intro inside
      cases inside with
      | refl => exact .inr rfl
      | child inside part => exact .inl ⟨_, part, (ih _ part).2 inside⟩

/-! Reports in order -/

/-- What the check of an expression adds. -/
def reported (c : Context) (m : Memory) (e : Expr) : List Problem := ((e.check c m).run []).2

/-- What the check of an expression itself adds. -/
def ownReported (c : Context) (m : Memory) (e : Expr) : List Problem := ((e.checkOwn c m).run []).2

/-- The nodes that are checked themselves: those whose parts have nothing to report. -/
def reporters (c : Context) (m : Memory) (e : Expr) : List Expr :=
  e.postorder.filter fun x => x.children.all fun y => (y.reported c m).isEmpty

theorem reported_eq (e : Expr) : e.reported c m = e.problems c m := by
  rw [reported, check_reports e []]
  rfl

theorem ownReported_eq (e : Expr) : e.ownReported c m = e.ownProblems c m := by
  rw [ownReported, checkOwn_reports e []]
  rfl

/-- All nodes are looked at, and those whose parts have something to report are left out. -/
theorem mem_reporters_iff {x e : Expr} :
    x ∈ e.reporters c m ↔ x.Within e ∧ ∀ y ∈ x.children, y.reported c m = [] := by
  rw [reporters, List.mem_filter, mem_postorder_iff]
  simp only [List.all_eq_true, List.isEmpty_iff]

theorem children_quiet_iff (e : Expr) : (e.children.all fun y => (y.reported c m).isEmpty) = true
    ↔ e.children.flatMap (problems c m) = [] := by
  simp only [List.all_eq_true, List.isEmpty_iff, reported_eq, List.flatMap_eq_nil_iff]

/-- The problems of an expression are those that its reporters have themselves. -/
theorem problems_eq_flatMap_reporters (e : Expr) :
    e.problems c m = (e.reporters c m).flatMap (ownProblems c m) := by
  induction e using children_induct with
  | h e ih =>
    have parts : (e.children.flatMap (reporters c m)).flatMap (ownProblems c m)
        = e.children.flatMap (problems c m) := by
      rw [List.flatMap_assoc]
      exact List.flatMap_congr fun x mem => (ih x mem).symm
    have split : e.reporters c m = e.children.flatMap (reporters c m)
        ++ [e].filter fun x => x.children.all fun y => (y.reported c m).isEmpty := by
      rw [reporters, postorder_eq_children, List.filter_append, List.filter_flatMap]
      rfl
    rw [problems_eq_children, split, List.flatMap_append, parts]
    by_cases quiet : e.children.flatMap (problems c m) = []
    · have checked := (children_quiet_iff e).2 quiet
      simp [quiet, checked]
    · have marred := Bool.eq_false_iff.2 fun all => quiet ((children_quiet_iff e).1 all)
      simp [quiet, marred]

/-- How the check of an expression reports what it finds. -/
structure ReportsInOrder (c : Context) (m : Memory) (e : Expr) : Prop where
  /-- What was found before stays, and the check passes if it adds nothing. -/
  run : ∀ found, (e.check c m).run found = (decide (e.reported c m = []), found ++ e.reported c m)
  /-- Nor does the check of a node itself do anything else. -/
  own : ∀ (x : Expr) (found : List Problem), (x.checkOwn c m).run found
    = (decide (x.ownReported c m = []), found ++ x.ownReported c m)
  inOrder : e.reported c m = (e.reporters c m).flatMap (ownReported c m)
  reporter_iff : ∀ x : Expr, x ∈ e.reporters c m
    ↔ x.Within e ∧ ∀ y ∈ x.children, y.reported c m = []
  /-- A text is refused with what the check of its expression has added. -/
  refuses : ∀ text, c.parse text = .ok e → c.check m text
    = if ((e.check c m).run []).1 then .ok e else .error (.semantic (e.reported c m))

/-- The check reports the problems of all nodes whose parts have none, once each and in order, and it
passes when there are none. -/
theorem reportsInOrder_check (c : Context) (m : Memory) (e : Expr) : ReportsInOrder c m e := by
  have run : ∀ found, (e.check c m).run found
      = (decide (e.reported c m = []), found ++ e.reported c m) := by
    intro found
    rw [reported_eq]
    exact check_reports e found
  constructor
  case run => exact run
  case own =>
    intro x found
    rw [ownReported_eq]
    exact checkOwn_reports x found
  case inOrder =>
    have own : ownReported c m = ownProblems c m := funext ownReported_eq
    rw [reported_eq, own, problems_eq_flatMap_reporters]
  case reporter_iff => exact fun x => mem_reporters_iff
  case refuses =>
    intro text read
    rw [run, reported_eq, Context.check_of_parse read]
    cases e.problems c m with
    | nil => rfl
    | cons p ps => rfl

end Expr

end ExprLang
