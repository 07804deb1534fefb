import ExprLang.Proofs.Compiled.Signature
import ExprLang.Proofs.Library.Casts

set_option autoImplicit false

/-!
Calls of functions that a context shows. A context that has loaded the built-in packages shows all of
their functions, whatever its language: a call with arguments of exactly the parameters of a function
means this function. Such a call comes to what the function makes of the members of embedded types
that its arguments denote.
-/

namespace ExprLang

open Library

/-- A type whose members are the same again after they were values. -/
class LawfulMember (α : Type) [Embedded α] : Prop extends LawfulEmbedded α where
  ofValue_toValue (a : α) : Embedded.ofValue α (Embedded.toValue a) = .ok a

instance : LawfulMember String := ⟨fun _ => rfl⟩

instance (k : IntKind) : LawfulMember (Integer k) where
  ofValue_toValue a := by simp [Embedded.ofValue, Embedded.member?, Embedded.toValue]

/-- A function takes its first argument as the member that it was made of. -/
theorem HostFunction.apply_toValue {α φ : Type} [Embedded α] [LawfulMember α] [HostFunction φ]
    (f : α → φ) (a : α) (vs : List Value) :
    HostFunction.apply f (Embedded.toValue a :: vs) = HostFunction.apply (f a) vs := by
  have back := LawfulMember.ofValue_toValue a
  simp only [HostFunction.apply, back]

/-- A function of two arguments comes to what it makes of them. -/
theorem Handle.run_of_binary {α β ρ : Type} [Embedded α] [LawfulMember α] [Embedded β]
    [LawfulMember β] [Embedded ρ] (f : α → β → Except Error ρ) (a : α) (b : β) :
    (Handle.of f).run [Embedded.toValue a, Embedded.toValue b] = (f a b).map Embedded.toValue := by
  change HostFunction.apply f [Embedded.toValue a, Embedded.toValue b] = _
  rw [HostFunction.apply_toValue, HostFunction.apply_toValue]
  rfl

/-! What expressions denote -/

namespace Expr

/-- The expression has the static type of the member `a` and comes to its value. -/
structure Denotes (c : Context) (m : Memory) (args : List Value) {α : Type} [Embedded α] (e : Expr)
    (a : α) : Prop where
  ty : e.ty c m = Embedded.ty α
  value : e.eval c m args = .ok (Embedded.toValue a)

/-- Expressions that denote members of embedded types, with these types and the members as values. -/
inductive DenoteAll (c : Context) (m : Memory) (args : List Value) :
    List Expr → List Ty → List Value → Prop
  | nil : DenoteAll c m args [] [] []
  | cons {α : Type} [Embedded α] [LawfulEmbedded α] {e : Expr} {a : α} {es : List Expr}
      {ts : List Ty} {vs : List Value} (first : e.Denotes c m args a)
      (rest : DenoteAll c m args es ts vs) :
      DenoteAll c m args (e :: es) (Embedded.ty α :: ts) (Embedded.toValue a :: vs)

variable {c : Context} {m : Memory} {args : List Value} {es : List Expr} {ts : List Ty}
  {vs : List Value}

/-- Arguments of the types that are wanted are passed as they are. -/
theorem DenoteAll.passed (all : DenoteAll c m args es ts vs) :
    tys c m es = ts ∧ evalAll c m args es ts = .ok vs := by
  induction all with
  | nil => exact ⟨rfl, rfl⟩
  | @cons α _ _ e a es ts vs first rest ih =>
    have typed := LawfulEmbedded.isInstanceOf_toValue a
    have kept : coerce (Embedded.toValue a) (Embedded.ty α) = .ok (Embedded.toValue a) := by
      cases numeric : (Embedded.ty α).kind? with
      | none => simp [coerce, numeric]
      | some k => simp [coerce, numeric, Value.kind?_eq_of_isInstanceOf typed numeric]
    constructor
    · rw [tys, first.ty, ih.1]
    · simp only [evalAll, first.value, kept, ih.2, bind, Except.bind]
      rfl

theorem denotes_integer {k : IntKind} (a : Integer k) (source : String) :
    (literal (.integer (some (.int k a))) source).Denotes c m args a := ⟨rfl, rfl⟩

theorem denotes_string (s source : String) :
    (literal (.string s) source).Denotes c m args s := ⟨rfl, rfl⟩

/-- An operation is carried out on what its operands come to. -/
theorem eval_operation {x y : Expr} {v w : Value} (left : x.eval c m args = .ok v)
    (right : y.eval c m args = .ok w) (op : Operator) :
    (operation x op y).eval c m args = op.apply v w := by
  rw [eval, left, right]
  rfl

/-- A call with arguments of exactly the parameters of the function that it means. -/
theorem eval_call {h : Handle} {name : String} (means : c.handle name h.parameters = .ok h)
    (all : DenoteAll c m args es h.parameters vs) :
    (call name es).ty c m = h.result ∧ (call name es).eval c m args = h.run vs := by
  obtain ⟨types, passed⟩ := all.passed
  constructor
  · rw [ty, types, means]
  · rw [eval, types, means]
    change evalAll c m args es h.parameters >>= _ = _
    rw [passed]
    rfl

end Expr

/-! What contexts show -/

namespace Registrations

variable {regs : Registrations} {r : String × Handle}

/-- The names of registered functions with their parameters. -/
def signatures (regs : Registrations) : List (String × List Ty) :=
  regs.map fun r => (r.1, r.2.parameters)

/-- All names are in lower case, and no two functions of one name have the same parameters. -/
def Distinct (signatures : List (String × List Ty)) : Prop :=
  ∀ name ∈ (signatures.map (·.1)).eraseDups,
    lowerText name = name ∧ ((signatures.filter (·.1 = name)).map (·.2)).Nodup

instance (signatures : List (String × List Ty)) : Decidable (Distinct signatures) :=
  inferInstanceAs (Decidable (∀ name ∈ (signatures.map (·.1)).eraseDups,
    lowerText name = name ∧ ((signatures.filter (·.1 = name)).map (·.2)).Nodup))

theorem mem_names (mem : r ∈ regs) : r.1 ∈ (regs.signatures.map (·.1)).eraseDups := by
  rw [List.mem_eraseDups, signatures, List.map_map]
  exact List.mem_map_of_mem mem

/-- Names in lower case are the same only when they are equal. -/
theorem Distinct.eq_of_namesEqual (distinct : Distinct regs.signatures) {r' : String × Handle}
    (mem : r ∈ regs) (mem' : r' ∈ regs) {ignoreCase : Bool}
    (same : namesEqual ignoreCase r'.1 r.1 = true) : r'.1 = r.1 := by
  have lower := (distinct r.1 (mem_names mem)).1
  have lower' := (distinct r'.1 (mem_names mem')).1
  rw [← lower, ← lower']
  exact lowerText_eq_of_namesEqual same

/-- Under its name a function is the only one with its parameters. -/
theorem Distinct.filter_under (distinct : Distinct regs.signatures) (mem : r ∈ regs) :
    (regs.under r.1).filter (·.parameters = r.2.parameters) = [r.2] := by
  have once := (distinct r.1 (mem_names mem)).2
  rw [signatures, List.filter_map, List.map_map] at once
  have apart : (regs.under r.1).Pairwise (·.parameters ≠ ·.parameters) := by
    rw [under, List.pairwise_map]
    exact List.pairwise_map.1 once
  have here : r.2 ∈ (regs.under r.1).filter (·.parameters = r.2.parameters) := by
    apply List.mem_filter.2
    exact ⟨List.mem_map_of_mem (List.mem_filter.2 ⟨mem, decide_eq_true rfl⟩), decide_eq_true rfl⟩
  rw [Group.filter_parameters_of_apart _ apart] at here ⊢
  rw [Option.mem_toList.1 here]
  rfl

end Registrations

namespace Context

variable {c : Context} {regs : Registrations}

/-- For each of the functions, a call with arguments of exactly its parameters means it. -/
def Shows (c : Context) (regs : Registrations) : Prop :=
  ∀ r ∈ regs, c.handle r.1 r.2.parameters = .ok r.2

theorem Shows.of_subset {part : Registrations} (shows : c.Shows regs) (subset : part ⊆ regs) :
    c.Shows part :=
  fun r mem => shows r (subset mem)

/-- A context shows the functions that were registered in it. -/
theorem shows_register (alone : c.parents = []) (empty : c.frame.functions = [])
    (distinct : Registrations.Distinct regs.signatures) : (c.register regs).Shows regs := by
  intro r mem
  have spelt : regs.spelt c.options.ignoreFunctionCase r.1 = [r.1] := by
    apply Registrations.spelt_of_only
    · exact ⟨r, mem, rfl⟩
    · intro r' mem' same
      exact distinct.eq_of_namesEqual mem mem' same
  have group := group?_register_of_spelt alone empty spelt
  apply handle_eq_ok_iff.2
  rw [group, Option.getD_some]
  exact Group.resolve_of_exact (distinct.filter_under mem)

end Context

namespace Library

/-- The functions of the built-in packages are told apart by their names and parameters. -/
theorem distinct_packages (sample : Float) :
    Registrations.Distinct
      (Registrations.signatures ((packages sample).flatMap (·.functions))) := by
  -- What `rand` yields is no part of a signature.
  have same : Registrations.signatures ((packages sample).flatMap (·.functions))
      = Registrations.signatures ((packages 0).flatMap (·.functions)) := rfl
  rw [same]
  decide +kernel

/-- A context with the built-in packages shows the functions of each of them. -/
theorem shows_standard {sample : Float} {o : Options} {c : Context} {m m' : Memory} {p : Package}
    (loaded : standard sample o m = .ok (c, m')) (mem : p ∈ packages sample) :
    c.Shows p.functions := by
  have all : c.Shows ((packages sample).flatMap (·.functions)) := by
    rw [Package.eq_register_of_loadAll loaded]
    exact Context.shows_register rfl rfl (distinct_packages sample)
  apply all.of_subset
  intro r function
  exact List.mem_flatMap.2 ⟨p, mem, function⟩

theorem exists_standard (sample : Float) : ∃ c m, standard sample {} {} = .ok (c, m) := ⟨_, _, rfl⟩

end Library

end ExprLang
