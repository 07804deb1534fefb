import Mathlib.Data.List.Find
import ExprLang.Evaluation
import ExprLang.Proofs.Context.Ownership
import ExprLang.Proofs.Context.Slots

set_option autoImplicit false

/-!
Spellings of variable names where letter case has no meaning. Each spelling is a variable of its
own: a value is kept under the name as it is written, and a name means the variable of its own
spelling before that of any other. The value that was kept last is read under all spellings as long
as the context has only one of them.
-/

namespace ExprLang

namespace Context

variable {c : Context} {m m' : Memory} {name other : String} {v u : Variable}

/-- The names of the context's own variables that are a name but for letter case. -/
def spellings (c : Context) (m : Memory) (name : String) : List String :=
  ((m.store c.frame.store).map (·.1)).filter (namesEqual true · name)

theorem mem_spellings_iff {key : String} : key ∈ c.spellings m name
    ↔ (∃ v, (key, v) ∈ m.store c.frame.store) ∧ lowerText key = lowerText name := by
  simp [spellings, namesEqual_true_iff]

/-- A name is that of a variable, and as a text it has the value of this variable. -/
structure Means (c : Context) (m : Memory) (name : String) (v : Variable) : Prop where
  read : c.get? m name = some v
  value : c.parameterPosition? name = none → c.parse name = .ok (.ident name) →
    ∀ args, checkArguments c.parameters args = .ok () → c.interpret m name args = .ok v.value

theorem means_of_get? (read : c.get? m name = some v) : c.Means m name v where
  read := read
  value free parsed args fits := by
    obtain ⟨slot, found, rfl⟩ := Option.map_eq_some_iff.1 read
    have kept : c.name? m name = some (.kept slot) := by
      rw [name?_of_free free, found, Option.map_some]
    have checked : c.check m name = .ok (.ident name) := by
      refine check_eq_ok_iff.2 ⟨parsed, ?_⟩
      simp [Expr.problems, Expr.ownProblems, kept]
    have value : (Expr.ident name).eval c m args = .ok slot.content.value := by
      rw [Expr.eval, valueOf, kept]
      exact if_pos (Value.isInstanceOf_ty _)
    rw [interpret, checked]
    simpa only [bind, Except.bind, fits] using value

/-! What a context finds among its own variables -/

theorem get?_of_named? {key : String} (h : c.frame.named? m name = some (key, v)) :
    c.get? m name = some v := by
  rw [get?, slot?, frames, List.findSome?_cons, h, Option.map_some, Option.map_some]

theorem get?_of_own (h : (m.store c.frame.store).get? name = some v) : c.get? m name = some v := by
  obtain ⟨⟨key, v⟩, found, rfl⟩ := Option.map_eq_some_iff.1 h
  have named : c.frame.named? m name = some (key, v) := by
    rw [Frame.named?, found, Option.some_or]
  exact get?_of_named? named

/-- Without its own spelling it is read from the first other one. -/
theorem named?_of_absent (blind : c.options.ignoreVariableCase = true)
    (absent : (m.store c.frame.store).get? name = none) :
    c.frame.named? m name
      = (m.store c.frame.store).find? fun (key, _) => namesEqual true key name := by
  have blind' : c.frame.options.ignoreVariableCase = true := blind
  rw [Frame.named?, Option.map_eq_none_iff.1 absent, Option.none_or, if_pos blind']

/-- If the context has a spelling of a name, the name is read from one of those that it has. -/
theorem get?_of_mem_spellings (blind : c.options.ignoreVariableCase = true) {key : String}
    (h : key ∈ c.spellings m name) :
    ∃ found ∈ c.spellings m name, ∃ u, (m.store c.frame.store).get? found = some u
      ∧ c.get? m name = some u := by
  cases own : (m.store c.frame.store).get? name with
  | some u =>
    have spelt := mem_spellings_iff.2 ⟨⟨u, Store.mem_of_get? own⟩, rfl⟩
    exact ⟨name, spelt, u, own, get?_of_own own⟩
  | none =>
    obtain ⟨⟨w, kept⟩, same⟩ := mem_spellings_iff.1 h
    have some : ((m.store c.frame.store).find? fun (key, _) => namesEqual true key name).isSome :=
      List.find?_isSome.2 ⟨(key, w), kept, namesEqual_true_iff.2 same⟩
    obtain ⟨⟨found, u⟩, first⟩ := Option.isSome_iff_exists.1 some
    have passed := List.find?_some first
    have alike : lowerText found = lowerText name := namesEqual_true_iff.1 passed
    have spelt := mem_spellings_iff.2 ⟨⟨u, List.mem_of_find?_eq_some first⟩, alike⟩
    have named := (named?_of_absent blind own).trans first
    exact ⟨found, spelt, u, Frame.get?_of_named? named, get?_of_named? named⟩

/-- The only spelling that a context has of a name is read under all of them. -/
theorem get?_of_only (blind : c.options.ignoreVariableCase = true)
    (same : lowerText name = lowerText other) (only : ∀ key ∈ c.spellings m name, key = name)
    (h : (m.store c.frame.store).get? name = some v) : c.get? m other = some v := by
  by_cases written : other = name
  · rw [written]
    exact get?_of_own h
  have alone : ∀ entry ∈ m.store c.frame.store, lowerText entry.1 = lowerText other →
      entry.1 = name := fun entry mem alike =>
    only entry.1 (mem_spellings_iff.2 ⟨⟨entry.2, mem⟩, alike.trans same.symm⟩)
  have absent : (m.store c.frame.store).get? other = none := by
    refine Option.eq_none_iff_forall_ne_some.2 fun w found => written ?_
    exact alone (other, w) (Store.mem_of_get? found) rfl
  have scan : ((m.store c.frame.store).find? fun (key, _) => namesEqual true key other)
      = (m.store c.frame.store).named? name := by
    refine List.find?_congr fun entry mem => ?_
    rw [Bool.eq_iff_iff, namesEqual_true_iff, decide_eq_true_iff]
    constructor
    · exact alone entry mem
    · exact fun eq => (congrArg lowerText eq).trans same
  obtain ⟨⟨key, v⟩, found, rfl⟩ := Option.map_eq_some_iff.1 h
  exact get?_of_named? ((named?_of_absent blind absent).trans (scan.trans found))

/-! After a value was kept -/

/-- What a spelling of a name means after a value was kept under the name. -/
structure ReadsBack (c : Context) (m m' : Memory) (name other : String) (v : Variable) : Prop where
  /-- It means the value, if this was kept under the same spelling or is the only one. -/
  last : other = name ∨ (∀ key ∈ c.spellings m name, key = name) → c.Means m' other v
  /-- A variable of exactly this spelling is still what it was. -/
  stale : other ≠ name → ∀ u, (m.store c.frame.store).get? other = some u → c.Means m' other u
  /-- In all cases it means one of the context's own variables. -/
  own : ∃ key ∈ c.spellings m' name, ∃ u, (m'.store c.frame.store).get? key = some u
    ∧ c.Means m' other u

theorem readsBack_of_store (own : c.OwnStore m) (blind : c.options.ignoreVariableCase = true)
    (kept : c.store m name v = .ok m') (same : lowerText name = lowerText other) :
    c.ReadsBack m m' name other v := by
  obtain ⟨-, rfl⟩ := store_eq_ok_iff.1 kept
  have after := Memory.store_setStore_self m c.frame.store ((m.store c.frame.store).set name v)
    own.here
  have here : ((m.setStore c.frame.store ((m.store c.frame.store).set name v)).store
      c.frame.store).get? name = some v := by
    rw [after, Store.get?_set_self]
  have held : name ∈ c.spellings (m.setStore c.frame.store ((m.store c.frame.store).set name v))
      other :=
    mem_spellings_iff.2 ⟨⟨v, Store.mem_of_get? here⟩, same⟩
  constructor
  · intro which
    apply means_of_get?
    rcases which with rfl | only
    · exact get?_of_own here
    · refine get?_of_only blind same (fun key mem => ?_) here
      obtain ⟨⟨w, mem⟩, alike⟩ := mem_spellings_iff.1 mem
      rw [after] at mem
      rcases Store.mem_set mem with written | there
      · exact written
      · exact only key (mem_spellings_iff.2 ⟨⟨w, there⟩, alike⟩)
  · intro ne u found
    apply means_of_get?
    apply get?_of_own
    rw [after, Store.get?_set_ne _ _ _ _ ne, found]
  · obtain ⟨key, spelt, u, found, read⟩ := get?_of_mem_spellings blind held
    obtain ⟨there, alike⟩ := mem_spellings_iff.1 spelt
    have spelt' := mem_spellings_iff.2 ⟨there, alike.trans same.symm⟩
    exact ⟨key, spelt', u, found, means_of_get? read⟩

end Context

namespace World

/-- Where letter case has no meaning for variables, what a name means after a value was kept is
decided by the spellings that the context itself has, whatever was done before. -/
theorem readsBack_of_setVariable (o : Options) (h : History) :
    ∀ c ∈ ((start o).run h).contexts, c.options.ignoreVariableCase = true →
      ∀ (name other : String) (v : Value) (m' : Memory),
        c.setVariable ((start o).run h).memory name v = .ok m' → namesEqual true name other = true →
        c.ReadsBack ((start o).run h).memory m' name other ⟨v, false⟩ := by
  intro c mem blind name other v m' kept same
  exact Context.readsBack_of_store (owned_run o h c mem) blind kept (namesEqual_true_iff.1 same)

/-- A value that was kept again under the only spelling. -/
theorem readsBack_of_setVariable_only :
    let o : Options := { ignoreVariableCase := true }
    let w := (start o).run [(0, .setVariable "Total" .null)]
    let c := (Context.new o ⟨[]⟩).1
    c ∈ w.contexts ∧ c.options.ignoreVariableCase = true ∧ namesEqual true "Total" "tOTAL" = true
      ∧ ∃ m', c.setVariable w.memory "Total" (.bool true) = .ok m'
        ∧ c.ReadsBack w.memory m' "Total" "tOTAL" ⟨.bool true, false⟩
        ∧ c.interpret m' "tOTAL" [] = .ok (.bool true) := by
  intro o w c
  have same : namesEqual true "Total" "tOTAL" = true := by decide +kernel
  have started : w = ⟨(start o).contexts, ⟨[[("Total", ⟨.null, false⟩)]]⟩⟩ := by
    change (start o).step 0 (.setVariable "Total" .null) = _
    exact start_setVariable .null rfl (by decide)
  have mem : c ∈ w.contexts := by
    rw [started]
    exact List.mem_cons_self
  have checked : c.checkName .ofVariable "Total" = .ok () :=
    Context.checkName_eq_ok_iff.2 ⟨by decide, by decide⟩
  obtain ⟨m', kept⟩ : ∃ m', c.setVariable w.memory "Total" (.bool true) = .ok m' :=
    ⟨_, Context.store_eq_ok_iff.2 ⟨checked, rfl⟩⟩
  have back := readsBack_of_setVariable o _ c mem rfl "Total" "tOTAL" (.bool true) m' kept same
  have only : ∀ key ∈ c.spellings w.memory "Total", key = "Total" := by
    intro key spelt
    obtain ⟨⟨u, mem⟩, -⟩ := Context.mem_spellings_iff.1 spelt
    rw [started] at mem
    exact congrArg Prod.fst (List.mem_singleton.1 mem)
  have discernible : o.Discernible := Options.discernible_of_ascii (by decide)
  have read : c.parse "tOTAL" = .ok (.ident "tOTAL") :=
    (Expr.parse_eq_ident_iff discernible).2 ⟨by decide, by decide⟩
  exact ⟨mem, rfl, same, m', kept, back, (back.last (.inr only)).value rfl read [] rfl⟩

/-- A value that was kept under one spelling is not read under another one that was there before. -/
theorem exists_stale_spelling :
    let o : Options := { ignoreVariableCase := true }
    let w := (start o).run [(0, .setVariable "a" (.bool false))]
    let c := (Context.new o ⟨[]⟩).1
    c ∈ w.contexts ∧ namesEqual true "A" "a" = true ∧ c.parameterPosition? "a" = none
      ∧ ∃ m', c.setVariable w.memory "A" (.bool true) = .ok m'
        ∧ (c.get? m' "a").map (·.value) = some (.bool false)
        ∧ c.interpret m' "a" [] = .ok (.bool false) := by
  intro o w c
  have started : w = ⟨(start o).contexts, ⟨[[("a", ⟨.bool false, false⟩)]]⟩⟩ := by
    change (start o).step 0 (.setVariable "a" (.bool false)) = _
    exact start_setVariable (.bool false) rfl (by decide)
  have checked : c.checkName .ofVariable "A" = .ok () :=
    Context.checkName_eq_ok_iff.2 ⟨by decide, by decide⟩
  have discernible : o.Discernible := Options.discernible_of_ascii (by decide)
  have read : c.parse "a" = .ok (.ident "a") :=
    (Expr.parse_eq_ident_iff discernible).2 ⟨by decide, by decide⟩
  rw [started]
  have stale : c.Means ⟨[[("a", ⟨.bool false, false⟩), ("A", ⟨.bool true, false⟩)]]⟩ "a"
      ⟨.bool false, false⟩ :=
    Context.means_of_get? (Context.get?_of_own rfl)
  refine ⟨List.mem_cons_self, by decide +kernel, rfl, _,
    Context.store_eq_ok_iff.2 ⟨checked, rfl⟩, ?_, stale.value rfl read [] rfl⟩
  exact congrArg (Option.map _) stale.read

end World

end ExprLang
