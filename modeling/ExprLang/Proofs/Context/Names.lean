import Mathlib.Data.List.Nodup
import ExprLang.Proofs.Context.History
import ExprLang.Proofs.Grammar.Names

set_option autoImplicit false

/-!
The names that contexts keep. A name is accepted exactly when it is read as itself. It stays
readable as long as no change of options makes it a reserved word: the names that are there already
are not checked again.
-/

namespace ExprLang

open Grammar

namespace Context

variable {c c' : Context} {m m' : Memory} {name : String} {ps : List Parameter}

theorem checkName_eq_ok_iff {role : NameRole} : c.checkName role name = .ok ()
    ↔ isName name.toList = true ∧ c.options.isKeyword name = false := by
  rw [checkName]
  by_cases named : isName name.toList = true
  · cases c.options.isKeyword name <;> simp [named]
  · simp [named]

theorem checkParameters_cons_eq_ok_iff {before after : List Parameter} {p : Parameter} :
    c.checkParameters before (p :: after) = .ok () ↔ c.checkName .ofParameter p.name = .ok ()
      ∧ (before.any (·.name = p.name)) = false
      ∧ c.checkParameters (before ++ [p]) after = .ok () := by
  rw [checkParameters]
  cases c.checkName .ofParameter p.name with
  | error e => simp [bind, Except.bind]
  | ok u =>
    cases h : before.any (·.name = p.name) with
    | true => simp [bind, Except.bind]
    | false => simp [bind, Except.bind]

theorem checkName_of_checkParameters {before after : List Parameter}
    (h : c.checkParameters before after = .ok ()) :
    ∀ p ∈ after, c.checkName .ofParameter p.name = .ok () := by
  induction after generalizing before with
  | nil => simp
  | cons p after ih =>
    obtain ⟨first, -, rest⟩ := checkParameters_cons_eq_ok_iff.1 h
    exact List.forall_mem_cons.2 ⟨first, ih rest⟩

theorem declareParameters_run : (declareParameters ps).run.run c
    = if Parameter.limit < ps.length then
        (.error (.semantic [.tooManyParameters Parameter.limit]), c)
      else match c.checkParameters [] ps with
        | .ok () => (.ok (), { c with frame.parameters := ps })
        | .error e => (.error e, c) := by
  by_cases many : Parameter.limit < ps.length
  · rw [if_pos many, declareParameters, if_pos many]
    rfl
  · rw [if_neg many, declareParameters, if_neg many]
    change ((MonadExcept.ofExcept (c.checkParameters [] ps) >>= fun _ => modify fun c =>
      { c with frame.parameters := ps } : ExceptT Error (StateM Context) Unit).run).run c = _
    cases c.checkParameters [] ps <;> rfl

theorem setParameters_eq_ok_iff : c.setParameters ps = .ok c'
    ↔ ps.length ≤ Parameter.limit ∧ c.checkParameters [] ps = .ok ()
      ∧ c' = { c with frame.parameters := ps } := by
  rw [setParameters, declareParameters_run]
  by_cases many : Parameter.limit < ps.length
  · simp [many, Nat.not_le.2 many]
  · rw [if_neg many]
    cases c.checkParameters [] ps with
    | error e => simp
    | ok u => simp [Nat.le_of_not_lt many, eq_comm]

/-- A declaration that is accepted leaves the context with the parameters, -/
theorem declareParameters_of_ok (h : c.setParameters ps = .ok c') :
    (declareParameters ps).run.run c = (.ok (), c') := by
  obtain ⟨few, checked, rfl⟩ := setParameters_eq_ok_iff.1 h
  rw [declareParameters_run, if_neg (Nat.not_lt.2 few), checked]

/-- and one that is refused leaves it as it was. -/
theorem declareParameters_of_error {e : Error} (h : c.setParameters ps = .error e) :
    (declareParameters ps).run.run c = (.error e, c) := by
  rw [setParameters, declareParameters_run] at h
  rw [declareParameters_run]
  by_cases many : Parameter.limit < ps.length
  · rw [if_pos many] at h ⊢
    cases h
    rfl
  · rw [if_neg many] at h ⊢
    cases checked : c.checkParameters [] ps with
    | ok u =>
      rw [checked] at h
      cases h
    | error e' =>
      rw [checked] at h
      cases h
      rfl

/-- What a declaration leaves is the context as it was, or the one that was asked for. -/
theorem declareParameters_cases (c : Context) (ps : List Parameter) :
    ∃ d, ((declareParameters ps).run.run c).2 = d ∧ (d = c ∨ c.setParameters ps = .ok d) := by
  cases outcome : c.setParameters ps with
  | ok d =>
    rw [declareParameters_of_ok outcome]
    exact ⟨d, rfl, .inr rfl⟩
  | error e =>
    rw [declareParameters_of_error outcome]
    exact ⟨c, rfl, .inl rfl⟩

/-- The names that a context has of its own: those of its variables and its parameters. -/
def names (c : Context) (m : Memory) : List String :=
  (m.store c.frame.store).map (·.1) ++ c.parameters.map (·.name)

theorem mem_names_iff : name ∈ c.names m
    ↔ (∃ v, (name, v) ∈ m.store c.frame.store) ∨ ∃ p ∈ c.parameters, p.name = name := by
  simp [names]

/-- Where no word of the language is empty and all are ASCII, the names that a context accepts for
variables and for parameters are those that are read as names. -/
theorem accepts_iff_reads (c : Context) (m : Memory) (name : String) (v : Value) (t : Ty)
    (words : ∀ w ∈ c.options.words, w ≠ "" ∧ Ascii w.toList) :
    ((∃ m', c.setVariable m name v = .ok m') ↔ Expr.parse c.options name = .ok (.ident name))
      ∧ ((∃ c', c.setParameters [⟨name, t⟩] = .ok c')
        ↔ Expr.parse c.options name = .ok (.ident name)) := by
  have reads : Expr.parse c.options name = .ok (.ident name) ↔ _ :=
    Expr.parse_eq_ident_iff (Options.discernible_of_ascii words)
  constructor
  · simp only [setVariable, store_eq_ok_iff, exists_and_left, exists_eq, and_true, reads,
      checkName_eq_ok_iff]
  · have one : 1 ≤ Parameter.limit := by decide
    have done : c.checkParameters [⟨name, t⟩] [] = .ok () := rfl
    simp only [setParameters_eq_ok_iff, checkParameters_cons_eq_ok_iff, List.length_singleton, one,
      List.any_nil, List.nil_append, done, true_and, and_true, exists_eq_right, reads,
      checkName_eq_ok_iff]

/-- A language with another conjunction in any letter case and another way to test for null. -/
theorem accepts_iff_reads_renamed :
    let o : Options := { andWord := "und", ignoreOperatorCase := true, nullTestWord := "missing" }
    let c := (Context.new o ⟨[]⟩).1
    (∀ w ∈ c.options.words, w ≠ "" ∧ Ascii w.toList)
      ∧ Expr.parse o "Undo" = .ok (.ident "Undo") ∧ Expr.parse o "Und" ≠ .ok (.ident "Und") := by
  intro o c
  have words : ∀ w ∈ c.options.words, w ≠ "" ∧ Ascii w.toList := by decide
  refine ⟨words, ?_, ?_⟩
  · have checked : c.checkName .ofVariable "Undo" = .ok () :=
      checkName_eq_ok_iff.2 ⟨by decide, by decide⟩
    exact (accepts_iff_reads c ⟨[]⟩ "Undo" .null .object words).1.1
      ⟨_, store_eq_ok_iff.2 ⟨checked, rfl⟩⟩
  · intro read
    obtain ⟨m', kept⟩ := (accepts_iff_reads c ⟨[]⟩ "Und" .null .object words).1.2 read
    have free := (checkName_eq_ok_iff.1 (store_eq_ok_iff.1 kept).1).2
    exact absurd free (by decide)

theorem names_setStore {id : StoreId} {s : Store} (h : c.frame.store ≠ id) :
    c.names (m.setStore id s) = c.names m := by
  rw [names, names, Memory.store_setStore_ne m id c.frame.store s h]

theorem names_allocate : c.names m.allocate.2 = c.names m := by
  rw [names, names, Memory.store_allocate]

end Context

theorem Store.mem_set {s : Store} {key name : String} {v w : Variable}
    (h : (key, w) ∈ s.set name v) : key = name ∨ (key, w) ∈ s := by
  induction s with
  | nil =>
    rw [set, List.mem_singleton] at h
    exact .inl (congrArg Prod.fst h)
  | cons entry s ih =>
    obtain ⟨other, u⟩ := entry
    rw [set] at h
    split at h
    · rename_i same
      rcases List.mem_cons.1 h with here | there
      · exact .inl ((congrArg Prod.fst here).trans same.symm)
      · exact .inr (List.mem_cons_of_mem _ there)
    · rcases List.mem_cons.1 h with here | there
      · exact .inr (here ▸ List.mem_cons_self)
      · exact (ih there).imp_right (List.mem_cons_of_mem _)

namespace World

variable {w : World} {i : Nat} {a : Action} {c : Context}

/-- The world of one context. -/
def start (o : Options) : World := ⟨[(Context.new o ⟨[]⟩).1], (Context.new o ⟨[]⟩).2⟩

/-- Contexts have stores of their own, and a condition holds of their names. -/
structure Named (P : Options → String → Prop) (w : World) : Prop where
  live : ∀ c ∈ w.contexts, c.frame.store < w.memory.stores.length
  own : (w.contexts.map (·.frame.store)).Nodup
  holds : ∀ c ∈ w.contexts, ∀ name ∈ c.names w.memory, P c.options name

variable {P : Options → String → Prop}

theorem named_start (o : Options) : (start o).Named P where
  live := by
    intro c mem
    rw [List.mem_singleton.1 mem]
    exact Nat.zero_lt_one
  own := List.nodup_singleton _
  holds := by
    intro c mem name stored
    rw [List.mem_singleton.1 mem] at stored
    cases stored

theorem Named.eq_of_store {d : Context} (h : w.Named P) (hc : c ∈ w.contexts)
    (hd : d ∈ w.contexts) (same : d.frame.store = c.frame.store) : d = c :=
  List.inj_on_of_nodup_map h.own hd hc same

theorem Named.setStore {s : Store} (h : w.Named P) (hc : c ∈ w.contexts)
    (keys : ∀ entry ∈ s, P c.options entry.1) :
    Named P { w with memory := w.memory.setStore c.frame.store s } where
  live := by
    intro d hd
    have inside := h.live d hd
    rwa [← List.length_set] at inside
  own := h.own
  holds := by
    intro d hd name stored
    by_cases same : d.frame.store = c.frame.store
    · obtain rfl := h.eq_of_store hc hd same
      rcases Context.mem_names_iff.1 stored with ⟨v, kept⟩ | parameter
      · rw [Memory.store_setStore_self _ _ _ (h.live d hd)] at kept
        exact keys (name, v) kept
      · exact h.holds d hd name (Context.mem_names_iff.2 (.inr parameter))
    · rw [Context.names_setStore same] at stored
      exact h.holds d hd name stored

theorem stores_setContext {d : Context} (here : w.contexts[i]? = some c)
    (store : d.frame.store = c.frame.store) :
    (w.setContext i d).contexts.map (·.frame.store) = w.contexts.map (·.frame.store) := by
  have same : (w.contexts.map (·.frame.store))[i]? = some d.frame.store := by
    rw [List.getElem?_map, here, store]
    rfl
  obtain ⟨inside, value⟩ := List.getElem?_eq_some_iff.1 same
  rw [World.setContext, List.map_set, ← value, List.set_getElem_self]

theorem Named.setContext {d : Context} (h : w.Named P) (here : w.contexts[i]? = some c)
    (store : d.frame.store = c.frame.store) (names : ∀ name ∈ d.names w.memory, P d.options name) :
    (w.setContext i d).Named P where
  live := by
    intro e he
    rcases List.mem_or_eq_of_mem_set he with old | rfl
    · exact h.live e old
    · rw [store]
      exact h.live c (List.mem_of_getElem? here)
  own := by
    rw [stores_setContext here store]
    exact h.own
  holds := by
    intro e he name stored
    rcases List.mem_or_eq_of_mem_set he with old | rfl
    · exact h.holds e old name stored
    · exact names name stored

theorem Named.append {d : Context} (h : w.Named P) (store : d.frame.store = w.memory.stores.length)
    (parameters : d.parameters = []) :
    Named P ⟨w.contexts ++ [d], w.memory.allocate.2⟩ where
  live := by
    intro e he
    have longer : w.memory.allocate.2.stores.length = w.memory.stores.length + 1 :=
      List.length_append
    rw [longer]
    rcases List.mem_append.1 he with old | new
    · exact Nat.lt_succ_of_lt (h.live e old)
    · rw [List.mem_singleton.1 new, store]
      exact Nat.lt_succ_self _
  own := by
    have fresh : d.frame.store ∉ w.contexts.map (·.frame.store) := by
      intro mem
      obtain ⟨e, he, same⟩ := List.mem_map.1 mem
      have inside := h.live e he
      rw [same, store] at inside
      exact absurd inside (Nat.lt_irrefl _)
    rw [List.map_append, List.map_singleton]
    exact h.own.append (List.nodup_singleton _) (List.disjoint_singleton.2 fresh)
  holds := by
    intro e he name stored
    rw [Context.names_allocate] at stored
    rcases List.mem_append.1 he with old | new
    · exact h.holds e old name stored
    · have empty : d.names w.memory = [] := by
        simp [Context.names, store, parameters, Memory.store]
      rw [List.mem_singleton.1 new, empty] at stored
      cases stored

theorem Named.setParameters {ps : List Parameter} (h : w.Named P) (here : w.contexts[i]? = some c)
    (accepted : ∀ p ∈ ps, P c.options p.name) :
    (w.setContext i { c with frame.parameters := ps }).Named P := by
  refine h.setContext here rfl fun name stored => ?_
  rcases Context.mem_names_iff.1 stored with ⟨v, kept⟩ | ⟨p, mem, rfl⟩
  · exact h.holds c (List.mem_of_getElem? here) name (Context.mem_names_iff.2 (.inl ⟨v, kept⟩))
  · exact accepted p mem

/-- Another order has no name that was not there. -/
theorem Named.rearrange (h : w.Named P) (hc : c ∈ w.contexts) (s : Store) :
    Named P { w with memory := w.memory.rearrange c.frame.store s } := by
  unfold Memory.rearrange
  split
  · rename_i same
    refine h.setStore hc fun entry mem => ?_
    obtain ⟨v, found⟩ := Store.mem_names_iff.1 (List.mem_map_of_mem mem)
    have there := Store.mem_of_get? ((same entry.1).symm.trans found)
    exact h.holds c hc entry.1 (Context.mem_names_iff.2 (.inl ⟨v, there⟩))
  · exact h

/-- A condition on names that the check of names ensures, and that a change of options keeps. -/
theorem Named.step (h : w.Named P)
    (accept : ∀ (c : Context) role name, c.checkName role name = .ok () → P c.options name)
    (keep : ∀ c o, w.contexts[i]? = some c → a = .setOptions o →
      ∀ name ∈ c.names w.memory, P o name) : (w.step i a).Named P := by
  simp only [World.step]
  cases here : w.contexts[i]? with
  | none => exact h
  | some c =>
    have hc : c ∈ w.contexts := List.mem_of_getElem? here
    have old : ∀ entry ∈ w.memory.store c.frame.store, P c.options entry.1 := fun entry mem =>
      h.holds c hc entry.1 (Context.mem_names_iff.2 (.inl ⟨entry.2, mem⟩))
    have kept : ∀ {m' : Memory} {name : String} {v : Variable},
        c.store w.memory name v = .ok m' → Named P { w with memory := m' } := by
      intro m' name v stored
      obtain ⟨checked, rfl⟩ := Context.store_eq_ok_iff.1 stored
      refine h.setStore hc fun entry mem => ?_
      rcases Store.mem_set mem with new | there
      · rw [new]
        exact accept c _ name checked
      · exact old entry there
    cases a with
    | setVariable name v =>
      dsimp only
      split
      · rename_i stored
        exact kept stored
      · exact h
    | setConstant name v =>
      dsimp only
      split
      · rename_i stored
        exact kept stored
      · exact h
    | removeVariable name =>
      exact h.setStore hc fun entry mem => old entry (List.mem_filter.1 mem).1
    | addFunctions name hs => exact h.setContext here rfl (h.holds c hc)
    | removeFunctions name => exact h.setContext here rfl (h.holds c hc)
    | setOptions o => exact h.setContext here rfl (keep c o here rfl)
    | setParameters ps =>
      dsimp only
      obtain ⟨d, left, same | declared⟩ := Context.declareParameters_cases c ps <;> rw [left]
      · rw [same]
        exact h.setContext here rfl (h.holds c hc)
      · obtain ⟨-, checked, rfl⟩ := Context.setParameters_eq_ok_iff.1 declared
        exact h.setParameters here fun p mem =>
          accept c _ p.name (Context.checkName_of_checkParameters checked p mem)
    | clearParameters => exact h.setParameters here fun p mem => absurd mem List.not_mem_nil
    | setMembers r => exact h.setContext here rfl (h.holds c hc)
    | child => exact h.append rfl rfl
    | new o => exact h.append rfl rfl
    | rearrange s => exact h.rearrange hc s

/-- Whether an operation makes a reserved word of a name that its context has. -/
def Reserves (w : World) (i : Nat) (a : Action) : Prop :=
  ∃ c o name, w.contexts[i]? = some c ∧ a = .setOptions o ∧ name ∈ c.names w.memory
    ∧ o.isKeyword name = true

/-- No step of a history makes a reserved word of a name that is there. -/
def Respects (w : World) : History → Prop
  | [] => True
  | (i, a) :: h => ¬ w.Reserves i a ∧ (w.step i a).Respects h

theorem isName_run {h : History} (inv : w.Named fun _ name => isName name.toList = true) :
    (w.run h).Named fun _ name => isName name.toList = true := by
  induction h generalizing w with
  | nil => exact inv
  | cons entry h ih =>
    obtain ⟨i, a⟩ := entry
    rw [run_cons]
    apply ih
    refine inv.step (fun c role name checked => (Context.checkName_eq_ok_iff.1 checked).1) ?_
    intro c o here _ name stored
    exact inv.holds c (List.mem_of_getElem? here) name stored

theorem free_run {h : History} (inv : w.Named fun o name => o.isKeyword name = false)
    (respects : w.Respects h) : (w.run h).Named fun o name => o.isKeyword name = false := by
  induction h generalizing w with
  | nil => exact inv
  | cons entry h ih =>
    obtain ⟨i, a⟩ := entry
    obtain ⟨first, rest⟩ := respects
    rw [run_cons]
    refine ih (inv.step (fun c role name checked => (Context.checkName_eq_ok_iff.1 checked).2) ?_)
      rest
    intro c o here options name stored
    by_cases reserved : o.isKeyword name = true
    · exact absurd ⟨c, o, name, here, options, stored, reserved⟩ first
    · exact Bool.eq_false_iff.2 reserved

/-- A name that a context has is read as itself exactly when the options in force do not reserve
it, and no name gets reserved as long as no change of options makes a reserved word of a name that
is there. -/
theorem names_stay_readable (o : Options) (h : History) :
    ∀ c ∈ ((start o).run h).contexts, ∀ name ∈ c.names ((start o).run h).memory,
      isName name.toList = true
        ∧ (c.options.Discernible →
          (c.parse name = .ok (.ident name) ↔ c.options.isKeyword name = false))
        ∧ ((start o).Respects h → c.options.isKeyword name = false
          ∧ (c.options.Discernible → c.parse name = .ok (.ident name))) := by
  intro c mem name stored
  have named : isName name.toList = true :=
    (isName_run (named_start o)).holds c mem name stored
  have reads : c.options.Discernible →
      (c.parse name = .ok (.ident name) ↔ c.options.isKeyword name = false) := by
    intro discernible
    rw [Context.parse, Expr.parse_eq_ident_iff discernible]
    exact and_iff_right named
  refine ⟨named, reads, fun respects => ?_⟩
  have free := (free_run (named_start o) respects).holds c mem name stored
  exact ⟨free, fun discernible => (reads discernible).2 free⟩

theorem start_setVariable {o : Options} {name : String} (v : Value)
    (named : isName name.toList = true) (free : o.isKeyword name = false) :
    (start o).step 0 (.setVariable name v) = ⟨(start o).contexts, ⟨[[(name, ⟨v, false⟩)]]⟩⟩ := by
  have kept : (Context.new o ⟨[]⟩).1.setVariable (Context.new o ⟨[]⟩).2 name v
      = .ok ⟨[[(name, ⟨v, false⟩)]]⟩ :=
    Context.store_eq_ok_iff.2 ⟨Context.checkName_eq_ok_iff.2 ⟨named, free⟩, rfl⟩
  simp only [start, World.step, List.getElem?_cons_zero, kept]

/-- A name that a context has after a history, and that is not read as itself. -/
def Loses (o : Options) (h : History) (name : String) : Prop :=
  ∃ c ∈ ((start o).run h).contexts, name ∈ c.names ((start o).run h).memory
    ∧ c.parse name ≠ .ok (.ident name)

/-- Names are lost where options make a word of one, but also where the word for null is the sign
for kelvin and letter case has no meaning for it, and where words are empty. -/
theorem loses_names :
    Loses {} [(0, .setVariable "x" .null), (0, .setOptions { andWord := "x" })] "x"
      ∧ Loses { nullWord := "\u212a", ignoreNullCase := true } [(0, .setVariable "kab" .null)] "kab"
      ∧ Loses { andWord := "", nullWord := "" } [(0, .setVariable "x" .null)] "x" := by
  refine ⟨?_, ?_, ?_⟩
  · unfold Loses
    rw [run_cons, start_setVariable .null rfl (by decide)]
    refine ⟨_, List.mem_cons_self, List.mem_cons_self, fun read => ?_⟩
    exact absurd (Expr.name_of_parse read).2 (by decide)
  · unfold Loses
    rw [run_cons, start_setVariable .null rfl (by decide)]
    refine ⟨_, List.mem_cons_self, List.mem_cons_self, fun read => ?_⟩
    let o : Options := { nullWord := "\u212a", ignoreNullCase := true }
    have null : wordLiteral .null "\u212a" true "kab".toList
        = .ok ⟨.literal .null "kab", [], List.nil_suffix⟩ := rfl
    have literal : (Grammar.literal o "kab".toList).Takes (.literal .null "kab") [] :=
      ⟨_, literal_of_null null⟩
    have taken := term_of_primary_nil rfl (primary_of_literal literal)
    have parsed := Expr.parse_eq_ok_iff.2 (expression_of_term (by decide) taken)
    cases read.symm.trans parsed
  · unfold Loses
    rw [run_cons, start_setVariable .null rfl (by decide)]
    refine ⟨_, List.mem_cons_self, List.mem_cons_self, fun read => ?_⟩
    let o : Options := { andWord := "", nullWord := "" }
    have name : (term o "x".toList).Takes (.ident "x") [] :=
      term_of_name (by decide) rfl (by decide)
    -- After the name an operator and an operand are read from nothing.
    have null : wordLiteral .null "" false [] = .ok ⟨.literal .null "", [], List.nil_suffix⟩ :=
      rfl
    have literal : (Grammar.literal o []).Takes (.literal .null "") [] := ⟨_, literal_of_null null⟩
    have taken := term_of_primary_nil rfl (primary_of_literal literal)
    have operator : operatorSpaced o [] = .ok ⟨.and, [], List.nil_suffix⟩ := rfl
    obtain ⟨f, fault⟩ : (operands o (.ident "x") []).Faults :=
      operands_faults operator taken (Nat.lt_irrefl 0)
    obtain ⟨v, r, first, more⟩ := expression_takes_iff.1 (Expr.parse_eq_ok_iff.1 read)
    obtain ⟨rfl, rfl⟩ := first.unique name
    have more : (operands o (.ident "x") []).Takes (.ident "x") [] := more
    rw [fault] at more
    exact Reading.not_takes_fault more

/-- A language gets another conjunction, and a parameter is declared, while `x` is kept. -/
theorem names_stay_readable_renamed :
    let h : History := [(0, .setVariable "x" .null), (0, .setOptions { andWord := "und" })]
    let c : Context := (Context.new { andWord := "und" } ⟨[]⟩).1
    c ∈ ((start {}).run h).contexts ∧ "x" ∈ c.names ((start {}).run h).memory
      ∧ c.options.Discernible ∧ (start {}).Respects h ∧ c.parse "x" = .ok (.ident "x") := by
  intro h c
  have kept : (start {}).step 0 (.setVariable "x" .null) = _ :=
    start_setVariable .null rfl (by decide)
  have reached : (start {}).run h = ⟨[c], ⟨[[("x", ⟨.null, false⟩)]]⟩⟩ := by
    rw [run_cons, kept]
    rfl
  have mem : c ∈ ((start {}).run h).contexts := by
    rw [reached]
    exact List.mem_singleton_self c
  have stored : "x" ∈ c.names ((start {}).run h).memory := by
    rw [reached]
    exact List.mem_singleton_self "x"
  have discernible : c.options.Discernible := Options.discernible_of_ascii (by decide)
  have respects : (start {}).Respects h := by
    refine ⟨?_, ?_, trivial⟩
    · rintro ⟨_, _, _, -, ⟨⟩, -⟩
    · rintro ⟨d, o, name, here, ⟨⟩, mem, reserved⟩
      rw [kept] at here mem
      cases here
      obtain rfl : name = "x" := List.mem_singleton.1 mem
      exact absurd reserved (by decide)
  exact ⟨mem, stored, discernible, respects,
    ((names_stay_readable {} h c mem "x" stored).2.2 respects).2 discernible⟩

end World

end ExprLang
