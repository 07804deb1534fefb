import ExprLang.Proofs.Context.Lineage

set_option autoImplicit false

/-!
Declared parameters. Whatever is done with contexts, each has few parameters, whose names are names
and differ, so that a parameter is found at its place under its own name, also where others are the
same but for letter case. A declaration that is refused changes nothing.
-/

namespace ExprLang

open Grammar

namespace Context

variable {c c' : Context} {ps : List Parameter} {name : String}

/-- What holds of the parameters of a context, however they have come to be declared. -/
structure Declared (c : Context) : Prop where
  few : c.parameters.length ≤ 8
  named : ∀ p ∈ c.parameters, isName p.name.toList = true
  distinct : (c.parameters.map (·.name)).Nodup

theorem declared_nil (h : c.parameters = []) : c.Declared where
  few := by simp [h]
  named := by simp [h]
  distinct := by simp [h]

/-- Names that are checked one after another have all the right form and differ from those
before. -/
theorem checkParameters_eq_ok_iff {before after : List Parameter} :
    c.checkParameters before after = .ok ()
      ↔ (∀ p ∈ after, c.checkName .ofParameter p.name = .ok ())
        ∧ (∀ p ∈ after, ∀ q ∈ before, q.name ≠ p.name) ∧ (after.map (·.name)).Nodup := by
  induction after generalizing before with
  | nil => simp [checkParameters]
  | cons p after ih =>
    simp only [checkParameters_cons_eq_ok_iff, ih, List.forall_mem_cons, List.forall_mem_append,
      List.map_cons, List.nodup_cons, List.any_eq_false, decide_eq_true_eq, List.mem_map,
      not_exists, not_and, List.not_mem_nil, false_imp_iff, implies_true, and_true]
    constructor
    · rintro ⟨checked, new, checkedAll, apart, distinct⟩
      refine ⟨⟨checked, checkedAll⟩, ⟨new, fun q mem => (apart q mem).1⟩, ?_, distinct⟩
      exact fun q mem same => (apart q mem).2 same.symm
    · rintro ⟨⟨checked, checkedAll⟩, ⟨new, newAll⟩, apart, distinct⟩
      refine ⟨checked, new, checkedAll, fun q mem => ⟨newAll q mem, ?_⟩, distinct⟩
      exact fun same => apart q mem same.symm

/-- Which parameters can be declared, and that nothing else changes then. -/
theorem setParameters_eq_ok_iff_names : c.setParameters ps = .ok c' ↔ ps.length ≤ 8
    ∧ (∀ p ∈ ps, isName p.name.toList = true ∧ c.options.isKeyword p.name = false)
    ∧ (ps.map (·.name)).Nodup ∧ c' = { c with frame.parameters := ps } := by
  have limit : Parameter.limit = 8 := rfl
  simp only [setParameters_eq_ok_iff, limit, checkParameters_eq_ok_iff, checkName_eq_ok_iff,
    List.not_mem_nil, false_imp_iff, implies_true, true_and, and_assoc]

theorem declared_of_setParameters (h : c.setParameters ps = .ok c') : c'.Declared := by
  obtain ⟨few, names, distinct, rfl⟩ := setParameters_eq_ok_iff_names.1 h
  exact ⟨few, fun p mem => (names p mem).1, distinct⟩

/-! Places -/

/-- The first parameter whose name is the same but for letter case. -/
def FirstLike (c : Context) (name : String) (i : Nat) : Prop :=
  (∃ p, c.parameters[i]? = some p ∧ lowerText p.name = lowerText name)
    ∧ ∀ j < i, ∀ p, c.parameters[j]? = some p → lowerText p.name ≠ lowerText name

/-- A parameter goes before others that are the same but for letter case. -/
theorem Declared.parameterPosition?_eq (h : c.Declared) {i : Nat} {p : Parameter}
    (here : c.parameters[i]? = some p) : c.parameterPosition? p.name = some i := by
  obtain ⟨inside, rfl⟩ := List.getElem?_eq_some_iff.1 here
  have found : c.parameters.findIdx? (·.name = c.parameters[i].name) = some i := by
    refine List.findIdx?_eq_some_iff_getElem.2 ⟨inside, decide_eq_true rfl, fun j before same => ?_⟩
    have earlier := Nat.lt_trans before inside
    have names : (c.parameters.map (·.name))[i]? = (c.parameters.map (·.name))[j]? := by
      simp [inside, earlier, of_decide_eq_true same]
    have place := (List.getElem?_inj (by rwa [List.length_map]) h.distinct).1 names
    exact absurd place.symm (Nat.ne_of_lt before)
  rw [parameterPosition?, found, Option.some_or]

theorem findIdx?_like_iff {i : Nat} :
    c.parameters.findIdx? (fun p => namesEqual true p.name name) = some i ↔ c.FirstLike name i := by
  rw [List.findIdx?_eq_some_iff_getElem, FirstLike]
  constructor
  · rintro ⟨inside, like, first⟩
    refine ⟨⟨_, List.getElem?_eq_getElem inside, namesEqual_true_iff.1 like⟩, ?_⟩
    intro j before p there same
    obtain ⟨_, rfl⟩ := List.getElem?_eq_some_iff.1 there
    exact first j before (namesEqual_true_iff.2 same)
  · rintro ⟨⟨p, here, like⟩, first⟩
    obtain ⟨inside, rfl⟩ := List.getElem?_eq_some_iff.1 here
    refine ⟨inside, namesEqual_true_iff.2 like, fun j before same => ?_⟩
    have there := List.getElem?_eq_getElem (Nat.lt_trans before inside)
    exact first j before _ there (namesEqual_true_iff.1 same)

theorem parameterPosition?_eq_some_iff (other : ∀ p ∈ c.parameters, p.name ≠ name) {i : Nat} :
    c.parameterPosition? name = some i
      ↔ c.options.ignoreParameterCase = true ∧ c.FirstLike name i := by
  have none : c.parameters.findIdx? (·.name = name) = none :=
    List.findIdx?_eq_none_iff.2 fun p mem => decide_eq_false (other p mem)
  rw [parameterPosition?, none, Option.none_or]
  cases ignore : c.options.ignoreParameterCase with
  | true => rw [findIdx?_like_iff, and_iff_right rfl]
  | false =>
    have missing : c.parameters.findIdx? (fun p => namesEqual false p.name name) = Option.none :=
      List.findIdx?_eq_none_iff.2 fun p mem => by simp [namesEqual, other p mem]
    simp [missing]

theorem exists_firstLike_iff : (∃ i, c.FirstLike name i)
    ↔ ∃ p ∈ c.parameters, lowerText p.name = lowerText name := by
  simp only [← findIdx?_like_iff, ← Option.isSome_iff_exists, List.findIdx?_isSome,
    List.any_eq_true, namesEqual_true_iff]

end Context

namespace World

variable {w : World} {i : Nat} {a : Action} {c : Context}

theorem declared_step (h : ∀ c ∈ w.contexts, c.Declared) :
    ∀ c ∈ (w.step i a).contexts, c.Declared := by
  have replaced : ∀ d : Context, d.Declared → ∀ c ∈ (w.setContext i d).contexts, c.Declared := by
    intro d declared c mem
    rcases List.mem_or_eq_of_mem_set mem with old | rfl
    · exact h c old
    · exact declared
  have appended : ∀ d : Context, d.parameters = [] → ∀ c ∈ w.contexts ++ [d], c.Declared := by
    intro d none c mem
    rcases List.mem_append.1 mem with old | new
    · exact h c old
    · exact List.mem_singleton.1 new ▸ Context.declared_nil none
  simp only [step]
  cases here : w.contexts[i]? with
  | none => exact h
  | some c =>
    have declared := h c (List.mem_of_getElem? here)
    cases a with
    | setVariable name v =>
      dsimp only
      split <;> exact h
    | setConstant name v =>
      dsimp only
      split <;> exact h
    | removeVariable name => exact h
    | addFunctions name hs => exact replaced _ ⟨declared.few, declared.named, declared.distinct⟩
    | removeFunctions name => exact replaced _ ⟨declared.few, declared.named, declared.distinct⟩
    | setOptions o => exact replaced _ ⟨declared.few, declared.named, declared.distinct⟩
    | setParameters ps =>
      dsimp only
      obtain ⟨d, left, same | accepted⟩ := Context.declareParameters_cases c ps <;> rw [left]
      · exact replaced d (same ▸ declared)
      · exact replaced d (Context.declared_of_setParameters accepted)
    | clearParameters => exact replaced _ (Context.declared_nil rfl)
    | setMembers r => exact replaced _ ⟨declared.few, declared.named, declared.distinct⟩
    | child => exact appended _ rfl
    | new o => exact appended _ rfl
    | rearrange s => exact h

theorem declared_perform (o : Options) (s : Session) :
    ∀ c ∈ ((start o).perform s).contexts, c.Declared := by
  have inv : ∀ c ∈ (start o).contexts, c.Declared := fun c mem =>
    List.mem_singleton.1 mem ▸ Context.declared_nil rfl
  generalize start o = w at inv
  induction s generalizing w with
  | nil => exact inv
  | cons entry s ih =>
    obtain ⟨i, u⟩ := entry
    refine ih (w.use i u) ?_
    rw [use_eq_step]
    exact declared_step inv

theorem setContext_self (here : w.contexts[i]? = some c) : w.setContext i c = w := by
  obtain ⟨inside, rfl⟩ := List.getElem?_eq_some_iff.1 here
  rw [setContext, List.set_getElem_self]

/-- A declaration that is refused, be it of the parameters of a surface. -/
theorem use_of_refused {u : Use} {ps : List Parameter} {e : Error} (here : w.contexts[i]? = some c)
    (declares : u.action = .setParameters ps) (refused : c.setParameters ps = .error e) :
    w.use i u = w := by
  rw [use_eq_step, declares]
  simp only [step, here, Context.declareParameters_of_error refused]
  exact setContext_self here

theorem use_of_accepted {u : Use} {ps : List Parameter} {c' : Context}
    (here : w.contexts[i]? = some c) (declares : u.action = .setParameters ps)
    (accepted : c.setParameters ps = .ok c') : w.use i u = w.setContext i c' := by
  rw [use_eq_step, declares]
  simp only [step, here, Context.declareParameters_of_ok accepted]

/-- The value of a text in the context at a place. -/
def interpret? (w : World) (i : Nat) (text : String) (args : List Value) :
    Option (Except Error Value) :=
  w.contexts[i]?.map fun c => c.interpret w.memory text args

/-- How parameters are kept and found, and that a refused declaration is as if it had not been
tried. -/
structure KeepsParameters (w : World) : Prop where
  declared : ∀ c ∈ w.contexts, c.Declared
  ownPlace : ∀ c ∈ w.contexts, ∀ i p, c.parameters[i]? = some p →
    c.parameterPosition? p.name = some i
  /-- For the names that no parameter has: when they are found, -/
  found_iff : ∀ c ∈ w.contexts, ∀ name, (∀ p ∈ c.parameters, p.name ≠ name) →
    ((∃ i, c.parameterPosition? name = some i) ↔ c.options.ignoreParameterCase = true
      ∧ ∃ p ∈ c.parameters, lowerText p.name = lowerText name)
  /-- and where. -/
  first : ∀ c ∈ w.contexts, ∀ name, (∀ p ∈ c.parameters, p.name ≠ name) →
    ∀ i, c.parameterPosition? name = some i → c.FirstLike name i
  accepts_iff : ∀ (c : Context) ps, (∃ c', c.setParameters ps = .ok c') ↔ ps.length ≤ 8
    ∧ (∀ p ∈ ps, isName p.name.toList = true ∧ c.options.isKeyword p.name = false)
    ∧ (ps.map (·.name)).Nodup
  /-- An accepted declaration gives the context these parameters and changes nothing else, -/
  accepted : ∀ i c u ps c', w.contexts[i]? = some c → u.action = .setParameters ps →
    c.setParameters ps = .ok c' → w.use i u = w.setContext i c'
      ∧ (w.use i u).contexts[i]? = some c' ∧ c' = { c with frame.parameters := ps }
  /-- and a refused one changes nothing. -/
  refused : ∀ i c u ps e, w.contexts[i]? = some c → u.action = .setParameters ps →
    c.setParameters ps = .error e → w.use i u = w ∧ ∀ (s : Session) j text args,
      ((w.use i u).perform s).interpret? j text args = (w.perform s).interpret? j text args

/-- The parameters of all contexts are in order, whatever has been done with them. -/
theorem keepsParameters_perform (o : Options) (s : Session) :
    ((start o).perform s).KeepsParameters where
  declared := declared_perform o s
  ownPlace c mem i p here := (declared_perform o s c mem).parameterPosition?_eq here
  found_iff c mem name other := by
    simp only [Context.parameterPosition?_eq_some_iff other, exists_and_left,
      Context.exists_firstLike_iff]
  first c mem name other i found := ((Context.parameterPosition?_eq_some_iff other).1 found).2
  accepts_iff c ps := by
    simp only [Context.setParameters_eq_ok_iff_names, exists_and_left, exists_eq, and_true]
  accepted i c u ps c' here declares accepted := by
    have inside := (List.getElem?_eq_some_iff.1 here).1
    have replaced := use_of_accepted here declares accepted
    refine ⟨replaced, ?_, (Context.setParameters_eq_ok_iff.1 accepted).2.2⟩
    rw [replaced, setContext, List.getElem?_set_self inside]
  refused i c u ps e here declares refused := by
    have same := use_of_refused here declares refused
    exact ⟨same, fun s j text args => by rw [same]⟩

/-- Two parameters whose names are the same but for letter case are told apart, and a third spelling
of the name is the first of them. -/
example :
    let c : Context := { frame :=
      { options := { ignoreParameterCase := true }, members := MemberTable.standard.resolver,
        store := 0, parameters := [⟨"Ab", .string⟩, ⟨"aB", .boolean⟩] } }
    c.parameterPosition? "aB" = some 1 ∧ c.parameterPosition? "ab" = some 0 := by
  decide

end World

end ExprLang
