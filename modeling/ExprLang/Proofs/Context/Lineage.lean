import ExprLang.Proofs.Context.Ownership
import ExprLang.Proofs.Context.Visible
import ExprLang.Surface.Sampling

set_option autoImplicit false

/-!
Families of contexts. Whatever is done with a context, be it with success or not, a context that is
neither this one nor one of its descendants does not notice: it still is what it was and sees the
same variables. Who descends from whom is read off the history.
-/

namespace ExprLang

/-- What an application does with a context. -/
inductive Use
  | act (a : Action)
  | plot (text : String)

/-- What a use does to the context. -/
def Use.action : Use → Action
  | act a => a
  | plot _ => .setParameters Surface.parameters

/-- Uses one after another, each of the context at a place. -/
abbrev Session := List (Nat × Use)

/-- The places of the parents of each context, the nearest first, after an action on the context at
a place. -/
def Action.extend (chains : List (List Nat)) (i : Nat) (a : Action) : List (List Nat) :=
  match chains[i]? with
  | none => chains
  | some chain =>
    match a with
    | child => chains ++ [i :: chain]
    | new _ => chains ++ [[]]
    | _ => chains

/-- The places of the parents of each context after a session that began with one context. -/
def lineages (s : Session) : List (List Nat) :=
  s.foldl (fun chains (i, u) => u.action.extend chains i) [[]]

/-- The places of the parents of the context at a place. -/
def lineage (s : Session) (j : Nat) : List Nat := (lineages s)[j]?.getD []

namespace World

variable {w : World} {i j : Nat} {a : Action} {c : Context} {chains : List (List Nat)}

/-- A use of one context. -/
def use (w : World) (i : Nat) : Use → World
  | .act a => w.step i a
  | .plot text =>
    match w.contexts[i]? with
    | none => w
    | some c => w.setContext i (Surface.compileIn c w.memory text).1

def perform (w : World) (s : Session) : World := s.foldl (fun w (i, u) => w.use i u) w

theorem use_eq_step (w : World) (i : Nat) (u : Use) : w.use i u = w.step i u.action := by
  cases u with
  | act a => rfl
  | plot text =>
    simp only [use, step, Use.action]
    cases here : w.contexts[i]? with
    | none => rfl
    | some c =>
      dsimp only
      rw [Surface.compileIn]
      split <;> rename_i declared <;> rw [declared]

theorem perform_eq_run (w : World) (s : Session) :
    w.perform s = w.run (s.map fun (i, u) => (i, u.action)) := by
  induction s generalizing w with
  | nil => rfl
  | cons entry s ih =>
    obtain ⟨i, u⟩ := entry
    rw [List.map_cons, run_cons, ← use_eq_step, ← ih]
    rfl

/-! Parents and their places -/

/-- The stores of the contexts. -/
def stores (w : World) : List StoreId := w.contexts.map (·.frame.store)

/-- The parents of each context are those at the places of its chain. -/
structure Kin (w : World) (chains : List (List Nat)) : Prop where
  length : chains.length = w.contexts.length
  parents : ∀ {j : Nat} {c : Context} {chain : List Nat}, w.contexts[j]? = some c →
    chains[j]? = some chain → ∀ f ∈ c.parents, ∃ k ∈ chain, w.stores[k]? = some f.store

theorem kin_start (o : Options) : (start o).Kin [[]] where
  length := rfl
  parents := by
    intro j c chain here _ f mem
    rw [List.mem_singleton.1 (List.mem_of_getElem? here)] at mem
    cases mem

theorem Kin.setContext {d : Context} (h : w.Kin chains) (here : w.contexts[i]? = some c)
    (store : d.frame.store = c.frame.store) (parents : d.parents = c.parents) :
    (w.setContext i d).Kin chains where
  length := by
    rw [World.setContext, List.length_set]
    exact h.length
  parents := by
    intro j e chain there places f mem
    rw [stores, stores_setContext here store]
    by_cases same : i = j
    · subst same
      have inside := (List.getElem?_eq_some_iff.1 here).1
      rw [World.setContext, List.getElem?_set_self inside] at there
      cases there
      exact h.parents here places f (parents ▸ mem)
    · rw [World.setContext, List.getElem?_set_ne same] at there
      exact h.parents there places f mem

/-- A further context whose parents are at the places of its chain. -/
theorem Kin.append {d : Context} {chain : List Nat} (h : w.Kin chains) (m : Memory)
    (parents : ∀ f ∈ d.parents, ∃ k ∈ chain, w.stores[k]? = some f.store) :
    Kin ⟨w.contexts ++ [d], m⟩ (chains ++ [chain]) where
  length := by
    rw [List.length_append, List.length_append, h.length]
    rfl
  parents := by
    have still : ∀ {k : Nat} {s : StoreId}, w.stores[k]? = some s →
        (stores ⟨w.contexts ++ [d], m⟩)[k]? = some s := by
      intro k s there
      have inside := (List.getElem?_eq_some_iff.1 there).1
      have longer : stores ⟨w.contexts ++ [d], m⟩ = w.stores ++ [d.frame.store] := List.map_append
      rw [longer, List.getElem?_append_left inside]
      exact there
    intro j e chain' there places f mem
    rcases Nat.lt_trichotomy j w.contexts.length with old | last | beyond
    · rw [List.getElem?_append_left old] at there
      rw [List.getElem?_append_left (h.length ▸ old)] at places
      obtain ⟨k, inChain, place⟩ := h.parents there places f mem
      exact ⟨k, inChain, still place⟩
    · have last' : j = chains.length := last.trans h.length.symm
      rw [last, List.getElem?_concat_length] at there
      rw [last', List.getElem?_concat_length] at places
      cases there
      cases places
      obtain ⟨k, inChain, place⟩ := parents f mem
      exact ⟨k, inChain, still place⟩
    · have inside := (List.getElem?_eq_some_iff.1 there).1
      rw [List.length_append, List.length_singleton] at inside
      omega

theorem Kin.step (h : w.Kin chains) : (w.step i a).Kin (a.extend chains i) := by
  cases here : w.contexts[i]? with
  | none =>
    have absent : chains[i]? = none := by
      rw [List.getElem?_eq_none_iff, h.length]
      exact List.getElem?_eq_none_iff.1 here
    simp only [step_of_no_context here, Action.extend, absent]
    exact h
  | some c =>
    obtain ⟨chain, place⟩ : ∃ chain, chains[i]? = some chain := by
      have inside := (List.getElem?_eq_some_iff.1 here).1
      exact ⟨_, List.getElem?_eq_getElem (h.length ▸ inside)⟩
    have kept : a.adds = false → a.extend chains i = chains := by
      intro quiet
      simp only [Action.extend, place]
      cases a with
      | child => cases quiet
      | new o => cases quiet
      | _ => rfl
    have changed := changes_step (a := a) here
    generalize w.step i a = w' at changed ⊢
    cases changed with
    | none quiet =>
      rw [kept quiet]
      exact h
    | store quiet s =>
      rw [kept quiet]
      exact ⟨h.length, h.parents⟩
    | context quiet store parents =>
      rw [kept quiet]
      exact h.setContext here store parents
    | child =>
      simp only [Action.extend, place]
      refine h.append _ fun f mem => ?_
      rcases List.mem_cons.1 mem with rfl | above
      · refine ⟨i, List.mem_cons_self, ?_⟩
        rw [stores, List.getElem?_map, here, Option.map_some]
      · obtain ⟨k, inChain, place⟩ := h.parents here place f above
        exact ⟨k, List.mem_cons_of_mem i inChain, place⟩
    | new o =>
      simp only [Action.extend, place]
      refine h.append _ fun f mem => ?_
      cases mem

theorem kin_perform (o : Options) (s : Session) : ((start o).perform s).Kin (lineages s) := by
  rw [lineages]
  have inv := kin_start o
  generalize start o = w at inv
  generalize [[]] = chains at inv
  induction s generalizing w chains with
  | nil => exact inv
  | cons entry s ih =>
    obtain ⟨i, u⟩ := entry
    have next := inv.step (i := i) (a := u.action)
    rw [← use_eq_step] at next
    exact ih _ _ next

/-! What a use leaves alone -/

/-- An action on a context leaves the contexts in other places and their stores alone. -/
theorem step_elsewhere {b : Context} (h : w.contexts[i]? = some c) (there : w.contexts[j]? = some b)
    (other : j ≠ i) : (w.step i a).contexts[j]? = some b
      ∧ ∀ id, id ≠ c.frame.store → (w.step i a).memory.store id = w.memory.store id := by
  have inside := (List.getElem?_eq_some_iff.1 there).1
  have appended : ∀ d, (w.contexts ++ [d])[j]? = some b := by
    intro d
    rw [List.getElem?_append_left inside]
    exact there
  have changed := changes_step (a := a) h
  generalize w.step i a = w' at changed ⊢
  cases changed with
  | none _ => exact ⟨there, fun _ _ => rfl⟩
  | store _ s => exact ⟨there, fun id ne => Memory.store_setStore_ne _ _ id s ne⟩
  | context _ _ _ =>
    refine ⟨?_, fun _ _ => rfl⟩
    rw [setContext, List.getElem?_set_ne other.symm]
    exact there
  | child => exact ⟨appended _, fun _ _ => Memory.store_allocate⟩
  | new o => exact ⟨appended _, fun _ _ => Memory.store_allocate⟩

/-- A context shares no store with one that is neither itself nor a parent of it. -/
theorem Kin.store_ne {b : Context} {chain : List Nat} (h : w.Kin chains) (own : w.stores.Nodup)
    (here : w.contexts[i]? = some c) (there : w.contexts[j]? = some b)
    (places : chains[j]? = some chain) (other : j ≠ i) (unrelated : i ∉ chain) :
    ∀ f ∈ b.frames, f.store ≠ c.frame.store := by
  have mine : w.stores[i]? = some c.frame.store := by
    rw [stores, List.getElem?_map, here, Option.map_some]
  have apart : ∀ {k : Nat} {s : StoreId}, w.stores[k]? = some s → k ≠ i → s ≠ c.frame.store := by
    rintro k s place ne rfl
    have inside := (List.getElem?_eq_some_iff.1 place).1
    exact ne ((List.getElem?_inj inside own).1 (place.trans mine.symm))
  intro f mem
  rcases List.mem_cons.1 mem with rfl | above
  · refine apart (k := j) ?_ other
    rw [stores, List.getElem?_map, there, Option.map_some]
  · obtain ⟨k, inChain, place⟩ := h.parents there places f above
    refine apart place ?_
    rintro rfl
    exact unrelated inChain

/-- In every family of contexts, whatever is done with one of them, a context that is neither this
one nor descends from it is still there and is not disturbed. -/
theorem undisturbed_of_use (o : Options) (s : Session) (i j : Nat) (u : Use) {b : Context}
    (there : ((start o).perform s).contexts[j]? = some b) (other : j ≠ i)
    (unrelated : i ∉ lineage s j) :
    (((start o).perform s).use i u).contexts[j]? = some b
      ∧ b.Undisturbed ((start o).perform s).memory (((start o).perform s).use i u).memory := by
  have kin := kin_perform o s
  have own : ((start o).perform s).stores.Nodup := by
    rw [perform_eq_run]
    exact (isName_run (named_start o)).own
  generalize (start o).perform s = w at there kin own ⊢
  rw [use_eq_step]
  cases here : w.contexts[i]? with
  | none =>
    rw [step_of_no_context here]
    have view : b.SameView w.memory w.memory := fun _ _ => rfl
    exact ⟨there, view.undisturbed⟩
  | some c =>
    obtain ⟨still, spared⟩ := step_elsewhere (a := u.action) here there other
    have inside := (List.getElem?_eq_some_iff.1 there).1
    have places : (lineages s)[j]? = some (lineage s j) := by
      rw [lineage, List.getElem?_eq_getElem (kin.length ▸ inside), Option.getD_some]
    have apart := kin.store_ne own here there places other unrelated
    have view : b.SameView w.memory (w.step i u.action).memory :=
      fun f mem => spared f.store (apart f mem)
    exact ⟨still, view.undisturbed⟩

/-- One of two children of a context is plotted in, the other one is not disturbed. -/
theorem undisturbed_of_use_sibling :
    let o : Options := { ignoreVariableCase := true }
    let s : Session := [(0, .act .child), (0, .act .child), (2, .act .child)]
    let w := (start o).perform s
    lineages s = [[], [0], [0], [2, 0]] ∧ ∃ b, w.contexts[3]? = some b ∧ b.parents.length = 2
      ∧ 3 ≠ 1 ∧ 1 ∉ lineage s 3 ∧ (w.use 1 (.plot "x * y")).contexts[3]? = some b
      ∧ b.Undisturbed w.memory (w.use 1 (.plot "x * y")).memory := by
  intro o s w
  have chains : lineages s = [[], [0], [0], [2, 0]] := rfl
  have unrelated : 1 ∉ lineage s 3 := by decide
  obtain ⟨b, there, parents⟩ : ∃ b, w.contexts[3]? = some b ∧ b.parents.length = 2 := ⟨_, rfl, rfl⟩
  have spared := undisturbed_of_use o s 1 3 (.plot "x * y") there (by decide) unrelated
  exact ⟨chains, b, there, parents, by decide, unrelated, spared⟩

end World

end ExprLang
