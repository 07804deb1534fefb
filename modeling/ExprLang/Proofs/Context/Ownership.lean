import ExprLang.Proofs.Context.Names
import ExprLang.Proofs.Related

set_option autoImplicit false

/-!
Each context keeps its variables in a store of its own, which no parent shares. A value that is kept
under a name is what the name means from then on, and all other names mean what they did.
-/

namespace ExprLang

namespace Context

variable {c d : Context} {m m' : Memory} {name other : String}

/-- The stores of a context and its parents are there, and its own is not one of a parent. -/
structure OwnStore (c : Context) (m : Memory) : Prop where
  live : ∀ f ∈ c.frames, f.store < m.stores.length
  own : ∀ f ∈ c.parents, f.store ≠ c.frame.store

namespace OwnStore

theorem here (h : c.OwnStore m) : c.frame.store < m.stores.length :=
  h.live c.frame List.mem_cons_self

/-- Stores do not go away. -/
theorem mono (h : c.OwnStore m) (longer : m.stores.length ≤ m'.stores.length) : c.OwnStore m' where
  live f mem := Nat.lt_of_lt_of_le (h.live f mem) longer
  own := h.own

/-- It is about the stores of a context only. -/
theorem congr (h : c.OwnStore m) (store : d.frame.store = c.frame.store)
    (parents : d.parents = c.parents) : d.OwnStore m where
  live := by
    intro f mem
    rcases List.mem_cons.1 mem with rfl | above
    · rw [store]
      exact h.here
    · exact h.live f (List.mem_cons_of_mem _ (parents ▸ above))
  own := by
    rw [store, parents]
    exact h.own

theorem new (o : Options) (m : Memory) : (Context.new o m).1.OwnStore m.allocate.2 where
  live := by
    intro f mem
    rw [List.mem_singleton.1 mem]
    simp [Context.new, Memory.allocate]
  own := by
    intro f mem
    cases mem

theorem child (h : c.OwnStore m) : (c.child m).1.OwnStore m.allocate.2 where
  live := by
    intro f mem
    have longer : m.allocate.2.stores.length = m.stores.length + 1 := List.length_append
    rw [longer]
    rcases List.mem_cons.1 mem with rfl | above
    · exact Nat.lt_succ_self _
    · exact Nat.lt_succ_of_lt (h.live f above)
  own := by
    intro f mem
    exact Nat.ne_of_lt (h.live f mem)

end OwnStore

/-! What a name means after a value was kept -/

theorem name?_of_free (free : c.parameterPosition? name = none) :
    c.name? m name = (c.slot? m name).map .kept := by
  rw [name?, free]

theorem name?_of_store {v : Variable} (own : c.OwnStore m) (kept : c.store m name v = .ok m')
    (free : c.parameterPosition? name = none) :
    c.name? m' name = some (.kept ⟨c.frame.store, name, v⟩) := by
  obtain ⟨-, rfl⟩ := store_eq_ok_iff.1 kept
  have named : c.frame.named? (m.setStore c.frame.store ((m.store c.frame.store).set name v)) name
      = some (name, v) := by
    rw [Frame.named?, Memory.store_setStore_self _ _ _ own.here, Store.named?_set_self,
      Option.some_or]
  rw [name?_of_free free, slot?, frames, List.findSome?_cons, named, Option.map_some,
    Option.map_some]

/-- Where letter case counts, other names mean what they did. -/
theorem name?_of_store_ne {v : Variable} (own : c.OwnStore m) (kept : c.store m name v = .ok m')
    (exact : c.options.ignoreVariableCase = false) (ne : other ≠ name) :
    c.name? m' other = c.name? m other := by
  obtain ⟨-, rfl⟩ := store_eq_ok_iff.1 kept
  have here : c.frame.named? (m.setStore c.frame.store ((m.store c.frame.store).set name v)) other
      = c.frame.named? m other := by
    have exact' : c.frame.options.ignoreVariableCase = false := exact
    rw [Frame.named?, Frame.named?, Memory.store_setStore_self _ _ _ own.here,
      Store.named?_set_ne _ _ _ _ ne, exact']
    rfl
  have above : ∀ f ∈ c.parents,
      f.named? (m.setStore c.frame.store ((m.store c.frame.store).set name v)) other
        = f.named? m other := by
    intro f mem
    rw [Frame.named?, Frame.named?, Memory.store_setStore_ne _ _ _ _ (own.own f mem)]
  have slots : c.slot? (m.setStore c.frame.store ((m.store c.frame.store).set name v)) other
      = c.slot? m other := by
    rw [slot?, slot?]
    refine findSome?_congr fun f mem => ?_
    rcases List.mem_cons.1 mem with rfl | parent
    · rw [here]
    · rw [above f parent]
  rw [name?, name?, slots]

end Context

/-- Whether an action adds a context. -/
def Action.adds : Action → Bool
  | child | new _ => true
  | _ => false

namespace World

variable {w : World} {i : Nat} {a : Action}

/-- What an action on a context at a place can come to: nothing, another content of the context's
own store, another context with the same store and parents in the place, or a further context. -/
inductive Changes (w : World) (i : Nat) (c : Context) : Action → World → Prop
  | none {a : Action} (here : a.adds = false) : Changes w i c a w
  | store {a : Action} (here : a.adds = false) (s : Store) :
    Changes w i c a { w with memory := w.memory.setStore c.frame.store s }
  | context {a : Action} (here : a.adds = false) {d : Context}
    (store : d.frame.store = c.frame.store) (parents : d.parents = c.parents) :
    Changes w i c a (w.setContext i d)
  | child : Changes w i c .child ⟨w.contexts ++ [(c.child w.memory).1], (c.child w.memory).2⟩
  | new (o : Options) :
    Changes w i c (.new o) ⟨w.contexts ++ [(Context.new o w.memory).1], (Context.new o w.memory).2⟩

theorem changes_step {c : Context} (here : w.contexts[i]? = some c) :
    w.Changes i c a (w.step i a) := by
  simp only [World.step, here]
  cases a with
  | setVariable name v =>
    dsimp only
    split
    · rename_i kept
      obtain ⟨-, rfl⟩ := Context.store_eq_ok_iff.1 kept
      exact .store rfl _
    · exact .none rfl
  | setConstant name v =>
    dsimp only
    split
    · rename_i kept
      obtain ⟨-, rfl⟩ := Context.store_eq_ok_iff.1 kept
      exact .store rfl _
    · exact .none rfl
  | removeVariable name => exact .store rfl _
  | addFunctions name hs => exact .context rfl rfl rfl
  | removeFunctions name => exact .context rfl rfl rfl
  | setOptions o => exact .context rfl rfl rfl
  | setParameters ps =>
    dsimp only
    obtain ⟨d, left, same | declared⟩ := Context.declareParameters_cases c ps <;> rw [left]
    · rw [same]
      exact .context rfl rfl rfl
    · obtain ⟨-, -, rfl⟩ := Context.setParameters_eq_ok_iff.1 declared
      exact .context rfl rfl rfl
  | clearParameters => exact .context rfl rfl rfl
  | setMembers r => exact .context rfl rfl rfl
  | child => exact .child
  | new o => exact .new o
  | rearrange s =>
    dsimp only [Memory.rearrange]
    split
    · exact .store rfl _
    · exact .none rfl

theorem step_of_no_context (absent : w.contexts[i]? = none) : w.step i a = w := by
  simp only [World.step, absent]

/-- Every context has its own store. -/
def Owned (w : World) : Prop := ∀ c ∈ w.contexts, c.OwnStore w.memory

theorem Owned.setStore (h : w.Owned) (id : StoreId) (s : Store) :
    Owned { w with memory := w.memory.setStore id s } := by
  intro c mem
  refine (h c mem).mono (Nat.le_of_eq ?_)
  simp [Memory.setStore]

theorem Owned.setContext {c d : Context} (h : w.Owned) (here : w.contexts[i]? = some c)
    (store : d.frame.store = c.frame.store) (parents : d.parents = c.parents) :
    (w.setContext i d).Owned := by
  intro e mem
  rcases List.mem_or_eq_of_mem_set mem with old | rfl
  · exact h e old
  · exact (h c (List.mem_of_getElem? here)).congr store parents

theorem Owned.append {d : Context} (h : w.Owned) (new : d.OwnStore w.memory.allocate.2) :
    Owned ⟨w.contexts ++ [d], w.memory.allocate.2⟩ := by
  intro e mem
  rcases List.mem_append.1 mem with old | last
  · refine (h e old).mono ?_
    simp [Memory.allocate]
  · rw [List.mem_singleton.1 last]
    exact new

theorem Owned.step (h : w.Owned) : (w.step i a).Owned := by
  cases here : w.contexts[i]? with
  | none =>
    rw [step_of_no_context here]
    exact h
  | some c =>
    have changed := changes_step (a := a) here
    generalize w.step i a = w' at changed ⊢
    cases changed with
    | none => exact h
    | store _ s => exact h.setStore _ s
    | context _ store parents => exact h.setContext here store parents
    | child => exact h.append (h c (List.mem_of_getElem? here)).child
    | new o => exact h.append (.new o w.memory)

theorem owned_run (o : Options) (h : History) : ((start o).run h).Owned := by
  have inv : (start o).Owned := by
    intro c mem
    rw [List.mem_singleton.1 mem]
    exact .new o ⟨[]⟩
  generalize start o = w at inv
  induction h generalizing w with
  | nil => exact inv
  | cons entry h ih =>
    rw [run_cons]
    exact ih _ inv.step

end World

end ExprLang
