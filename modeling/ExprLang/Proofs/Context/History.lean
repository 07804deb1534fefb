import ExprLang.Context.Basic

set_option autoImplicit false

/-!
Histories of operations on contexts. What an operation can change in the stores is the one slot that
it writes: contexts refer to stores by number, and a new context has a new store. Between operations
a store may take up any other order.
-/

namespace ExprLang

namespace Store

variable {s t : Store}

theorem mem_of_get? {name : String} {v : Variable} (h : s.get? name = some v) : (name, v) ∈ s := by
  obtain ⟨⟨key, v⟩, found, rfl⟩ := Option.map_eq_some_iff.1 h
  have same : key = name := by simpa using List.find?_some found
  rw [← same]
  exact List.mem_of_find?_eq_some found

theorem mem_names_iff {name : String} : name ∈ s.names ↔ ∃ v, s.get? name = some v := by
  constructor
  · intro mem
    obtain ⟨entry, there, rfl⟩ := List.mem_map.1 mem
    have some : (s.named? entry.1).isSome := List.find?_isSome.2 ⟨entry, there, decide_eq_true rfl⟩
    obtain ⟨found, eq⟩ := Option.isSome_iff_exists.1 some
    exact ⟨found.2, congrArg (Option.map _) eq⟩
  · rintro ⟨v, found⟩
    exact List.mem_map_of_mem (mem_of_get? found)

/-- Only names that one of the stores has need to be compared. -/
theorem same_iff : s.Same t ↔ ∀ name ∈ s.names ++ t.names, s.get? name = t.get? name := by
  refine ⟨fun same name _ => same name, fun same name => ?_⟩
  by_cases mem : name ∈ s.names ++ t.names
  · exact same name mem
  · have absent : ∀ u : Store, name ∉ u.names → u.get? name = none := fun u out =>
      Option.eq_none_iff_forall_ne_some.2 fun v found => out (mem_names_iff.2 ⟨v, found⟩)
    rw [List.mem_append, not_or] at mem
    rw [absent s mem.1, absent t mem.2]

instance : Decidable (s.Same t) := decidable_of_iff' _ same_iff

end Store

/-- The contexts of an application, which share their stores. -/
structure World where
  contexts : List Context
  memory : Memory

/-- An operation on a context, or a change that no operation asks for. -/
inductive Action
  | setVariable (name : String) (v : Value)
  | setConstant (name : String) (v : Value)
  | removeVariable (name : String)
  | addFunctions (name : String) (hs : Group)
  | removeFunctions (name : String)
  | setOptions (o : Options)
  | setParameters (ps : List Parameter)
  | clearParameters
  | setMembers (r : MemberResolver)
  | child
  | new (o : Options)
  /-- The context's own variables come to stand in another order. -/
  | rearrange (s : Store)

/-- Operations one after another, each on the context at a place. -/
abbrev History := List (Nat × Action)

/-- The variable that a slot holds. -/
def Memory.read? (m : Memory) (id : StoreId) (key : String) : Option Variable :=
  (m.store id).get? key

/-- Gives a store another order, which is one of the variables that it has. -/
def Memory.rearrange (m : Memory) (id : StoreId) (s : Store) : Memory :=
  if s.Same (m.store id) then m.setStore id s else m

namespace World

/-- Puts another context in a place. -/
def setContext (w : World) (i : Nat) (c : Context) : World :=
  { w with contexts := w.contexts.set i c }

/-- An operation on one context. A variable that is refused is not kept. -/
def step (w : World) (i : Nat) (a : Action) : World :=
  match w.contexts[i]? with
  | none => w
  | some c =>
    match a with
    | .setVariable name v =>
      match c.setVariable w.memory name v with
      | .ok m => { w with memory := m }
      | .error _ => w
    | .setConstant name v =>
      match c.setConstant w.memory name v with
      | .ok m => { w with memory := m }
      | .error _ => w
    | .removeVariable name => { w with memory := (c.removeVariable w.memory name).2 }
    | .addFunctions name hs => w.setContext i (c.addFunctions name hs)
    | .removeFunctions name => w.setContext i (c.removeFunctions name).2
    | .setOptions o => w.setContext i (c.setOptions o)
    | .setParameters ps => w.setContext i ((Context.declareParameters ps).run.run c).2
    | .clearParameters => w.setContext i c.clearParameters
    | .setMembers r => w.setContext i (c.setMembers r)
    | .child => ⟨w.contexts ++ [(c.child w.memory).1], (c.child w.memory).2⟩
    | .new o => ⟨w.contexts ++ [(Context.new o w.memory).1], (Context.new o w.memory).2⟩
    | .rearrange s => { w with memory := w.memory.rearrange c.frame.store s }

def run (w : World) (h : History) : World := h.foldl (fun w (i, a) => w.step i a) w

@[simp] theorem run_nil (w : World) : w.run [] = w := rfl

@[simp] theorem run_cons (w : World) (i : Nat) (a : Action) (h : History) :
    w.run ((i, a) :: h) = (w.step i a).run h := rfl

end World

namespace Memory

variable {m : Memory} {id : StoreId} {key : String}

/-- A number without a store reads like an empty store, before and after. -/
theorem store_setStore_of_ge {s : Store} (h : m.stores.length ≤ id) :
    (m.setStore id s).store id = m.store id := by
  simp [store, setStore, h]

theorem store_allocate : m.allocate.2.store id = m.store id := by
  simp only [allocate, store]
  by_cases inside : id < m.stores.length
  · rw [List.getElem?_append_left inside]
  · have outside := Nat.le_of_not_lt inside
    rw [List.getElem?_append_right outside, List.getElem?_eq_none outside]
    cases id - m.stores.length <;> rfl

end Memory

namespace Context

variable {c : Context} {m m' : Memory} {name : String}

theorem store_eq_ok_iff {v : Variable} :
    c.store m name v = .ok m' ↔ c.checkName .ofVariable name = .ok ()
      ∧ m' = m.setStore c.frame.store ((m.store c.frame.store).set name v) := by
  rw [store]
  cases c.checkName .ofVariable name with
  | error e => simp [bind, Except.bind]
  | ok u => simp [bind, Except.bind, pure, Except.pure, eq_comm]

end Context

namespace World

variable {w : World} {id : StoreId} {key : String}

end World

end ExprLang
