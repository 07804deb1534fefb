import ExprLang.Proofs.Context.History
import ExprLang.Proofs.Context.Slots
import ExprLang.Proofs.Related
import ExprLang.Proofs.Text.Lower

set_option autoImplicit false

/-!
Memories that no expression can tell apart by its types: variables have the same names and types,
and constants the same values. New values of the same type lead from one such memory to another, and
so does another order of a store. The order is seen only where a name is looked for without regard
to letter case and the store has several names that fit.
-/

namespace ExprLang

/-- Variables of one type. A constant is what it is. -/
structure Variable.Alike (v w : Variable) : Prop where
  ty : v.ty = w.ty
  constant : v.constant = w.constant
  fixed : v.constant = true → v = w

namespace Variable.Alike

theorem refl (v : Variable) : v.Alike v := ⟨rfl, rfl, fun _ => rfl⟩

theorem symm {v w : Variable} (h : v.Alike w) : w.Alike v where
  ty := h.ty.symm
  constant := h.constant.symm
  fixed fixed := (h.fixed (h.constant.trans fixed)).symm

theorem trans {u v w : Variable} (h : u.Alike v) (h' : v.Alike w) : u.Alike w where
  ty := h.ty.trans h'.ty
  constant := h.constant.trans h'.constant
  fixed fixed := (h.fixed fixed).trans (h'.fixed (h.constant ▸ fixed))

end Variable.Alike

/-- Stores with the same names and variables that are alike, in whatever order. -/
def Store.Alike (s t : Store) : Prop :=
  ∀ name, Option.Rel Variable.Alike (s.get? name) (t.get? name)

namespace Store

variable {s t u : Store}

namespace Alike

theorem refl (s : Store) : s.Alike s := by
  intro name
  cases s.get? name with
  | none => exact .none
  | some v => exact .some (.refl v)

theorem symm (h : s.Alike t) : t.Alike s := by
  intro name
  have both := h name
  generalize s.get? name = a at both ⊢
  generalize t.get? name = b at both ⊢
  cases both with
  | none => exact .none
  | some both => exact .some both.symm

theorem trans (h : s.Alike t) (h' : t.Alike u) : s.Alike u := by
  intro name
  have first := h name
  have second := h' name
  generalize s.get? name = a at first ⊢
  generalize t.get? name = b at first second
  generalize u.get? name = d at second ⊢
  cases first with
  | none =>
    cases second
    exact .none
  | some both =>
    cases second with
    | some both' => exact .some (both.trans both')

theorem of_same (h : s.Same t) : s.Alike t := by
  intro name
  rw [h name]
  exact refl t name

theorem mem_names (h : s.Alike t) {name : String} (mem : name ∈ t.names) : name ∈ s.names := by
  obtain ⟨v, found⟩ := mem_names_iff.1 mem
  have both := h name
  rw [found] at both
  generalize read : s.get? name = a at both
  cases both with
  | @some u _ _ => exact mem_names_iff.2 ⟨u, read⟩

/-- A variable that is no constant may get another value of its type. -/
theorem set {key : String} {v w : Variable} (read : s.get? key = some v)
    (ty : w.ty = v.ty) (fixed : v.constant = false) (fixed' : w.constant = false) :
    s.Alike (s.set key w) := by
  intro name
  by_cases here : name = key
  · subst here
    rw [get?_set_self, read]
    refine .some ⟨ty.symm, fixed.trans fixed'.symm, fun constant => ?_⟩
    rw [fixed] at constant
    cases constant
  · rw [get?_set_ne s key name w here]
    exact refl s name

theorem named? (h : s.Alike t) (name : String) :
    Option.Rel (fun x y => x.1 = y.1 ∧ x.2.Alike y.2) (s.named? name) (t.named? name) := by
  have both := h name
  rw [get?, get?] at both
  cases here : s.named? name <;> cases there : t.named? name <;> rw [here, there] at both <;>
    cases both
  · exact .none
  · rename_i x y alike
    have own : x.1 = name := by simpa using List.find?_some here
    have own' : y.1 = name := by simpa using List.find?_some there
    exact .some ⟨own.trans own'.symm, alike⟩

/-- Where the same name is the first to pass, the variables that are found are alike. -/
theorem find? (h : s.Alike t) {p : String → Bool} (first : s.names.find? p = t.names.find? p) :
    Option.Rel (fun x y => x.1 = y.1 ∧ x.2.Alike y.2) (s.find? (p ·.1)) (t.find? (p ·.1)) := by
  simp only [names, List.find?_map, Function.comp_def] at first
  cases here : s.find? (p ·.1) with
  | none =>
    rw [here, Option.map_none, eq_comm, Option.map_eq_none_iff] at first
    rw [first]
    exact .none
  | some x =>
    rw [here, Option.map_some, eq_comm, Option.map_eq_some_iff] at first
    obtain ⟨y, there, same⟩ := first
    have both := h x.1
    rw [get?_of_find? here, ← same, get?_of_find? there] at both
    rw [there]
    cases both with
    | some alike => exact .some ⟨same.symm, alike⟩

end Alike

/-- Keeping a variable under a name that is there leaves the names in their places. -/
theorem names_set {key : String} {v w : Variable} (read : s.get? key = some v) :
    (s.set key w).names = s.names := by
  induction s with
  | nil => cases read
  | cons entry s ih =>
    obtain ⟨other, x⟩ := entry
    by_cases here : key = other
    · simp [Store.set, names, here]
    · have rest := ih (by simpa [get?, named?, Ne.symm here] using read)
      simpa [Store.set, names, here] using rest

/-- No two names differ in letter case alone. -/
def Apart (s : Store) : Prop :=
  ∀ x ∈ s.names, ∀ y ∈ s.names, lowerText x = lowerText y → x = y

end Store

/-- Memories whose stores are alike. -/
def Memory.Alike (m m' : Memory) : Prop := ∀ id, (m.store id).Alike (m'.store id)

namespace Memory.Alike

variable {m m' m'' : Memory}

theorem refl (m : Memory) : m.Alike m := fun id => Store.Alike.refl (m.store id)

theorem trans (h : m.Alike m') (h' : m'.Alike m'') : m.Alike m'' :=
  fun id => (h id).trans (h' id)

theorem setStore {id : StoreId} {s : Store} (h : (m.store id).Alike s) :
    m.Alike (m.setStore id s) := by
  intro other
  by_cases same : other = id
  · subst same
    by_cases inside : other < m.stores.length
    · rw [store_setStore_self m other s inside]
      exact h
    · rw [store_setStore_of_ge (Nat.le_of_not_lt inside)]
      exact Store.Alike.refl _
  · rw [store_setStore_ne m id other s same]
    exact Store.Alike.refl _

theorem rearrange (m : Memory) (id : StoreId) (s : Store) : m.Alike (m.rearrange id s) := by
  rw [Memory.rearrange]
  split
  · rename_i same
    exact .setStore (Store.Alike.of_same same).symm
  · exact refl m

end Memory.Alike

/-- Memories whose stores have the same names in the same order. -/
def Memory.SameOrder (m m' : Memory) : Prop := ∀ id, (m.store id).names = (m'.store id).names

theorem Memory.SameOrder.setStore {m : Memory} {id : StoreId} {s : Store}
    (h : (m.store id).names = s.names) : m.SameOrder (m.setStore id s) := by
  intro other
  by_cases same : other = id
  · subst same
    by_cases inside : other < m.stores.length
    · rw [store_setStore_self m other s inside, h]
    · rw [store_setStore_of_ge (Nat.le_of_not_lt inside)]
  · rw [store_setStore_ne m id other s same]

/-- The same place with variables that are alike. -/
structure Slot.Alike (x y : Slot) : Prop where
  store : x.store = y.store
  key : x.key = y.key
  content : x.content.Alike y.content

/-- The same parameter, or slots that are alike. -/
inductive NameBinding.Alike : NameBinding → NameBinding → Prop
  | parameter (i : Nat) (t : Ty) : Alike (.parameter i t) (.parameter i t)
  | kept {x y : Slot} (slots : x.Alike y) : Alike (.kept x) (.kept y)

namespace Context

variable {c : Context} {m m' : Memory}

/-- Where letter case has no meaning, names are found under the same spellings. -/
def SameSpellings (c : Context) (m m' : Memory) : Prop :=
  ∀ f ∈ c.frames, f.options.ignoreVariableCase = true → ∀ name,
    (m.store f.store).names.find? (namesEqual true · name)
      = (m'.store f.store).names.find? (namesEqual true · name)

end Context

namespace Memory.Alike

variable {m m' : Memory} (h : m.Alike m')

include h

theorem read? {id : StoreId} {key : String} {v : Variable} (read : m.read? id key = some v) :
    ∃ w, m'.read? id key = some w ∧ v.Alike w := by
  have both := h id key
  rw [← Memory.read?, ← Memory.read?, read] at both
  generalize m'.read? id key = found at both
  cases both with
  | some alike => exact ⟨_, rfl, alike⟩

theorem named? {f : Frame} {name : String} (spelt : f.options.ignoreVariableCase = true →
      (m.store f.store).names.find? (namesEqual true · name)
        = (m'.store f.store).names.find? (namesEqual true · name)) :
    Option.Rel (fun x y => x.1 = y.1 ∧ x.2.Alike y.2) (f.named? m name) (f.named? m' name) := by
  refine rel_or ((h f.store).named? name) ?_
  split
  · rename_i blind
    exact (h f.store).find? (spelt blind)
  · exact .none

theorem slot? {c : Context} (spelt : c.SameSpellings m m') (name : String) :
    Option.Rel Slot.Alike (c.slot? m name) (c.slot? m' name) := by
  refine rel_findSome? fun f mem => ?_
  exact rel_map (h.named? fun blind => spelt f mem blind name) fun _ _ both =>
    ⟨rfl, both.1, both.2⟩

/-- Names stand for the same. -/
theorem name? {c : Context} (spelt : c.SameSpellings m m') (name : String) :
    Option.Rel NameBinding.Alike (c.name? m name) (c.name? m' name) := by
  simp only [Context.name?]
  split
  · rename_i i _
    cases c.parameters[i]? with
    | none => exact .none
    | some p => exact .some (.parameter i p.ty)
  · exact rel_map (h.slot? spelt name) fun _ _ => .kept

end Memory.Alike

/-- No store gets another order in a history. -/
def History.KeepsOrder (h : History) : Prop := ∀ step ∈ h, ∀ s, step.2 ≠ .rearrange s

namespace World

/-- A history that does nothing but give slots new values of the types that they have, and stores
another order. -/
def Renews (w : World) (slots : Slot → Prop) (h : History) : Prop :=
  ∀ step ∈ h, (∃ s, step.2 = .rearrange s)
    ∨ ∃ c slot v, slots slot ∧ w.contexts[step.1]? = some c ∧ c.frame.store = slot.store
      ∧ step.2 = .setVariable slot.key v ∧ v.ty = slot.content.ty

/-- A new value of its type for a variable leads to a memory that is alike, with the names in their
places. -/
theorem alike_of_setVariable {c : Context} {m m' : Memory} {key : String} {v : Value}
    {old : Variable} (read : m.read? c.frame.store key = some old) (ty : v.ty = old.ty)
    (fixed : old.constant = false) (kept : c.setVariable m key v = .ok m') :
    m.Alike m' ∧ m.SameOrder m' := by
  obtain ⟨-, rfl⟩ := Context.store_eq_ok_iff.1 kept
  exact ⟨.setStore (.set read ty fixed rfl), .setStore (Store.names_set read).symm⟩

/-- The same contexts with a memory that is alike. -/
structure Alike (w w' : World) : Prop where
  contexts : w'.contexts = w.contexts
  memory : w.memory.Alike w'.memory

variable {w₀ w : World} {slots : Slot → Prop} {i : Nat} {a : Action} {h : History}

/-- One step that renews. -/
theorem Alike.step (alike : w₀.Alike w)
    (live : ∀ slot, slots slot → w₀.memory.read? slot.store slot.key = some slot.content
      ∧ slot.content.constant = false)
    (renews : w₀.Renews slots [(i, a)]) :
    w₀.Alike (w.step i a) ∧ (History.KeepsOrder [(i, a)] → w.memory.SameOrder (w.step i a).memory) := by
  rcases renews (i, a) List.mem_cons_self with ⟨s, rfl⟩ | ⟨c, slot, v, mem, here, store, rfl, ty⟩
  · refine ⟨?_, fun keeps => absurd rfl (keeps _ List.mem_cons_self s)⟩
    simp only [World.step]
    split
    · exact alike
    · exact ⟨alike.contexts, alike.memory.trans (.rearrange _ _ s)⟩
  · simp only [World.step, alike.contexts, here]
    split
    · rename_i m kept
      obtain ⟨read, fixed⟩ := live slot mem
      obtain ⟨old, now, still⟩ := alike.memory.read? read
      obtain ⟨renewed, inPlace⟩ := alike_of_setVariable (store ▸ now) (ty.trans still.ty)
        (still.constant.symm.trans fixed) kept
      exact ⟨⟨rfl, alike.memory.trans renewed⟩, fun _ => inPlace⟩
    · exact ⟨alike, fun _ _ => rfl⟩

/-- Renewing variables leaves the contexts as they are and leads to a memory that is alike, and
without rearrangements all names stay in their places. -/
theorem Alike.run (alike : w₀.Alike w)
    (live : ∀ slot, slots slot → w₀.memory.read? slot.store slot.key = some slot.content
      ∧ slot.content.constant = false)
    (renews : w₀.Renews slots h) :
    w₀.Alike (w.run h) ∧ (h.KeepsOrder → w.memory.SameOrder (w.run h).memory) := by
  induction h generalizing w with
  | nil => exact ⟨alike, fun _ _ => rfl⟩
  | cons entry h ih =>
    obtain ⟨first, rest⟩ := List.forall_mem_cons.1 renews
    obtain ⟨alike, inPlace⟩ := alike.step live (List.forall_mem_singleton.2 first)
    obtain ⟨alike, inPlace'⟩ := ih alike rest
    refine ⟨alike, fun keeps id => ?_⟩
    obtain ⟨first, rest⟩ := List.forall_mem_cons.1 keeps
    exact (inPlace (List.forall_mem_singleton.2 first) id).trans (inPlace' rest id)

end World

end ExprLang
