import ExprLang.Value.Basic

set_option autoImplicit false

/-!
Variables and the stores that hold them. Contexts name stores by number, so that a compiled
expression sees later values of the variables it was compiled with.
-/

namespace ExprLang

/-- A variable. The value of a constant is taken into compiled expressions. -/
structure Variable where
  value : Value
  constant : Bool
deriving DecidableEq

/-- The static type of a variable is that of the value it holds. -/
def Variable.ty (v : Variable) : Ty := v.value.ty

/-- Variables by name. The list has them in the order in which they are gone through, which is any
and need not stay. -/
abbrev Store := List (String × Variable)

namespace Store

/-- The variable under a name, with the name. -/
def named? (s : Store) (name : String) : Option (String × Variable) := s.find? (·.1 = name)

def get? (s : Store) (name : String) : Option Variable := (s.named? name).map (·.2)

def names (s : Store) : List String := s.map (·.1)

/-- Whether two stores have the same variable under each name, in whatever order. -/
def Same (s t : Store) : Prop := ∀ name, s.get? name = t.get? name

/-- Puts a variable under a name, in place of the one that was there. -/
def set (name : String) (v : Variable) : Store → Store
  | [] => [(name, v)]
  | (key, w) :: s => if name = key then (key, v) :: s else (key, w) :: set name v s

def erase (s : Store) (name : String) : Store := s.filter (·.1 ≠ name)

theorem named?_set_self (s : Store) (name : String) (v : Variable) :
    (s.set name v).named? name = some (name, v) := by
  induction s with
  | nil => simp [set, named?]
  | cons entry s ih =>
    obtain ⟨key, w⟩ := entry
    by_cases h : name = key
    · simp [set, named?, h]
    · simpa [set, named?, h, Ne.symm h] using ih

theorem named?_set_ne (s : Store) (name other : String) (v : Variable) (h : other ≠ name) :
    (s.set name v).named? other = s.named? other := by
  induction s with
  | nil => simp [set, named?, Ne.symm h]
  | cons entry s ih =>
    obtain ⟨key, w⟩ := entry
    by_cases hk : name = key
    · subst hk
      simp [set, named?, Ne.symm h]
    · by_cases ho : key = other
      · subst ho
        simp [set, named?, hk]
      · simpa [set, named?, hk, ho] using ih

theorem get?_set_self (s : Store) (name : String) (v : Variable) :
    (s.set name v).get? name = some v := by
  rw [get?, named?_set_self, Option.map_some]

theorem get?_set_ne (s : Store) (name other : String) (v : Variable) (h : other ≠ name) :
    (s.set name v).get? other = s.get? other := by
  rw [get?, named?_set_ne s name other v h, get?]

end Store

abbrev StoreId := Nat

/-- All stores; the number of a store is its place. -/
structure Memory where
  stores : List Store := []

namespace Memory

/-- The store of a number, which is empty if there is none yet. -/
def store (m : Memory) (id : StoreId) : Store := m.stores[id]?.getD []

def setStore (m : Memory) (id : StoreId) (s : Store) : Memory := ⟨m.stores.set id s⟩

def allocate (m : Memory) : StoreId × Memory := (m.stores.length, ⟨m.stores ++ [[]]⟩)

theorem store_setStore_self (m : Memory) (id : StoreId) (s : Store) (h : id < m.stores.length) :
    (m.setStore id s).store id = s := by
  simp [store, setStore, h]

theorem store_setStore_ne (m : Memory) (id other : StoreId) (s : Store) (h : other ≠ id) :
    (m.setStore id s).store other = m.store other := by
  simp [store, setStore, List.getElem?_set_ne (Ne.symm h)]

end Memory

end ExprLang
