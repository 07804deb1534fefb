import Mathlib.Data.List.Forall2
import ExprLang.Proofs.Typing.Conversion

set_option autoImplicit false

/-!
What a context resolves names, calls and members to: a parameter with a value among the arguments, a
variable with its value, a handle that takes the arguments, a member of the target's type.
-/

namespace ExprLang

/-- One by one, values are instances of types. -/
abbrev Fits (vs : List Value) (ts : List Ty) : Prop :=
  List.Forall₂ (fun v t => v.isInstanceOf t = true) vs ts

/-- On arguments of its parameter types a handle yields nothing but values of its result type. -/
def Handle.Faithful (h : Handle) : Prop :=
  ∀ vs v, Fits vs h.parameters → h.run vs = .ok v → v.isInstanceOf h.result = true

/-- On a target of its type a member yields nothing but values of the member's type. -/
def Member.Faithful (found : Member) (target : Ty) : Prop :=
  ∀ v r, v.isNull = false → v.isInstanceOf target = true → found.read v = .ok r →
    r.isInstanceOf found.ty = true

/-- All handles of a chain of contexts and all members of its language are faithful. -/
structure Context.Faithful (c : Context) : Prop where
  functions : ∀ f ∈ c.frames, ∀ entry ∈ f.functions, ∀ h ∈ entry.2, h.Faithful
  members : ∀ target name found, c.frame.members target name = .found found →
    found.Faithful target

namespace MemberTable

theorem stringLength_faithful : stringLength.Faithful .string := by
  intro v r present typed read
  have text : ∃ s, v = .string s := by
    rcases Value.isInstanceOf_string_iff.1 typed with rfl | text
    · cases present
    · exact text
  obtain ⟨s, rfl⟩ := text
  simp only [stringLength] at read
  split at read
  · cases read
    rfl
  · cases read

/-- The members that a language starts with are faithful. -/
theorem standard_faithful {target : Ty} {name : String} {found : Member}
    (h : standard.resolver target name = .found found) : found.Faithful target := by
  by_cases here : (Ty.string = target && "Length" = name) = true
  · simp only [resolver, standard, List.filter_cons, here, if_true, List.filter_nil] at h
    cases h
    simp only [Bool.and_eq_true, decide_eq_true_eq] at here
    rw [← here.1]
    exact stringLength_faithful
  · simp only [resolver, standard, List.filter_cons, here, List.filter_nil] at h
    cases h

end MemberTable

namespace Group

theorem mem_addNew {g : Group} {h h' : Handle} (mem : h ∈ g.addNew h') : h ∈ g ∨ h = h' := by
  simp only [addNew] at mem
  split at mem
  · exact .inl mem
  · simpa using mem

theorem mem_merge {g fallback : Group} {h : Handle} (mem : h ∈ g.merge fallback) :
    h ∈ g ∨ h ∈ fallback := by
  induction fallback generalizing g with
  | nil => exact .inl mem
  | cons h' fallback ih =>
    rcases ih mem with mem | mem
    · rcases mem_addNew mem with mem | rfl
      · exact .inl mem
      · exact .inr List.mem_cons_self
    · exact .inr (List.mem_cons_of_mem _ mem)

theorem mem_mergeOption {g g' : Option Group} {merged : Group} {h : Handle}
    (eq : mergeOption g g' = some merged) (mem : h ∈ merged) :
    (∃ k, g = some k ∧ h ∈ k) ∨ ∃ k, g' = some k ∧ h ∈ k := by
  cases g with
  | none =>
    cases g' with
    | none => cases eq
    | some k =>
      cases eq
      exact .inr ⟨_, rfl, mem⟩
  | some k =>
    cases g' with
    | none =>
      cases eq
      exact .inl ⟨_, rfl, mem⟩
    | some k' =>
      cases eq
      rcases mem_merge mem with mem | mem
      · exact .inl ⟨k, rfl, mem⟩
      · exact .inr ⟨k', rfl, mem⟩

theorem mem_of_resolve {g : Group} {ts : List Ty} {h : Handle} (chosen : g.resolve ts = .ok h) :
    h ∈ g ∧ h.accepts ts = true := by
  have sub : ∀ (p : Handle → Bool), h ∈ (g.filter (·.accepts ts)).filter p →
      h ∈ g ∧ h.accepts ts = true :=
    fun p mem => List.mem_filter.1 (List.mem_filter.1 mem).1
  simp only [resolve] at chosen
  split at chosen
  · rename_i single
    cases chosen
    exact sub _ (single ▸ List.mem_singleton_self h)
  · cases chosen
  · split at chosen
    · rename_i single
      cases chosen
      exact sub _ (single ▸ List.mem_singleton_self h)
    · split at chosen <;> cases chosen

end Group

theorem Frame.mem_of_group? {f : Frame} {name : String} {g : Group} {h : Handle}
    (eq : f.group? name = some g) (mem : h ∈ g) : ∃ entry ∈ f.functions, h ∈ entry.2 := by
  have step : ∀ (entries : List (String × Group)) (found : Option Group),
      entries.foldl (fun found entry => Group.mergeOption found (some entry.2)) found = some g →
        (∃ k, found = some k ∧ h ∈ k) ∨ ∃ entry ∈ entries, h ∈ entry.2 := by
    intro entries
    induction entries with
    | nil => exact fun found eq => .inl ⟨g, eq, mem⟩
    | cons entry entries ih =>
      intro found eq
      rcases ih _ eq with ⟨k, merged, mem⟩ | ⟨entry', mem', mem⟩
      · rcases Group.mem_mergeOption merged mem with before | ⟨k', same, mem⟩
        · exact .inl before
        · cases same
          exact .inr ⟨entry, List.mem_cons_self, mem⟩
      · exact .inr ⟨entry', List.mem_cons_of_mem _ mem', mem⟩
  rcases step _ none eq with ⟨k, none, -⟩ | ⟨entry, mem', mem⟩
  · cases none
  · exact ⟨entry, (List.mem_filter.1 mem').1, mem⟩

namespace Context

variable {c : Context} {m : Memory}

theorem mem_of_group? {name : String} {g : Group} {h : Handle} (eq : c.group? name = some g)
    (mem : h ∈ g) : ∃ f ∈ c.frames, ∃ entry ∈ f.functions, h ∈ entry.2 := by
  have step : ∀ (frames : List Frame) (g : Group),
      frames.foldr (fun f inherited => Group.mergeOption (f.group? name) inherited) none = some g →
        h ∈ g → ∃ f ∈ frames, ∃ entry ∈ f.functions, h ∈ entry.2 := by
    intro frames
    induction frames with
    | nil =>
      intro g eq
      cases eq
    | cons f frames ih =>
      intro g eq mem
      rcases Group.mem_mergeOption eq mem with ⟨k, own, mem⟩ | ⟨k, inherited, mem⟩
      · exact ⟨f, List.mem_cons_self, Frame.mem_of_group? own mem⟩
      · obtain ⟨f', mem', entry⟩ := ih k inherited mem
        exact ⟨f', List.mem_cons_of_mem _ mem', entry⟩
  exact step _ g eq mem

theorem mem_of_handle {name : String} {ts : List Ty} {h : Handle} (eq : c.handle name ts = .ok h) :
    (∃ f ∈ c.frames, ∃ entry ∈ f.functions, h ∈ entry.2)
      ∧ assignableAll ts h.parameters = true := by
  simp only [handle] at eq
  split at eq
  · cases eq
  · rename_i g group
    split at eq
    · rename_i chosen
      cases eq
      obtain ⟨mem, accepts⟩ := Group.mem_of_resolve chosen
      exact ⟨mem_of_group? group mem, accepts⟩
    · cases eq
    · cases eq

theorem Faithful.handle (hc : c.Faithful) {name : String} {ts : List Ty} {h : Handle}
    (eq : c.handle name ts = .ok h) : h.Faithful := by
  obtain ⟨⟨f, hf, entry, mem, hmem⟩, -⟩ := mem_of_handle eq
  exact hc.functions f hf entry mem h hmem

theorem Faithful.member (hc : c.Faithful) {target : Ty} {name : String} {found : Member}
    (eq : c.member target name = .ok found) : found.Faithful target := by
  simp only [Context.member] at eq
  split at eq
  · rename_i lookup
    cases eq
    exact hc.members target name found lookup
  · cases eq
  · cases eq

theorem parameters_of_name? {name : String} {i : Nat} {t : Ty}
    (eq : c.name? m name = some (.parameter i t)) : ∃ p, c.parameters[i]? = some p ∧ p.ty = t := by
  simp only [name?] at eq
  split at eq
  · obtain ⟨p, hp, same⟩ := Option.map_eq_some_iff.1 eq
    cases same
    exact ⟨p, hp, rfl⟩
  · obtain ⟨slot, -, same⟩ := Option.map_eq_some_iff.1 eq
    cases same

end Context

/-- Arguments are accepted when each is an instance of the type of its parameter. -/
theorem checkArguments_eq_ok_iff {ps : List Parameter} {args : List Value} :
    checkArguments ps args = .ok () ↔ Fits args (ps.map (·.ty)) := by
  have step : ps.length = args.length →
      ((ps.zip args).find? (fun x => ¬ x.2.isInstanceOf x.1.ty = true) = none
        ↔ Fits args (ps.map (·.ty))) := by
    induction ps generalizing args with
    | nil =>
      intro length
      cases args with
      | nil => simp
      | cons v args => cases length
    | cons p ps ih =>
      intro length
      cases args with
      | nil => cases length
      | cons v args =>
        have rest := @ih args (by simpa using length)
        simp only [List.zip_cons_cons, List.map_cons, List.forall₂_cons, ← rest]
        by_cases fit : v.isInstanceOf p.ty = true
        · simp only [List.find?_cons, fit, not_true_eq_false, decide_false, true_and]
        · simp [fit]
  simp only [checkArguments]
  split
  · rename_i length
    simp only [reduceCtorEq, false_iff]
    intro fits
    exact length (by simpa using fits.length_eq.symm)
  · rename_i length
    rw [← step (Decidable.not_not.1 length)]
    split <;> simp_all

/-- An accepted argument is there and is an instance of the type of its parameter. -/
theorem argument_of_fits {ps : List Parameter} {args : List Value}
    (fits : Fits args (ps.map (·.ty))) {i : Nat} {p : Parameter} (hp : ps[i]? = some p)
    (name : String) : ∃ v, argument args i name = .ok v ∧ v.isInstanceOf p.ty = true := by
  have bound : i < ps.length := (List.getElem?_eq_some_iff.1 hp).1
  have length : args.length = ps.length := by simpa using fits.length_eq
  have inside : i < args.length := length ▸ bound
  refine ⟨args[i], ?_, ?_⟩
  · simp [argument, List.getElem?_eq_getElem inside]
  · have instanceOf := fits.get inside (by simpa using bound)
    have same := (List.getElem?_eq_some_iff.1 hp).2
    simpa [same] using instanceOf

end ExprLang
