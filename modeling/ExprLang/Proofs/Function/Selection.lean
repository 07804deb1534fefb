import Mathlib.Data.List.Perm.Basic
import ExprLang.Proofs.Typing.Conversion
import ExprLang.Function.Overload

set_option autoImplicit false

/-!
The choice among the handles of a group. What may be passed for what is an order on types, so a
handle that takes the arguments exactly is below all others that take them, and the choice is the
least handle that takes the arguments, whether or not it takes them exactly.
-/

namespace ExprLang

/-! The order on types -/

theorem Ty.assignableTo_antisymm {t u : Ty} (h : t.assignableTo u = true)
    (h' : u.assignableTo t = true) : t = u := by
  rcases assignableTo_cases h with same | rfl | ⟨k, l, rfl, rfl, widens⟩
  · exact same.symm
  · rcases assignableTo_cases h' with same | same | ⟨k, l, object, -, -⟩
    · exact same
    · exact same
    · cases object
  · rcases assignableTo_cases h' with same | same | ⟨k', l', first, second, back⟩
    · exact same
    · cases same
    · cases first
      cases second
      have oneWay := Kind.widensTo_asymm k l widens
      rw [oneWay] at back
      cases back

theorem assignableAll_antisymm {ts us : List Ty} (h : assignableAll ts us = true)
    (h' : assignableAll us ts = true) : ts = us := by
  induction ts generalizing us with
  | nil =>
    cases us with
    | nil => rfl
    | cons u us => cases h
  | cons t ts ih =>
    cases us with
    | nil => cases h
    | cons u us =>
      simp only [assignableAll, Bool.and_eq_true] at h h'
      have head := Ty.assignableTo_antisymm h.1 h'.1
      have tail := ih h.2 h'.2
      rw [head, tail]

theorem Ty.assignableTo_trans {t u w : Ty} (h : t.assignableTo u = true)
    (h' : u.assignableTo w = true) : t.assignableTo w = true := by
  rcases assignableTo_cases h' with rfl | rfl | ⟨k, l, rfl, rfl, widens⟩
  · exact h
  · exact assignableTo_object t
  · rcases assignableTo_cases h with rfl | object | ⟨k', l', rfl, same, widens'⟩
    · exact h'
    · cases object
    · cases same
      simp [assignableTo, Kind.widensTo_trans k' k l widens' widens]

theorem assignableAll_trans {ts us ws : List Ty} (h : assignableAll ts us = true)
    (h' : assignableAll us ws = true) : assignableAll ts ws = true := by
  induction ts generalizing us ws with
  | nil =>
    cases us with
    | nil => exact h'
    | cons u us => cases h
  | cons t ts ih =>
    cases us with
    | nil => cases h
    | cons u us =>
      cases ws with
      | nil => cases h'
      | cons w ws =>
        simp only [assignableAll, Bool.and_eq_true] at h h' ⊢
        exact ⟨Ty.assignableTo_trans h.1 h'.1, ih h.2 h'.2⟩

namespace Group

variable {g g' : Group} {ts us : List Ty} {h k : Handle}

/-- The least handle that takes the arguments: every other one that takes them has other parameters,
for which those of the least may be passed. -/
def Least (g : Group) (ts : List Ty) (h : Handle) : Prop :=
  ∃ others, g.Perm (h :: others) ∧ h.accepts ts = true
    ∧ ∀ k ∈ others, k.accepts ts = true → h.asSpecificAs k = true ∧ k.parameters ≠ h.parameters

/-- The choice by the order alone, with no place for exact matches. -/
def leastOf (g : Group) (ts : List Ty) : Except NoMatch Handle :=
  let candidates := g.filter (·.accepts ts)
  match candidates.filter fun h => candidates.all (h.asSpecificAs ·) with
  | [h] => .ok h
  | _ => if candidates.isEmpty then .error .none else .error .ambiguous

/-- Whether a handle takes the arguments and is as specific as all that take them. -/
def isLeast (g : Group) (ts : List Ty) (h : Handle) : Bool :=
  h.accepts ts && (g.filter (·.accepts ts)).all (h.asSpecificAs ·)

theorem isLeast_iff : g.isLeast ts h = true
    ↔ h.accepts ts = true ∧ ∀ k ∈ g, k.accepts ts = true → h.asSpecificAs k = true := by
  simp only [isLeast, Bool.and_eq_true, List.all_eq_true, List.mem_filter, and_imp]

theorem leasts_eq (g : Group) (ts : List Ty) :
    ((g.filter (·.accepts ts)).filter fun h => (g.filter (·.accepts ts)).all (h.asSpecificAs ·))
      = g.filter (g.isLeast ts) := by
  rw [List.filter_filter]
  refine List.filter_congr fun h _ => ?_
  rw [isLeast, Bool.and_comm]

theorem exists_perm_of_mem (mem : h ∈ g) : ∃ others, g.Perm (h :: others) := by
  obtain ⟨before, after, rfl⟩ := List.append_of_mem mem
  exact ⟨before ++ after, List.perm_middle⟩

/-- Where one handle alone meets a condition, none of the others does. -/
theorem others_of_filter {others : Group} {p : Handle → Bool} (alone : g.filter p = [h])
    (split : g.Perm (h :: others)) : ∀ k ∈ others, p k = false := by
  have holds : p h = true := (List.mem_filter.1 (alone ▸ List.mem_singleton_self h)).2
  have counted := (split.filter p).length_eq
  rw [alone, List.filter_cons_of_pos holds] at counted
  have empty : others.filter p = [] := List.length_eq_zero_iff.1 (by simpa using counted.symm)
  intro k mem
  exact Bool.eq_false_iff.2 (List.filter_eq_nil_iff.1 empty k mem)

/-- The handles that are as specific as all others are only one when it is the least. -/
theorem leasts_eq_singleton_iff : g.filter (g.isLeast ts) = [h] ↔ g.Least ts h := by
  constructor
  · intro alone
    have ⟨mem, least⟩ := List.mem_filter.1 (alone ▸ List.mem_singleton_self h)
    obtain ⟨accepts, below⟩ := isLeast_iff.1 least
    obtain ⟨others, split⟩ := exists_perm_of_mem mem
    refine ⟨others, split, accepts, fun k other takes => ?_⟩
    have inGroup : k ∈ g := split.mem_iff.2 (List.mem_cons_of_mem h other)
    refine ⟨below k inGroup takes, fun same => ?_⟩
    have notLeast := others_of_filter alone split k other
    have least' : g.isLeast ts k = true := by
      simpa only [isLeast, Handle.accepts, Handle.asSpecificAs, same] using least
    rw [notLeast] at least'
    cases least'
  · intro ⟨others, split, accepts, below⟩
    have least : g.isLeast ts h = true := by
      refine isLeast_iff.2 ⟨accepts, fun k mem takes => ?_⟩
      rcases List.mem_cons.1 (split.mem_iff.1 mem) with rfl | other
      · exact assignableAll_refl k.parameters
      · exact (below k other takes).1
    have empty : others.filter (g.isLeast ts) = [] := by
      refine List.filter_eq_nil_iff.2 fun k other least' => ?_
      obtain ⟨takes, below'⟩ := isLeast_iff.1 least'
      have ⟨under, different⟩ := below k other takes
      have above := below' h (split.mem_iff.2 List.mem_cons_self) accepts
      exact different (assignableAll_antisymm above under)
    have filtered := split.filter (g.isLeast ts)
    rw [List.filter_cons_of_pos least, empty] at filtered
    exact List.perm_singleton.1 filtered

/-- If there are exact matches they are the handles that are as specific as all others. -/
theorem exact_eq_leasts (mem : k ∈ g) (exactly : k.parameters = ts) :
    (g.filter (·.accepts ts)).filter (·.parameters = ts) = g.filter (g.isLeast ts) := by
  have takes : k.accepts ts = true := by
    rw [Handle.accepts, exactly]
    exact assignableAll_refl ts
  rw [List.filter_filter]
  refine List.filter_congr fun h _ => Bool.eq_iff_iff.2 ?_
  rw [Bool.and_eq_true, decide_eq_true_eq, isLeast_iff]
  constructor
  · intro ⟨same, accepts⟩
    refine ⟨accepts, fun other _ takes => ?_⟩
    rwa [Handle.asSpecificAs, same]
  · intro ⟨accepts, below⟩
    have under := below k mem takes
    rw [Handle.asSpecificAs, exactly] at under
    exact ⟨assignableAll_antisymm under accepts, accepts⟩

/-- The look at exact matches is a shortcut. -/
theorem resolve_eq_leastOf (g : Group) (ts : List Ty) : g.resolve ts = g.leastOf ts := by
  unfold resolve leastOf
  dsimp only
  cases exacts : (g.filter (·.accepts ts)).filter (·.parameters = ts) with
  | nil => rfl
  | cons h rest =>
    have found : h ∈ (g.filter (·.accepts ts)).filter (·.parameters = ts) :=
      exacts ▸ List.mem_cons_self
    have ⟨candidate, exactly⟩ := List.mem_filter.1 found
    have mem := (List.mem_filter.1 candidate).1
    have same := exact_eq_leasts mem (of_decide_eq_true exactly)
    rw [leasts_eq, ← same, exacts]
    cases rest with
    | nil => rfl
    | cons k rest =>
      have inhabited : (g.filter (·.accepts ts)).isEmpty = false := by
        rw [List.isEmpty_eq_false_iff]
        exact List.ne_nil_of_mem candidate
      simp only [inhabited]
      rfl

/-! The outcomes -/

theorem resolve_eq_ok_iff : g.resolve ts = .ok h ↔ g.Least ts h := by
  rw [resolve_eq_leastOf, ← leasts_eq_singleton_iff, ← leasts_eq]
  unfold leastOf
  dsimp only
  split
  · rename_i found
    rw [found]
    simp
  · rename_i several
    constructor
    · intro chosen
      split at chosen <;> cases chosen
    · intro found
      exact absurd found (several h)

theorem resolve_eq_none_iff :
    g.resolve ts = .error .none ↔ ∀ h ∈ g, h.accepts ts = false := by
  rw [resolve_eq_leastOf]
  unfold leastOf
  dsimp only
  split
  · rename_i h found
    have least : h ∈ g.filter (g.isLeast ts) := by
      rw [← leasts_eq, found]
      exact List.mem_singleton_self h
    have ⟨mem, isLeast⟩ := List.mem_filter.1 least
    have takes := (isLeast_iff.1 isLeast).1
    constructor
    · intro missing
      cases missing
    · intro refused
      rw [refused h mem] at takes
      cases takes
  · simp

theorem resolve_eq_ambiguous_iff : g.resolve ts = .error .ambiguous
    ↔ (∃ h ∈ g, h.accepts ts = true) ∧ ∀ h, ¬ g.Least ts h := by
  cases outcome : g.resolve ts with
  | ok h =>
    have least := resolve_eq_ok_iff.1 outcome
    constructor
    · intro ambiguous
      cases ambiguous
    · intro ⟨_, unchosen⟩
      exact absurd least (unchosen h)
  | error e =>
    have noLeast : ∀ h, ¬ g.Least ts h := by
      intro h least
      rw [resolve_eq_ok_iff.2 least] at outcome
      cases outcome
    have missing : g.resolve ts = .error .none ↔ ∀ h ∈ g, h.accepts ts = false :=
      resolve_eq_none_iff
    rw [outcome] at missing
    cases e with
    | none =>
      have refused := missing.1 rfl
      simp only [reduceCtorEq, Except.error.injEq, false_iff]
      intro ⟨⟨h, mem, takes⟩, _⟩
      rw [refused h mem] at takes
      cases takes
    | ambiguous =>
      simp only [true_iff]
      refine ⟨?_, noLeast⟩
      by_contra untaken
      have refused : ∀ h ∈ g, h.accepts ts = false :=
        fun h mem => Bool.eq_false_iff.2 fun takes => untaken ⟨h, mem, takes⟩
      cases missing.2 refused

/-! Other groups with the same choice -/

theorem Least.perm (least : g.Least ts h) (same : g.Perm g') : g'.Least ts h := by
  obtain ⟨others, split, rest⟩ := least
  exact ⟨others, same.symm.trans split, rest⟩

theorem resolve_perm (same : g.Perm g') : g'.resolve ts = g.resolve ts := by
  cases outcome : g.resolve ts with
  | ok h => exact resolve_eq_ok_iff.2 ((resolve_eq_ok_iff.1 outcome).perm same)
  | error e =>
    cases e with
    | none =>
      have refused := resolve_eq_none_iff.1 outcome
      exact resolve_eq_none_iff.2 fun h mem => refused h (same.mem_iff.2 mem)
    | ambiguous =>
      obtain ⟨⟨h, mem, takes⟩, noLeast⟩ := resolve_eq_ambiguous_iff.1 outcome
      refine resolve_eq_ambiguous_iff.2 ⟨⟨h, same.mem_iff.1 mem, takes⟩, fun k least => ?_⟩
      exact noLeast k (least.perm same.symm)

/-- The choice looks at the handles that take the arguments only. -/
theorem resolve_congr (same : g.filter (·.accepts ts) = g'.filter (·.accepts ts)) :
    g.resolve ts = g'.resolve ts := by
  unfold resolve
  rw [same]

/-- A handle that does not take the arguments has no part in the choice. -/
theorem resolve_insert (before after : Group) (h : k.accepts ts = false) :
    Group.resolve (before ++ k :: after) ts = Group.resolve (before ++ after) ts := by
  have refused : ¬ k.accepts ts = true := Bool.eq_false_iff.1 h
  refine resolve_congr ?_
  rw [List.filter_append, List.filter_append, List.filter_cons_of_neg (by exact refused)]

/-- A handle above the least one leaves it the least. -/
theorem Least.insert {before after : Group} (least : Least (before ++ after) ts h)
    (above : h.asSpecificAs k = true) (different : k.parameters ≠ h.parameters) :
    Least (before ++ k :: after) ts h := by
  obtain ⟨others, split, accepts, below⟩ := least
  have moved : (before ++ k :: after).Perm (h :: k :: others) :=
    List.perm_middle.trans ((split.cons k).trans (List.Perm.swap h k others))
  refine ⟨k :: others, moved, accepts, fun other mem takes => ?_⟩
  rcases List.mem_cons.1 mem with rfl | mem
  · exact ⟨above, different⟩
  · exact below other mem takes

/-- The least handle stays the least for arguments that are closer to its parameters. -/
theorem Least.widen (least : g.Least ts h) (wider : assignableAll ts us = true)
    (takes : h.accepts us = true) : g.Least us h := by
  obtain ⟨others, split, -, below⟩ := least
  refine ⟨others, split, takes, fun k mem takes' => below k mem ?_⟩
  exact assignableAll_trans wider takes'

/-- A handle that alone has the types of the arguments as parameters is chosen. -/
theorem resolve_of_exact (alone : g.filter (·.parameters = ts) = [h]) : g.resolve ts = .ok h := by
  have exacts : (g.filter (·.accepts ts)).filter (·.parameters = ts)
      = g.filter (·.parameters = ts) := by
    rw [List.filter_filter]
    refine List.filter_congr fun k _ => ?_
    by_cases same : k.parameters = ts
    · simp [same, Handle.accepts, assignableAll_refl]
    · simp [same]
  rw [resolve]
  simp only [exacts, alone]

/-- How a group chooses among its handles. -/
structure ChoosesLeast (g : Group) (ts : List Ty) : Prop where
  chosen : ∀ h, g.resolve ts = .ok h ↔ g.Least ts h
  missing : g.resolve ts = .error .none ↔ ∀ h ∈ g, h.accepts ts = false
  ambiguous : g.resolve ts = .error .ambiguous
    ↔ (∃ h ∈ g, h.accepts ts = true) ∧ ∀ h, ¬ g.Least ts h
  /-- Exact matches are no exception to the rule. -/
  shortcut : g.resolve ts = g.leastOf ts
  order : ∀ g', g.Perm g' → Group.resolve g' ts = g.resolve ts
  /-- One more handle, anywhere, that does not take the arguments. -/
  refusing : ∀ before after k, g = before ++ after → k.accepts ts = false →
    Group.resolve (before ++ k :: after) ts = g.resolve ts
  /-- One more handle, anywhere, with other parameters for which those of the chosen one may be
  passed. -/
  lessSpecific : ∀ before after k h, g = before ++ after → g.resolve ts = .ok h →
    h.asSpecificAs k = true → k.parameters ≠ h.parameters →
    Group.resolve (before ++ k :: after) ts = .ok h

/-- Every group chooses the least of its handles that take the arguments. -/
theorem choosesLeast (g : Group) (ts : List Ty) : g.ChoosesLeast ts where
  chosen _ := resolve_eq_ok_iff
  missing := resolve_eq_none_iff
  ambiguous := resolve_eq_ambiguous_iff
  shortcut := resolve_eq_leastOf g ts
  order _ := resolve_perm
  refusing before after k split refused := by
    rw [split]
    exact resolve_insert before after refused
  lessSpecific before after k h split chosen above different := by
    rw [split] at chosen
    have least := (resolve_eq_ok_iff.1 chosen).insert above different
    exact resolve_eq_ok_iff.2 least

end Group

end ExprLang
