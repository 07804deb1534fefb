import ExprLang.Proofs.Function.Selection
import ExprLang.Proofs.Typing.Resolution

set_option autoImplicit false

/-!
Merged groups. Of the handles of the second group those come through whose parameters are new, so
conditions on parameters can be looked at before or after. Merging leaves one handle for each list
of parameters of the second group; the choice among its handles notices this only where the most
specific parameters were there more than once.
-/

namespace ExprLang.Group

variable {g g' fallback : Group} {ts ps : List Ty} {h k : Handle} {p : Handle → Bool}

/-- A condition on handles that looks at nothing but their parameters. -/
def OfParameters (p : Handle → Bool) : Prop := ∀ h k, h.parameters = k.parameters → p h = p k

theorem ofParameters_parameters (ps : List Ty) : OfParameters (·.parameters = ps) := by
  intro h k same
  simp only [same]

theorem ofParameters_accepts (ts : List Ty) : OfParameters (·.accepts ts) := by
  intro h k same
  simp only [Handle.accepts, same]

theorem ofParameters_isLeast (g : Group) (ts : List Ty) : OfParameters (g.isLeast ts) := by
  intro h k same
  simp only [isLeast, Handle.accepts, Handle.asSpecificAs, same]

theorem merge_nil (g : Group) : g.merge [] = g := rfl

theorem merge_cons (g fallback : Group) (h : Handle) :
    g.merge (h :: fallback) = (g.addNew h).merge fallback := rfl

theorem foldl_mergeOption_some (g : Group) (entries : List (String × Group)) :
    entries.foldl (fun found entry => mergeOption found (some entry.2)) (some g)
      = some (g.merge (entries.flatMap (·.2))) := by
  induction entries generalizing g with
  | nil => rfl
  | cons entry entries ih =>
    have first : mergeOption (some g) (some entry.2) = some (g.merge entry.2) := rfl
    have flat : g.merge (entry.2 ++ entries.flatMap (·.2))
        = (g.merge entry.2).merge (entries.flatMap (·.2)) := List.foldl_append
    rw [List.foldl_cons, first, ih, List.flatMap_cons, flat]

theorem addNew_of_mem (mem : k ∈ g) (same : k.parameters = h.parameters) : g.addNew h = g := by
  rw [addNew, if_pos]
  exact List.any_eq_true.2 ⟨k, mem, decide_eq_true same⟩

theorem addNew_of_new (new : ∀ k ∈ g, k.parameters ≠ h.parameters) : g.addNew h = g ++ [h] := by
  rw [addNew, if_neg]
  intro found
  obtain ⟨k, mem, same⟩ := List.any_eq_true.1 found
  exact new k mem (of_decide_eq_true same)

/-- A handle is shadowed by one with the same parameters, or it is new. -/
theorem shadowed_or_new (g : Group) (h : Handle) :
    (∃ k ∈ g, k.parameters = h.parameters) ∨ ∀ k ∈ g, k.parameters ≠ h.parameters := by
  by_cases shadowed : ∃ k ∈ g, k.parameters = h.parameters
  · exact .inl shadowed
  · exact .inr fun k mem same => shadowed ⟨k, mem, same⟩

theorem filter_addNew (hp : OfParameters p) (g : Group) (h : Handle) :
    (g.addNew h).filter p = if p h then addNew (g.filter p) h else g.filter p := by
  rcases shadowed_or_new g h with ⟨k, mem, same⟩ | new
  · rw [addNew_of_mem mem same]
    split
    · rename_i holds
      have kept : k ∈ g.filter p := List.mem_filter.2 ⟨mem, (hp k h same).trans holds⟩
      rw [addNew_of_mem kept same]
    · rfl
  · rw [addNew_of_new new, List.filter_append]
    split
    · rename_i holds
      have stillNew : ∀ k ∈ g.filter p, k.parameters ≠ h.parameters :=
        fun k mem => new k (List.mem_filter.1 mem).1
      rw [addNew_of_new stillNew, List.filter_cons_of_pos holds, List.filter_nil]
    · rename_i fails
      rw [List.filter_cons_of_neg fails, List.filter_nil, List.append_nil]

/-- A condition on parameters can be looked at before groups are merged. -/
theorem filter_merge (hp : OfParameters p) (g fallback : Group) :
    (g.merge fallback).filter p = merge (g.filter p) (fallback.filter p) := by
  induction fallback generalizing g with
  | nil => rfl
  | cons h fallback ih =>
    rw [merge_cons, ih, filter_addNew hp]
    split
    · rename_i holds
      rw [List.filter_cons_of_pos holds, merge_cons]
    · rename_i fails
      rw [List.filter_cons_of_neg fails]

/-- A handle shadows all that have its parameters. -/
theorem merge_of_mem (mem : k ∈ g) (same : ∀ h ∈ fallback, k.parameters = h.parameters) :
    g.merge fallback = g := by
  induction fallback with
  | nil => rfl
  | cons h fallback ih =>
    obtain ⟨first, rest⟩ := List.forall_mem_cons.1 same
    rw [merge_cons, addNew_of_mem mem first, ih rest]

/-- Of handles with the same parameters the first is left. -/
theorem nil_merge (same : ∀ h ∈ fallback, ∀ k ∈ fallback, h.parameters = k.parameters) :
    merge [] fallback = fallback.take 1 := by
  cases fallback with
  | nil => rfl
  | cons h fallback =>
    have first : addNew [] h = [h] := addNew_of_new (by simp)
    rw [merge_cons, first, List.take_succ_cons, List.take_zero]
    exact merge_of_mem (List.mem_singleton_self h) fun k mem =>
      same h List.mem_cons_self k (List.mem_cons_of_mem h mem)

/-- Groups without common parameters are put one after the other. -/
theorem merge_of_apart (apart : (g ++ fallback).Pairwise (·.parameters ≠ ·.parameters)) :
    g.merge fallback = g ++ fallback := by
  induction fallback generalizing g with
  | nil => rw [merge_nil, List.append_nil]
  | cons h fallback ih =>
    have new : ∀ k ∈ g, k.parameters ≠ h.parameters := fun k mem =>
      (List.pairwise_append.1 apart).2.2 k mem h List.mem_cons_self
    rw [List.append_cons] at apart ⊢
    rw [merge_cons, addNew_of_new new, ih apart]

/-- For each list of parameters the handles of the first group that have them are left, or else the
first one of the second group. -/
theorem filter_parameters_merge (g fallback : Group) (ps : List Ty) :
    (g.merge fallback).filter (·.parameters = ps)
      = if ∃ h ∈ g, h.parameters = ps then g.filter (·.parameters = ps)
        else (fallback.filter (·.parameters = ps)).take 1 := by
  have all : ∀ {g : Group} {h : Handle}, h ∈ g.filter (·.parameters = ps) → h.parameters = ps :=
    fun mem => of_decide_eq_true (List.mem_filter.1 mem).2
  rw [filter_merge (ofParameters_parameters ps)]
  split
  · rename_i own
    obtain ⟨h, mem, same⟩ := own
    have kept : h ∈ g.filter (·.parameters = ps) := List.mem_filter.2 ⟨mem, decide_eq_true same⟩
    exact merge_of_mem kept fun k mem => same.trans (all mem).symm
  · rename_i other
    have none : g.filter (·.parameters = ps) = [] :=
      List.filter_eq_nil_iff.2 fun h mem same => other ⟨h, mem, of_decide_eq_true same⟩
    rw [none]
    exact nil_merge fun h mem k mem' => (all mem).trans (all mem').symm

/-- No list of parameters gets lost. -/
theorem forall_mem_merge {P : Handle → Prop}
    (hP : ∀ h k, h.parameters = k.parameters → P h → P k) :
    (∀ h ∈ g.merge fallback, P h) ↔ ∀ h ∈ g ++ fallback, P h := by
  induction fallback generalizing g with
  | nil => rw [merge_nil, List.append_nil]
  | cons h fallback ih =>
    rw [merge_cons, ih]
    rcases shadowed_or_new g h with ⟨k, mem, same⟩ | new
    · have covered : (∀ x ∈ g, P x) → P h := fun all => hP k h same (all k mem)
      rw [addNew_of_mem mem same]
      simp only [List.forall_mem_append, List.forall_mem_cons]
      exact ⟨fun ⟨own, rest⟩ => ⟨own, covered own, rest⟩, fun ⟨own, _, rest⟩ => ⟨own, rest⟩⟩
    · rw [addNew_of_new new, ← List.append_cons]

/-! The choice in merged groups -/

/-- The handles that take the arguments and are as specific as all that take them. -/
def leasts (g : Group) (ts : List Ty) : Group := g.filter (g.isLeast ts)

/-- All of them have the same parameters. -/
theorem parameters_of_mem_leasts (mem : h ∈ g.leasts ts) (mem' : k ∈ g.leasts ts) :
    h.parameters = k.parameters := by
  obtain ⟨inGroup, least⟩ := List.mem_filter.1 mem
  obtain ⟨inGroup', least'⟩ := List.mem_filter.1 mem'
  obtain ⟨takes, below⟩ := isLeast_iff.1 least
  obtain ⟨takes', below'⟩ := isLeast_iff.1 least'
  exact assignableAll_antisymm (below k inGroup' takes') (below' h inGroup takes)

theorem resolve_of_leasts_singleton (alone : g.leasts ts = [h]) : g.resolve ts = .ok h :=
  resolve_eq_ok_iff.2 (leasts_eq_singleton_iff.1 alone)

/-- Without a single most specific handle nothing is chosen. -/
theorem resolve_of_leasts_ne (several : ∀ h, g.leasts ts ≠ [h]) :
    g.resolve ts
      = if ∀ h ∈ g, h.accepts ts = false then .error .none else .error .ambiguous := by
  split
  · rename_i refused
    exact resolve_eq_none_iff.2 refused
  · rename_i taken
    simp only [not_forall, Bool.not_eq_false, exists_prop] at taken
    exact resolve_eq_ambiguous_iff.2
      ⟨taken, fun h least => several h (leasts_eq_singleton_iff.2 least)⟩

/-- The choice is ambiguous where the most specific parameters are there more than once. -/
theorem resolve_of_leasts_twice (twice : 2 ≤ (g.leasts ts).length) :
    g.resolve ts = .error .ambiguous := by
  obtain ⟨h, mem⟩ := List.exists_mem_of_length_pos (by omega : 0 < (g.leasts ts).length)
  obtain ⟨inGroup, least⟩ := List.mem_filter.1 mem
  have takes := (isLeast_iff.1 least).1
  rw [resolve_of_leasts_ne fun k alone => by simp [alone] at twice, if_neg]
  intro refused
  rw [refused h inGroup] at takes
  cases takes

/-- Which parameters are the most specific does not depend on how often they are there. -/
theorem isLeast_merge (g fallback : Group) (ts : List Ty) :
    (g.merge fallback).isLeast ts = isLeast (g ++ fallback) ts := by
  funext h
  have same : ∀ k k' : Handle, k.parameters = k'.parameters →
      (k.accepts ts = true → h.asSpecificAs k = true) →
      k'.accepts ts = true → h.asSpecificAs k' = true := by
    intro k k' parameters below
    simpa only [Handle.accepts, Handle.asSpecificAs, parameters] using below
  rw [Bool.eq_iff_iff, isLeast_iff, isLeast_iff, forall_mem_merge same]

/-- Of the most specific handles those of the first group are left, or else the first one of the
second group. -/
theorem leasts_merge (g fallback : Group) (ts : List Ty) :
    (g.merge fallback).leasts ts
      = if g.filter (isLeast (g ++ fallback) ts) = []
        then (fallback.filter (isLeast (g ++ fallback) ts)).take 1
        else g.filter (isLeast (g ++ fallback) ts) := by
  -- They all have the same parameters, so the first of them shadows the others of the second group.
  have all : ∀ {h k : Handle}, h ∈ leasts (g ++ fallback) ts → k ∈ leasts (g ++ fallback) ts →
      h.parameters = k.parameters := parameters_of_mem_leasts
  rw [leasts, List.filter_append] at all
  rw [leasts, isLeast_merge, filter_merge (ofParameters_isLeast _ ts)]
  split
  · rename_i none
    rw [none]
    exact nil_merge fun h mem k mem' =>
      all (List.mem_append_right _ mem) (List.mem_append_right _ mem')
  · rename_i some
    obtain ⟨h, mem⟩ := List.exists_mem_of_ne_nil _ some
    exact merge_of_mem mem fun k mem' =>
      all (List.mem_append_left _ mem) (List.mem_append_right _ mem')

/-- Where the most specific parameters are there at most once, merging is no different from putting
one group after the other. -/
theorem resolve_merge (once : (leasts (g ++ fallback) ts).length ≤ 1) :
    (g.merge fallback).resolve ts = resolve (g ++ fallback) ts := by
  have left : (g.merge fallback).leasts ts = leasts (g ++ fallback) ts := by
    rw [leasts, List.filter_append, List.length_append] at once
    rw [leasts_merge, leasts, List.filter_append]
    split
    · rename_i none
      rw [none, List.nil_append, List.take_of_length_le (by omega)]
    · rename_i some
      have own := List.length_pos_of_ne_nil some
      rw [List.eq_nil_of_length_eq_zero
        (by omega : (fallback.filter (isLeast (g ++ fallback) ts)).length = 0), List.append_nil]
  by_cases alone : ∃ h, leasts (g ++ fallback) ts = [h]
  · obtain ⟨h, alone⟩ := alone
    rw [resolve_of_leasts_singleton alone, resolve_of_leasts_singleton (left.trans alone)]
  · have several : ∀ h, leasts (g ++ fallback) ts ≠ [h] := fun h single => alone ⟨h, single⟩
    have refused : (∀ h ∈ g.merge fallback, h.accepts ts = false)
        ↔ ∀ h ∈ g ++ fallback, h.accepts ts = false :=
      forall_mem_merge fun h k same => by simp only [Handle.accepts, same, imp_self]
    rw [resolve_of_leasts_ne several, resolve_of_leasts_ne (left ▸ several),
      if_congr refused rfl rfl]

/-- Where they are there more than once, merging leaves the choice ambiguous if the first group has
them more than once, and makes it the first of them if not. -/
theorem resolve_merge_of_twice (twice : 2 ≤ (leasts (g ++ fallback) ts).length) :
    (2 ≤ (g.filter (isLeast (g ++ fallback) ts)).length →
        (g.merge fallback).resolve ts = .error .ambiguous)
      ∧ ((g.filter (isLeast (g ++ fallback) ts)).length ≤ 1 →
        ∃ h, (leasts (g ++ fallback) ts).head? = some h
          ∧ (g.merge fallback).resolve ts = .ok h) := by
  have left := leasts_merge g fallback ts
  rw [leasts, List.filter_append] at twice ⊢
  constructor
  · intro own
    rw [if_neg fun none => by simp [none] at own] at left
    exact resolve_of_leasts_twice (left ▸ own)
  · intro own
    match found : g.filter (isLeast (g ++ fallback) ts), own with
    | [h], _ =>
      rw [found, if_neg (List.cons_ne_nil h [])] at left
      exact ⟨h, rfl, resolve_of_leasts_singleton left⟩
    | [], _ =>
      rw [found, List.nil_append] at twice
      rw [found, if_pos rfl] at left
      rw [List.nil_append]
      match others : fallback.filter (isLeast (g ++ fallback) ts), twice with
      | h :: _ :: _, _ =>
        rw [others] at left
        exact ⟨h, rfl, resolve_of_leasts_singleton left⟩

/-- Where the most specific parameters are there at most once, leaving each list of parameters once
makes no difference to the choice. -/
theorem resolve_nil_merge (once : (g.leasts ts).length ≤ 1) :
    resolve (merge [] g) ts = g.resolve ts := resolve_merge once

/-- Where they are there more than once, the choice is ambiguous, and leaving each list of
parameters once makes it the first of them. -/
theorem resolve_nil_merge_of_twice {rest : Group} (twice : g.leasts ts = h :: k :: rest) :
    g.resolve ts = .error .ambiguous ∧ resolve (merge [] g) ts = .ok h := by
  have several : 2 ≤ (leasts ([] ++ g) ts).length := by
    rw [List.nil_append, twice]
    exact Nat.le_add_left 2 rest.length
  obtain ⟨h', first, chosen⟩ := (resolve_merge_of_twice several).2 (Nat.zero_le 1)
  rw [List.nil_append, twice, List.head?_cons] at first
  exact ⟨resolve_of_leasts_twice several, Option.some.inj first ▸ chosen⟩

/-! The order of the handles -/

theorem isLeast_perm (same : g.Perm g') (ts : List Ty) : g.isLeast ts = g'.isLeast ts := by
  funext h
  rw [Bool.eq_iff_iff, isLeast_iff, isLeast_iff]
  simp only [same.mem_iff]

theorem leasts_perm (same : g.Perm g') (ts : List Ty) : (g.leasts ts).Perm (g'.leasts ts) := by
  rw [leasts, leasts, isLeast_perm same]
  exact same.filter _

end ExprLang.Group
