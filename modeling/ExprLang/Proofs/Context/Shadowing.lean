import ExprLang.Proofs.Function.Merging
import ExprLang.Proofs.Related
import ExprLang.Typing

set_option autoImplicit false

/-!
Functions through a chain of contexts. Where letter case counts and no context has two handles with
the same parameters, the nearest definition wins for each list of parameters, and calls choose among
the nearest definitions.
-/

namespace ExprLang

open ExprLang.Group

namespace Frame

variable {f : Frame} {name : String}

/-- The handles that a frame has under exactly this name. -/
def handles (f : Frame) (name : String) : Group :=
  (f.functions.filter (·.1 = name)).flatMap (·.2)

/-- Whether a frame has a group of exactly this name. The group may be empty. -/
def Has (f : Frame) (name : String) : Prop := ∃ g, (name, g) ∈ f.functions

/-- Where letter case counts, the group of a name holds the handles that came under it, if any did.
-/
theorem group?_of_apart (exact : f.options.ignoreFunctionCase = false)
    (apart : (f.handles name).Pairwise (·.parameters ≠ ·.parameters)) :
    f.group? name
      = if f.functions.filter (·.1 = name) = [] then none else some (f.handles name) := by
  have names :
      (f.functions.filter fun entry => namesEqual f.options.ignoreFunctionCase entry.1 name)
        = f.functions.filter (·.1 = name) := by
    simp [exact, namesEqual]
  rw [handles] at apart ⊢
  rw [group?, names]
  cases entries : f.functions.filter (·.1 = name) with
  | nil => rfl
  | cons entry rest =>
    rw [entries] at apart
    exact (foldl_mergeOption_some _ _).trans (congrArg some (merge_of_apart apart))

theorem getD_group? (exact : f.options.ignoreFunctionCase = false)
    (apart : (f.handles name).Pairwise (·.parameters ≠ ·.parameters)) :
    (f.group? name).getD [] = f.handles name := by
  rw [group?_of_apart exact apart]
  split
  · rename_i none
    rw [handles, none, List.flatMap_nil, Option.getD_none]
  · rfl

theorem group?_eq_none_iff (exact : f.options.ignoreFunctionCase = false)
    (apart : (f.handles name).Pairwise (·.parameters ≠ ·.parameters)) :
    f.group? name = none ↔ ¬ f.Has name := by
  have here : f.functions.filter (·.1 = name) = [] ↔ ¬ f.Has name := by
    rw [List.filter_eq_nil_iff]
    constructor
    · rintro none ⟨g, mem⟩
      exact none _ mem (decide_eq_true rfl)
    · rintro none ⟨key, g⟩ mem same
      obtain rfl : key = name := of_decide_eq_true same
      exact none ⟨g, mem⟩
  rw [group?_of_apart exact apart, ← here]
  split
  · rename_i none
    exact iff_of_true rfl none
  · rename_i some
    exact iff_of_false (Option.some_ne_none _) some

end Frame

namespace Group

variable {g : Group} {h : Handle} {ts ps : List Ty}

theorem mergeOption_eq_none_iff {a b : Option Group} :
    mergeOption a b = none ↔ a = none ∧ b = none := by
  cases a <;> cases b <;> simp [mergeOption]

/-- In a group without common parameters at most one handle has given ones. -/
theorem filter_parameters_of_apart (ps : List Ty)
    (apart : g.Pairwise (·.parameters ≠ ·.parameters)) :
    g.filter (·.parameters = ps) = (g.find? (·.parameters = ps)).toList := by
  induction g with
  | nil => rfl
  | cons h g ih =>
    obtain ⟨first, rest⟩ := List.pairwise_cons.1 apart
    by_cases same : h.parameters = ps
    · have none : g.filter (·.parameters = ps) = [] := by
        refine List.filter_eq_nil_iff.2 fun k mem same' => first k mem ?_
        rw [same, of_decide_eq_true same']
      simp [same, none]
    · simp [same, ih rest]

/-- Of a merged group with given parameters, if the first group has them once at most and the second
one as well. -/
theorem filter_parameters_mergeOption {a b : Option Group} {inherited : Option Handle}
    (apart : (a.getD []).Pairwise (·.parameters ≠ ·.parameters))
    (once : (b.getD []).filter (·.parameters = ps) = inherited.toList) :
    ((mergeOption a b).getD []).filter (·.parameters = ps)
      = (((a.getD []).find? (·.parameters = ps)).or inherited).toList := by
  cases a with
  | none => simpa [mergeOption] using once
  | some g =>
    have own := filter_parameters_of_apart ps apart
    rw [Option.getD_some] at own ⊢
    cases b with
    | none =>
      have none : inherited = none := by simpa using once.symm
      rw [none, Option.or_none]
      exact own
    | some g' =>
      rw [Option.getD_some] at once
      rw [mergeOption, Option.getD_some, filter_parameters_merge, once, own]
      cases found : g.find? (·.parameters = ps) with
      | some h =>
        have here : ∃ h ∈ g, h.parameters = ps :=
          ⟨h, List.mem_of_find?_eq_some found, by simpa using List.find?_some found⟩
        rw [if_pos here, Option.some_or]
      | none =>
        have nowhere : ¬ ∃ h ∈ g, h.parameters = ps := fun ⟨h, mem, same⟩ =>
          List.find?_eq_none.1 found h mem (decide_eq_true same)
        rw [if_neg nowhere, Option.none_or]
        cases inherited <;> rfl

/-- Where no other handle has its parameters, a handle that is as specific as all others is the
least. -/
theorem least_iff_isLeast (alone : g.filter (·.parameters = h.parameters) = [h]) :
    g.Least ts h ↔ g.isLeast ts h = true := by
  constructor
  · intro least
    have single := leasts_eq_singleton_iff.2 least
    exact (List.mem_filter.1 (single ▸ List.mem_singleton_self h)).2
  · intro isLeast
    have inGroup : h ∈ g := (List.mem_filter.1 (alone ▸ List.mem_singleton_self h)).1
    have mem : h ∈ g.leasts ts := List.mem_filter.2 ⟨inGroup, isLeast⟩
    have within : (g.leasts ts).filter (·.parameters = h.parameters) = g.leasts ts :=
      List.filter_eq_self.2 fun k mem' => decide_eq_true (parameters_of_mem_leasts mem' mem)
    have turned : (g.leasts ts).filter (·.parameters = h.parameters)
        = (g.filter (·.parameters = h.parameters)).filter (g.isLeast ts) := by
      rw [leasts, List.filter_filter, List.filter_filter]
      simp only [Bool.and_comm]
    rw [alone, List.filter_cons_of_pos isLeast, List.filter_nil, within] at turned
    exact leasts_eq_singleton_iff.1 turned

end Group

namespace Context

variable {c : Context} {name : String} {ts ps : List Ty} {h k : Handle}

/-- The context of which this one is a child. -/
def parent? (c : Context) : Option Context :=
  match c.parents with
  | [] => none
  | f :: fs => some ⟨f, fs⟩

/-- The group of a name as the parent sees it. -/
def inherited? (c : Context) (name : String) : Option Group := c.parent?.bind (·.group? name)

theorem group?_eq (c : Context) (name : String) :
    c.group? name = mergeOption (c.frame.group? name) (c.inherited? name) := by
  obtain ⟨f, parents⟩ := c
  cases parents with
  | nil => rfl
  | cons p parents => rfl

theorem group?_eq_inherited (first : c.frame.group? name = none) :
    c.group? name = c.inherited? name := by
  rw [group?_eq, first]
  cases c.inherited? name <;> rfl

theorem group?_eq_own (last : c.inherited? name = none) : c.group? name = c.frame.group? name := by
  rw [group?_eq, last]
  cases c.frame.group? name <;> rfl

/-- What holds of each context without parents, and of each child when it holds of its parent, holds
of all chains. -/
theorem chain_cases {P : Context → Prop} (single : ∀ f, P ⟨f, []⟩)
    (child : ∀ f p, P p → P ⟨f, p.frames⟩) (c : Context) : P c := by
  obtain ⟨f, parents⟩ := c
  induction parents generalizing f with
  | nil => exact single f
  | cons p parents ih => exact child f ⟨p, parents⟩ (ih p)

theorem group?_eq_none_iff : c.group? name = none ↔ ∀ f ∈ c.frames, f.group? name = none := by
  induction c using chain_cases with
  | single f =>
    rw [group?_eq, mergeOption_eq_none_iff]
    simp [inherited?, parent?, frames]
  | child f p ih =>
    have parent : inherited? ⟨f, p.frames⟩ name = p.group? name := rfl
    have both : frames ⟨f, p.frames⟩ = f :: p.frames := rfl
    rw [group?_eq, mergeOption_eq_none_iff, parent, ih, both, List.forall_mem_cons]

/-- The handle with these parameters in the nearest frame that has one under exactly this name. -/
def nearest? (c : Context) (name : String) (ps : List Ty) : Option Handle :=
  c.frames.findSome? fun f => (f.handles name).find? (·.parameters = ps)

/-- Letter case counts, and under the name no frame has two handles with the same parameters. -/
structure Apart (c : Context) (name : String) : Prop where
  exact : ∀ f ∈ c.frames, f.options.ignoreFunctionCase = false
  apart : ∀ f ∈ c.frames, (f.handles name).Pairwise (·.parameters ≠ ·.parameters)

namespace Apart

theorem parent {f : Frame} {p : Context} (apart : Apart ⟨f, p.frames⟩ name) : p.Apart name :=
  ⟨fun g mem => apart.exact g (List.mem_cons_of_mem f mem),
    fun g mem => apart.apart g (List.mem_cons_of_mem f mem)⟩

theorem frame {f : Frame} {fs : List Frame} (apart : Apart ⟨f, fs⟩ name) :
    f.options.ignoreFunctionCase = false
      ∧ (f.handles name).Pairwise (·.parameters ≠ ·.parameters) :=
  ⟨apart.exact f List.mem_cons_self, apart.apart f List.mem_cons_self⟩

theorem group?_eq_none_iff (apart : c.Apart name) :
    c.group? name = none ↔ ∀ f ∈ c.frames, ¬ f.Has name := by
  rw [Context.group?_eq_none_iff]
  exact forall₂_congr fun f mem =>
    Frame.group?_eq_none_iff (apart.exact f mem) (apart.apart f mem)

/-- Of the handles that a chain has under a name, those of the nearest frames are left, one for each
list of parameters. -/
theorem filter_group? (apart : c.Apart name) (ps : List Ty) :
    ((c.group? name).getD []).filter (·.parameters = ps) = (c.nearest? name ps).toList := by
  induction c using chain_cases with
  | single f =>
    have ⟨exact, own⟩ := apart.frame
    rw [← Frame.getD_group? exact own] at own
    have nearest : nearest? ⟨f, []⟩ name ps
        = (((f.group? name).getD []).find? (·.parameters = ps)).or none := by
      rw [Frame.getD_group? exact apart.frame.2, Option.or_none]
      simp [nearest?, frames]
    rw [group?_eq, nearest]
    exact Group.filter_parameters_mergeOption own rfl
  | child f p ih =>
    have ⟨exact, own⟩ := apart.frame
    rw [← Frame.getD_group? exact own] at own
    have nearest : nearest? ⟨f, p.frames⟩ name ps
        = (((f.group? name).getD []).find? (·.parameters = ps)).or (p.nearest? name ps) := by
      rw [Frame.getD_group? exact apart.frame.2]
      simp only [nearest?, frames, List.findSome?_cons]
      cases (f.handles name).find? (·.parameters = ps) <;> rfl
    rw [group?_eq, nearest]
    exact Group.filter_parameters_mergeOption own (ih apart.parent)

/-- What a name means is for each list of parameters the nearest handle. -/
theorem mem_group?_iff (apart : c.Apart name) :
    h ∈ (c.group? name).getD [] ↔ c.nearest? name h.parameters = some h := by
  have left := apart.filter_group? h.parameters
  constructor
  · intro mem
    have found : h ∈ (c.nearest? name h.parameters).toList :=
      left ▸ List.mem_filter.2 ⟨mem, decide_eq_true rfl⟩
    exact Option.mem_toList.1 found
  · intro nearest
    have found : h ∈ (c.nearest? name h.parameters).toList := Option.mem_toList.2 nearest
    exact (List.mem_filter.1 (left ▸ found)).1

/-- Among the nearest handles the choice is by the order on parameters alone. -/
theorem resolve_group?_eq_ok_iff (apart : c.Apart name) :
    Group.resolve ((c.group? name).getD []) ts = .ok h
      ↔ c.nearest? name h.parameters = some h ∧ h.accepts ts = true
        ∧ ∀ k, c.nearest? name k.parameters = some k → k.accepts ts = true →
          h.asSpecificAs k = true := by
  have least (nearest : c.nearest? name h.parameters = some h) :
      Group.Least ((c.group? name).getD []) ts h
        ↔ Group.isLeast ((c.group? name).getD []) ts h = true := by
    apply Group.least_iff_isLeast
    rw [apart.filter_group?, nearest, Option.toList_some]
  rw [resolve_eq_ok_iff]
  simp only [← apart.mem_group?_iff] at least ⊢
  constructor
  · intro chosen
    have mem : h ∈ (c.group? name).getD [] := by
      obtain ⟨others, split, -⟩ := chosen
      exact split.mem_iff.2 List.mem_cons_self
    exact ⟨mem, isLeast_iff.1 ((least mem).1 chosen)⟩
  · intro ⟨mem, below⟩
    exact (least mem).2 (isLeast_iff.2 below)

theorem resolve_group?_eq_none_iff (apart : c.Apart name) :
    Group.resolve ((c.group? name).getD []) ts = .error .none
      ↔ ∀ h, c.nearest? name h.parameters = some h → h.accepts ts = false := by
  rw [resolve_eq_none_iff]
  simp only [← apart.mem_group?_iff]

end Apart

/-! Calls -/

theorem handle_eq_ok_iff :
    c.handle name ts = .ok h ↔ Group.resolve ((c.group? name).getD []) ts = .ok h := by
  rw [handle]
  cases c.group? name with
  | none => simp [Group.resolve]
  | some g =>
    rw [Option.getD_some]
    dsimp only
    rcases g.resolve ts with (_ | _) | k <;> simp

theorem handle_eq_noOverload_iff :
    c.handle name ts = .error (.noOverload name)
      ↔ c.group? name ≠ none ∧ Group.resolve ((c.group? name).getD []) ts = .error .none := by
  rw [handle]
  cases c.group? name with
  | none => simp
  | some g =>
    rw [Option.getD_some]
    dsimp only
    rcases g.resolve ts with (_ | _) | k <;> simp

theorem group?_removeFunctions (exact : c.frame.options.ignoreFunctionCase = false) :
    (c.removeFunctions name).2.group? name = c.inherited? name := by
  have gone : (c.removeFunctions name).2.frame.group? name = none := by
    have empty : ((c.frame.functions.filter (·.1 ≠ name)).filter fun entry =>
        namesEqual c.frame.options.ignoreFunctionCase entry.1 name) = [] := by
      simp [exact, namesEqual]
    simp only [removeFunctions, Frame.group?, empty, List.foldl_nil]
  exact group?_eq_inherited gone

/-- What a name means in a chain of contexts is decided by the nearest definitions. -/
structure NearestWins (c : Context) (name : String) : Prop where
  /-- There is no group when no context of the chain has one. -/
  absent : c.group? name = none ↔ ∀ f ∈ c.frames, ¬ f.Has name
  /-- For each list of parameters there is the nearest handle, once. -/
  nearest : ∀ ps, ((c.group? name).getD []).filter (·.parameters = ps)
    = (c.nearest? name ps).toList
  /-- A call chooses the nearest handle that takes the arguments and is as specific as all nearest
  handles that take them. -/
  chosen : ∀ ts h, c.handle name ts = .ok h
    ↔ c.nearest? name h.parameters = some h ∧ h.accepts ts = true
      ∧ ∀ k, c.nearest? name k.parameters = some k → k.accepts ts = true →
        h.asSpecificAs k = true
  /-- A call is without a match when a context has a group and no nearest handle takes the
  arguments. -/
  refused : ∀ ts, c.handle name ts = .error (.noOverload name)
    ↔ (∃ f ∈ c.frames, f.Has name)
      ∧ ∀ h, c.nearest? name h.parameters = some h → h.accepts ts = false
  /-- Without the own definitions those of the parent are left. -/
  removed : (c.removeFunctions name).2.group? name = c.inherited? name

/-- Where letter case counts and no context has two handles of a name with the same parameters, the
nearest definitions win. -/
theorem nearest_wins (apart : c.Apart name) : c.NearestWins name where
  absent := apart.group?_eq_none_iff
  nearest := apart.filter_group?
  chosen _ _ := handle_eq_ok_iff.trans apart.resolve_group?_eq_ok_iff
  refused ts := by
    rw [handle_eq_noOverload_iff, apart.resolve_group?_eq_none_iff, Ne, apart.group?_eq_none_iff]
    simp only [not_forall, not_not, exists_prop]
  removed := group?_removeFunctions (apart.exact c.frame List.mem_cons_self)

/-- In a chain of three the child's handle comes before one of its grandparent. -/
theorem nearest_wins_chain :
    let own : Handle := ⟨[.string], .string, fun _ => .ok .null⟩
    let shadowed : Handle := ⟨[.string], .object, fun _ => .ok .null⟩
    let other : Handle := ⟨[.object], .object, fun _ => .ok .null⟩
    let frame (hs : Group) : Frame := ⟨{}, fun _ _ => .notFound, 0, [("f", hs)], []⟩
    let c : Context := ⟨frame [own], [frame [other], frame [other, shadowed]]⟩
    c.Apart "f" ∧ c.NearestWins "f" ∧ c.handle "f" [.string] = .ok own := by
  intro own shadowed other frame c
  have apart : c.Apart "f" := by
    refine ⟨?_, ?_⟩
    · simp [c, frames, frame]
    · simp [c, frames, frame, Frame.handles, own, shadowed, other]
  exact ⟨apart, nearest_wins apart, rfl⟩

end Context

end ExprLang
