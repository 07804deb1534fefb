import ExprLang.Proofs.Context.Shadowing

set_option autoImplicit false

/-!
One more overload in the nearest context that does not take the arguments of a call. Where the
context has handles of that name already the call means what it did. Its first handle has the
inherited ones merged, which leaves each list of parameters once: a call that was ambiguous because
the most specific parameters were there more than once then has a match.
-/

namespace ExprLang

open ExprLang.Group

variable {name : String} {ts : List Ty} {k : Handle}

namespace Group

variable {p : Handle → Bool}

theorem map_filter_mergeOption (hp : OfParameters p) (a b : Option Group) :
    (mergeOption a b).map (·.filter p) = mergeOption (a.map (·.filter p)) (b.map (·.filter p)) := by
  cases a with
  | none => cases b <;> rfl
  | some g =>
    cases b with
    | none => rfl
    | some g' => exact congrArg some (filter_merge hp g g')

theorem map_filter_foldl_mergeOption (hp : OfParameters p) (found : Option Group)
    (entries : List (String × Group)) :
    (entries.foldl (fun found entry => mergeOption found (some entry.2)) found).map (·.filter p)
      = (entries.map (·.2.filter p)).foldl (fun found g => mergeOption found (some g))
        (found.map (·.filter p)) := by
  induction entries generalizing found with
  | nil => rfl
  | cons entry entries ih =>
    rw [List.foldl_cons, ih, map_filter_mergeOption hp, List.map_cons, List.foldl_cons,
      Option.map_some]

theorem foldl_mergeOption_eq_none_iff {found : Option Group} {entries : List (String × Group)} :
    entries.foldl (fun found entry => mergeOption found (some entry.2)) found = none
      ↔ found = none ∧ entries = [] := by
  induction entries generalizing found with
  | nil => simp
  | cons entry entries ih =>
    rw [List.foldl_cons, ih, mergeOption_eq_none_iff]
    simp

theorem filter_accepts_append (refused : k.accepts ts = false) (g : Group) :
    (g ++ [k]).filter (·.accepts ts) = g.filter (·.accepts ts) := by
  have unseen : [k].filter (·.accepts ts) = [] := by simp [refused]
  rw [List.filter_append, unseen, List.append_nil]

end Group

namespace Frame

variable {f : Frame}

/-- The groups that come together under a name. -/
def found (f : Frame) (name : String) : List (String × Group) :=
  f.functions.filter fun entry => namesEqual f.options.ignoreFunctionCase entry.1 name

theorem group?_eq_foldl (f : Frame) (name : String) :
    f.group? name
      = (f.found name).foldl (fun found entry => mergeOption found (some entry.2)) none := rfl

theorem group?_eq_none_iff_found : f.group? name = none ↔ f.found name = [] := by
  rw [group?_eq_foldl, foldl_mergeOption_eq_none_iff]
  simp only [true_and]

theorem map_filter_group? (f : Frame) (name : String) (ts : List Ty) :
    (f.group? name).map (·.filter (·.accepts ts))
      = ((f.found name).map (·.2.filter (·.accepts ts))).foldl
        (fun found g => mergeOption found (some g)) none := by
  exact map_filter_foldl_mergeOption (ofParameters_accepts ts) none (f.found name)

end Frame

namespace Context

variable {c d : Context}

/-- What a call of a name with arguments of given types means. A name that no context has is not
told from one that has no handle for the arguments. -/
def outcome (c : Context) (name : String) (ts : List Ty) : Except NoMatch Handle :=
  match c.handle name ts with
  | .ok h => .ok h
  | .error (.ambiguousCall _) => .error .ambiguous
  | .error _ => .error .none

theorem outcome_eq (c : Context) (name : String) (ts : List Ty) :
    c.outcome name ts = Group.resolve ((c.group? name).getD []) ts := by
  rw [outcome, handle]
  cases c.group? name with
  | none => rfl
  | some g =>
    rw [Option.getD_some]
    dsimp only
    rcases g.resolve ts with (_ | _) | h <;> rfl

/-- Contexts that know a name and choose the same mean the same by a call. -/
theorem handle_congr (known : c.group? name = none ↔ d.group? name = none)
    (same : c.outcome name ts = d.outcome name ts) : c.handle name ts = d.handle name ts := by
  rw [outcome_eq, outcome_eq] at same
  rw [handle, handle]
  cases own : c.group? name with
  | none => rw [known.1 own]
  | some g =>
    cases other : d.group? name with
    | none =>
      rw [known.2 other] at own
      cases own
    | some g' =>
      rw [own, other, Option.getD_some, Option.getD_some] at same
      dsimp only
      rw [same]

theorem outcome_eq_ok_iff {h : Handle} : c.outcome name ts = .ok h ↔ c.handle name ts = .ok h := by
  rw [outcome_eq, handle_eq_ok_iff]

theorem outcome_eq_ambiguous_iff :
    c.outcome name ts = .error .ambiguous ↔ c.handle name ts = .error (.ambiguousCall name) := by
  rw [outcome_eq, handle]
  cases c.group? name with
  | none => simp [Group.resolve]
  | some g =>
    rw [Option.getD_some]
    dsimp only
    rcases g.resolve ts with (_ | _) | h <;> simp

/-- A handle joins the group of its name, or makes a group that comes last. -/
theorem found_addFunction (c : Context) (name : String) (k : Handle) :
    c.frame.found name ≠ [] ∧ (c.addFunction name k).frame.found name
        = (c.frame.found name).map (fun entry =>
          (entry.1, if entry.1 = name then entry.2 ++ [k] else entry.2))
      ∨ (c.addFunction name k).frame.found name = c.frame.found name ++ [(name, [k])] := by
  simp only [addFunction, addFunctions, Frame.found]
  split
  · rename_i known
    left
    obtain ⟨entry, mem, same⟩ := List.any_eq_true.1 known
    constructor
    · refine List.ne_nil_of_mem (a := entry) (List.mem_filter.2 ⟨mem, ?_⟩)
      simp [namesEqual, of_decide_eq_true same]
    · rw [List.filter_map]
      rfl
  · right
    rw [List.filter_append]
    simp [namesEqual]

theorem frame_group?_addFunction_of_none (first : c.frame.group? name = none) :
    (c.addFunction name k).frame.group? name = some [k] := by
  have nothing := Frame.group?_eq_none_iff_found.1 first
  rcases found_addFunction c name k with ⟨something, -⟩ | last
  · exact absurd nothing something
  · rw [Frame.group?_eq_foldl, last, nothing]
    rfl

/-- One more handle that does not take the arguments leaves those that do. -/
theorem frame_group?_addFunction_of_some {g : Group} (own : c.frame.group? name = some g)
    (refused : k.accepts ts = false) :
    ((c.addFunction name k).frame.group? name).map (·.filter (·.accepts ts))
      = (c.frame.group? name).map (·.filter (·.accepts ts)) := by
  have unseen : [k].filter (·.accepts ts) = [] := filter_accepts_append refused []
  rcases found_addFunction c name k with ⟨-, joined⟩ | last
  · rw [Frame.map_filter_group?, Frame.map_filter_group?, joined, List.map_map]
    congr 1
    refine List.map_congr_left fun entry _ => ?_
    dsimp only [Function.comp_apply]
    split
    · exact filter_accepts_append refused entry.2
    · rfl
  · have before := Frame.map_filter_group? c.frame name ts
    rw [own] at before
    rw [Frame.map_filter_group?, last, List.map_append, List.foldl_append, ← before, own]
    rw [List.map_singleton, unseen]
    rfl

theorem outcome_congr
    (same : (d.group? name).map (·.filter (·.accepts ts))
      = (c.group? name).map (·.filter (·.accepts ts))) :
    d.outcome name ts = c.outcome name ts := by
  rw [outcome_eq, outcome_eq]
  apply resolve_congr
  have taken (g : Option Group) :
      (g.getD []).filter (·.accepts ts) = (g.map (·.filter (·.accepts ts))).getD [] := by
    cases g <;> rfl
  rw [taken, taken, same]

/-- A handle that joins others and does not take the arguments makes no difference to the call. -/
theorem outcome_addFunction_of_some {g : Group} (own : c.frame.group? name = some g)
    (refused : k.accepts ts = false) :
    (c.addFunction name k).outcome name ts = c.outcome name ts := by
  have hp := ofParameters_accepts ts
  have inherited : (c.addFunction name k).inherited? name = c.inherited? name := rfl
  apply outcome_congr
  rw [group?_eq, group?_eq, map_filter_mergeOption hp, map_filter_mergeOption hp, inherited,
    frame_group?_addFunction_of_some own refused]

/-- The first handle of a context that does not take the arguments leaves each inherited list of
parameters once. -/
theorem outcome_addFunction_of_none (first : c.frame.group? name = none)
    (refused : k.accepts ts = false) :
    (c.addFunction name k).outcome name ts = resolve (merge [] ((c.group? name).getD [])) ts := by
  have inherited : (c.addFunction name k).inherited? name = c.inherited? name := rfl
  have before := group?_eq_inherited first
  have after : ((c.addFunction name k).group? name).getD []
      = merge [k] ((c.group? name).getD []) := by
    rw [group?_eq, frame_group?_addFunction_of_none first, inherited, before]
    cases c.inherited? name <;> rfl
  have unseen : [k].filter (·.accepts ts) = [] := filter_accepts_append refused []
  have hp := ofParameters_accepts ts
  rw [outcome_eq, after]
  apply resolve_congr
  rw [filter_merge hp, filter_merge hp, unseen, List.filter_nil]

/-! The most specific parameters more than once -/

/-- The context has no handle under the name, and the most specific parameters among those that it
inherits are there more than once. -/
def Doubled (c : Context) (name : String) (ts : List Ty) : Prop :=
  c.frame.group? name = none ∧ 2 ≤ (leasts ((c.inherited? name).getD []) ts).length

/-- An overload that does not take the arguments changes what a call means only where the most
specific inherited parameters are there more than once and it is the context's first handle of the
name: the ambiguous call then means the first of them. -/
theorem outcome_addFunction (refused : k.accepts ts = false) :
    (¬ c.Doubled name ts → (c.addFunction name k).outcome name ts = c.outcome name ts)
      ∧ (c.Doubled name ts → c.outcome name ts = .error .ambiguous
        ∧ ∃ h, (leasts ((c.inherited? name).getD []) ts).head? = some h
          ∧ (c.addFunction name k).outcome name ts = .ok h) := by
  cases own : c.frame.group? name with
  | some g =>
    have single : ¬ c.Doubled name ts := fun doubled =>
      Option.some_ne_none g (own.symm.trans doubled.1)
    exact ⟨fun _ => outcome_addFunction_of_some own refused, fun doubled => absurd doubled single⟩
  | none =>
    have after := outcome_addFunction_of_none own refused
    have before : c.group? name = c.inherited? name := group?_eq_inherited own
    constructor
    · intro single
      have once : (leasts ((c.group? name).getD []) ts).length ≤ 1 := by
        rw [before]
        by_contra twice
        exact single ⟨own, by omega⟩
      rw [after, outcome_eq, resolve_nil_merge once]
    · intro ⟨_, twice⟩
      rw [after, outcome_eq, before]
      match found : leasts ((c.inherited? name).getD []) ts, twice with
      | h :: _ :: _, _ =>
        have ⟨ambiguous, chosen⟩ := resolve_nil_merge_of_twice found
        exact ⟨ambiguous, h, List.head?_cons, chosen⟩

/-- With two handles for the arguments in the parent, the refused handle of the child decides
between them. -/
theorem outcome_addFunction_doubled :
    let one : Handle := ⟨[], .string, fun _ => .ok (.string "One")⟩
    let two : Handle := ⟨[], .string, fun _ => .ok (.string "Two")⟩
    let other : Handle := ⟨[.string], .string, fun _ => .ok .null⟩
    let c : Context := ⟨⟨{}, fun _ _ => .notFound, 1, [], []⟩,
      [⟨{}, fun _ _ => .notFound, 0, [("f", [one, two])], []⟩]⟩
    other.accepts [] = false ∧ c.Doubled "f" [] ∧ c.outcome "f" [] = .error .ambiguous
      ∧ ∃ h, (leasts ((c.inherited? "f").getD []) []).head? = some h
        ∧ (c.addFunction "f" other).outcome "f" [] = .ok h := by
  intro one two other c
  have refused : other.accepts [] = false := by decide
  have doubled : c.Doubled "f" [] := ⟨rfl, by decide⟩
  exact ⟨refused, doubled, (outcome_addFunction refused).2 doubled⟩

/-- An overload that does not take the arguments can make an ambiguous call unambiguous. -/
theorem exists_refused_overload_that_decides :
    ∃ (c : Context) (name : String) (ts : List Ty) (k : Handle), k.accepts ts = false
      ∧ (c.addFunction name k).outcome name ts ≠ c.outcome name ts := by
  let one : Handle := ⟨[], .string, fun _ => .ok (.string "One")⟩
  let two : Handle := ⟨[], .string, fun _ => .ok (.string "Two")⟩
  let other : Handle := ⟨[.string], .string, fun _ => .ok .null⟩
  let c : Context := ⟨⟨{}, fun _ _ => .notFound, 1, [], []⟩,
    [⟨{}, fun _ _ => .notFound, 0, [("f", [one, two])], []⟩]⟩
  have before : c.outcome "f" [] = .error .ambiguous := rfl
  have after : (c.addFunction "f" other).outcome "f" [] = .ok one := rfl
  refine ⟨c, "f", [], other, by decide, ?_⟩
  rw [before, after]
  exact nofun

end Context

end ExprLang
