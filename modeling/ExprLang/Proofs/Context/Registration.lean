import Mathlib.Data.List.Find
import Mathlib.Data.List.Nodup
import ExprLang.Proofs.Context.Overloads
import ExprLang.Proofs.Text.Lower

set_option autoImplicit false

/-!
Functions that are registered under several spellings of a name, where letter case has no meaning.
The handles of each spelling make a group; a call merges these groups in the order in which the
spellings came first. So the spellings make a difference only where the most specific parameters
are there more than once: under the first spelling all handles are kept, of the others those whose
parameters are new.
-/

namespace ExprLang

open ExprLang.Group

/-- Handles with the names under which they are registered one after another. -/
abbrev Registrations := List (String × Handle)

namespace Registrations

variable {regs regs' : Registrations} {name key : String} {r : String × Handle}

/-- The names in the order in which they came first. -/
def spellings : Registrations → List String
  | [] => []
  | r :: regs => r.1 :: (spellings regs).filter (· ≠ r.1)

/-- The spellings of a name, in a language that may ignore letter case. -/
def spelt (regs : Registrations) (ignoreCase : Bool) (name : String) : List String :=
  regs.spellings.filter (namesEqual ignoreCase · name)

/-- The handles of exactly this name. -/
def under (regs : Registrations) (name : String) : Group := (regs.filter (·.1 = name)).map (·.2)

/-- The handles of all spellings of a name. -/
def called (regs : Registrations) (name : String) : Group :=
  (regs.filter fun r => namesEqual true r.1 name).map (·.2)

/-- The handles of the spelling of a name that came first. -/
def foremost (regs : Registrations) (name : String) : Group :=
  match regs.find? fun r => namesEqual true r.1 name with
  | some r => regs.under r.1
  | none => []

/-- The groups that registrations make. -/
def grouped (regs : Registrations) : List (String × Group) :=
  regs.spellings.map fun key => (key, regs.under key)

/-- The same handles under names that are the same but for letter case. -/
def Respelt (regs regs' : Registrations) : Prop :=
  List.Forall₂ (fun r r' => lowerText r.1 = lowerText r'.1 ∧ r.2 = r'.2) regs regs'

/-- The most specific parameters among the handles of a name are there more than once. -/
def Doubled (regs : Registrations) (name : String) (ts : List Ty) : Prop :=
  2 ≤ (leasts (regs.called name) ts).length

instance (regs : Registrations) (name : String) (ts : List Ty) : Decidable (regs.Doubled name ts) :=
  inferInstanceAs (Decidable (2 ≤ (leasts (regs.called name) ts).length))

theorem called_respelt (respelt : Respelt regs regs') (name : String) :
    regs'.called name = regs.called name := by
  induction respelt with
  | nil => rfl
  | cons same _ ih =>
    obtain ⟨lower, handle⟩ := same
    rw [called, called] at ih ⊢
    rw [List.filter_cons, List.filter_cons, namesEqual_congr lower rfl]
    split
    · rw [List.map_cons, List.map_cons, ih, handle]
    · exact ih

/-! The groups of registrations -/

theorem mem_spellings_iff : key ∈ regs.spellings ↔ ∃ r ∈ regs, r.1 = key := by
  induction regs with
  | nil => simp [spellings]
  | cons r regs ih =>
    by_cases same : key = r.1
    · simp [spellings, same]
    · simp [spellings, ih, same, Ne.symm same]

theorem nodup_spellings (regs : Registrations) : regs.spellings.Nodup := by
  induction regs with
  | nil => exact List.nodup_nil
  | cons r regs ih =>
    refine List.nodup_cons.2 ⟨fun mem => ?_, ih.filter _⟩
    simpa using (List.mem_filter.1 mem).2

theorem spellings_concat (regs : Registrations) (r : String × Handle) :
    spellings (regs ++ [r])
      = if r.1 ∈ regs.spellings then regs.spellings else regs.spellings ++ [r.1] := by
  induction regs with
  | nil => rfl
  | cons r' regs ih =>
    rw [List.cons_append, spellings, spellings, ih]
    by_cases same : r.1 = r'.1
    · split <;> simp [same]
    · split <;> simp_all

theorem find?_spellings (p : String → Bool) :
    regs.spellings.find? p = (regs.find? fun r => p r.1).map (·.1) := by
  induction regs with
  | nil => rfl
  | cons r regs ih =>
    rw [spellings, List.find?_cons, List.find?_cons]
    cases holds : p r.1 with
    | true => rfl
    | false =>
      -- What is left out of the later names does not meet the condition.
      dsimp only
      rw [← ih, List.find?_filter]
      refine List.find?_congr fun key _ => ?_
      by_cases same : key = r.1
      · simp [same, holds]
      · simp [same]

theorem under_append (regs regs' : Registrations) (key : String) :
    under (regs ++ regs') key = regs.under key ++ regs'.under key := by
  rw [under, List.filter_append, List.map_append]
  rfl

theorem under_concat (regs : Registrations) (r : String × Handle) (key : String) :
    under (regs ++ [r]) key = if key = r.1 then regs.under key ++ [r.2] else regs.under key := by
  rw [under_append]
  by_cases same : key = r.1
  · simp [under, same]
  · simp [under, same, Ne.symm same]

theorem under_eq_nil (new : key ∉ regs.spellings) : regs.under key = [] := by
  rw [under, List.map_eq_nil_iff, List.filter_eq_nil_iff]
  intro r mem same
  exact new (mem_spellings_iff.2 ⟨r, mem, of_decide_eq_true same⟩)

/-- The groups of different names have all handles of these names. -/
theorem flatMap_under_perm (regs : Registrations) {keys : List String} (once : keys.Nodup) :
    (keys.flatMap regs.under).Perm ((regs.filter (·.1 ∈ keys)).map (·.2)) := by
  induction keys with
  | nil => simp
  | cons key keys ih =>
    obtain ⟨new, once⟩ := List.nodup_cons.1 once
    have here : (regs.filter (·.1 ∈ key :: keys)).filter (·.1 = key) = regs.filter (·.1 = key) := by
      rw [List.filter_filter]
      refine List.filter_congr fun r _ => ?_
      by_cases same : r.1 = key <;> simp [same]
    have there : (regs.filter (·.1 ∈ key :: keys)).filter (fun r => !decide (r.1 = key))
        = regs.filter (·.1 ∈ keys) := by
      rw [List.filter_filter]
      refine List.filter_congr fun r _ => ?_
      by_cases same : r.1 = key
      · simp [same, new]
      · simp [same]
    -- The order changes here: the handles of one name come before those of all others.
    have split := List.filter_append_perm (·.1 = key) (regs.filter (·.1 ∈ key :: keys))
    rw [here, there] at split
    rw [List.flatMap_cons]
    refine (List.Perm.append_left _ (ih once)).trans ?_
    have mapped := split.map (·.2)
    rwa [List.map_append] at mapped

theorem flatMap_spelt_perm (regs : Registrations) (name : String) :
    ((regs.spelt true name).flatMap regs.under).Perm (regs.called name) := by
  have mem : ∀ r ∈ regs, decide (r.1 ∈ regs.spelt true name) = namesEqual true r.1 name := by
    intro r mem
    have known := mem_spellings_iff.2 ⟨r, mem, rfl⟩
    simp [spelt, known]
  have once : (regs.spelt true name).Nodup := (nodup_spellings regs).filter _
  have perm := flatMap_under_perm regs once
  rwa [List.filter_congr mem] at perm

theorem head?_spelt (regs : Registrations) (name : String) :
    (regs.spelt true name).head? = (regs.find? fun r => namesEqual true r.1 name).map (·.1) := by
  rw [spelt, List.head?_filter, find?_spellings]

/-- A name that is registered in no other spelling has one. -/
theorem spelt_of_only {ignoreCase : Bool} (known : ∃ r ∈ regs, r.1 = name)
    (only : ∀ r ∈ regs, namesEqual ignoreCase r.1 name = true → r.1 = name) :
    regs.spelt ignoreCase name = [name] := by
  have exact : regs.spelt ignoreCase name = regs.spellings.filter (· = name) := by
    refine List.filter_congr fun key spelling => ?_
    obtain ⟨r, mem, rfl⟩ := mem_spellings_iff.1 spelling
    rw [Bool.eq_iff_iff, decide_eq_true_iff]
    refine ⟨only r mem, fun same => ?_⟩
    simp [namesEqual, same]
  have once := List.count_eq_one_of_mem (nodup_spellings regs) (mem_spellings_iff.2 known)
  rw [exact, List.filter_eq, once]
  rfl

/-- The group of the first spelling comes first. -/
theorem spelt_cases (regs : Registrations) (name : String) :
    regs.spelt true name = [] ∧ regs.called name = []
      ∨ ∃ key keys, regs.spelt true name = key :: keys ∧ regs.called name ≠ []
        ∧ regs.foremost name = regs.under key
        ∧ (regs.foremost name ++ keys.flatMap regs.under).Perm (regs.called name) := by
  have all := flatMap_spelt_perm regs name
  have first := head?_spelt regs name
  cases keys : regs.spelt true name with
  | nil =>
    rw [keys] at all
    exact .inl ⟨rfl, List.nil_perm.1 all⟩
  | cons key rest =>
    rw [keys] at all first
    obtain ⟨r, found, rfl⟩ := Option.map_eq_some_iff.1 first.symm
    have foremost : regs.foremost name = regs.under r.1 := by rw [foremost, found]
    have named : namesEqual true r.1 name = true := by simpa using List.find?_some found
    have called : r.2 ∈ regs.called name :=
      List.mem_map_of_mem (List.mem_filter.2 ⟨List.mem_of_find?_eq_some found, named⟩)
    exact .inr ⟨r.1, rest, rfl, List.ne_nil_of_mem called, foremost, by rwa [foremost]⟩

end Registrations

namespace Context

open Registrations

variable {c : Context} {regs regs' before : Registrations} {name : String} {ts : List Ty}

/-- Registers handles one after another. -/
def register (c : Context) (regs : Registrations) : Context :=
  regs.foldl (fun c r => c.addFunction r.1 r.2) c

theorem parents_register (c : Context) (regs : Registrations) :
    (c.register regs).parents = c.parents := by
  induction regs generalizing c with
  | nil => rfl
  | cons r regs ih => exact ih (c.addFunction r.1 r.2)

theorem options_register (c : Context) (regs : Registrations) :
    (c.register regs).frame.options = c.frame.options := by
  induction regs generalizing c with
  | nil => rfl
  | cons r regs ih => exact ih (c.addFunction r.1 r.2)

theorem members_register (c : Context) (regs : Registrations) :
    (c.register regs).frame.members = c.frame.members := by
  induction regs generalizing c with
  | nil => rfl
  | cons r regs ih => exact ih (c.addFunction r.1 r.2)

/-- One more handle joins the group of its spelling, or makes a group that comes last. -/
theorem functions_addFunction (kept : c.frame.functions = before.grouped) (r : String × Handle) :
    (c.addFunction r.1 r.2).frame.functions = grouped (before ++ [r]) := by
  have known : c.frame.functions.any (·.1 = r.1) = true ↔ r.1 ∈ before.spellings := by
    simp [kept, grouped]
  simp only [addFunction, addFunctions, known, grouped, spellings_concat, under_concat]
  split
  · rw [kept, grouped, List.map_map]
    refine List.map_congr_left fun key _ => ?_
    simp only [Function.comp_apply]
  · rename_i new
    rw [List.map_append, kept, grouped]
    congr 1
    · refine List.map_congr_left fun key mem => ?_
      rw [if_neg fun same : key = r.1 => new (same ▸ mem)]
    · simp [under_eq_nil new]

theorem functions_register (before regs : Registrations)
    (kept : c.frame.functions = before.grouped) :
    (c.register regs).frame.functions = grouped (before ++ regs) := by
  induction regs generalizing c before with
  | nil => rw [List.append_nil, ← kept]; rfl
  | cons r regs ih =>
    rw [List.append_cons]
    exact ih (before ++ [r]) (functions_addFunction kept r)

/-! The choice among registered handles -/

/-- What registered handles mean under a name: the groups of its spellings, one merged with the
other. -/
theorem group?_register_eq_foldl (alone : c.parents = []) (empty : c.frame.functions = [])
    (regs : Registrations) (name : String) :
    (c.register regs).group? name
      = ((regs.spelt c.options.ignoreFunctionCase name).map fun key => (key, regs.under key)).foldl
        (fun found entry => mergeOption found (some entry.2)) none := by
  have found : (c.register regs).frame.found name
      = (regs.spelt c.options.ignoreFunctionCase name).map fun key => (key, regs.under key) := by
    have functions : (c.register regs).frame.functions = regs.grouped :=
      functions_register [] regs empty
    rw [Frame.found, functions, options_register, grouped, List.filter_map]
    rfl
  have inherited : (c.register regs).inherited? name = none := by
    rw [inherited?, parent?, parents_register, alone]
    rfl
  rw [group?_eq_own inherited, Frame.group?_eq_foldl, found]

/-- Where a name has one spelling it means the handles of this spelling. -/
theorem group?_register_of_spelt {key : String} (alone : c.parents = [])
    (empty : c.frame.functions = [])
    (spelt : regs.spelt c.options.ignoreFunctionCase name = [key]) :
    (c.register regs).group? name = some (regs.under key) := by
  rw [group?_register_eq_foldl alone empty, spelt]
  rfl

/-- Where letter case has no meaning a name means the handles of its first spelling, merged with the
others, if there are any. -/
theorem group?_register (blind : c.options.ignoreFunctionCase = true) (alone : c.parents = [])
    (empty : c.frame.functions = []) (regs : Registrations) (name : String) :
    regs.called name = [] ∧ (c.register regs).group? name = none
      ∨ regs.called name ≠ [] ∧ ∃ others, (regs.foremost name ++ others).Perm (regs.called name)
        ∧ (c.register regs).group? name = some ((regs.foremost name).merge others) := by
  rw [group?_register_eq_foldl alone empty, blind]
  rcases spelt_cases regs name with ⟨none, nothing⟩ | ⟨key, keys, spelt, called, foremost, all⟩
  · rw [none]
    exact .inl ⟨nothing, rfl⟩
  · refine .inr ⟨called, keys.flatMap regs.under, all, ?_⟩
    rw [spelt, List.map_cons, List.foldl_cons, foremost]
    refine (foldl_mergeOption_some _ _).trans ?_
    rw [List.flatMap_map]

theorem group?_register_eq_none_iff (blind : c.options.ignoreFunctionCase = true)
    (alone : c.parents = []) (empty : c.frame.functions = []) :
    (c.register regs).group? name = none ↔ regs.called name = [] := by
  rcases group?_register blind alone empty regs name with
    ⟨nothing, none⟩ | ⟨called, others, -, some⟩
  · exact iff_of_true none nothing
  · rw [some]
    exact iff_of_false (Option.some_ne_none _) called

/-- Where the most specific parameters are there once at most, the spellings make no difference to
the choice. -/
theorem outcome_register_of_once (blind : c.options.ignoreFunctionCase = true)
    (alone : c.parents = []) (empty : c.frame.functions = []) (once : ¬ regs.Doubled name ts) :
    (c.register regs).outcome name ts = (regs.called name).resolve ts := by
  rw [outcome_eq]
  rcases group?_register blind alone empty regs name with
    ⟨nothing, none⟩ | ⟨-, others, all, some⟩
  · rw [none, nothing, Option.getD_none]
  · rw [some, Option.getD_some, ← resolve_perm all.symm]
    refine resolve_merge ?_
    rw [(leasts_perm all ts).length_eq]
    exact Nat.le_of_lt_succ (Nat.lt_of_not_le once)

/-- Where they are there more than once, those under the first spelling decide whether the choice is
ambiguous. -/
theorem outcome_register_of_doubled (blind : c.options.ignoreFunctionCase = true)
    (alone : c.parents = []) (empty : c.frame.functions = []) (twice : regs.Doubled name ts) :
    (2 ≤ ((regs.foremost name).filter (isLeast (regs.called name) ts)).length →
        (c.register regs).outcome name ts = .error .ambiguous)
      ∧ (((regs.foremost name).filter (isLeast (regs.called name) ts)).length ≤ 1 →
        ∃ h ∈ leasts (regs.called name) ts, (c.register regs).outcome name ts = .ok h) := by
  rw [outcome_eq]
  rcases group?_register blind alone empty regs name with
    ⟨nothing, -⟩ | ⟨-, others, all, some⟩
  · rw [Registrations.Doubled, nothing] at twice
    exact absurd twice (Nat.not_succ_le_zero 1)
  · have twice' : 2 ≤ (leasts (regs.foremost name ++ others) ts).length := by
      rwa [(leasts_perm all ts).length_eq]
    obtain ⟨ambiguous, decided⟩ := resolve_merge_of_twice twice'
    rw [isLeast_perm all] at ambiguous decided
    rw [some, Option.getD_some]
    refine ⟨ambiguous, fun own => ?_⟩
    obtain ⟨h, first, chosen⟩ := decided own
    exact ⟨h, (leasts_perm all ts).mem_iff.1 (List.mem_of_head? first), chosen⟩

/-- Where letter case has no meaning, the spellings under which functions are registered make a
difference to a call only if the most specific parameters are there more than once. The call is
ambiguous if the first spelling has them more than once, and means one of these functions if not. -/
theorem handle_register (blind : c.options.ignoreFunctionCase = true) (alone : c.parents = [])
    (empty : c.frame.functions = []) (regs : Registrations) (name : String) (ts : List Ty) :
    (¬ regs.Doubled name ts → ∀ regs', regs.Respelt regs' →
        (c.register regs').handle name ts = (c.register regs).handle name ts)
      ∧ (regs.Doubled name ts →
        (2 ≤ ((regs.foremost name).filter (isLeast (regs.called name) ts)).length →
          (c.register regs).handle name ts = .error (.ambiguousCall name))
        ∧ (((regs.foremost name).filter (isLeast (regs.called name) ts)).length ≤ 1 →
          ∃ h ∈ leasts (regs.called name) ts, (c.register regs).handle name ts = .ok h)) := by
  refine ⟨fun once regs' respelt => ?_, fun twice => ?_⟩
  · have same := called_respelt respelt name
    have once' : ¬ regs'.Doubled name ts := by rwa [Registrations.Doubled, same]
    apply handle_congr
    · rw [group?_register_eq_none_iff blind alone empty,
        group?_register_eq_none_iff blind alone empty, same]
    · rw [outcome_register_of_once blind alone empty once,
        outcome_register_of_once blind alone empty once', same]
  · obtain ⟨ambiguous, decided⟩ := outcome_register_of_doubled blind alone empty twice
    refine ⟨fun own => outcome_eq_ambiguous_iff.1 (ambiguous own), fun own => ?_⟩
    obtain ⟨h, mem, chosen⟩ := decided own
    exact ⟨h, mem, outcome_eq_ok_iff.1 chosen⟩

/-- Three functions without arguments under two spellings: the choice is ambiguous when the first
spelling has two of them, and the one of the first spelling when it has only that. -/
theorem handle_register_three :
    let one : Handle := ⟨[], .string, fun _ => .ok (.string "One")⟩
    let two : Handle := ⟨[], .string, fun _ => .ok (.string "Two")⟩
    let length : Handle := ⟨[.string], .numeric .double, fun _ => .ok .null⟩
    let c : Context := ⟨⟨{ ignoreFunctionCase := true }, fun _ _ => .notFound, 0, [], []⟩, []⟩
    let regs : Registrations := [("f", one), ("F", length), ("f", two)]
    let regs' : Registrations := [("F", one), ("F", length), ("f", two)]
    regs.Respelt regs'
      ∧ (c.register regs).handle "f" [] = .error (.ambiguousCall "f")
      ∧ (∃ h ∈ leasts (regs'.called "f") [], (c.register regs').handle "f" [] = .ok h)
      ∧ (c.register regs').handle "f" [.string] = (c.register regs).handle "f" [.string] := by
  intro one two length c regs regs'
  have respelt : regs.Respelt regs' := by
    refine .cons ⟨?_, rfl⟩ (.cons ⟨rfl, rfl⟩ (.cons ⟨rfl, rfl⟩ .nil))
    decide +kernel
  have plain := fun regs => handle_register (c := c) rfl rfl rfl regs "f"
  have twice : regs.Doubled "f" [] := by decide +kernel
  have twice' : regs'.Doubled "f" [] := by decide +kernel
  have once : ¬ regs.Doubled "f" [.string] := by decide +kernel
  refine ⟨respelt, ((plain regs []).2 twice).1 ?_, ((plain regs' []).2 twice').2 ?_,
    (plain regs [.string]).1 once regs' respelt⟩
  · decide +kernel
  · decide +kernel

/-- A function that is registered under another spelling decides a call that is ambiguous otherwise.
-/
theorem exists_spelling_that_decides :
    ∃ (c : Context) (regs regs' : Registrations) (name : String) (ts : List Ty),
      c.options.ignoreFunctionCase = true ∧ c.parents = [] ∧ c.frame.functions = []
        ∧ regs.Respelt regs'
        ∧ (c.register regs').handle name ts ≠ (c.register regs).handle name ts := by
  let one : Handle := ⟨[], .string, fun _ => .ok (.string "One")⟩
  let two : Handle := ⟨[], .string, fun _ => .ok (.string "Two")⟩
  let c : Context := ⟨⟨{ ignoreFunctionCase := true }, fun _ _ => .notFound, 0, [], []⟩, []⟩
  let regs : Registrations := [("f", one), ("f", two)]
  let regs' : Registrations := [("f", one), ("F", two)]
  have respelt : regs.Respelt regs' := by
    refine .cons ⟨rfl, rfl⟩ (.cons ⟨?_, rfl⟩ .nil)
    decide +kernel
  have twice : regs.Doubled "f" [] := by decide +kernel
  have twice' : regs'.Doubled "f" [] := by decide +kernel
  have before : (c.register regs).outcome "f" [] = .error .ambiguous :=
    (outcome_register_of_doubled rfl rfl rfl twice).1 (by decide +kernel)
  obtain ⟨h, -, after⟩ :
      ∃ h ∈ leasts (regs'.called "f") [], (c.register regs').outcome "f" [] = .ok h :=
    (outcome_register_of_doubled rfl rfl rfl twice').2 (by decide +kernel)
  refine ⟨c, regs, regs', "f", [], rfl, rfl, rfl, respelt, ?_⟩
  rw [outcome_eq_ambiguous_iff.1 before, outcome_eq_ok_iff.1 after]
  exact nofun

end Context

end ExprLang
