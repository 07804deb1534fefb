import ExprLang.Library.Standard
import ExprLang.Proofs.Context.Registration
import ExprLang.Proofs.Tree

set_option autoImplicit false

/-!
The built-in casts of numbers: what they do to numbers that may be passed for the kind that is
wanted, and which contexts have them.
-/

namespace ExprLang

open Library Library.Casts

namespace Library.Casts

/-- The built-in cast of numbers of one kind to another. -/
def numberCast (source target : Kind) : Handle :=
  single (.numeric source) (.numeric target) (castNumber target)

/-- Fractions are not passed for integers, so what is passed is not rounded. -/
theorem rounded_of_assignableTo {n : Number} {k : Kind}
    (takes : (Ty.numeric n.kind).assignableTo (.numeric k) = true) : rounded k n = n := by
  cases k with
  | int k =>
    cases n with
    | int l a => rfl
    | _ =>
      rcases Ty.assignableTo_cases takes with same | other | ⟨i, j, own, wanted, widens⟩
      · cases same
      · cases other
      · cases own
        cases wanted
        cases Kind.isInteger_of_widensTo_int widens
  | single => cases n <;> rfl
  | double => cases n <;> rfl
  | decimal => cases n <;> rfl

/-- The cast to a kind that a number may be passed for is what happens to it when it is passed. -/
theorem castNumber_eq_coerce {v : Value} {source target : Kind}
    (hv : v.isInstanceOf (.numeric source) = true)
    (takes : (Ty.numeric source).assignableTo (.numeric target) = true) :
    castNumber target v = coerce v (.numeric target) := by
  obtain ⟨n, rfl, rfl⟩ := Value.isInstanceOf_numeric_iff.1 hv
  have whole : castNumber target (.number n) = Error.ofValue ((Value.number n).convert target) := by
    rw [castNumber, rounded_of_assignableTo takes]
  rw [whole]
  by_cases same : n.kind = target
  · subst same
    rw [Value.convert_number n.convert_kind, coerce_of_isInstanceOf hv]
    rfl
  · simp only [coerce, Value.kind?, Ty.kind?, same, if_false]

/-- The cast of a computation, passed where its result is wanted. -/
theorem coerce_cast {r : Except Error Value} {source target : Kind}
    (honest : ∀ v, r = .ok v → v.isInstanceOf (.numeric source) = true)
    (takes : (Ty.numeric source).assignableTo (.numeric target) = true) :
    (do
        let v ← coerce (← r) (.numeric source)
        let w ← (numberCast source target).run [v]
        coerce w (.numeric target))
      = (do coerce (← r) (.numeric target)) := by
  cases r with
  | error e => rfl
  | ok v =>
    have typed := honest v rfl
    obtain ⟨w, widened, typed'⟩ := coerce_of_assignableTo typed takes
    -- The result of the cast is of the kind that is wanted and is not converted again.
    have casted : (numberCast source target).run [v] = .ok w :=
      (castNumber_eq_coerce typed takes).trans widened
    simp only [bind, Except.bind, coerce_of_isInstanceOf typed, casted, widened,
      coerce_of_isInstanceOf typed']

/-! The names of the casts -/

/-- Kinds are told apart by the names of their casts, whatever the letter case. -/
theorem eq_of_castName {k l : Kind} (same : namesEqual true (castName l) (castName k) = true) :
    l = k := by
  have cover : ∀ k ∈ Kind.all, ∀ l ∈ Kind.all,
      namesEqual true (castName l) (castName k) = true → l = k := by decide +kernel
  exact cover k k.mem_all l l.mem_all same

theorem castText_ne_castName (k : Kind) : namesEqual true "c_str" (castName k) = false := by
  have cover : ∀ k ∈ Kind.all, namesEqual true "c_str" (castName k) = false := by decide +kernel
  exact cover k k.mem_all

theorem name_of_mem_castsTo {k : Kind} {r : String × Handle} (mem : r ∈ castsTo k) :
    r.1 = castName k := by
  rcases List.mem_append.1 mem with mem | mem
  · obtain ⟨source, -, rfl⟩ := List.mem_map.1 mem
    rfl
  · rw [List.mem_singleton.1 mem]

theorem name_of_mem_castsToText {r : String × Handle} (mem : r ∈ castsToText) : r.1 = "c_str" := by
  obtain ⟨t, -, rfl⟩ := List.mem_map.1 mem
  rfl

theorem name_of_mem_casts {r : String × Handle} (function : r ∈ casts.functions) {k : Kind}
    (same : namesEqual true r.1 (castName k) = true) : r.1 = castName k := by
  rcases List.mem_append.1 function with number | text
  · obtain ⟨l, -, mem⟩ := List.mem_flatMap.1 number
    rw [name_of_mem_castsTo mem] at same ⊢
    rw [eq_of_castName same]
  · rw [name_of_mem_castsToText text, castText_ne_castName] at same
    cases same

/-! The casts keep to their types -/

theorem single_faithful {parameter result : Ty} {f : Value → Except Error Value}
    (keeps : ∀ v w, f v = .ok w → w.isInstanceOf result = true) :
    (single parameter result f).Faithful := by
  intro vs w fits value
  cases fits with
  | cons _ _ => exact keeps _ w value

theorem castNumber_ok {k : Kind} {v w : Value} (value : castNumber k v = .ok w) :
    w.isInstanceOf (.numeric k) = true := by
  unfold castNumber at value
  split at value
  · exact Value.isInstanceOf_of_convert value
  · exact Value.isInstanceOf_of_convert value

theorem kind_of_parse? {k : Kind} {cs : List Char} {n : Number} (read : Number.parse? k cs = some n) :
    n.kind = k := by
  cases k with
  | int k =>
    obtain ⟨a, -, rfl⟩ := Option.map_eq_some_iff.1 read
    rfl
  | single =>
    obtain ⟨x, -, rfl⟩ := Option.map_eq_some_iff.1 read
    rfl
  | double =>
    obtain ⟨x, -, rfl⟩ := Option.map_eq_some_iff.1 read
    rfl
  | decimal =>
    obtain ⟨d, -, rfl⟩ := Option.map_eq_some_iff.1 read
    rfl

theorem castText_ok {function : String} {k : Kind} {v w : Value}
    (value : castText function k v = .ok w) : w.isInstanceOf (.numeric k) = true := by
  unfold castText at value
  split at value
  · split at value
    · rename_i n read
      cases value
      exact Value.isInstanceOf_numeric_iff.2 ⟨n, rfl, kind_of_parse? read⟩
    · cases value
  · cases value

theorem casts_faithful {r : String × Handle} (mem : r ∈ casts.functions) : r.2.Faithful := by
  rcases List.mem_append.1 mem with number | text
  · obtain ⟨k, -, mem⟩ := List.mem_flatMap.1 number
    rcases List.mem_append.1 mem with mem | mem
    · obtain ⟨source, -, rfl⟩ := List.mem_map.1 mem
      exact single_faithful fun _ _ => castNumber_ok
    · obtain rfl := List.mem_singleton.1 mem
      exact single_faithful fun _ _ => castText_ok
  · obtain ⟨t, -, rfl⟩ := List.mem_map.1 text
    refine single_faithful fun v w value => ?_
    cases value
    exact Value.isInstanceOf_string_iff.2 (.inr ⟨_, rfl⟩)

/-- Of the casts those to one kind have its name. -/
theorem under_casts (k : Kind) :
    Registrations.under casts.functions (castName k) = (castsTo k).map (·.2) := by
  have named : ∀ l, (castsTo l).filter (·.1 = castName k) = if l = k then castsTo k else [] := by
    intro l
    split
    · rename_i same
      subst same
      exact List.filter_eq_self.2 fun r mem => decide_eq_true (name_of_mem_castsTo mem)
    · rename_i other
      refine List.filter_eq_nil_iff.2 fun r mem same => other (eq_of_castName ?_)
      rw [← name_of_mem_castsTo mem, of_decide_eq_true same, namesEqual_true_iff]
  have text : castsToText.filter (·.1 = castName k) = [] := by
    refine List.filter_eq_nil_iff.2 fun r mem same => ?_
    have other := castText_ne_castName k
    rw [← name_of_mem_castsToText mem, of_decide_eq_true same] at other
    simp [namesEqual] at other
  have all : (Kind.all.flatMap castsTo).filter (·.1 = castName k) = castsTo k := by
    rw [List.filter_flatMap]
    simp only [named]
    rcases k with (_ | _ | _ | _ | _ | _ | _ | _) | _ | _ | _ <;> rfl
  rw [Registrations.under, casts, List.filter_append, all, text, List.append_nil]

end Library.Casts

namespace Context

variable {c : Context} {regs : Registrations}

/-- For each two kinds, what the name of the cast means has the built-in cast, and no other handle
with its parameter. -/
def ShowsCasts (c : Context) : Prop := ∀ source target : Kind,
  ((c.group? (castName target)).getD []).filter (·.parameters = [.numeric source])
    = [numberCast source target]

theorem ShowsCasts.handle (shows : c.ShowsCasts) (source target : Kind) :
    c.handle (castName target) [.numeric source] = .ok (numberCast source target) :=
  handle_eq_ok_iff.2 (Group.resolve_of_exact (shows source target))

theorem filter_castsTo (source target : Kind) :
    ((castsTo target).map (·.2)).filter (·.parameters = [.numeric source])
      = [numberCast source target] := by
  rcases source with (_ | _ | _ | _ | _ | _ | _ | _) | _ | _ | _ <;> rfl

/-- A context has the casts when no function but them was registered under their names. -/
theorem showsCasts_register (alone : c.parents = []) (empty : c.frame.functions = [])
    (own : ∀ k, regs.under (castName k) = (castsTo k).map (·.2))
    (only : ∀ k, ∀ r ∈ regs, namesEqual true r.1 (castName k) = true → r.1 = castName k) :
    (c.register regs).ShowsCasts := by
  intro source target
  have spelt : regs.spelt c.options.ignoreFunctionCase (castName target) = [castName target] := by
    refine Registrations.spelt_of_only ?_ fun r mem same => only target r mem ?_
    · have some : numberCast .decimal target ∈ regs.under (castName target) := by
        rw [own]
        exact (List.mem_filter.1 (filter_castsTo .decimal target ▸ List.mem_cons_self)).1
      obtain ⟨r, mem, -⟩ := List.mem_map.1 some
      obtain ⟨registered, same⟩ := List.mem_filter.1 mem
      exact ⟨r, registered, of_decide_eq_true same⟩
    · exact namesEqual_true_iff.2 (lowerText_eq_of_namesEqual same)
  rw [group?_register_of_spelt alone empty spelt, Option.getD_some, own, filter_castsTo]

/-- The casts of a context that has nothing else. -/
theorem showsCasts_casts (alone : c.parents = []) (empty : c.frame.functions = []) :
    (c.register casts.functions).ShowsCasts :=
  showsCasts_register alone empty under_casts fun _ _ mem same => name_of_mem_casts mem same

/-- A context has the casts of its parent if it has no functions of these names. -/
theorem ShowsCasts.child {f : Frame} {p : Context} (shows : p.ShowsCasts)
    (other : ∀ k ∈ Kind.all, (f.group? (castName k)).isNone = true) :
    ShowsCasts ⟨f, p.frames⟩ := by
  intro source target
  have none : f.group? (castName target) = none :=
    Option.isNone_iff_eq_none.1 (other target target.mem_all)
  have inherited : group? ⟨f, p.frames⟩ (castName target) = p.group? (castName target) :=
    group?_eq_inherited none
  rw [inherited, shows]

/-! Contexts whose handles keep to their types -/

theorem Faithful.new (o : Options) (m : Memory) : (new o m).1.Faithful := by
  refine ⟨fun f mem entry functions => ?_, fun _ _ _ => MemberTable.standard_faithful⟩
  obtain rfl := List.mem_singleton.1 mem
  cases functions

theorem Faithful.child {f : Frame} {p : Context} (hp : p.Faithful)
    (functions : ∀ entry ∈ f.functions, ∀ h ∈ entry.2, h.Faithful)
    (members : ∀ target name found, f.members target name = .found found → found.Faithful target) :
    Faithful ⟨f, p.frames⟩ :=
  ⟨List.forall_mem_cons.2 ⟨functions, hp.functions⟩, members⟩

/-- A handle of a context to which one was added is that one or was there before. -/
theorem mem_addFunction {name : String} {h k : Handle} {entry : String × Group}
    (mem : entry ∈ (c.addFunction name h).frame.functions) (handle : k ∈ entry.2) :
    k = h ∨ ∃ entry ∈ c.frame.functions, k ∈ entry.2 := by
  simp only [addFunction, addFunctions] at mem
  split at mem
  · obtain ⟨before, known, rfl⟩ := List.mem_map.1 mem
    dsimp only at handle
    split at handle
    · rcases List.mem_append.1 handle with handle | handle
      · exact .inr ⟨before, known, handle⟩
      · exact .inl (List.mem_singleton.1 handle)
    · exact .inr ⟨before, known, handle⟩
  · rcases List.mem_append.1 mem with known | last
    · exact .inr ⟨entry, known, handle⟩
    · obtain rfl := List.mem_singleton.1 last
      exact .inl (List.mem_singleton.1 handle)

theorem Faithful.addFunction (hc : c.Faithful) {name : String} {h : Handle} (keeps : h.Faithful) :
    (c.addFunction name h).Faithful := by
  obtain ⟨own, parents⟩ := List.forall_mem_cons.1 hc.functions
  refine ⟨List.forall_mem_cons.2 ⟨fun entry mem k handle => ?_, parents⟩, hc.members⟩
  rcases mem_addFunction mem handle with rfl | ⟨before, known, handle⟩
  · exact keeps
  · exact own before known k handle

theorem Faithful.register (hc : c.Faithful) (keep : ∀ r ∈ regs, r.2.Faithful) :
    (c.register regs).Faithful := by
  induction regs generalizing c with
  | nil => exact hc
  | cons r regs ih =>
    obtain ⟨first, rest⟩ := List.forall_mem_cons.1 keep
    exact ih (hc.addFunction first) rest

end Context

/-! The built-in packages -/

namespace Package

/-- Packages that are loaded have their functions registered. -/
theorem eq_register_of_loadAll {ps : List Package} {c c' : Context} {m m' : Memory}
    (loaded : loadAll ps c m = .ok (c', m')) : c' = c.register (ps.flatMap (·.functions)) := by
  induction ps generalizing c m with
  | nil =>
    cases loaded
    rfl
  | cons p ps ih =>
    simp only [loadAll, load, bind_eq_ok_iff] at loaded
    obtain ⟨_, ⟨m'', -, here⟩, rest⟩ := loaded
    cases here
    rw [ih rest, List.flatMap_cons, Context.register, Context.register, List.foldl_append]

end Package

namespace Library

/-- The packages besides the casts. -/
def others (sample : Float) : List Package := [logic, math sample, strings, patterns]

theorem name_of_mem_others {sample : Float} {p : Package} (mem : p ∈ others sample)
    {r : String × Handle} (function : r ∈ p.functions) (k : Kind) :
    namesEqual true r.1 (castName k) = false := by
  have names : ((others sample).flatMap (·.functions)).map (·.1)
      = ((others 0).flatMap (·.functions)).map (·.1) := rfl
  have cover : ∀ k ∈ Kind.all, ∀ name ∈ ((others 0).flatMap (·.functions)).map (·.1),
      namesEqual true name (castName k) = false := by decide +kernel
  refine cover k k.mem_all r.1 ?_
  rw [← names]
  exact List.mem_map_of_mem (List.mem_flatMap.2 ⟨p, mem, function⟩)

/-- The built-in packages have the casts under their names, and nothing else. -/
theorem under_packages (sample : Float) (k : Kind) :
    Registrations.under ((packages sample).flatMap (·.functions)) (castName k)
      = (castsTo k).map (·.2) := by
  have none : ∀ p ∈ others sample, Registrations.under p.functions (castName k) = [] := by
    intro p mem
    refine Registrations.under_eq_nil fun known => ?_
    obtain ⟨r, function, same⟩ := Registrations.mem_spellings_iff.1 known
    have other := name_of_mem_others mem function k
    simp [namesEqual, same] at other
  simp only [others, List.forall_mem_cons] at none
  obtain ⟨logic, math, strings, patterns, -⟩ := none
  simp only [packages, List.flatMap_cons, List.flatMap_nil, Registrations.under_append, logic, math,
    strings, patterns, under_casts, List.nil_append, List.append_nil]

/-- A context with the built-in packages has the casts. -/
theorem showsCasts_standard {sample : Float} {o : Options} {c : Context} {m m' : Memory}
    (loaded : standard sample o m = .ok (c, m')) : c.ShowsCasts := by
  rw [Package.eq_register_of_loadAll loaded]
  refine Context.showsCasts_register rfl rfl (under_packages sample) fun k r mem same => ?_
  obtain ⟨p, package, function⟩ := List.mem_flatMap.1 mem
  by_cases here : p ∈ others sample
  · rw [name_of_mem_others here function] at same
    cases same
  · have casts : p = casts := by simp_all [packages, others]
    subst casts
    exact name_of_mem_casts function same

end Library

end ExprLang
