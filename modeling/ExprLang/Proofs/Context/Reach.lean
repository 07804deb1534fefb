import ExprLang.Proofs.Context.Overloads
import ExprLang.Proofs.Grammar.Folding
import ExprLang.Proofs.Grammar.Legible

set_option autoImplicit false

/-!
A context that stops telling the names of functions apart by letter case. The names of calls then
come in lower case, but each parent goes on looking for them in its own way. A function whose name
has a capital stays within reach where the context has it itself or a parent ignores letter case
too; else the call finds nothing any more.
-/

namespace ExprLang

open Grammar

namespace Expr

variable {c : Context} {m : Memory} {e : Expr} {name : String}

theorem unknownFunction_not_mem_ownProblems (other : ∀ name es, e ≠ call name es) :
    .unknownFunction name ∉ e.ownProblems c m := by
  cases e with
  | literal v source =>
    unfold ownProblems
    split <;> simp_all
  | ident name' =>
    rw [ownProblems]
    split <;> simp
  | call name' es => exact absurd rfl (other name' es)
  | conditional name' es =>
    rw [ownProblems]
    split
    · split <;> split <;> simp
    · simp
  | nullTest name' es =>
    rw [ownProblems]
    split <;> simp
  | member target name' =>
    rw [ownProblems, Context.member]
    split <;> simp [problemOf]
  | group inner => simp [ownProblems]
  | operation left op right => simp [ownProblems]

theorem unknownFunction_mem_ownProblems_call {name' : String} {es : List Expr} :
    .unknownFunction name ∈ (call name' es).ownProblems c m
      ↔ name' = name ∧ c.group? name' = none := by
  rw [ownProblems, Context.handle]
  cases found : c.group? name' with
  | none => simp [problemOf, eq_comm]
  | some g =>
    refine iff_of_false ?_ (by simp)
    dsimp only
    rcases g.resolve (tys c m es) with (_ | _) | h <;> simp [problemOf]

/-- The check says that there is no function of a name when a call whose arguments have no problems
has a name that no context has. -/
theorem unknownFunction_mem_problems_iff : .unknownFunction name ∈ e.problems c m
    ↔ c.group? name = none
      ∧ ∃ es, (call name es).Within e ∧ ∀ x ∈ es, x.problems c m = [] := by
  rw [mem_problems_iff]
  constructor
  · rintro ⟨x, inside, parts, own⟩
    by_cases called : ∃ name' es, x = call name' es
    · obtain ⟨name', es, rfl⟩ := called
      obtain ⟨rfl, none⟩ := unknownFunction_mem_ownProblems_call.1 own
      exact ⟨none, es, inside, parts⟩
    · have other : ∀ name' es, x ≠ call name' es := fun name' es same => called ⟨name', es, same⟩
      exact absurd own (unknownFunction_not_mem_ownProblems other)
  · rintro ⟨none, es, inside, parts⟩
    exact ⟨_, inside, parts, unknownFunction_mem_ownProblems_call.2 ⟨rfl, none⟩⟩

end Expr

namespace Context

variable {c : Context} {m : Memory} {text name : String} {e : Expr} {p : Problem}

/-- The same context in a language that ignores the letter case of the names of functions. Its
parents keep their languages. -/
def foldingCalls (c : Context) : Context := c.setOptions c.options.foldingCalls

/-- The check of a text says that there is a problem. -/
def Reports (c : Context) (m : Memory) (text : String) (p : Problem) : Prop :=
  ∃ ps, c.check m text = .error (.semantic ps) ∧ p ∈ ps

theorem reports_iff (read : c.parse text = .ok e) : c.Reports m text p ↔ p ∈ e.problems c m := by
  have outcome : c.check m text
      = if e.problems c m = [] then .ok e else .error (.semantic (e.problems c m)) := by
    rw [check, read]
    cases none : e.problems c m <;> simp [bind, Except.bind, pure, Except.pure, none]
  rw [Reports, outcome]
  split
  · rename_i none
    simp [none]
  · simp

/-- A function whose name is not found in lower case: the context itself does not have it in any
spelling, and no parent finds the lower case in its own language. -/
def OutOfReach (c : Context) (name : String) : Prop :=
  (∀ entry ∈ c.frame.functions, lowerText entry.1 ≠ lowerText name)
    ∧ ∀ f ∈ c.parents, ∀ entry ∈ f.functions,
      namesEqual f.options.ignoreFunctionCase entry.1 (lowerText name) = false

theorem group?_foldingCalls_eq_none_iff (ascii : Ascii name.toList) :
    c.foldingCalls.group? (lowerText name) = none ↔ c.OutOfReach name := by
  have none : ∀ f : Frame, f.group? (lowerText name) = none
      ↔ ∀ entry ∈ f.functions,
        namesEqual f.options.ignoreFunctionCase entry.1 (lowerText name) = false := fun f => by
    rw [Frame.group?_eq_none_iff_found, Frame.found, List.filter_eq_nil_iff]
    simp only [Bool.not_eq_true]
  have own : ∀ key, namesEqual true key (lowerText name) = false ↔ lowerText key ≠ lowerText name :=
    fun key => by
      rw [Ne, ← lowerText_lowerText ascii, ← namesEqual_true_iff, Bool.not_eq_true]
      simp only [lowerText_lowerText ascii]
  rw [group?_eq_none_iff]
  simp only [none]
  refine List.forall_mem_cons.trans ?_
  exact and_congr_left fun _ => forall₂_congr fun entry _ => own entry.1

/-- What is out of reach was found under its very spelling in parents only, all of which tell names
apart by letter case, and is not written in lower case. -/
theorem OutOfReach.of_has (lost : c.OutOfReach name) (ascii : Ascii name.toList) {f : Frame}
    (mem : f ∈ c.frames) (has : f.Has name) :
    f ∈ c.parents ∧ f.options.ignoreFunctionCase = false ∧ lowerText name ≠ name := by
  obtain ⟨g, entry⟩ := has
  rcases List.mem_cons.1 mem with rfl | parent
  · exact (lost.1 (name, g) entry rfl).elim
  · have missed := lost.2 f parent (name, g) entry
    refine ⟨parent, Bool.eq_false_iff.2 fun ignores => ?_, fun lower => ?_⟩
    · rw [ignores, namesEqual_true_iff.2 (lowerText_lowerText ascii).symm] at missed
      cases missed
    · rw [lower] at missed
      simp [namesEqual] at missed

/-- When a context stops telling the names of functions apart by letter case, the check of a text
comes to say of exactly those functions that there are none which are called with arguments that
pass and are out of reach. These are functions of parents only, which tell names apart by letter
case and have the name with a capital. -/
theorem reports_foldingCalls (exact : c.options.ignoreFunctionCase = false)
    (read : c.parse text = .ok e) :
    (∀ name, c.foldingCalls.Reports m text (.unknownFunction name)
        ↔ ∃ n es, (Expr.call n es).Within e ∧ lowerText n = name ∧ c.OutOfReach n
          ∧ ∀ x ∈ es, x.lowerCalls.problems c.foldingCalls m = [])
      ∧ ∀ n es, (Expr.call n es).Within e → c.OutOfReach n → ∀ f ∈ c.frames, f.Has n →
        f ∈ c.parents ∧ f.options.ignoreFunctionCase = false ∧ lowerText n ≠ n := by
  have ascii : ∀ {n es}, (Expr.call n es).Within e → Ascii n.toList := fun inside =>
    ascii_of_isName (Expr.isName_of_parse read inside)
  -- The new language reads the same tree with the names of its calls in lower case.
  have reread : c.foldingCalls.parse text = .ok e.lowerCalls := by
    have folded := Expr.parse_foldingCalls exact text
    rw [show Expr.parse c.options text = .ok e from read] at folded
    exact folded
  refine ⟨fun name => ?_, fun n es inside lost f mem has => lost.of_has (ascii inside) mem has⟩
  rw [reports_iff reread, Expr.unknownFunction_mem_problems_iff]
  simp only [Expr.call_within_lowerCalls_iff]
  constructor
  · rintro ⟨none, _, ⟨n, es, inside, rfl, rfl⟩, parts⟩
    have lost := (group?_foldingCalls_eq_none_iff (ascii inside)).1 none
    exact ⟨n, es, inside, rfl, lost, List.forall_mem_map.1 parts⟩
  · rintro ⟨n, es, inside, rfl, lost, parts⟩
    have none := (group?_foldingCalls_eq_none_iff (ascii inside)).2 lost
    exact ⟨none, _, ⟨n, es, inside, rfl, rfl⟩, List.forall_mem_map.2 parts⟩

/-- Of three functions with capitals the context has one itself and a parent that ignores letter
case has one; the third, whose parent tells `Third` from `third`, is not found any more. -/
theorem reports_foldingCalls_third :
    let one : Handle := ⟨[], .int .int32, fun _ => .ok (.int32 Integer.one)⟩
    let same : Handle := ⟨[.int .int32], .int .int32, fun vs => .ok (vs.headD .null)⟩
    let frame (o : Options) (name : String) (h : Handle) : Frame :=
      ⟨o, fun _ _ => .notFound, 0, [(name, [h])], []⟩
    let c : Context := ⟨frame {} "First" same,
      [frame { ignoreFunctionCase := true } "SECOND" same, frame {} "Third" one]⟩
    let e : Expr := .call "First" [.call "SECOND" [.call "Third" []]]
    c.options.ignoreFunctionCase = false ∧ c.parse "First(SECOND(Third()))" = .ok e
      ∧ c.foldingCalls.Reports ⟨[]⟩ "First(SECOND(Third()))" (.unknownFunction "third")
      ∧ ¬ c.foldingCalls.Reports ⟨[]⟩ "First(SECOND(Third()))" (.unknownFunction "second")
      ∧ ¬ c.foldingCalls.Reports ⟨[]⟩ "First(SECOND(Third()))" (.unknownFunction "first") := by
  intro one same frame c e
  have read : c.parse "First(SECOND(Third()))" = .ok e := toOption_eq_some_iff.1 (by decide +kernel)
  have iff := (reports_foldingCalls (m := ⟨[]⟩) rfl read).1
  have third : (Expr.call "Third" []).Within e :=
    .child (.child .refl List.mem_cons_self) List.mem_cons_self
  have lost : c.OutOfReach "Third" := by
    refine ⟨fun entry mem => ?_, fun f parent entry mem => ?_⟩
    · obtain rfl := List.mem_singleton.1 mem
      decide +kernel
    · obtain rfl | rfl : f = frame { ignoreFunctionCase := true } "SECOND" same
          ∨ f = frame {} "Third" one := by simpa [c] using parent
      all_goals
        obtain rfl := List.mem_singleton.1 mem
        decide +kernel
  refine ⟨rfl, read, (iff _).2 ⟨_, _, third, by decide +kernel, lost, by simp⟩, fun told => ?_,
    fun told => ?_⟩
  · obtain ⟨n, es, -, lower, lost, -⟩ := (iff _).1 told
    have missed := lost.2 _ List.mem_cons_self _ List.mem_cons_self
    rw [lower] at missed
    exact absurd missed (by decide +kernel)
  · obtain ⟨n, es, -, lower, lost, -⟩ := (iff _).1 told
    have missed := lost.1 _ List.mem_cons_self
    rw [lower] at missed
    exact absurd missed (by decide +kernel)

/-- A call that passed the check comes to call a function that is not found. -/
theorem exists_call_that_gets_lost :
    ∃ (c : Context) (m : Memory) (text n : String) (es : List Expr),
      c.options.ignoreFunctionCase = false ∧ c.check m text = .ok (.call n es)
        ∧ (∃ f ∈ c.frames, f.Has n)
        ∧ c.foldingCalls.Reports m text (.unknownFunction (lowerText n)) := by
  let half : Handle := ⟨[.numeric .double], .numeric .double, fun _ => .ok .null⟩
  let p : Frame := ⟨{}, fun _ _ => .notFound, 0, [("Half", [half])], []⟩
  let c : Context := ⟨⟨{}, fun _ _ => .notFound, 1, [], []⟩, [p]⟩
  let argument : Expr := .literal (.integer (some (.int .int32 Integer.one))) "1"
  have reread : c.foldingCalls.parse "Half(1)" = .ok (.call "half" [argument]) :=
    toOption_eq_some_iff.1 (by decide +kernel)
  have missing : c.foldingCalls.group? "half" = none := by decide +kernel
  refine ⟨c, ⟨[]⟩, "Half(1)", "Half", [argument], rfl, toOption_eq_some_iff.1 (by decide +kernel),
    ⟨p, List.mem_cons_of_mem _ List.mem_cons_self, ⟨_, List.mem_cons_self⟩⟩, ?_⟩
  rw [show lowerText "Half" = "half" by decide +kernel, reports_iff reread,
    Expr.unknownFunction_mem_problems_iff]
  refine ⟨missing, [argument], .refl, fun x mem => ?_⟩
  obtain rfl := List.mem_singleton.1 mem
  decide +kernel

end Context

end ExprLang
