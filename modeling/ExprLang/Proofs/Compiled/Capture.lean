import ExprLang.Compiled.Program
import ExprLang.Proofs.Context.Renewal
import ExprLang.Proofs.Grammar.Names
import ExprLang.Proofs.Tree

set_option autoImplicit false

/-!
What compiled code still depends on. Of the memory it reads the slots of the variables that were no
constants when it was made; everything else about the contexts is settled.
-/

namespace ExprLang

namespace Expr

variable {c : Context} {m m' : Memory}

/-- The slots of the variables of an expression that are no constants. -/
def Captures (c : Context) (m : Memory) (e : Expr) (slot : Slot) : Prop :=
  ∃ name, (ident name).Within e ∧ c.name? m name = some (.kept slot)
    ∧ slot.content.constant = false

theorem Captures.of_mem_children {e x : Expr} {slot : Slot} (h : x.Captures c m slot)
    (hx : x ∈ e.children) : e.Captures c m slot := by
  obtain ⟨name, inside, bound⟩ := h
  exact ⟨name, inside.trans (within_of_mem_children hx), bound⟩

/-- Two memories that hold the same in all slots of an expression. -/
def SameCaptures (c : Context) (m : Memory) (e : Expr) (m₁ m₂ : Memory) : Prop :=
  ∀ slot, e.Captures c m slot → m₁.read? slot.store slot.key = m₂.read? slot.store slot.key

theorem SameCaptures.of_mem_children {e x : Expr} {m₁ m₂ : Memory}
    (h : e.SameCaptures c m m₁ m₂) (hx : x ∈ e.children) : x.SameCaptures c m m₁ m₂ :=
  fun slot captured => h slot (captured.of_mem_children hx)

theorem compileName_congr {name : String} {x : Compiled} (compiled : c.compileName m name = .ok x)
    {m₁ m₂ : Memory} (same : (ident name).SameCaptures c m m₁ m₂) (args : List Value) :
    x.code.run m₁ args = x.code.run m₂ args := by
  simp only [Context.compileName] at compiled
  split at compiled
  · cases compiled
    rfl
  · rename_i slot bound
    split at compiled
    · cases compiled
      rfl
    · rename_i live
      cases compiled
      have read := same slot ⟨name, .refl, bound, Bool.eq_false_iff.2 live⟩
      simp only [Memory.read?] at read
      simp only [Code.run, Code.readSlot, read]
  · cases compiled

theorem runAll_congr {es : List Expr} {xs : List Compiled} {m₁ m₂ : Memory} {args : List Value}
    (compiled : compileAll c m es = .ok xs)
    (h : ∀ e ∈ es, ∀ x, e.compile c m = .ok x → x.code.run m₁ args = x.code.run m₂ args)
    (ts : List Ty) :
    Code.runAll m₁ args (xs.map (·.code)) ts = Code.runAll m₂ args (xs.map (·.code)) ts := by
  induction es generalizing xs ts with
  | nil =>
    cases compiled
    cases ts <;> rfl
  | cons e es ih =>
    simp only [compileAll, bind_eq_ok_iff] at compiled
    obtain ⟨x, first, xs, rest, made⟩ := compiled
    cases made
    cases ts with
    | nil => rfl
    | cons t ts =>
      have head := h e List.mem_cons_self x first
      have tail := ih rest (fun y hy => h y (List.mem_cons_of_mem e hy)) ts
      simp only [List.map_cons, Code.runAll, head, tail]

theorem convertTo_congr {x y : Compiled} {t : Ty} (converted : x.convertTo t = .ok y)
    {m₁ m₂ : Memory} {args : List Value} (same : x.code.run m₁ args = x.code.run m₂ args) :
    y.code.run m₁ args = y.code.run m₂ args := by
  simp only [Compiled.convertTo] at converted
  split at converted
  · cases converted
    exact same
  · split at converted
    · cases converted
      exact same
    · split at converted
      · cases converted
        simp only [Code.run, same]
      · split at converted
        · cases converted
          simp only [Code.run, same]
        · cases converted

/-- The code of a conditional is that of its parts, the branches converted to one type. -/
theorem conditional_of_compile {name : String} {condition first second : Expr} {made : Compiled}
    (compiled : (conditional name [condition, first, second]).compile c m = .ok made) :
    ∃ t x y y' z z', condition.compile c m = .ok x ∧ first.compile c m = .ok y
      ∧ y.convertTo t = .ok y' ∧ second.compile c m = .ok z ∧ z.convertTo t = .ok z'
      ∧ made = ⟨t, .choose x.code y'.code z'.code⟩ := by
  simp only [compile] at compiled
  split at compiled
  · rename_i t _
    simp only [pure_bind, bind_eq_ok_iff] at compiled
    obtain ⟨x, hx, y, hy, y', toY, z, hz, z', toZ, made⟩ := compiled
    cases made
    exact ⟨t, x, y, y', z, z', hx, hy, toY, hz, toZ, rfl⟩
  · cases compiled

/-- Code runs alike on memories that hold the same in the slots of its expression. -/
theorem run_congr {e : Expr} {x : Compiled} (compiled : e.compile c m = .ok x) {m₁ m₂ : Memory}
    (same : e.SameCaptures c m m₁ m₂) (args : List Value) :
    x.code.run m₁ args = x.code.run m₂ args := by
  induction e generalizing x with
  | literal v source =>
    simp only [compile, bind_eq_ok_iff] at compiled
    obtain ⟨value, -, made⟩ := compiled
    cases made
    rfl
  | ident name => exact compileName_congr compiled same args
  | call name arguments ih =>
    simp only [compile, bind_eq_ok_iff] at compiled
    obtain ⟨h, -, xs, all, made⟩ := compiled
    cases made
    have parts := runAll_congr all
      (fun e mem y made => ih e mem made (same.of_mem_children mem)) h.parameters
    simp only [Code.run, parts]
  | conditional name arguments ih =>
    match arguments with
    | [condition, first, second] =>
      obtain ⟨t, x, y, y', z, z', hx, hy, toY, hz, toZ, rfl⟩ := conditional_of_compile compiled
      have part : ∀ e ∈ [condition, first, second], ∀ y, e.compile c m = .ok y →
          y.code.run m₁ args = y.code.run m₂ args :=
        fun e mem y made => ih e mem made (same.of_mem_children mem)
      have decides := part condition (by simp) x hx
      have chosen := convertTo_congr toY (part first (by simp) y hy)
      have other := convertTo_congr toZ (part second (by simp) z hz)
      simp only [Code.run, decides, chosen, other]
    | [] => cases compiled
    | [_] => cases compiled
    | [_, _] => cases compiled
    | _ :: _ :: _ :: _ :: _ => cases compiled
  | nullTest name arguments ih =>
    match arguments with
    | [e] =>
      simp only [compile] at compiled
      split at compiled
      · obtain ⟨y, hy, made⟩ := bind_eq_ok_iff.1 compiled
        cases made
        have part := ih e (by simp) hy (same.of_mem_children (List.mem_singleton_self e))
        simp only [Code.run, part]
      · cases compiled
        rfl
    | [] => cases compiled
    | _ :: _ :: _ => cases compiled
  | member target name ih =>
    simp only [compile, bind_eq_ok_iff] at compiled
    obtain ⟨found, -, y, hy, made⟩ := compiled
    cases made
    have part := ih hy (same.of_mem_children (List.mem_singleton_self target))
    simp only [Code.run, part]
  | group inner ih => exact ih compiled (same.of_mem_children (List.mem_singleton_self inner))
  | operation left op right ihl ihr =>
    simp only [compile, bind_eq_ok_iff] at compiled
    obtain ⟨x, hx, y, hy, made⟩ := compiled
    cases made
    have first := ihl hx (same.of_mem_children List.mem_cons_self)
    have second := ihr hy
      (same.of_mem_children (List.mem_cons_of_mem left (List.mem_singleton_self right)))
    simp only [Code.run, first, second]

theorem tys_congr {es : List Expr} (h : ∀ e ∈ es, e.ty c m = e.ty c m') :
    tys c m es = tys c m' es := by
  rw [tys_eq_map, tys_eq_map]
  exact List.map_congr_left h

theorem problemsAll_congr {es : List Expr} (h : ∀ e ∈ es, e.problems c m = e.problems c m') :
    problemsAll c m es = problemsAll c m' es := by
  induction es with
  | nil => rfl
  | cons e es ih =>
    have rest := ih fun x hx => h x (List.mem_cons_of_mem e hx)
    rw [problemsAll, problemsAll, h e List.mem_cons_self, rest]

theorem compileAll_congr {es : List Expr} (h : ∀ e ∈ es, e.compile c m = e.compile c m') :
    compileAll c m es = compileAll c m' es := by
  induction es with
  | nil => rfl
  | cons e es ih =>
    have rest := ih fun x hx => h x (List.mem_cons_of_mem e hx)
    rw [compileAll, compileAll, h e List.mem_cons_self, rest]

end Expr

/-! Memories in which names stand for the same are not told apart when an expression is checked or
compiled. -/

/-- The names of a context stand for what is alike. -/
def Context.NamesAlike (c : Context) (m m' : Memory) : Prop :=
  ∀ name, Option.Rel NameBinding.Alike (c.name? m name) (c.name? m' name)

namespace Context.NamesAlike

variable {c : Context} {m m' : Memory} (h : c.NamesAlike m m')

include h

theorem ty_ident (name : String) :
    (Expr.ident name).ty c m = (Expr.ident name).ty c m' := by
  have bound := h name
  simp only [Expr.ty]
  generalize c.name? m name = a at bound ⊢
  generalize c.name? m' name = b at bound ⊢
  cases bound with
  | none => rfl
  | some both =>
    cases both with
    | parameter i t => rfl
    | kept slots => exact slots.content.ty

theorem ty (e : Expr) : e.ty c m = e.ty c m' := by
  induction e with
  | literal v source => rfl
  | ident name => exact h.ty_ident name
  | call name arguments ih => simp only [Expr.ty, Expr.tys_congr ih]
  | conditional name arguments ih => simp only [Expr.ty, Expr.tys_congr ih]
  | nullTest name arguments => rfl
  | member target name ih => simp only [Expr.ty, ih]
  | group inner ih => exact ih
  | operation left op right ihl ihr => simp only [Expr.ty, ihl, ihr]

theorem tys (es : List Expr) : Expr.tys c m es = Expr.tys c m' es :=
  Expr.tys_congr fun e _ => h.ty e

theorem ownProblems (e : Expr) : e.ownProblems c m = e.ownProblems c m' := by
  cases e with
  | literal v source => rcases v with _ | _ | (_ | _) | (_ | _) | (_ | _) | _ <;> rfl
  | ident name =>
    have bound := h name
    simp only [Expr.ownProblems]
    generalize c.name? m name = a at bound ⊢
    generalize c.name? m' name = b at bound ⊢
    cases bound <;> rfl
  | call name arguments => simp only [Expr.ownProblems, h.tys]
  | conditional name arguments => simp only [Expr.ownProblems, h.tys]
  | nullTest name arguments => rfl
  | member target name => simp only [Expr.ownProblems, h.ty]
  | group inner => rfl
  | operation left op right => simp only [Expr.ownProblems, h.ty]

theorem problems (e : Expr) : e.problems c m = e.problems c m' := by
  induction e with
  | literal v source => simp only [Expr.problems, h.ownProblems]
  | ident name => simp only [Expr.problems, h.ownProblems]
  | call name arguments ih => simp only [Expr.problems, Expr.problemsAll_congr ih, h.ownProblems]
  | conditional name arguments ih =>
    simp only [Expr.problems, Expr.problemsAll_congr ih, h.ownProblems]
  | nullTest name arguments ih =>
    simp only [Expr.problems, Expr.problemsAll_congr ih, h.ownProblems]
  | member target name ih => simp only [Expr.problems, ih, h.ownProblems]
  | group inner ih => exact ih
  | operation left op right ihl ihr => simp only [Expr.problems, ihl, ihr, h.ownProblems]

/-- A name gets the same code: a constant by its value, a variable by its slot and type. -/
theorem compileName (name : String) : c.compileName m name = c.compileName m' name := by
  have bound := h name
  simp only [Context.compileName]
  generalize c.name? m name = a at bound ⊢
  generalize c.name? m' name = b at bound ⊢
  cases bound with
  | none => rfl
  | some both =>
    cases both with
    | parameter i t => rfl
    | @kept x y slots =>
      dsimp only
      rw [← slots.content.constant, ← slots.content.ty, ← slots.store, ← slots.key]
      split
      · rename_i constant
        rw [slots.content.fixed constant]
      · rfl

theorem compile (e : Expr) : e.compile c m = e.compile c m' := by
  induction e with
  | literal v source => rfl
  | ident name => exact h.compileName name
  | call name arguments ih => simp only [Expr.compile, Expr.compileAll_congr ih, h.tys]
  | conditional name arguments ih =>
    match arguments with
    | [condition, first, second] =>
      simp only [Expr.compile, h.ty, ih condition (by simp), ih first (by simp),
        ih second (by simp)]
    | [] => rfl
    | [_] => rfl
    | [_, _] => rfl
    | _ :: _ :: _ :: _ :: _ => rfl
  | nullTest name arguments ih =>
    match arguments with
    | [e] => simp only [Expr.compile, h.ty, ih e (by simp)]
    | [] => rfl
    | _ :: _ :: _ => rfl
  | member target name ih => simp only [Expr.compile, h.ty, ih]
  | group inner ih => exact ih
  | operation left op right ihl ihr => simp only [Expr.compile, h.ty, ihl, ihr]

/-- A text is accepted as the same expression or refused for the same problems. -/
theorem check (text : String) : c.check m text = c.check m' text := by
  simp only [Context.check, h.problems]

theorem compile_text (text : String) : c.compile m text = c.compile m' text := by
  simp only [Context.compile, h.check, h.compile]

end Context.NamesAlike

/-- A text that is compiled once more yields the same program, if names are found under the same
spellings. -/
theorem Memory.Alike.compile_text {c : Context} {m m' : Memory} (h : m.Alike m')
    (spelt : c.SameSpellings m m') (text : String) : c.compile m text = c.compile m' text := by
  have names : c.NamesAlike m m' := h.name? spelt
  exact names.compile_text text

namespace Context

variable {c : Context} {m : Memory} {text : String} {p : Program}

/-- The slots of the variables of a text that are no constants. -/
def Captures (c : Context) (m : Memory) (text : String) (slot : Slot) : Prop :=
  ∃ e, c.parse text = .ok e ∧ e.Captures c m slot

/-- What is captured is a variable that is there. -/
theorem Captures.live {slot : Slot} (h : c.Captures m text slot) :
    m.read? slot.store slot.key = some slot.content ∧ slot.content.constant = false := by
  obtain ⟨e, -, name, -, bound, fixed⟩ := h
  exact ⟨get?_of_slot? (slot?_of_name? bound), fixed⟩

theorem compile_eq_ok_iff : c.compile m text = .ok p ↔
    ∃ e x, c.check m text = .ok e ∧ e.compile c m = .ok x ∧ p = ⟨x, c.parameters⟩ := by
  simp only [compile, bind_eq_ok_iff, pure, Except.pure, Except.ok.injEq]
  constructor
  · rintro ⟨e, checked, x, made, rfl⟩
    exact ⟨e, x, checked, made, rfl⟩
  · rintro ⟨e, x, checked, made, rfl⟩
    exact ⟨e, checked, x, made, rfl⟩

/-- A program is called alike on memories that hold the same in the slots that it captured. -/
theorem call_congr (compiled : c.compile m text = .ok p) {m₁ m₂ : Memory}
    (same : ∀ slot, c.Captures m text slot →
      m₁.read? slot.store slot.key = m₂.read? slot.store slot.key)
    (args : List Value) : p.call m₁ args = p.call m₂ args := by
  obtain ⟨e, x, checked, made, rfl⟩ := compile_eq_ok_iff.1 compiled
  have read := (check_eq_ok_iff.1 checked).1
  have run := Expr.run_congr made (fun slot captured => same slot ⟨e, read, captured⟩) args
  simp only [Program.call, run]

end Context

namespace World

variable {w : World} {i : Nat} {c : Context} {text : String} {p : Program}

/-- Of two spellings of a name, the order decides which one a text means that is compiled once
more. -/
theorem exists_rebinding :
    let c : Context := { frame := {
      options := { ignoreVariableCase := true }
      members := MemberTable.standard.resolver
      store := 0 } }
    let one : Value := .int32 ⟨1, by decide, by decide⟩
    let two : Value := .int32 ⟨2, by decide, by decide⟩
    let three : Value := .int32 ⟨3, by decide, by decide⟩
    let w : World := ⟨[c], ⟨[[("Ab", ⟨one, false⟩), ("aB", ⟨two, false⟩)]]⟩⟩
    let h : History :=
      [(0, .setVariable "Ab" three), (0, .rearrange [("aB", ⟨two, false⟩), ("Ab", ⟨three, false⟩)])]
    w.Renews (c.Captures w.memory "ab") h
      ∧ (∃ p, c.compile w.memory "ab" = .ok p ∧ p.call (w.run h).memory [] = .ok three)
      ∧ ∃ q, c.compile (w.run h).memory "ab" = .ok q ∧ q.call (w.run h).memory [] = .ok two := by
  intro c one two three w h
  have parsed : c.parse "ab" = .ok (.ident "ab") :=
    (Expr.parse_eq_ident_iff (Options.discernible_of_ascii (by decide))).2 ⟨by decide, by decide⟩
  have captured : c.Captures w.memory "ab" ⟨0, "Ab", ⟨one, false⟩⟩ :=
    ⟨_, parsed, "ab", .refl, by rfl, rfl⟩
  refine ⟨List.forall_mem_cons.2 ⟨?_, List.forall_mem_singleton.2 (.inl ⟨_, rfl⟩)⟩, ?_, ?_⟩
  · exact .inr ⟨c, _, three, captured, rfl, rfl, rfl, rfl⟩
  · have value : (c.compile w.memory "ab" >>= fun p => p.call (w.run h).memory []).toOption
        = some three := by decide +kernel
    exact bind_eq_ok_iff.1 (toOption_eq_some_iff.1 value)
  · have value : (c.compile (w.run h).memory "ab" >>= fun q =>
        q.call (w.run h).memory []).toOption = some two := by decide +kernel
    exact bind_eq_ok_iff.1 (toOption_eq_some_iff.1 value)

end World

end ExprLang
