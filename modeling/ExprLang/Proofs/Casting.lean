import ExprLang.Proofs.Compiled.Typed
import ExprLang.Proofs.Library.Casts

set_option autoImplicit false

/-!
Arguments that are widened, and arguments that are cast. A number that is passed for a wider kind
can be cast to this kind before: the call means the same handle, as the types of the arguments only
come closer to its parameters, and the cast of a number to a wider kind rounds nothing. This rests
on values that are what their static types say.
-/

namespace ExprLang

open Library.Casts

namespace Expr

variable {c : Context} {m : Memory} {e : Expr} {t : Ty}

/-- An argument with the cast to the kind that it is passed for, if it is a number there. -/
def castFor (c : Context) (m : Memory) (e : Expr) (t : Ty) : Expr :=
  match (e.ty c m).kind?, t.kind? with
  | some _, some k => call (castName k) [e]
  | _, _ => e

/-- Arguments with the casts to the kinds that they are passed for. -/
def castAll (c : Context) (m : Memory) (es : List Expr) (ts : List Ty) : List Expr :=
  List.zipWith (castFor c m) es ts

/-- All values of an expression are of its static type, whether it is evaluated or compiled and run
later on. -/
structure Honest (c : Context) (m : Memory) (e : Expr) : Prop where
  eval : ∀ args, Fits args (c.parameters.map (·.ty)) → ∀ v, e.eval c m args = .ok v →
    v.isInstanceOf (e.ty c m) = true
  run : ∀ x, e.compile c m = .ok x → ∀ later args, Fits args (c.parameters.map (·.ty)) →
    ∀ v, x.code.run later args = .ok v → v.isInstanceOf (e.ty c m) = true

/-- Checked expressions are honest where handles and members keep to their types. -/
theorem honest_of_faithful (hc : c.Faithful) (checked : e.problems c m = []) : e.Honest c m where
  eval _ fits _ value := isInstanceOf_of_eval hc fits checked value
  run x compiled later args fits v value := by
    obtain ⟨y, compiled', -, sound⟩ := compile_sound checked
    rw [compiled] at compiled'
    cases compiled'
    exact sound hc later args (checkArguments_eq_ok_iff.2 fits) v value

theorem castFor_cases (c : Context) (m : Memory) (e : Expr) (t : Ty) :
    (∃ source target, e.ty c m = .numeric source ∧ t = .numeric target
        ∧ castFor c m e t = call (castName target) [e])
      ∨ castFor c m e t = e := by
  rw [castFor]
  cases source : (e.ty c m).kind? with
  | none => exact .inr rfl
  | some source =>
    cases target : t.kind? with
    | none => exact .inr rfl
    | some target =>
      exact .inl ⟨_, _, Ty.kind?_eq_some_iff.1 ‹_›, Ty.kind?_eq_some_iff.1 ‹_›, rfl⟩

/-- The arguments that are cast are honest. -/
def HonestNumbers (c : Context) (m : Memory) (es : List Expr) (ts : List Ty) : Prop :=
  ∀ entry ∈ es.zip ts, (entry.1.ty c m).isNumeric = true → entry.2.isNumeric = true →
    entry.1.Honest c m

section

variable {es : List Expr} {ts : List Ty} (shows : c.ShowsCasts)
include shows

theorem ty_cast {source : Kind} (target : Kind) (type : e.ty c m = .numeric source) :
    (call (castName target) [e]).ty c m = .numeric target := by
  rw [ty, tys, tys, type, shows.handle]
  rfl

/-- The type of an argument that may have been cast lies between its own and the parameter's. -/
theorem ty_castFor (takes : (e.ty c m).assignableTo t = true) :
    (e.ty c m).assignableTo ((castFor c m e t).ty c m) = true
      ∧ ((castFor c m e t).ty c m).assignableTo t = true := by
  rcases castFor_cases c m e t with ⟨source, target, type, rfl, cast⟩ | same
  · rw [cast, ty_cast shows target type]
    exact ⟨takes, Ty.assignableTo_refl _⟩
  · rw [same]
    exact ⟨Ty.assignableTo_refl _, takes⟩

theorem tys_castAll (takes : assignableAll (tys c m es) ts = true) :
    assignableAll (tys c m es) (tys c m (castAll c m es ts)) = true
      ∧ assignableAll (tys c m (castAll c m es ts)) ts = true := by
  induction es generalizing ts with
  | nil =>
    cases ts with
    | nil => exact ⟨rfl, rfl⟩
    | cons t ts => cases takes
  | cons e es ih =>
    cases ts with
    | nil => cases takes
    | cons t ts =>
      simp only [tys, assignableAll, Bool.and_eq_true] at takes
      obtain ⟨wider, closer⟩ := ty_castFor shows takes.1
      obtain ⟨wider', closer'⟩ := ih takes.2
      simp only [castAll, List.zipWith_cons_cons, tys, assignableAll, Bool.and_eq_true]
      exact ⟨⟨wider, wider'⟩, closer, closer'⟩

theorem problems_castFor (checked : e.problems c m = []) (t : Ty) :
    (castFor c m e t).problems c m = [] := by
  rcases castFor_cases c m e t with ⟨source, target, type, -, cast⟩ | same
  · rw [cast]
    refine problems_eq_nil_iff.2 ⟨List.forall_mem_singleton.2 checked, ?_⟩
    rw [ownProblems, tys, tys, type, shows.handle]
    rfl
  · rwa [same]

theorem problems_castAll (checked : ∀ x ∈ es, x.problems c m = []) (ts : List Ty) :
    ∀ x ∈ castAll c m es ts, x.problems c m = [] := by
  intro x mem
  rw [castAll, ← List.map_uncurry_zip_eq_zipWith] at mem
  obtain ⟨⟨e, t⟩, entry, rfl⟩ := List.mem_map.1 mem
  exact problems_castFor shows (checked e (List.of_mem_zip entry).1) t

/-! Evaluation -/

theorem coerce_eval_castFor (takes : (e.ty c m).assignableTo t = true)
    (honest : (e.ty c m).isNumeric = true → t.isNumeric = true → e.Honest c m)
    {args : List Value} (fits : Fits args (c.parameters.map (·.ty))) :
    (do coerce (← (castFor c m e t).eval c m args) t) = (do coerce (← e.eval c m args) t) := by
  rcases castFor_cases c m e t with ⟨source, target, type, rfl, cast⟩ | same
  · rw [type] at takes honest
    have typed : ∀ v, e.eval c m args = .ok v → v.isInstanceOf (.numeric source) = true := by
      rw [← type]
      exact (honest rfl rfl).eval args fits
    have called : (call (castName target) [e]).eval c m args
        = (do
            let v ← coerce (← e.eval c m args) (.numeric source)
            (numberCast source target).run [v]) := by
      rw [eval, tys, tys, type, shows.handle]
      change evalAll c m args [e] [.numeric source] >>= _ = _
      simp only [evalAll, bind_assoc, pure_bind]
      rfl
    rw [← coerce_cast typed takes, cast, called]
    simp only [bind_assoc]
  · rw [same]

theorem evalAll_castAll (takes : assignableAll (tys c m es) ts = true)
    (honest : HonestNumbers c m es ts) {args : List Value}
    (fits : Fits args (c.parameters.map (·.ty))) :
    evalAll c m args (castAll c m es ts) ts = evalAll c m args es ts := by
  have first : ∀ {e es t ts}, evalAll c m args (e :: es) (t :: ts) = (do
      let v ← (do coerce (← e.eval c m args) t)
      let vs ← evalAll c m args es ts
      return v :: vs) := by
    intros
    rw [evalAll, bind_assoc]
  induction es generalizing ts with
  | nil => rfl
  | cons e es ih =>
    cases ts with
    | nil => rfl
    | cons t ts =>
      simp only [tys, assignableAll, Bool.and_eq_true] at takes
      have here := coerce_eval_castFor shows takes.1 (honest (e, t) List.mem_cons_self) fits
      have rest := ih takes.2 fun entry mem => honest entry (List.mem_cons_of_mem _ mem)
      rw [castAll] at rest
      rw [castAll, List.zipWith_cons_cons, first, first, here, rest]

/-! Code -/

theorem compile_castFor (takes : (e.ty c m).assignableTo t = true)
    (honest : (e.ty c m).isNumeric = true → t.isNumeric = true → e.Honest c m)
    {x : Compiled} (compiled : e.compile c m = .ok x) :
    ∃ y, (castFor c m e t).compile c m = .ok y
      ∧ ∀ later args, Fits args (c.parameters.map (·.ty)) →
        (do coerce (← y.code.run later args) t) = (do coerce (← x.code.run later args) t) := by
  rcases castFor_cases c m e t with ⟨source, target, type, rfl, cast⟩ | same
  · rw [type] at takes honest
    refine ⟨⟨.numeric target, .call (numberCast source target) [x.code]⟩, ?_, ?_⟩
    · rw [cast, compile, tys, tys, type, shows.handle, compileAll, compiled]
      rfl
    · intro later args fits
      have typed : ∀ v, x.code.run later args = .ok v → v.isInstanceOf (.numeric source) = true := by
        rw [← type]
        exact (honest rfl rfl).run x compiled later args fits
      rw [← coerce_cast typed takes, Code.run]
      change (Code.runAll later args [x.code] [.numeric source] >>= _) >>= _ = _
      simp only [Code.runAll, bind_assoc, pure_bind]
      rfl
  · rw [same]
    exact ⟨x, compiled, fun _ _ _ => rfl⟩

theorem compileAll_castAll (takes : assignableAll (tys c m es) ts = true)
    (honest : HonestNumbers c m es ts) {xs : List Compiled} (compiled : compileAll c m es = .ok xs) :
    ∃ ys, compileAll c m (castAll c m es ts) = .ok ys
      ∧ ∀ later args, Fits args (c.parameters.map (·.ty)) →
        Code.runAll later args (ys.map (·.code)) ts
          = Code.runAll later args (xs.map (·.code)) ts := by
  have first : ∀ {later args x xs t ts}, Code.runAll later args (x :: xs) (t :: ts) = (do
      let v ← (do coerce (← x.run later args) t)
      let vs ← Code.runAll later args xs ts
      return v :: vs) := by
    intros
    rw [Code.runAll, bind_assoc]
  induction es generalizing ts xs with
  | nil => exact ⟨xs, compiled, fun _ _ _ => rfl⟩
  | cons e es ih =>
    cases ts with
    | nil => cases takes
    | cons t ts =>
      simp only [tys, assignableAll, Bool.and_eq_true] at takes
      simp only [compileAll, bind_eq_ok_iff] at compiled
      obtain ⟨x, head, xs, tail, made⟩ := compiled
      cases made
      obtain ⟨y, casted, here⟩ :=
        compile_castFor shows takes.1 (honest (e, t) List.mem_cons_self) head
      obtain ⟨ys, castedAll, rest⟩ :=
        ih takes.2 (fun entry mem => honest entry (List.mem_cons_of_mem _ mem)) tail
      refine ⟨y :: ys, ?_, fun later args fits => ?_⟩
      · rw [castAll] at castedAll
        rw [castAll, List.zipWith_cons_cons, compileAll, casted, castedAll]
        rfl
      · rw [List.map_cons, List.map_cons, first, first, here later args fits, rest later args fits]

end

/-- Two calls are the same to the check, to the evaluation and as code. -/
structure SameCall (c : Context) (m : Memory) (name : String) (es es' : List Expr) (h : Handle) :
    Prop where
  checked : (call name es').problems c m = []
  resolved : c.handle name (tys c m es') = .ok h
  eval : ∀ args, checkArguments c.parameters args = .ok () →
    (call name es').eval c m args = (call name es).eval c m args
  /-- The code is the same whatever the variables have come to hold when it runs. -/
  run : ∃ x x', (call name es).compile c m = .ok x ∧ (call name es').compile c m = .ok x'
    ∧ x'.ty = x.ty ∧ ∀ later args, checkArguments c.parameters args = .ok () →
      x'.code.run later args = x.code.run later args

/-- In a checked expression numbers that are passed for numbers can be cast to the kinds of the
parameters before, where the built-in casts are there and the values of these arguments are of their
static types. -/
theorem sameCall_castAll (shows : c.ShowsCasts) (checked : e.problems c m = []) {name : String}
    {es : List Expr} (inside : (call name es).Within e) {h : Handle}
    (resolved : c.handle name (tys c m es) = .ok h)
    (honest : HonestNumbers c m es h.parameters) :
    SameCall c m name es (castAll c m es h.parameters) h := by
  have own : (call name es).problems c m = [] := problems_of_within checked inside
  have parts : ∀ x ∈ es, x.problems c m = [] := fun x mem => problems_of_mem_children own mem
  have takes := (Context.mem_of_handle resolved).2
  obtain ⟨wider, closer⟩ := tys_castAll shows takes
  -- Fewer handles take the new types, and the one that was chosen still does.
  have resolved' : c.handle name (tys c m (castAll c m es h.parameters)) = .ok h := by
    rw [Context.handle_eq_ok_iff, Group.resolve_eq_ok_iff] at resolved ⊢
    exact resolved.widen wider closer
  refine ⟨?_, resolved', fun args accepted => ?_, ?_⟩
  · refine problems_eq_nil_iff.2 ⟨problems_castAll shows parts h.parameters, ?_⟩
    exact problemOf_eq_nil_iff.2 ⟨h, resolved'⟩
  · have fits := checkArguments_eq_ok_iff.1 accepted
    rw [eval, eval, resolved, resolved']
    change evalAll c m args (castAll c m es h.parameters) h.parameters >>= _ = _
    rw [evalAll_castAll shows takes honest fits]
    rfl
  · obtain ⟨xs, compiled, -⟩ := compileAll_typed fun x mem => compile_typed (parts x mem)
    obtain ⟨ys, compiled', same⟩ := compileAll_castAll shows takes honest compiled
    refine ⟨⟨h.result, .call h (xs.map (·.code))⟩, ⟨h.result, .call h (ys.map (·.code))⟩, ?_, ?_, rfl,
      fun later args accepted => ?_⟩
    · rw [compile, resolved, compiled]
      rfl
    · rw [compile, resolved', compiled']
      rfl
    · rw [Code.run, Code.run, same later args (checkArguments_eq_ok_iff.1 accepted)]

/-- A literal is cast to the kind of the parameter, one that is passed for an object is not. -/
theorem sameCall_castAll_literals :
    let p : Context := (Context.new {} ⟨[]⟩).1.register Library.casts.functions
    let h : Handle := ⟨[.numeric .double, .object], .object, fun vs => .ok (vs.headD .null)⟩
    let c : Context := ⟨⟨{}, fun _ _ => .notFound, 1, [("f", [h])], []⟩, p.frames⟩
    let one : Expr := .literal (.integer (some (.int .int32 Integer.one))) "1"
    c.ShowsCasts ∧ (call "f" [one, one]).problems c ⟨[]⟩ = []
      ∧ c.handle "f" (tys c ⟨[]⟩ [one, one]) = .ok h ∧ HonestNumbers c ⟨[]⟩ [one, one] h.parameters
      ∧ SameCall c ⟨[]⟩ "f" [one, one] [call "c_double" [one], one] h := by
  intro p h c one
  have shows : c.ShowsCasts := (Context.showsCasts_casts rfl rfl).child (by decide +kernel)
  have faithful : c.Faithful := by
    have parent : p.Faithful :=
      (Context.Faithful.new {} ⟨[]⟩).register fun _ => Library.Casts.casts_faithful
    refine parent.child (fun entry own k mem => ?_) nofun
    obtain rfl := List.mem_singleton.1 own
    obtain rfl := List.mem_singleton.1 mem
    exact fun _ v _ _ => v.isInstanceOf_object
  have resolved : c.handle "f" (tys c ⟨[]⟩ [one, one]) = .ok h := by
    have last : c.inherited? "f" = none := Option.isNone_iff_eq_none.1 (by decide +kernel)
    rw [Context.handle_eq_ok_iff, Context.group?_eq_own last]
    rfl
  have checked : (call "f" [one, one]).problems c ⟨[]⟩ = [] := by decide +kernel
  have honest : HonestNumbers c ⟨[]⟩ [one, one] h.parameters := by
    intro entry mem _ _
    have literal : entry.1 = one := by simpa using List.of_mem_zip mem |>.1
    exact honest_of_faithful faithful (by rw [literal]; decide +kernel)
  exact ⟨shows, checked, resolved, honest, sameCall_castAll shows checked .refl resolved honest⟩

/-- The cast of a value that is not of its static type fails. -/
theorem exists_cast_that_fails :
    ∃ (c : Context) (m : Memory) (name : String) (es : List Expr) (h : Handle),
      c.ShowsCasts ∧ (call name es).problems c m = [] ∧ c.handle name (tys c m es) = .ok h
        ∧ (call name (castAll c m es h.parameters)).eval c m []
          ≠ (call name es).eval c m [] := by
  let p : Context := (Context.new {} ⟨[]⟩).1.register Library.casts.functions
  let g : Handle := ⟨[], .int .int32, fun _ => .ok (.string "x")⟩
  let h : Handle := ⟨[.numeric .double], .object, fun vs => .ok (vs.headD .null)⟩
  let c : Context := ⟨⟨{}, fun _ _ => .notFound, 1, [("f", [h]), ("g", [g])], []⟩, p.frames⟩
  have shows : c.ShowsCasts := (Context.showsCasts_casts rfl rfl).child (by decide +kernel)
  have checked : (call "f" [call "g" []]).problems c ⟨[]⟩ = [] := by decide +kernel
  have resolved : c.handle "f" (tys c ⟨[]⟩ [call "g" []]) = .ok h := by
    have last : c.inherited? "f" = none := Option.isNone_iff_eq_none.1 (by decide +kernel)
    have type : tys c ⟨[]⟩ [call "g" []] = [.int .int32] := by decide +kernel
    rw [Context.handle_eq_ok_iff, Context.group?_eq_own last, type]
    rfl
  have before : (call "f" [call "g" []]).eval c ⟨[]⟩ [] = .ok (.string "x") := by decide +kernel
  have after : (call "f" (castAll c ⟨[]⟩ [call "g" []] h.parameters)).eval c ⟨[]⟩ []
      = .error (.value (.invalidCast "string" "numeric")) := by decide +kernel
  refine ⟨c, ⟨[]⟩, "f", [call "g" []], h, shows, checked, resolved, ?_⟩
  rw [before, after]
  exact nofun

end Expr

end ExprLang
