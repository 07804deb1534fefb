import ExprLang.Compiled.Program
import ExprLang.Failure
import ExprLang.Surface.Grid

set_option autoImplicit false

/-! Surfaces, which are expressions in `x` and `y`, and the values that they have over a grid. -/

namespace ExprLang

/-- A compiled expression of two doubles. -/
abbrev Surface := TypedProgram (Float × Float × Unit) Float

namespace Surface

def parameters : List Parameter :=
  [⟨"x", .numeric .double⟩, ⟨"y", .numeric .double⟩]

/-- Compiles a text in a context that has the parameters of a surface. -/
def compile (c : Context) (m : Memory) (text : String) : Except Error Surface :=
  c.compileTyped m (Float × Float × Unit) Float text

/-- Declares the parameters of a surface and compiles a text with them. They stay declared. -/
def compileIn (c : Context) (m : Memory) (text : String) : Context × Except Error Surface :=
  match (Context.declareParameters parameters).run.run c with
  | (.ok (), c) => (c, compile c m text)
  | (.error e, c) => (c, .error e)

def valueAt (f : Surface) (m : Memory) (x y : Float) : Except Error Float := f.call m (x, y, ())

end Surface

/-! Traversals that may fail -/

section traversal

variable {α β ε : Type} {g : α → Except ε β} {l : List α}

theorem mapM_except_cons (a : α) : (a :: l).mapM g = match g a with
    | .ok b => match l.mapM g with
      | .ok bs => .ok (b :: bs)
      | .error e => .error e
    | .error e => .error e := by
  rw [List.mapM_cons]
  cases g a with
  | error e => rfl
  | ok b => cases l.mapM g <;> rfl

/-- A traversal has all values in the order of the list, -/
theorem mapM_eq_ok_iff {bs : List β} : l.mapM g = .ok bs ↔ l.map g = bs.map .ok := by
  induction l generalizing bs with
  | nil => cases bs <;> simp [pure, Except.pure]
  | cons a l ih =>
    rw [mapM_except_cons]
    cases bs with
    | nil => cases g a <;> cases l.mapM g <;> simp
    | cons b bs =>
      rw [List.map_cons, List.map_cons, List.cons.injEq, ← ih]
      cases g a <;> cases l.mapM g <;> simp

/-- or the first error. -/
theorem mapM_eq_error_iff {e : ε} : l.mapM g = .error e ↔ ∃ (i : Nat) (a : α), l[i]? = some a
    ∧ g a = .error e
    ∧ ∀ j < i, ∀ b, l[j]? = some b → ∃ v, g b = .ok v := by
  induction l with
  | nil => simp [pure, Except.pure]
  | cons a l ih =>
    rw [mapM_except_cons]
    constructor
    · intro failed
      cases first : g a with
      | error e' =>
        rw [first] at failed
        cases failed
        exact ⟨0, a, rfl, first, fun j before => absurd before (Nat.not_lt_zero j)⟩
      | ok v =>
        have later : l.mapM g = .error e := by
          rw [first] at failed
          cases rest : l.mapM g <;> simp_all
        obtain ⟨i, x, here, fails, before⟩ := ih.1 later
        refine ⟨i + 1, x, here, fails, fun j less b there => ?_⟩
        cases j with
        | zero =>
          cases there
          exact ⟨v, first⟩
        | succ j => exact before j (Nat.lt_of_succ_lt_succ less) b there
    · rintro ⟨i, x, here, fails, before⟩
      cases i with
      | zero =>
        cases here
        rw [fails]
      | succ i =>
        obtain ⟨v, first⟩ := before 0 (Nat.succ_pos i) a rfl
        have later := ih.2 ⟨i, x, here, fails, fun j less b there =>
          before (j + 1) (Nat.succ_lt_succ less) b there⟩
        rw [first, later]

theorem exists_mapM_eq_error {a : α} {e : ε} (mem : a ∈ l) (fails : g a = .error e) :
    ∃ e', l.mapM g = .error e' := by
  cases all : l.mapM g with
  | error e' => exact ⟨e', rfl⟩
  | ok bs =>
    have there : g a ∈ l.map g := List.mem_map_of_mem mem
    rw [mapM_eq_ok_iff.1 all, fails] at there
    obtain ⟨b, -, same⟩ := List.mem_map.1 there
    cases same

end traversal

/-- A way in which rows are computed, one after another or several at a time. -/
structure Schedule where
  run : (count : Nat) → (row : Nat → Except Error (List Float)) → Except Error (List (List Float))
  /-- Rows that all have values come in their order. -/
  run_ok : ∀ {count : Nat} {row : Nat → Except Error (List Float)} {rows : List (List Float)},
    (List.range count).map row = rows.map .ok → run count row = .ok rows
  /-- Where rows fail, one of those is reported. -/
  run_error : ∀ {count : Nat} {row : Nat → Except Error (List Float)},
    (∃ r < count, ∃ e, row r = .error e) → ∃ r < count, ∃ e, row r = .error e ∧ run count row = .error e

def Schedule.sequential : Schedule where
  run count row := (List.range count).mapM row
  run_ok := mapM_eq_ok_iff.2
  run_error := by
    rintro count row ⟨r, inside, e, fails⟩
    obtain ⟨e', all⟩ := exists_mapM_eq_error (List.mem_range.2 inside) fails
    obtain ⟨i, r', here, fails', -⟩ := mapM_eq_error_iff.1 all
    exact ⟨r', List.mem_range.1 (List.mem_of_getElem? here), e', fails', all⟩

namespace Settings

variable (s : Settings) (f : Float → Float → Except Error Float)

/-- The values of a row from the left to the right, or the first error. -/
def sampleRow (row : Nat) : Except Error (List Float) :=
  let y := s.yAt row
  (List.range s.columns).mapM fun column => f (s.xAt column) y

/-- Samples a function of two doubles. Settings that describe no grid are refused first. -/
def sample (k : Schedule) : Except Failure Grid :=
  match s.problem? with
  | some p => .error (.settings p)
  | none =>
    (Failure.ofError (k.run s.rows (s.sampleRow f))).map fun rows =>
      ⟨s.columns, s.rows, rows.flatten⟩

end Settings

end ExprLang
