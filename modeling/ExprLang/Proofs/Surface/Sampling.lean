import Mathlib.Data.List.Basic
import ExprLang.Proofs.Surface.Picture
import ExprLang.Surface.Sampling

set_option autoImplicit false

/-!
Sampling a surface. The cells of a grid are sampled row after row, from the left to the right, up to
the first one that fails; a grid has each value at its place, and its picture has a line for each
row with a character for each column.
-/

namespace ExprLang

/-! Sampling in order -/

section traversal

variable {α β ε : Type}

/-- Rows that are sampled one after another are one row. -/
theorem mapM_flatten {M : Type → Type} [Monad M] [LawfulMonad M] (g : α → M β)
    (rows : List (List α)) :
    (do let values ← rows.mapM (·.mapM g); return values.flatten) = rows.flatten.mapM g := by
  induction rows with
  | nil => simp
  | cons row rows ih => simp [← ih]

/-- What is visited up to the first failure, which is visited too. -/
def visited (g : α → Except ε β) : List α → List α
  | [] => []
  | a :: l => a :: match g a with
    | .ok _ => visited g l
    | .error _ => []

end traversal

theorem Failure.ofError_mapM {α β : Type} (g : α → Except Error β) (l : List α) :
    ofError (l.mapM g) = l.mapM fun a => ofError (g a) := by
  induction l with
  | nil => rfl
  | cons a l ih =>
    rw [mapM_except_cons, mapM_except_cons, ← ih]
    cases g a with
    | error e => rfl
    | ok b => cases l.mapM g <;> rfl

namespace Settings

variable {s : Settings} {f : Float → Float → Except Error Float}

/-- The cells by column and row, row after row. -/
def cells (s : Settings) : List (Nat × Nat) :=
  ((List.range s.rows).map fun r => (List.range s.columns).map fun c => (c, r)).flatten

/-- The value of a function at a cell. -/
def atCell {M : Type → Type} (s : Settings) (f : Float → Float → M Float) (cell : Nat × Nat) :
    M Float :=
  f (s.xAt cell.1) (s.yAt cell.2)

/-- Sampling a function that may do more than to return a value. -/
def sampleIn {M : Type → Type} [Monad M] [MonadExcept Failure M] (s : Settings)
    (f : Float → Float → M Float) : M Grid :=
  match s.problem? with
  | some p => throw (.settings p)
  | none => do
    let rows ← (List.range s.rows).mapM fun r =>
      (List.range s.columns).mapM fun c => f (s.xAt c) (s.yAt r)
    return ⟨s.columns, s.rows, rows.flatten⟩

/-- The rows are one traversal of the cells. -/
theorem sampleIn_of_accepted {M : Type → Type} [Monad M] [LawfulMonad M] [MonadExcept Failure M]
    {f : Float → Float → M Float} (accepted : s.problem? = none) :
    s.sampleIn f = (Grid.mk s.columns s.rows ·) <$> s.cells.mapM (s.atCell f) := by
  rw [sampleIn, accepted, cells, ← mapM_flatten]
  simp [List.mapM_map, Function.comp_def, atCell]

theorem rows_traversal (s : Settings) (f : Float → Float → Except Error Float) :
    (List.flatten <$> (List.range s.rows).mapM (s.sampleRow f)) = s.cells.mapM (s.atCell f) := by
  rw [cells, ← mapM_flatten]
  simp [List.mapM_map, Function.comp_def, atCell]
  rfl

theorem sample_of_accepted (accepted : s.problem? = none) : s.sample f .sequential
    = (Failure.ofError (s.cells.mapM (s.atCell f))).map (Grid.mk s.columns s.rows ·) := by
  rw [sample, accepted, ← rows_traversal]
  simp only [Schedule.sequential]
  cases (List.range s.rows).mapM (s.sampleRow f) <;> rfl

/-- Where all rows have values every schedule comes to the same grid. -/
theorem sample_of_sequential {g : Grid} (read : s.sample f .sequential = .ok g) (k : Schedule) :
    s.sample f k = .ok g := by
  unfold sample at read ⊢
  cases problem : s.problem? with
  | some p =>
    rw [problem] at read
    cases read
  | none =>
    simp only [problem] at read ⊢
    cases all : Schedule.sequential.run s.rows (s.sampleRow f) with
    | ok rows =>
      rw [all] at read
      rw [k.run_ok (mapM_eq_ok_iff.1 all)]
      exact read
    | error e =>
      rw [all] at read
      cases read

/-- A function without effects is sampled so. -/
theorem sample_eq_sampleIn (s : Settings) (f : Float → Float → Except Error Float) :
    s.sample f .sequential = s.sampleIn fun x y => Failure.ofError (f x y) := by
  cases problem : s.problem? with
  | some p =>
    rw [sample, sampleIn, problem]
    rfl
  | none =>
    rw [sample_of_accepted problem, sampleIn_of_accepted problem, Failure.ofError_mapM]
    rfl

/-! The places of cells -/

theorem getElem?_cells {c : Nat} (inside : c < s.columns) (r : Nat) :
    s.cells[r * s.columns + c]? = if r < s.rows then some (c, r) else none := by
  rw [cells]
  induction s.rows with
  | zero => simp
  | succ n ih =>
    have length :
        ((List.range n).map fun r => (List.range s.columns).map fun c => (c, r)).flatten.length
          = n * s.columns := by
      simp [List.length_flatten, Function.comp_def]
    rw [List.range_succ, List.map_append, List.flatten_append]
    rcases Nat.lt_trichotomy r n with before | rfl | behind
    · have next := Nat.mul_le_mul_right s.columns (Nat.succ_le_of_lt before)
      rw [Nat.succ_mul] at next
      rw [List.getElem?_append_left (by omega), ih, if_pos before, if_pos (by omega)]
    · rw [List.getElem?_append_right (by omega), length, Nat.add_sub_cancel_left,
        if_pos (Nat.lt_succ_self r)]
      simp [inside]
    · have next := Nat.mul_le_mul_right s.columns (Nat.succ_le_of_lt behind)
      rw [Nat.succ_mul] at next
      rw [List.getElem?_append_right (by omega), length, if_neg (by omega)]
      refine List.getElem?_eq_none ?_
      simp
      omega

theorem length_cells (s : Settings) : s.cells.length = s.columns * s.rows := by
  simp [cells, List.length_flatten, Function.comp_def, Nat.mul_comm]

theorem getElem?_cells_eq_some_iff {i c r : Nat} : s.cells[i]? = some (c, r)
    ↔ c < s.columns ∧ r < s.rows ∧ i = r * s.columns + c := by
  constructor
  · intro here
    have inside := (List.getElem?_eq_some_iff.1 here).1
    rw [length_cells] at inside
    have some : 0 < s.columns := Nat.pos_of_mul_pos_right (Nat.zero_lt_of_lt inside)
    have column := Nat.mod_lt i some
    have split : i = i / s.columns * s.columns + i % s.columns := (Nat.div_add_mod' i _).symm
    rw [split, getElem?_cells column] at here
    split at here
    · rename_i row
      cases here
      exact ⟨column, row, split⟩
    · cases here
  · rintro ⟨column, row, rfl⟩
    rw [getElem?_cells column, if_pos row]

/-- One cell comes before another: it is in a row above, or to the left in the same row. -/
def Before (cell other : Nat × Nat) : Prop :=
  cell.2 < other.2 ∨ (cell.2 = other.2 ∧ cell.1 < other.1)

theorem place_lt_iff {c r c' r' : Nat} (inside : c < s.columns) (inside' : c' < s.columns) :
    r' * s.columns + c' < r * s.columns + c ↔ Before (c', r') (c, r) := by
  rw [Before]
  rcases Nat.lt_trichotomy r' r with above | rfl | below
  · have next := Nat.mul_le_mul_right s.columns (Nat.succ_le_of_lt above)
    rw [Nat.succ_mul] at next
    simp only [above, true_or, iff_true]
    omega
  · simp
  · have next := Nat.mul_le_mul_right s.columns (Nat.succ_le_of_lt below)
    rw [Nat.succ_mul] at next
    simp only [Nat.not_lt_of_gt below, Nat.ne_of_gt below, false_and, or_self, iff_false]
    omega

/-- The cell fails, and none before it does. -/
structure FailsFirst (s : Settings) (f : Float → Float → Except Error Float) (cell : Nat × Nat)
    (e : Error) : Prop where
  column : cell.1 < s.columns
  row : cell.2 < s.rows
  fails : f (s.xAt cell.1) (s.yAt cell.2) = .error e
  before : ∀ c < s.columns, ∀ r < s.rows, Before (c, r) cell → ∃ x, f (s.xAt c) (s.yAt r) = .ok x

/-- The cell fails, and none to the left of it does. -/
structure FailsInRow (s : Settings) (f : Float → Float → Except Error Float) (cell : Nat × Nat)
    (e : Error) : Prop where
  column : cell.1 < s.columns
  row : cell.2 < s.rows
  fails : f (s.xAt cell.1) (s.yAt cell.2) = .error e
  before : ∀ c < cell.1, ∃ x, f (s.xAt c) (s.yAt cell.2) = .ok x

theorem failsInRow_of_sampleRow {r : Nat} {e : Error} (row : r < s.rows)
    (fails : s.sampleRow f r = .error e) : ∃ c, s.FailsInRow f (c, r) e := by
  obtain ⟨i, c, here, cellFails, before⟩ := mapM_eq_error_iff.1 fails
  obtain ⟨column, value⟩ := List.getElem?_eq_some_iff.1 here
  rw [List.getElem_range] at value
  rw [List.length_range] at column
  subst value
  exact ⟨i, column, row, cellFails, fun c' left =>
    before c' left c' (List.getElem?_range (Nat.lt_trans left column))⟩

/-- A failing cell fails its row, and with it the whole. -/
theorem sample_of_failing (accepted : s.problem? = none) {c r : Nat} {e : Error}
    (column : c < s.columns) (row : r < s.rows) (fails : f (s.xAt c) (s.yAt r) = .error e)
    (k : Schedule) :
    ∃ cell e, s.FailsInRow f cell e ∧ s.sample f k = .error (.expression e) := by
  obtain ⟨e', rowFails⟩ : ∃ e, s.sampleRow f r = .error e :=
    exists_mapM_eq_error (List.mem_range.2 column) fails
  obtain ⟨r', row', e', fails', run⟩ := k.run_error ⟨r, row, e', rowFails⟩
  obtain ⟨c', first⟩ := failsInRow_of_sampleRow row' fails'
  refine ⟨(c', r'), e', first, ?_⟩
  rw [sample, accepted, run]
  rfl

theorem mapM_cells_eq_error_iff {e : Error} : s.cells.mapM (s.atCell f) = .error e
    ↔ ∃ cell, s.FailsFirst f cell e := by
  rw [mapM_eq_error_iff]
  constructor
  · rintro ⟨i, ⟨c, r⟩, here, fails, before⟩
    obtain ⟨column, row, rfl⟩ := getElem?_cells_eq_some_iff.1 here
    refine ⟨(c, r), column, row, fails, fun c' column' r' row' earlier => ?_⟩
    have there := getElem?_cells_eq_some_iff.2 ⟨column', row', rfl⟩
    exact before (r' * s.columns + c') ((place_lt_iff column column').2 earlier) (c', r') there
  · rintro ⟨⟨c, r⟩, column, row, fails, before⟩
    refine ⟨r * s.columns + c, (c, r), getElem?_cells_eq_some_iff.2 ⟨column, row, rfl⟩, fails, ?_⟩
    rintro j less ⟨c', r'⟩ there
    obtain ⟨column', row', rfl⟩ := getElem?_cells_eq_some_iff.1 there
    exact before c' column' r' row' ((place_lt_iff column column').1 less)

/-! The grid -/

/-- The place of a cell among the values. -/
def place (s : Settings) (c r : UInt64) : Nat := r.toNat * s.columns + c.toNat

/-- The place is beyond 64 bits, and the program stops or goes on with the place of a cell. -/
structure Strays (s : Settings) (o : Overflow) (c r : UInt64) : Prop where
  column : c.toNat < s.columns
  beyond : UInt64.size ≤ s.place c r
  lands : o = .wraps → s.place c r % UInt64.size < s.columns * s.rows

/-- The grid of the values that a function has. -/
structure Sampled (s : Settings) (f : Float → Float → Except Error Float) (g : Grid) : Prop where
  columns : g.columns = s.columns
  rows : g.rows = s.rows
  count : g.cells.length = s.columns * s.rows
  cell : ∀ c < s.columns, ∀ r < s.rows,
    ∃ x, f (s.xAt c) (s.yAt r) = .ok x ∧ g.cells[r * s.columns + c]? = some x
  /-- Every cell is found, as many as 64 bits can count. -/
  inside : s.columns * s.rows ≤ UInt64.size → ∀ o (c r : UInt64), c.toNat < s.columns →
    r.toNat < s.rows → ∃ x, f (s.xAt c.toNat) (s.yAt r.toNat) = .ok x ∧ g.value? o c r = some (some x)
  /-- Nothing is found elsewhere, unless the lookup strays. -/
  outside : ∀ o (c r : UInt64), ¬ (c.toNat < s.columns ∧ r.toNat < s.rows) →
    (g.value? o c r = some none ↔ ¬ s.Strays o c r)
  stops : ∀ c r, s.Strays .stops c r → g.value? .stops c r = none
  /-- A lookup that strays finds the value of another cell. -/
  finds : ∀ c r, s.Strays .wraps c r → ∃ c' < s.columns, ∃ r' < s.rows,
    r' * s.columns + c' = s.place c r % UInt64.size
      ∧ ∃ x, f (s.xAt c') (s.yAt r') = .ok x ∧ g.value? .wraps c r = some (some x)

section lookups

variable {g : Grid} (columns : g.columns = s.columns)

include columns

theorem value?_of_column (o : Overflow) {c : UInt64} (column : c.toNat < s.columns) (r : UInt64) :
    g.value? o c r = (o.index? (s.place c r)).map (g.cells[·]?) := by
  rw [← columns] at column
  rw [Grid.value?_eq o column, columns, place]

/-- Below the grid a lookup ends in nothing as long as its index counts the place. -/
theorem value?_below (count : g.cells.length = s.columns * s.rows) (o : Overflow) {c r : UInt64}
    (column : c.toNat < s.columns) (below : s.rows ≤ r.toNat) :
    g.value? o c r = some none ↔ ¬ s.Strays o c r := by
  have behind : s.columns * s.rows ≤ s.place c r := by
    have := Nat.mul_le_mul_left s.columns below
    rw [place, Nat.mul_comm r.toNat]
    omega
  have strays_iff : s.Strays o c r ↔ UInt64.size ≤ s.place c r
      ∧ (o = .wraps → s.place c r % UInt64.size < s.columns * s.rows) :=
    ⟨fun h => ⟨h.beyond, h.lands⟩, fun h => ⟨column, h.1, h.2⟩⟩
  rw [value?_of_column columns o column, strays_iff]
  by_cases fits : s.place c r < UInt64.size
  · rw [Grid.index?_of_lt o fits, Option.map_some,
      List.getElem?_eq_none (Nat.le_trans (Nat.le_of_eq count) behind)]
    have near : ¬ UInt64.size ≤ s.place c r := Nat.not_le.2 fits
    simp [near]
  · cases o with
    | stops => simp [Overflow.index?, fits]
    | wraps =>
      simp only [Overflow.index?, Option.map_some, Option.some.injEq, List.getElem?_eq_none_iff,
        count]
      simp [Nat.le_of_not_lt fits]

/-- Outside of the grid nothing is found, unless the lookup strays. -/
theorem value?_outside (count : g.cells.length = s.columns * s.rows) (o : Overflow) {c r : UInt64}
    (beyond : ¬ (c.toNat < s.columns ∧ r.toNat < s.rows)) :
    g.value? o c r = some none ↔ ¬ s.Strays o c r := by
  by_cases column : c.toNat < s.columns
  · have below : s.rows ≤ r.toNat := Nat.le_of_not_lt fun row => beyond ⟨column, row⟩
    exact value?_below columns count o column below
  · have away : g.value? o c r = some none := by
      rw [Grid.value?, if_pos (by omega)]
    exact iff_of_true away fun strays => column strays.column

end lookups

variable {g : Grid}

/-- Values at their places are all that lookups depend on. -/
theorem sampled_of_cells (columns : g.columns = s.columns) (rows : g.rows = s.rows)
    (count : g.cells.length = s.columns * s.rows)
    (cell : ∀ c < s.columns, ∀ r < s.rows,
      ∃ x, f (s.xAt c) (s.yAt r) = .ok x ∧ g.cells[r * s.columns + c]? = some x) :
    s.Sampled f g := by
  have lookup := @value?_of_column s g columns
  refine ⟨columns, rows, count, cell, ?_, fun o c r => value?_outside columns count o, ?_, ?_⟩
  · intro room o c r column row
    obtain ⟨x, value, here⟩ := cell _ column _ row
    have fits : s.place c r < UInt64.size := by
      have inside := (List.getElem?_eq_some_iff.1 here).1
      rw [count] at inside
      exact Nat.lt_of_lt_of_le inside room
    refine ⟨x, value, ?_⟩
    rw [lookup o column, Grid.index?_of_lt o fits]
    exact congrArg some here
  · intro c r strays
    rw [lookup .stops strays.column, Overflow.index?, if_neg (Nat.not_lt.2 strays.beyond)]
    rfl
  · intro c r strays
    have lands := strays.lands rfl
    have wide : 0 < s.columns := Nat.zero_lt_of_lt strays.column
    have split := Nat.div_add_mod' (s.place c r % UInt64.size) s.columns
    have row : s.place c r % UInt64.size / s.columns < s.rows := Nat.div_lt_of_lt_mul lands
    obtain ⟨x, value, here⟩ := cell _ (Nat.mod_lt _ wide) _ row
    refine ⟨_, Nat.mod_lt _ wide, _, row, split, x, value, ?_⟩
    rw [split] at here
    rw [lookup .wraps strays.column]
    exact congrArg some here

theorem sampled_of_mapM {xs : List Float} (h : s.cells.mapM (s.atCell f) = .ok xs) :
    s.Sampled f ⟨s.columns, s.rows, xs⟩ := by
  have values := mapM_eq_ok_iff.1 h
  have length : xs.length = s.columns * s.rows := by
    have same := congrArg List.length values
    rwa [List.length_map, List.length_map, length_cells, eq_comm] at same
  refine sampled_of_cells rfl rfl length fun c column r row => ?_
  have here : (xs[r * s.columns + c]?).map .ok = some (s.atCell f (c, r)) := by
    rw [← List.getElem?_map, ← values, List.getElem?_map, getElem?_cells column, if_pos row]
    rfl
  obtain ⟨x, found, value⟩ := Option.map_eq_some_iff.1 here
  exact ⟨x, value.symm, found⟩

/-! Where the function is called -/

/-- A computation that may fail and keeps a list of points. -/
abbrev Watched := ExceptT Failure (StateM (List (Float × Float)))

/-- The function with the list of the points at which it has been called. -/
def watch (f : Float → Float → Except Error Float) (x y : Float) : Watched Float := do
  modify (· ++ [(x, y)])
  ExceptT.mk (pure (Failure.ofError (f x y)))

/-- The outcome of sampling with the points at which the function was called. -/
def watchedSample (s : Settings) (f : Float → Float → Except Error Float) :
    Except Failure Grid × List (Float × Float) :=
  Id.run ((s.sampleIn (watch f)).run.run [])

/-- The point of a cell. -/
def point (s : Settings) (cell : Nat × Nat) : Float × Float := (s.xAt cell.1, s.yAt cell.2)

theorem run_watch (f : Float → Float → Except Error Float) (x y : Float)
    (calls : List (Float × Float)) :
    (watch f x y).run.run calls = pure (Failure.ofError (f x y), calls ++ [(x, y)]) := rfl

theorem run_mapM_watch (l : List (Nat × Nat)) (calls : List (Float × Float)) :
    (l.mapM (s.atCell (watch f))).run.run calls = pure (Failure.ofError (l.mapM (s.atCell f)),
      calls ++ (visited (s.atCell f) l).map s.point) := by
  induction l generalizing calls with
  | nil =>
    rw [List.mapM_nil, visited, List.map_nil, List.append_nil]
    rfl
  | cons cell l ih =>
    have first : (s.atCell (watch f) cell).run.run calls
        = pure (Failure.ofError (s.atCell f cell), calls ++ [s.point cell]) := run_watch f _ _ calls
    rw [List.mapM_cons, ExceptT.run_bind, StateT.run_bind, first, pure_bind, visited,
      mapM_except_cons]
    -- The point has been added before the value is looked at, so that a failing cell counts as called.
    cases s.atCell f cell with
    | error e => rfl
    | ok x =>
      have rest := ih (calls ++ [s.point cell])
      change (l.mapM (s.atCell (watch f)) >>= fun xs => pure (x :: xs)).run.run _ = _
      rw [ExceptT.run_bind, StateT.run_bind, rest, pure_bind, List.map_cons, List.append_assoc]
      cases l.mapM (s.atCell f) <;> rfl

theorem watchedSample_of_accepted (accepted : s.problem? = none) :
    s.watchedSample f = (s.sample f .sequential, (visited (s.atCell f) s.cells).map s.point) := by
  rw [watchedSample, sampleIn_of_accepted accepted, sample_of_accepted accepted, ExceptT.run_map,
    StateT.run_map, run_mapM_watch]
  cases s.cells.mapM (s.atCell f) <;> rfl

theorem watchedSample_of_refused {p : SettingsProblem} (refused : s.problem? = some p) :
    s.watchedSample f = (.error (.settings p), []) := by
  rw [watchedSample, sampleIn, refused]
  rfl

/-- What comes of sampling a function: a full grid and its picture, or the failure of a cell, the
first of all when the rows are sampled one after another and the first of its row otherwise. The
function is called cell after cell up to that failure, and not at all when the settings are refused:
it does not matter to sampling that the calls are written down. -/
structure SamplesGrid (s : Settings) (f : Float → Float → Except Error Float) : Prop where
  program : s.sample f .sequential = s.sampleIn fun x y => Failure.ofError (f x y)
  outcome : (s.watchedSample f).1 = s.sample f .sequential
  refused : ∀ p, s.problem? = some p → s.watchedSample f = (.error (.settings p), [])
    ∧ ∀ f' k, s.sample f' k = .error (.settings p)
  calls : s.problem? = none →
    (s.watchedSample f).2 = (visited (s.atCell f) s.cells).map s.point
  complete : s.problem? = none →
    (∀ c < s.columns, ∀ r < s.rows, ∃ x, f (s.xAt c) (s.yAt r) = .ok x) →
    ∃ g, (∀ k, s.sample f k = .ok g) ∧ s.Sampled f g ∧ g.Drawn
  failing : s.problem? = none →
    (∃ c < s.columns, ∃ r < s.rows, ∃ e, f (s.xAt c) (s.yAt r) = .error e) →
    (∃ cell e, s.FailsFirst f cell e ∧ s.sample f .sequential = .error (.expression e))
      ∧ ∀ k, ∃ cell e, s.FailsInRow f cell e ∧ s.sample f k = .error (.expression e)

theorem columns_pos (accepted : s.problem? = none) : 0 < s.columns := by
  rcases Nat.eq_zero_or_pos s.columns with none | some
  · unfold problem? at accepted
    split at accepted
    · cases accepted
    · split at accepted
      · cases accepted
      · rw [if_pos (.inl none)] at accepted
        cases accepted
  · exact some

theorem samplesGrid (s : Settings) (f : Float → Float → Except Error Float) : s.SamplesGrid f := by
  refine ⟨sample_eq_sampleIn s f, ?_, fun p refused => ⟨watchedSample_of_refused refused, ?_⟩,
    fun accepted => ?_, fun accepted all => ?_, fun accepted ⟨c, column, r, row, e, fails⟩ =>
      ⟨?_, sample_of_failing accepted column row fails⟩⟩
  · cases problem : s.problem? with
    | none => rw [watchedSample_of_accepted problem]
    | some p => rw [watchedSample_of_refused problem, sample, problem]
  · intro f' k
    rw [sample, refused]
  · rw [watchedSample_of_accepted accepted]
  · cases traversal : s.cells.mapM (s.atCell f) with
    | error e =>
      obtain ⟨cell, first⟩ := mapM_cells_eq_error_iff.1 traversal
      obtain ⟨x, value⟩ := all cell.1 first.column cell.2 first.row
      cases value.symm.trans first.fails
    | ok xs =>
      have sampled := sampled_of_mapM traversal
      have read : s.sample f .sequential = .ok ⟨s.columns, s.rows, xs⟩ := by
        rw [sample_of_accepted accepted, traversal]
        rfl
      have full : Grid.Full ⟨s.columns, s.rows, xs⟩ := ⟨columns_pos accepted, sampled.count⟩
      exact ⟨_, sample_of_sequential read, sampled, full.drawn⟩
  · cases traversal : s.cells.mapM (s.atCell f) with
    | error e =>
      obtain ⟨cell, first⟩ := mapM_cells_eq_error_iff.1 traversal
      refine ⟨cell, e, first, ?_⟩
      rw [sample_of_accepted accepted, traversal]
      rfl
    | ok xs =>
      obtain ⟨x, value, -⟩ := (sampled_of_mapM traversal).cell c column r row
      cases value.symm.trans fails

end Settings

/-- Every surface is sampled so. -/
theorem Surface.samples_every_cell (surface : Surface) (m : Memory) (s : Settings) :
    s.SamplesGrid (surface.valueAt m) :=
  s.samplesGrid _

/-- The row `2 ^ 63` of a grid of two columns and one row stops the program, or it is the only row
once more. -/
theorem Surface.exists_stray_lookup : ∃ (surface : Surface) (s : Settings), s.problem? = none
    ∧ s.columns = 2 ∧ s.rows = 1 ∧ ∀ m, ∃ g, (∀ k, s.sample (surface.valueAt m) k = .ok g)
      ∧ g.value? .stops 0 9223372036854775808 = none
      ∧ ∃ x, g.value? .wraps 0 9223372036854775808 = some (some x) := by
  let surface : Surface := ⟨⟨.numeric .double, .parameter 0 "x"⟩⟩
  let s : Settings := { columns := 2, rows := 1 }
  have accepted : s.problem?.isNone = true := by decide +kernel
  rw [Option.isNone_iff_eq_none] at accepted
  refine ⟨surface, s, accepted, rfl, rfl, fun m => ?_⟩
  have value : ∀ x y, surface.valueAt m x y = .ok x := fun x y => rfl
  obtain ⟨g, sampled, looked, -⟩ :=
    (surface.samples_every_cell m s).complete accepted fun c _ r _ => ⟨_, value _ _⟩
  have strays : ∀ o, s.Strays o 0 9223372036854775808 := fun o =>
    ⟨by decide, by decide, fun _ => by decide⟩
  obtain ⟨-, -, -, -, -, x, -, found⟩ := looked.finds _ _ (strays .wraps)
  exact ⟨g, sampled, looked.stops _ _ (strays .stops), x, found⟩

end ExprLang
