import ExprLang.Surface.Grid

set_option autoImplicit false

/-!
The picture of a grid that has all its cells: a line for each row, in each a character for each
column, and a mark of its own for a value that is no finite number.
-/

namespace ExprLang.Grid

variable {g : Grid}

/-! Characters -/

theorem getD_mem {ds : List Char} {d : Char} (mem : d ∈ ds) (i : Nat) : ds[i]?.getD d ∈ ds := by
  cases found : ds[i]? with
  | some d => exact List.mem_of_getElem? found
  | none => exact mem

theorem shade_mem (lo hi x : Float) : shade lo hi x ∈ shades := by
  have blank : ' ' ∈ shades := List.mem_cons_self
  rw [shade]
  split
  · exact blank
  · exact getD_mem blank _

theorem cell_eq_mark_iff {lo hi x : Float} : cell lo hi x = '?' ↔ isFiniteDouble x = false := by
  have other : '?' ∉ shades := by decide
  rw [cell]
  cases isFiniteDouble x with
  | true =>
    have ne : shade lo hi x ≠ '?' := fun same => other (same ▸ shade_mem lo hi x)
    simp [ne]
  | false => simp

theorem cell_ne_lineEnd (lo hi x : Float) : cell lo hi x ≠ '\n' := by
  have other : '\n' ∉ shades := by decide
  rw [cell]
  split
  · exact fun same => other (same ▸ shade_mem lo hi x)
  · decide

/-! Lines -/

section chunks

variable {α : Type} {n : Nat}

theorem chunks_of_ne {xs : List α} (pos : 0 < n) (ne : xs ≠ []) :
    chunks n xs = xs.take n :: chunks n (xs.drop n) := by
  rw [chunks, dif_pos ⟨pos, ne⟩]

theorem getElem?_chunks (pos : 0 < n) {r : Nat} {xs : List α} (inside : r * n < xs.length) :
    (chunks n xs)[r]? = some ((xs.drop (r * n)).take n) := by
  have ne : xs ≠ [] := List.length_pos_iff.1 (Nat.zero_lt_of_lt inside)
  rw [chunks_of_ne pos ne]
  induction r generalizing xs with
  | zero => simp
  | succ r ih =>
    have shorter : r * n < (xs.drop n).length := by
      rw [Nat.succ_mul] at inside
      rw [List.length_drop]
      omega
    have ne' : xs.drop n ≠ [] := List.length_pos_iff.1 (Nat.zero_lt_of_lt shorter)
    rw [List.getElem?_cons_succ, chunks_of_ne pos ne', ih shorter ne', List.drop_drop, Nat.succ_mul,
      Nat.add_comm n]

/-- Runs of `n` come out even where the length is a multiple of it. -/
theorem length_chunks (pos : 0 < n) {m : Nat} {xs : List α} (even : xs.length = n * m) :
    (chunks n xs).length = m := by
  induction m generalizing xs with
  | zero =>
    rw [chunks, dif_neg fun h => h.2 (List.eq_nil_of_length_eq_zero even)]
    rfl
  | succ m ih =>
    rw [Nat.mul_succ] at even
    have ne : xs ≠ [] := List.length_pos_iff.1 (by omega)
    have rest : (xs.drop n).length = n * m := by
      rw [List.length_drop]
      omega
    rw [chunks_of_ne pos ne, List.length_cons, ih rest]

end chunks

/-- No cell is missing and none is too many. -/
structure Full (g : Grid) : Prop where
  column : 0 < g.columns
  count : g.cells.length = g.columns * g.rows

theorem Full.index_lt (full : g.Full) {c r : Nat} (column : c < g.columns) (row : r < g.rows) :
    r * g.columns + c < g.cells.length := by
  have next := Nat.mul_le_mul_right g.columns (Nat.succ_le_of_lt row)
  rw [Nat.succ_mul] at next
  rw [full.count, Nat.mul_comm g.columns]
  omega

theorem Full.length_rowValues (full : g.Full) : g.rowValues.length = g.rows :=
  length_chunks full.column full.count

theorem Full.getElem?_rowValues (full : g.Full) {r : Nat} (row : r < g.rows) :
    g.rowValues[r]? = some ((g.cells.drop (r * g.columns)).take g.columns) :=
  getElem?_chunks full.column (full.index_lt full.column row)

theorem Full.length_of_mem_rowValues (full : g.Full) {row : List Float} (mem : row ∈ g.rowValues) :
    row.length = g.columns := by
  obtain ⟨r, here⟩ := List.mem_iff_getElem?.1 mem
  have inside : r < g.rows := by
    rw [← full.length_rowValues]
    exact (List.getElem?_eq_some_iff.1 here).1
  rw [full.getElem?_rowValues inside] at here
  cases here
  have next := Nat.mul_le_mul_right g.columns (Nat.succ_le_of_lt inside)
  rw [Nat.succ_mul, Nat.mul_comm g.rows, ← full.count] at next
  rw [List.length_take, List.length_drop]
  omega

theorem exists_lines (g : Grid) :
    ∃ lo hi, g.lines = g.rowValues.map fun row => String.ofList (row.map (cell lo hi)) :=
  ⟨(g.range?.getD (0, 0)).1, (g.range?.getD (0, 0)).2, rfl⟩

/-- What the picture shows. -/
structure Drawn (g : Grid) : Prop where
  text : g.render.toList = g.lines.flatMap fun line => line.toList ++ ['\n']
  count : g.lines.length = g.rows
  width : ∀ line ∈ g.lines, line.toList.length = g.columns ∧ '\n' ∉ line.toList
  shows : ∀ c < g.columns, ∀ r < g.rows, ∃ x d, g.cells[r * g.columns + c]? = some x
    ∧ g.lines[r]?.bind (·.toList[c]?) = some d ∧ (d = '?' ↔ isFiniteDouble x = false)

theorem Full.drawn (full : g.Full) : g.Drawn := by
  obtain ⟨lo, hi, lines⟩ := g.exists_lines
  refine ⟨?_, ?_, ?_, ?_⟩
  · rw [render, String.toList_join, List.flatMap_map]
    simp only [String.toList_append]
    rfl
  · rw [lines, List.length_map, full.length_rowValues]
  · intro line mem
    rw [lines] at mem
    obtain ⟨row, inside, rfl⟩ := List.mem_map.1 mem
    rw [String.toList_ofList, List.length_map]
    refine ⟨full.length_of_mem_rowValues inside, fun ended => ?_⟩
    obtain ⟨x, -, same⟩ := List.mem_map.1 ended
    exact cell_ne_lineEnd lo hi x same
  · intro c column r row
    have here := List.getElem?_eq_getElem (full.index_lt column row)
    refine ⟨_, cell lo hi _, here, ?_, cell_eq_mark_iff⟩
    rw [lines, List.getElem?_map, full.getElem?_rowValues row]
    simp [List.getElem?_drop, column, here]

/-! Lookups -/

/-- A program that looks a cell up by an index that fits goes on with that one. -/
theorem index?_of_lt (o : Overflow) {i : Nat} (fits : i < UInt64.size) :
    o.index? i = some i := by
  cases o with
  | stops => exact if_pos fits
  | wraps => exact congrArg some (Nat.mod_eq_of_lt fits)

/-- A product and a sum are one index. -/
theorem value?_eq {c r : UInt64} (o : Overflow) (column : c.toNat < g.columns) :
    g.value? o c r = (o.index? (r.toNat * g.columns + c.toNat)).map (g.cells[·]?) := by
  rw [value?, if_neg (Nat.not_le.2 column)]
  cases o with
  | stops =>
    by_cases start : r.toNat * g.columns < UInt64.size
    · by_cases whole : r.toNat * g.columns + c.toNat < UInt64.size <;>
        simp [Overflow.index?, start, whole]
    · have beyond : ¬ r.toNat * g.columns + c.toNat < UInt64.size := by omega
      simp only [Overflow.index?, if_neg start, if_neg beyond]
      rfl
  | wraps =>
    simp only [Overflow.index?, bind, Option.bind, Nat.mod_add_mod]
    rfl

end ExprLang.Grid
