import Mathlib.Data.List.Forall2
import Mathlib.Order.Bounds.Defs
import ExprLang.Text.Search

set_option autoImplicit false

/-!
The places of a pattern in a text. Searching a window from the front finds the least place of all that
lie in the window with the whole pattern, and searching it from the back the greatest; the empty
pattern stands everywhere, also at the end.
-/

namespace ExprLang

variable {ignoreCase : Bool} {pattern cs : List Char} {p : ℕ} {w : Window}

/-- The characters are equal, or have the same lower case where letter case has no meaning. -/
def SameChar (ignoreCase : Bool) (a b : Char) : Prop :=
  if ignoreCase then Case.lowerChar a = Case.lowerChar b else a = b

theorem sameChar_iff {a b : Char} : sameChar ignoreCase a b = true ↔ SameChar ignoreCase a b := by
  cases ignoreCase with
  | false => simp [sameChar, SameChar]
  | true =>
    simp only [sameChar, SameChar, Case.sameLower, Bool.or_eq_true, Bool.true_and, decide_eq_true_eq,
      if_true]
    constructor
    · intro same
      rcases same with rfl | lower
      · rfl
      · exact lower
    · exact .inr

/-- The pattern stands in the text after `p` characters. -/
def Occurs (ignoreCase : Bool) (pattern cs : List Char) (p : ℕ) : Prop :=
  ∃ before there after, cs = before ++ there ++ after ∧ before.length = p
    ∧ List.Forall₂ (SameChar ignoreCase) there pattern

theorem Occurs.le (occurs : Occurs ignoreCase pattern cs p) : p + pattern.length ≤ cs.length := by
  obtain ⟨before, there, after, rfl, rfl, same⟩ := occurs
  have long := same.length_eq
  simp only [List.length_append]
  omega

theorem occurs_nil_iff : Occurs ignoreCase [] cs p ↔ p ≤ cs.length := by
  constructor
  · intro occurs
    exact occurs.le
  · intro inside
    refine ⟨cs.take p, [], cs.drop p, ?_, List.length_take_of_le inside, .nil⟩
    rw [List.append_nil, List.take_append_drop]

/-- Where letter case counts, the pattern is a piece of the text. -/
theorem occurs_false_iff :
    Occurs false pattern cs p ↔ ∃ before after, cs = before ++ pattern ++ after ∧ before.length = p := by
  constructor
  · intro ⟨before, there, after, text, place, same⟩
    have equal : there = pattern := List.forall₂_eq_eq_eq ▸ same
    rw [equal] at text
    exact ⟨before, after, text, place⟩
  · intro ⟨before, after, text, place⟩
    exact ⟨before, pattern, after, text, place, List.forall₂_same.2 fun _ _ => rfl⟩

/-- Within the text the comparison of characters is what tells whether the pattern stands there. -/
theorem standsAt_iff (inside : p + pattern.length ≤ cs.length) :
    standsAt ignoreCase pattern cs p = true ↔ Occurs ignoreCase pattern cs p := by
  have compared : standsAt ignoreCase pattern cs p = true
      ↔ List.Forall₂ (SameChar ignoreCase) ((cs.drop p).take pattern.length) pattern := by
    simp only [standsAt, List.forall₂_iff_zip, Bool.and_eq_true, decide_eq_true_eq, List.all_eq_true,
      Prod.forall, sameChar_iff]
  rw [compared]
  constructor
  · intro same
    have split := List.take_append_drop pattern.length (cs.drop p)
    refine ⟨cs.take p, _, (cs.drop p).drop pattern.length, ?_, ?_, same⟩
    · rw [List.append_assoc, split, List.take_append_drop]
    · rw [List.length_take]
      omega
  · intro ⟨before, there, after, text, place, same⟩
    have found : (cs.drop p).take pattern.length = there := by
      rw [text, List.append_assoc, ← place, List.drop_left, ← same.length_eq, List.take_left]
    rw [found]
    exact same

/-! The first and the last place in a window -/

/-- The places of the pattern that lie in the window with all of it. -/
def Window.occurrences (w : Window) (ignoreCase : Bool) (pattern cs : List Char) : Set ℕ :=
  {p | Occurs ignoreCase pattern cs p ∧ w.start ≤ p ∧ p + pattern.length ≤ w.stop}

theorem Window.mem_places_iff {n : ℕ} : p ∈ w.places n ↔ w.start ≤ p ∧ p + n ≤ w.stop := by
  rw [places, List.mem_range'_1]
  omega

theorem Window.pairwise_places (w : Window) (n : ℕ) : (w.places n).Pairwise (· ≤ ·) :=
  List.pairwise_le_range'

theorem Window.mem_occurrences_iff (fits : w.stop ≤ cs.length) :
    p ∈ w.occurrences ignoreCase pattern cs
      ↔ p ∈ w.places pattern.length ∧ standsAt ignoreCase pattern cs p = true := by
  rw [mem_places_iff]
  constructor
  · intro ⟨occurs, place⟩
    exact ⟨place, (standsAt_iff occurs.le).2 occurs⟩
  · intro ⟨place, stands⟩
    exact ⟨(standsAt_iff (by omega)).1 stands, place⟩

/-- In a sorted list the first member that meets a condition comes before all others that do. -/
theorem find?_eq_some_iff_of_pairwise {α : Type} {r : α → α → Prop} [Std.Refl r] [Std.Antisymm r]
    {l : List α} {f : α → Bool} {a : α} (sorted : l.Pairwise r) :
    l.find? f = some a ↔ (a ∈ l ∧ f a = true) ∧ ∀ b, b ∈ l ∧ f b = true → r a b := by
  induction l with
  | nil => simp
  | cons x xs ih =>
    obtain ⟨first, sorted⟩ := List.pairwise_cons.1 sorted
    by_cases holds : f x = true
    · rw [List.find?_cons_of_pos holds, Option.some.injEq]
      constructor
      · intro same
        subst same
        refine ⟨⟨List.mem_cons_self, holds⟩, fun b ⟨mem, _⟩ => ?_⟩
        rcases List.mem_cons.1 mem with rfl | mem
        · exact Std.Refl.refl b
        · exact first b mem
      · intro ⟨⟨mem, _⟩, before⟩
        have below := before x ⟨List.mem_cons_self, holds⟩
        rcases List.mem_cons.1 mem with rfl | mem
        · rfl
        · exact Std.Antisymm.antisymm _ _ (first a mem) below
    · rw [List.find?_cons_of_neg holds, ih sorted]
      have other : ∀ b, b ∈ x :: xs ∧ f b = true ↔ b ∈ xs ∧ f b = true := by
        intro b
        rw [List.mem_cons]
        constructor
        · intro ⟨mem, holds'⟩
          refine ⟨mem.resolve_left fun same => holds (same ▸ holds'), holds'⟩
        · intro ⟨mem, holds'⟩
          exact ⟨.inr mem, holds'⟩
      simp only [other]

theorem findFirst?_eq_some_iff (fits : w.stop ≤ cs.length) :
    findFirst? ignoreCase w pattern cs = some p
      ↔ IsLeast (w.occurrences ignoreCase pattern cs) p := by
  rw [findFirst?, find?_eq_some_iff_of_pairwise (w.pairwise_places pattern.length)]
  simp only [← Window.mem_occurrences_iff fits]
  rfl

theorem findLast?_eq_some_iff (fits : w.stop ≤ cs.length) :
    findLast? ignoreCase w pattern cs = some p
      ↔ IsGreatest (w.occurrences ignoreCase pattern cs) p := by
  have sorted : (w.places pattern.length).reverse.Pairwise (· ≥ ·) :=
    List.pairwise_reverse.2 (w.pairwise_places pattern.length)
  rw [findLast?, find?_eq_some_iff_of_pairwise sorted]
  simp only [List.mem_reverse, ← Window.mem_occurrences_iff fits]
  rfl

theorem findFirst?_eq_none_iff (fits : w.stop ≤ cs.length) :
    findFirst? ignoreCase w pattern cs = none ↔ ∀ p, p ∉ w.occurrences ignoreCase pattern cs := by
  rw [findFirst?, List.find?_eq_none]
  simp only [Window.mem_occurrences_iff fits, not_and]

theorem findLast?_eq_none_iff (fits : w.stop ≤ cs.length) :
    findLast? ignoreCase w pattern cs = none ↔ ∀ p, p ∉ w.occurrences ignoreCase pattern cs := by
  rw [findLast?, List.find?_eq_none]
  simp only [List.mem_reverse, Window.mem_occurrences_iff fits, not_and]

/-! Anywhere in the text -/

theorem occursIn_iff_isInfix : occursIn pattern cs = true ↔ pattern <:+: cs := by
  induction cs with
  | nil => simp [occursIn]
  | cons c cs ih =>
    rw [occursIn, Bool.or_eq_true, List.isPrefixOf_iff_prefix, ih, List.infix_cons_iff]

/-- A text has a pattern in it when the pattern stands at one of its places. -/
theorem occursIn_iff : occursIn pattern cs = true ↔ ∃ p, Occurs false pattern cs p := by
  rw [occursIn_iff_isInfix]
  simp only [occurs_false_iff]
  constructor
  · intro ⟨before, after, text⟩
    exact ⟨before.length, before, after, text.symm, rfl⟩
  · intro ⟨_, before, after, text, _⟩
    exact ⟨before, after, text.symm⟩

/-- A text that begins with a pattern has it at the start. -/
theorem occurs_zero_of_isPrefixOf (starts : pattern.isPrefixOf cs = true) :
    Occurs false pattern cs 0 := by
  obtain ⟨after, text⟩ := List.isPrefixOf_iff_prefix.1 starts
  exact occurs_false_iff.2 ⟨[], after, text.symm, rfl⟩

end ExprLang
