import Mathlib.Data.Int.Notation
import ExprLang.Library.Strings
import ExprLang.Proofs.Text.Occurrence

set_option autoImplicit false

/-!
The windows of the search functions. A search looks at a window of the string, which its numbers give;
where they lie in the string it yields the first or the last place of the pattern in the window, and
otherwise it complains about the one that does not. Only a search from the back in the empty string
does not look at its numbers.
-/

namespace ExprLang

open Library Library.Strings

namespace Library.Strings

namespace Search

/-! The window of a search -/

/-- Where a search starts, which is the first or the last character if nothing else is said. -/
def origin (f : Search) (len : ℕ) (start : Option ℤ) : ℤ :=
  start.getD (if f.backward then len - 1 else 0)

/-- How many characters a search looks at, which are all that it can reach if nothing else is said. -/
def extent (f : Search) (len : ℕ) (start count : Option ℤ) : ℤ :=
  count.getD (if f.backward then f.origin len start + 1 else len - f.origin len start)

/-- A search from the front can also start at the end of the string. -/
def StartFits (f : Search) (len : ℕ) (start : Option ℤ) : Prop :=
  0 ≤ f.origin len start
    ∧ if f.backward then f.origin len start < len else f.origin len start ≤ len

/-- There are as many characters as a search is told to look at. -/
def CountFits (f : Search) (len : ℕ) (start count : Option ℤ) : Prop :=
  ∀ n ∈ count, 0 ≤ n
    ∧ if f.backward then n ≤ f.origin len start + 1 else f.origin len start + n ≤ len

/-- The numbers that a search is given lie in a string of `len` characters. -/
def Admits (f : Search) (len : ℕ) (start count : Option ℤ) : Prop :=
  f.StartFits len start ∧ f.CountFits len start count

instance (f : Search) (len : ℕ) (start : Option ℤ) : Decidable (f.StartFits len start) :=
  inferInstanceAs (Decidable (0 ≤ f.origin len start
    ∧ if f.backward then f.origin len start < len else f.origin len start ≤ len))

instance (f : Search) (len : ℕ) (start count : Option ℤ) :
    Decidable (f.CountFits len start count) :=
  inferInstanceAs (Decidable (∀ n ∈ count, 0 ≤ n
    ∧ if f.backward then n ≤ f.origin len start + 1 else f.origin len start + n ≤ len))

instance (f : Search) (len : ℕ) (start count : Option ℤ) : Decidable (f.Admits len start count) :=
  inferInstanceAs (Decidable (f.StartFits len start ∧ f.CountFits len start count))

/-- The characters that a search looks at: those from its start on, or those up to it. -/
def window (f : Search) (len : ℕ) (start count : Option ℤ) : Window :=
  if f.backward then
    ⟨(f.origin len start + 1 - f.extent len start count).toNat, (f.origin len start + 1).toNat⟩
  else ⟨(f.origin len start).toNat, (f.origin len start + f.extent len start count).toNat⟩

/-- The window as the search finds it. -/
def window? (f : Search) (len : ℕ) (start count : Option ℤ) : Except WindowFault Window :=
  if f.backward then Window.backward len start count
  else Window.forward len (start.getD 0) count

variable {f : Search} {len : ℕ} {start count : Option ℤ}

theorem window?_of_startOutside (outside : ¬ f.StartFits len start) :
    f.window? len start count = .error .start := by
  unfold StartFits origin at outside
  unfold window?
  cases direction : f.backward with
  | true =>
    simp only [direction, if_true] at outside ⊢
    apply if_pos
    omega
  | false =>
    simp only [direction, Bool.false_eq_true, if_false] at outside ⊢
    apply if_pos
    omega

/-- Numbers that are left out are as good as the ones they stand for. -/
theorem window?_eq (fits : f.StartFits len start) : f.window? len start count =
    if f.backward then
      Window.backward len (some (f.origin len start)) (some (f.extent len start count))
    else Window.forward len (f.origin len start) (some (f.extent len start count)) := by
  unfold StartFits at fits
  unfold window? extent origin at *
  cases direction : f.backward with
  | true =>
    simp only [direction, if_true] at fits ⊢
    cases count with
    | some n => rfl
    | none =>
      simp only [Window.backward, Option.getD_some, Option.getD_none]
      rw [if_neg (by omega), if_neg (by omega), if_neg (by omega), Int.sub_self]
      rfl
  | false =>
    simp only [direction, Bool.false_eq_true, if_false] at fits ⊢
    cases count with
    | some n => rfl
    | none =>
      simp only [Window.forward, Option.getD_none]
      rw [if_neg (by omega), if_neg (by omega), if_neg (by omega),
        Int.add_comm (start.getD 0), Int.sub_add_cancel]
      rfl

theorem window?_of_countOutside (fits : f.StartFits len start)
    (outside : ¬ f.CountFits len start count) : f.window? len start count = .error .length := by
  rw [window?_eq fits]
  unfold StartFits at fits
  unfold CountFits at outside
  cases count with
  | none => exact absurd nofun outside
  | some n =>
    simp only [Option.mem_def, Option.some.injEq, forall_eq'] at outside
    rw [extent, Option.getD_some]
    cases direction : f.backward with
    | true =>
      simp only [direction, if_true, Window.backward, Option.getD_some] at fits outside ⊢
      rw [if_neg (by omega), if_pos (by omega)]
    | false =>
      simp only [direction, Bool.false_eq_true, if_false, Window.forward] at fits outside ⊢
      rw [if_neg (by omega), if_pos (by omega)]

/-- Without a count a search looks at no more than there is. -/
theorem extent_fits (admits : f.Admits len start count) : 0 ≤ f.extent len start count
    ∧ if f.backward then f.extent len start count ≤ f.origin len start + 1
      else f.origin len start + f.extent len start count ≤ len := by
  obtain ⟨fits, fits'⟩ := admits
  cases count with
  | some n => exact fits' n rfl
  | none =>
    unfold StartFits at fits
    rw [extent, Option.getD_none]
    cases direction : f.backward with
    | true =>
      simp only [direction, if_true] at fits ⊢
      omega
    | false =>
      simp only [direction, Bool.false_eq_true, if_false] at fits ⊢
      omega

theorem window?_of_admits (admits : f.Admits len start count) :
    f.window? len start count = .ok (f.window len start count) := by
  have reach := extent_fits admits
  have fits := admits.1
  rw [window?_eq fits, window]
  unfold StartFits at fits
  cases direction : f.backward with
  | true =>
    simp only [direction, if_true, Window.backward, Option.getD_some] at fits reach ⊢
    rw [if_neg (by omega), if_neg (by omega), Int.toNat_add (by omega) (by omega)]
    rfl
  | false =>
    simp only [direction, Bool.false_eq_true, if_false, Window.forward] at fits reach ⊢
    rw [if_neg (by omega), if_neg (by omega)]

/-- What a search looks at lies in the string. -/
theorem window_fits (admits : f.Admits len start count) :
    (f.window len start count).stop ≤ len := by
  have reach := extent_fits admits
  have fits := admits.1
  unfold window
  unfold StartFits at fits
  cases direction : f.backward with
  | true =>
    simp only [direction, if_true] at fits ⊢
    omega
  | false =>
    simp only [direction, Bool.false_eq_true, if_false] at reach ⊢
    omega

/-! The outcome of a search -/

variable {s t : String} {start? count? : Option (Integer .int32)} {p : ℕ} {w : Window}

/-- The place that a search picks in a window. -/
def pick? (f : Search) (w : Window) (pattern cs : List Char) : Option ℕ :=
  if f.backward then findLast? f.ignoreCase w pattern cs
  else findFirst? f.ignoreCase w pattern cs

/-- The least of some places, or the greatest for a search from the back. -/
def Picks (f : Search) (places : Set ℕ) (p : ℕ) : Prop :=
  if f.backward then IsGreatest places p else IsLeast places p

theorem Picks.mem {places : Set ℕ} (picks : f.Picks places p) : p ∈ places := by
  unfold Picks at picks
  split at picks
  · exact picks.1
  · exact picks.1

theorem pick?_eq_some_iff {pattern cs : List Char} (fits : w.stop ≤ cs.length) :
    f.pick? w pattern cs = some p ↔ f.Picks (w.occurrences f.ignoreCase pattern cs) p := by
  unfold pick? Picks
  split
  · exact findLast?_eq_some_iff fits
  · exact findFirst?_eq_some_iff fits

theorem pick?_eq_none_iff {pattern cs : List Char} (fits : w.stop ≤ cs.length) :
    f.pick? w pattern cs = none ↔ ∀ p, p ∉ w.occurrences f.ignoreCase pattern cs := by
  unfold pick?
  split
  · exact findLast?_eq_none_iff fits
  · exact findFirst?_eq_none_iff fits

/-- The position of a place, or -1. -/
def position (place : Option ℕ) : Integer .int32 := place.elim .minusOne .lowBits

/-- What is found in a window is given as its position. -/
theorem bind_position (x : Except Error Window) (look : Window → Option ℕ) :
    (do
      let found ← do
        let w ← x
        pure (look w)
      match found with
      | some p => return .lowBits p
      | none => return .minusOne) = x.map fun w => position (look w) := by
  cases x with
  | error e => rfl
  | ok w =>
    simp only [bind, Except.bind, pure, Except.pure, Except.map]
    cases look w with
    | none => rfl
    | some p => rfl

/-- Unless it goes through the empty string from the back, a search looks at its window. -/
theorem run_eq (present : f.backward = true → s ≠ "") : f.run s t start? count? =
    (windowOf f.name s.length start? count?
      (f.window? s.length (start?.map (·.val)) (count?.map (·.val)))).map
        fun w => position (f.pick? w t.toList s.toList) := by
  unfold run window? pick?
  cases direction : f.backward with
  | true =>
    have some : s.toList.isEmpty = false := by simpa using present direction
    simp only [if_true, some, Bool.false_eq_true, if_false, String.length_toList]
    exact bind_position _ _
  | false =>
    simp only [Bool.false_eq_true, if_false, String.length_toList]
    exact bind_position _ _

/-- Through the empty string a search from the back goes without a look at its numbers. -/
theorem run_empty (backward : f.backward = true) :
    f.run "" t start? count? = .ok (if t = "" then .zero .int32 else .minusOne) := by
  unfold run
  by_cases empty : t = ""
  · rw [backward, if_pos empty, empty]
    rfl
  · have some : t.isEmpty = false := by simpa using empty
    rw [backward, if_neg empty]
    simp only [some]
    rfl

theorem StartFits.present {start : Option ℤ} (fits : f.StartFits s.length start)
    (backward : f.backward = true) : s ≠ "" := by
  intro empty
  unfold StartFits at fits
  rw [backward, empty] at fits
  simp only [if_true, String.length_empty] at fits
  omega

theorem run_of_admits
    (admits : f.Admits s.length (start?.map (·.val)) (count?.map (·.val))) :
    f.run s t start? count? = .ok (position (f.pick?
      (f.window s.length (start?.map (·.val)) (count?.map (·.val))) t.toList s.toList)) := by
  rw [run_eq admits.1.present, window?_of_admits admits]
  rfl

theorem run_of_startOutside (present : f.backward = true → s ≠ "")
    (outside : ¬ f.StartFits s.length (start?.map (·.val))) :
    f.run s t start? count? = .error (outOfRange f.name s.length start? count? .start) := by
  rw [run_eq present, window?_of_startOutside outside]
  rfl

theorem run_of_countOutside (fits : f.StartFits s.length (start?.map (·.val)))
    (outside : ¬ f.CountFits s.length (start?.map (·.val)) (count?.map (·.val))) :
    f.run s t start? count? = .error (outOfRange f.name s.length start? count? .length) := by
  rw [run_eq fits.present, window?_of_countOutside fits outside]
  rfl

/-! What is found -/

/-- The places of the pattern that a search can yield. -/
def places (f : Search) (s t : String) (start count : Option ℤ) : Set ℕ :=
  (f.window s.length start count).occurrences f.ignoreCase t.toList s.toList

/-- What a search yields that looks at its window: the first or last place of the pattern there, or -1
if there is none. -/
structure Finds (f : Search) (s t : String) (start count : Option ℤ) (n : Integer .int32) :
    Prop where
  found_iff : ∀ p : ℕ, n.val = p ↔ f.Picks (f.places s t start count) p
  nowhere_iff : n = .minusOne ↔ ∀ p, p ∉ f.places s t start count
  /-- The empty pattern stands everywhere in the window and at its end. -/
  empty_iff : t = "" → ∀ p : ℕ, p ∈ f.places s t start count
    ↔ (f.window s.length start count).start ≤ p ∧ p ≤ (f.window s.length start count).stop

theorem mem_places_of_empty (admits : f.Admits s.length start count) :
    p ∈ f.places s "" start count
      ↔ (f.window s.length start count).start ≤ p ∧ p ≤ (f.window s.length start count).stop := by
  have fits : (f.window s.length start count).stop ≤ s.toList.length := by
    rw [String.length_toList]
    exact window_fits admits
  constructor
  · intro ⟨_, place⟩
    exact place
  · intro place
    exact ⟨occurs_nil_iff.2 (Nat.le_trans place.2 fits), place⟩

/-- In a string that is not too long the position of a place is its number. -/
theorem position_of_pick {pattern cs : List Char} (short : cs.length ≤ 2147483647)
    (fits : w.stop ≤ cs.length) (found : f.pick? w pattern cs = some p) :
    (position (some p)).val = p := by
  have place := ((pick?_eq_some_iff fits).1 found).mem
  have inside := place.1.le
  exact Integer.lowBits_val (by omega)

theorem position_iff {pattern cs : List Char} (short : cs.length ≤ 2147483647)
    (fits : w.stop ≤ cs.length) : (position (f.pick? w pattern cs)).val = p
      ↔ f.Picks (w.occurrences f.ignoreCase pattern cs) p := by
  rw [← pick?_eq_some_iff fits]
  cases found : f.pick? w pattern cs with
  | none =>
    have nowhere : (position none).val = -1 := rfl
    rw [nowhere]
    simp only [reduceCtorEq]
  | some q =>
    rw [position_of_pick short fits found, Option.some.injEq]
    exact Int.ofNat_inj

theorem position_eq_minusOne_iff {pattern cs : List Char} (short : cs.length ≤ 2147483647)
    (fits : w.stop ≤ cs.length) : position (f.pick? w pattern cs) = .minusOne
      ↔ ∀ p, p ∉ w.occurrences f.ignoreCase pattern cs := by
  rw [← pick?_eq_none_iff fits]
  cases found : f.pick? w pattern cs with
  | none => exact iff_of_true rfl rfl
  | some q =>
    have place := position_of_pick short fits found
    simp only [reduceCtorEq, iff_false]
    intro same
    have negative : (position (some q)).val = -1 := congrArg Integer.val same
    omega

/-- A search whose numbers lie in the string finds what is there. -/
theorem run_finds (short : s.length ≤ 2147483647)
    (admits : f.Admits s.length (start?.map (·.val)) (count?.map (·.val))) :
    ∃ n, f.run s t start? count? = .ok n
      ∧ f.Finds s t (start?.map (·.val)) (count?.map (·.val)) n := by
  have fits : (f.window s.length (start?.map (·.val)) (count?.map (·.val))).stop
      ≤ s.toList.length := by
    rw [String.length_toList]
    exact window_fits admits
  rw [← String.length_toList] at short
  refine ⟨_, run_of_admits admits, ?_⟩
  constructor
  case found_iff =>
    intro p
    exact position_iff short fits
  case nowhere_iff => exact position_eq_minusOne_iff short fits
  case empty_iff =>
    intro empty p
    rw [empty]
    exact mem_places_of_empty admits

/-! Searches of the whole string -/

theorem admits_whole (present : f.backward = true → s ≠ "") : f.Admits s.length none none := by
  refine ⟨?_, nofun⟩
  unfold StartFits origin
  rw [Option.getD_none]
  cases direction : f.backward with
  | true =>
    have long : s.length ≠ 0 := by simpa using present direction
    simp only [if_true]
    omega
  | false =>
    simp only [Bool.false_eq_true, if_false]
    omega

/-- Without numbers a search can yield all places of the pattern. -/
theorem mem_places_whole : p ∈ f.places s t none none
    ↔ Occurs f.ignoreCase t.toList s.toList p := by
  have window : f.window s.length none none = ⟨0, s.length⟩ := by
    unfold window extent origin
    simp only [Option.getD_none]
    cases f.backward with
    | true => simp
    | false => simp
  rw [places, window]
  constructor
  · intro ⟨occurs, _⟩
    exact occurs
  · intro occurs
    refine ⟨occurs, Nat.zero_le p, ?_⟩
    rw [← String.length_toList]
    exact occurs.le

theorem run_finds_whole (short : s.length ≤ 2147483647) (present : f.backward = true → s ≠ "") :
    ∃ n, f.run s t none none = .ok n ∧ f.Finds s t none none n :=
  run_finds short (admits_whole present)

/-- If letter case counts, a search finds the pattern when the string has it at all. -/
theorem run_whole (short : s.length ≤ 2147483647) (cased : f.ignoreCase = false) :
    ∃ n, f.run s t none none = .ok n
      ∧ (occursIn t.toList s.toList = true ↔ n ≠ .minusOne) := by
  by_cases unread : f.backward = true ∧ s = ""
  · obtain ⟨backward, empty⟩ := unread
    subst empty
    refine ⟨_, run_empty backward, ?_⟩
    by_cases nothing : t = ""
    · rw [if_pos nothing, nothing]
      decide
    · rw [if_neg nothing]
      simpa [occursIn] using nothing
  · have present : f.backward = true → s ≠ "" := fun backward empty => unread ⟨backward, empty⟩
    obtain ⟨n, found, finds⟩ := run_finds_whole (t := t) short present
    refine ⟨n, found, ?_⟩
    rw [occursIn_iff, ne_eq, finds.nowhere_iff, not_forall_not]
    simp only [mem_places_whole, cased]

/-- A string that begins with the pattern has it first at its start. -/
theorem run_of_isPrefixOf (short : s.length ≤ 2147483647) (cased : f.ignoreCase = false)
    (forward : f.backward = false) (starts : t.toList.isPrefixOf s.toList = true) :
    f.run s t none none = .ok (.zero .int32) := by
  have present : f.backward = true → s ≠ "" := by simp [forward]
  obtain ⟨n, found, finds⟩ := run_finds_whole (t := t) short present
  have first : f.Picks (f.places s t none none) 0 := by
    unfold Picks
    rw [forward]
    refine ⟨mem_places_whole.2 ?_, fun p _ => Nat.zero_le p⟩
    rw [cased]
    exact occurs_zero_of_isPrefixOf starts
  have zero : n = .zero .int32 := Integer.ext ((finds.found_iff 0).2 first)
  rw [found, zero]

end Search

end Library.Strings

end ExprLang
