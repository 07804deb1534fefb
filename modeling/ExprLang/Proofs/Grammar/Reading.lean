import ExprLang.Grammar.Word

set_option autoImplicit false

/-!
What the small readers take and what they leave: blanks, single characters and names. A reader takes
the same from a longer text when what follows cannot be taken for more of it.
-/

namespace ExprLang.Grammar

/-- The reading takes a part and leaves a rest. -/
def Reading.Takes {s : List Char} {α : Type} (r : Reading s α) (v : α) (rest : List Char) : Prop :=
  ∃ suffix, r = .ok ⟨v, rest, suffix⟩

theorem Taken.exists_of_eq {s : List Char} {α : Type} {x : Option (Taken s α)} {t : Taken s α}
    {v : α} {rest : List Char} (h : x = some t) (value : t.value = v) (left : t.rest = rest) :
    ∃ suffix, x = some ⟨v, rest, suffix⟩ := by
  subst value left
  exact ⟨t.suffix, h⟩

theorem Reading.Takes.of_eq {s : List Char} {α : Type} {x : Reading s α} {t : Taken s α}
    {v : α} {rest : List Char} (h : x = .ok t) (value : t.value = v) (left : t.rest = rest) :
    x.Takes v rest := by
  subst value left
  exact ⟨t.suffix, h⟩

def Reading.Faults {s : List Char} {α : Type} (r : Reading s α) : Prop := ∃ f, r = .fault f

namespace Reading

variable {s r : List Char} {α β : Type}

theorem takes_ok_iff {t : Taken s α} {v : α} {rest : List Char} :
    (ok t).Takes v rest ↔ t.value = v ∧ t.rest = rest := by
  constructor
  · rintro ⟨_, ⟨⟩⟩
    exact ⟨rfl, rfl⟩
  · rintro ⟨rfl, rfl⟩
    exact ⟨t.suffix, rfl⟩

theorem not_takes_fault {f : Fault} {v : α} {rest : List Char} :
    ¬ (fault f : Reading s α).Takes v rest := by
  rintro ⟨_, ⟨⟩⟩

theorem not_takes_hard {f : Fault} {v : α} {rest : List Char} :
    ¬ (hard f : Reading s α).Takes v rest := by
  rintro ⟨_, ⟨⟩⟩

/-- What goes on after a part that was read. -/
theorem exists_takes_ok_iff {t : Taken s α} {P : α → List Char → Prop} :
    (∃ v rest, (ok t).Takes v rest ∧ P v rest) ↔ P t.value t.rest := by
  simp only [takes_ok_iff, and_assoc, exists_and_left, exists_eq_left']

theorem takes_map_iff {x : Reading s α} {f : α → β} {w : β} {rest : List Char} :
    (x.map f).Takes w rest ↔ ∃ v, x.Takes v rest ∧ f v = w := by
  constructor
  · rintro ⟨suffix, taken⟩
    cases x with
    | ok t =>
      cases taken
      exact ⟨t.value, ⟨suffix, rfl⟩, rfl⟩
    | fault f => cases taken
    | hard f => cases taken
  · rintro ⟨v, ⟨suffix, rfl⟩, rfl⟩
    exact ⟨suffix, rfl⟩

theorem takes_within_iff {x : Reading r α} {h : r <:+ s} {v : α} {rest : List Char} :
    (x.within h).Takes v rest ↔ x.Takes v rest := by
  constructor
  · rintro ⟨suffix, taken⟩
    cases x with
    | ok t =>
      cases taken
      exact ⟨t.suffix, rfl⟩
    | fault f => cases taken
    | hard f => cases taken
  · rintro ⟨suffix, rfl⟩
    exact ⟨suffix.trans h, rfl⟩

theorem Takes.length_le {x : Reading s α} {v : α} {rest : List Char} (h : x.Takes v rest) :
    rest.length ≤ s.length := by
  obtain ⟨suffix, -⟩ := h
  exact suffix.length_le

theorem takes_of_ok {x : Reading s α} {t : Taken s α} (read : x = .ok t) :
    x.Takes t.value t.rest :=
  ⟨t.suffix, read⟩

/-- A reading takes one part only. -/
theorem Takes.unique {x : Reading s α} {v w : α} {a b : List Char} (h : x.Takes v a)
    (h' : x.Takes w b) : v = w ∧ a = b := by
  obtain ⟨_, taken⟩ := h
  obtain ⟨_, again⟩ := h'
  rw [taken] at again
  cases again
  exact ⟨rfl, rfl⟩

theorem fault_faults (f : Fault) : (fault f : Reading s α).Faults := ⟨f, rfl⟩

theorem not_faults_ok {t : Taken s α} : ¬ (ok t).Faults := by
  rintro ⟨_, ⟨⟩⟩

theorem not_faults_hard {f : Fault} : ¬ (hard f : Reading s α).Faults := by
  rintro ⟨_, ⟨⟩⟩

theorem map_faults_iff {x : Reading s α} {f : α → β} : (x.map f).Faults ↔ x.Faults := by
  cases x with
  | ok t => exact iff_of_false not_faults_ok not_faults_ok
  | fault g => exact iff_of_true (fault_faults g) (fault_faults g)
  | hard g => exact iff_of_false not_faults_hard not_faults_hard

theorem map_eq_ok_iff {x : Reading s α} {f : α → β} {t : Taken s β} :
    x.map f = .ok t ↔ ∃ u, x = .ok u ∧ u.map f = t := by
  cases x <;> simp [map]

theorem map_eq_hard_iff {x : Reading s α} {f : α → β} {g : Fault} :
    x.map f = .hard g ↔ x = .hard g := by
  cases x <;> simp [map]

theorem within_eq_hard_iff {x : Reading r α} {h : r <:+ s} {g : Fault} :
    x.within h = .hard g ↔ x = .hard g := by
  cases x <;> simp [within]

theorem ofOption_eq_ok_iff {x : Option (Taken s α)} {t : Taken s α} :
    ofOption x = .ok t ↔ x = some t := by
  cases x <;> simp [ofOption]

theorem ofOption_faults_iff {x : Option (Taken s α)} : (ofOption x).Faults ↔ x = none := by
  cases x with
  | none => exact iff_of_true (fault_faults _) rfl
  | some t => exact iff_of_false not_faults_ok (Option.some_ne_none t)

theorem ofOption_ne_hard {x : Option (Taken s α)} {f : Fault} : ofOption x ≠ .hard f := by
  cases x <;> simp [ofOption]

/-! Alternatives -/

variable {x : Reading s α} {y : Unit → Reading s α}

theorem orElse_of_ok {t : Taken s α} (h : x = .ok t) : x.orElse y = .ok t := by
  rw [h, orElse]

theorem orElse_of_faults (h : x.Faults) : x.orElse y = y () := by
  obtain ⟨f, rfl⟩ := h
  rfl

theorem orElse_faults_iff : (x.orElse y).Faults ↔ x.Faults ∧ (y ()).Faults := by
  cases x with
  | ok t => exact iff_of_false not_faults_ok fun both => not_faults_ok both.1
  | fault f => exact (and_iff_right (fault_faults f)).symm
  | hard f => exact iff_of_false not_faults_hard fun both => not_faults_hard both.1

theorem orElse_eq_ok_iff {t : Taken s α} :
    x.orElse y = .ok t ↔ x = .ok t ∨ x.Faults ∧ y () = .ok t := by
  cases x <;> simp [orElse, Faults]

theorem orElse_eq_hard_iff {f : Fault} :
    x.orElse y = .hard f ↔ x = .hard f ∨ x.Faults ∧ y () = .hard f := by
  cases x <;> simp [orElse, Faults]

variable {ι : Type} {read : ι → Reading s α} {entries : List ι}

theorem firstOf_faults_iff : (firstOf read entries).Faults ↔ ∀ i ∈ entries, (read i).Faults := by
  induction entries with
  | nil => exact iff_of_true (fault_faults _) (List.forall_mem_nil _)
  | cons i is ih => rw [firstOf, orElse_faults_iff, ih, List.forall_mem_cons]

/-- A hard fault is that of one entry, and those before it do not fit. -/
theorem firstOf_eq_hard_iff {f : Fault} : firstOf read entries = .hard f
    ↔ ∃ before i after, entries = before ++ i :: after ∧ (∀ j ∈ before, (read j).Faults)
      ∧ read i = .hard f := by
  induction entries with
  | nil => simp [firstOf]
  | cons i is ih =>
    rw [firstOf, orElse_eq_hard_iff, ih]
    constructor
    · rintro (first | ⟨passed, before, j, after, rfl, others, failed⟩)
      · exact ⟨[], i, is, rfl, List.forall_mem_nil _, first⟩
      · exact ⟨i :: before, j, after, rfl, List.forall_mem_cons.2 ⟨passed, others⟩, failed⟩
    · rintro ⟨before, j, after, split, others, failed⟩
      cases before with
      | nil =>
        cases split
        exact .inl failed
      | cons k before =>
        cases split
        obtain ⟨passed, others⟩ := List.forall_mem_cons.1 others
        exact .inr ⟨passed, before, j, after, rfl, others, failed⟩

end Reading

theorem forall_mem_head?_nil {p : Char → Prop} : ∀ c ∈ ([] : List Char).head?, p c := by
  intro c head
  cases head

/-- Only blanks. -/
def Blank (b : List Char) : Prop := ∀ c ∈ b, isBlank c = true

instance : DecidablePred Blank := fun b => List.decidableBAll (isBlank · = true) b

/-- No name goes on here. -/
def NameEnds (rest : List Char) : Prop := ∀ c ∈ rest.head?, isNameChar c = false

theorem isNameChar_of_isBlank {c : Char} (h : isBlank c = true) : isNameChar c = false := by
  simp only [isBlank, Bool.or_eq_true, decide_eq_true_eq] at h
  rcases h with ((rfl | rfl) | rfl) | rfl <;> rfl

theorem isBlank_of_isNameChar {c : Char} (h : isNameChar c = true) : isBlank c = false := by
  by_cases blank : isBlank c = true
  · rw [isNameChar_of_isBlank blank] at h
    cases h
  · exact Bool.eq_false_iff.2 blank

theorem isNameChar_of_isNameStart {c : Char} (h : isNameStart c = true) : isNameChar c = true := by
  simp only [isNameStart, isNameChar, Char.isAlphanum, Bool.or_eq_true] at h ⊢
  rcases h with alpha | underscore
  · exact .inl (.inl alpha)
  · exact .inr underscore

/-! Blanks -/

theorem skipBlanks_cons_of_isBlank {c : Char} (h : isBlank c = true) (s : List Char) :
    skipBlanks (c :: s) = skipBlanks s :=
  List.dropWhile_cons_of_pos h

theorem skipBlanks_cons {c : Char} (h : isBlank c = false) (s : List Char) :
    skipBlanks (c :: s) = c :: s :=
  List.dropWhile_cons_of_neg (by simp [h])

theorem skipBlanks_append {b : List Char} (h : Blank b) (s : List Char) :
    skipBlanks (b ++ s) = skipBlanks s := by
  induction b with
  | nil => rfl
  | cons c b ih =>
    rw [List.cons_append, skipBlanks_cons_of_isBlank (h c List.mem_cons_self)]
    exact ih fun d mem => h d (List.mem_cons_of_mem c mem)

theorem skipBlanks_append_cons {b : List Char} (h : Blank b) {c : Char} (hc : isBlank c = false)
    (s : List Char) : skipBlanks (b ++ c :: s) = c :: s := by
  rw [skipBlanks_append h, skipBlanks_cons hc]

/-- What is left begins with a character that is no blank. -/
theorem skipBlanks_cases (s : List Char) :
    skipBlanks s = [] ∨ ∃ c r, skipBlanks s = c :: r ∧ isBlank c = false := by
  induction s with
  | nil => exact .inl rfl
  | cons c s ih =>
    by_cases h : isBlank c = true
    · rwa [skipBlanks_cons_of_isBlank h]
    · have h := Bool.eq_false_iff.2 h
      exact .inr ⟨c, s, skipBlanks_cons h s, h⟩

theorem skipBlanks_skipBlanks (s : List Char) : skipBlanks (skipBlanks s) = skipBlanks s := by
  rcases skipBlanks_cases s with nil | ⟨c, r, cons, h⟩
  · rw [nil]
    rfl
  · rw [cons, skipBlanks_cons h]

theorem exists_blank_append (s : List Char) : ∃ b, Blank b ∧ s = b ++ skipBlanks s := by
  induction s with
  | nil => exact ⟨[], by simp [Blank], rfl⟩
  | cons c s ih =>
    by_cases h : isBlank c = true
    · obtain ⟨b, blank, split⟩ := ih
      refine ⟨c :: b, fun d mem => ?_, ?_⟩
      · rcases List.mem_cons.1 mem with rfl | mem
        · exact h
        · exact blank d mem
      · rw [skipBlanks_cons_of_isBlank h, List.cons_append, ← split]
    · refine ⟨[], by simp [Blank], ?_⟩
      rw [skipBlanks_cons (Bool.eq_false_iff.2 h)]
      rfl

/-! Single characters -/

theorem past?_eq_none {c : Char} {s : List Char} (h : s.head? ≠ some c) : past? c s = none := by
  cases s with
  | nil => rfl
  | cons d s =>
    have other : d ≠ c := fun same => h (congrArg some same)
    rw [past?, if_neg other]

theorem past?_cons (c : Char) (s : List Char) :
    past? c (c :: s) = some ⟨s, List.suffix_cons c s, length_lt_cons c s⟩ := by
  rw [past?, if_pos rfl]

theorem past?_eq_some {c : Char} {s : List Char} {p : Past s} (h : past? c s = some p) :
    s = c :: p.rest := by
  cases s with
  | nil => cases h
  | cons d s =>
    rw [past?] at h
    split at h
    · rename_i same
      cases h
      rw [same]
    · cases h

theorem pastSpaced?_eq_none {c : Char} {s : List Char} (h : (skipBlanks s).head? ≠ some c) :
    pastSpaced? c s = none := by
  rw [pastSpaced?, past?_eq_none h, Option.map_none]

theorem pastSpaced?_of_cons {c : Char} {s r : List Char} (h : skipBlanks s = c :: r) :
    ∃ suffix shorter, pastSpaced? c s = some ⟨skipBlanks r, suffix, shorter⟩ := by
  have found : ∃ suffix shorter, past? c (skipBlanks s) = some ⟨r, suffix, shorter⟩ := by
    rw [h]
    exact ⟨_, _, past?_cons c r⟩
  obtain ⟨suffix, shorter, found⟩ := found
  refine ⟨_, _, by rw [pastSpaced?, found, Option.map_some]⟩

/-! Names -/

theorem dropWhile_append {p : Char → Bool} {a rest : List Char} (ha : ∀ c ∈ a, p c = true)
    (hrest : ∀ c ∈ rest.head?, p c = false) : (a ++ rest).dropWhile p = rest := by
  rw [List.dropWhile_append_of_pos ha]
  cases rest with
  | nil => rfl
  | cons c rest => exact List.dropWhile_cons_of_neg (by simp [hrest c rfl])

theorem takeWhile_append {p : Char → Bool} {a rest : List Char} (ha : ∀ c ∈ a, p c = true)
    (hrest : ∀ c ∈ rest.head?, p c = false) : (a ++ rest).takeWhile p = a := by
  rw [List.takeWhile_append_of_pos ha]
  cases rest with
  | nil => exact List.append_nil a
  | cons c rest => rw [List.takeWhile_cons_of_neg (by simp [hrest c rfl]), List.append_nil]

/-- What a run of characters leaves does not begin with another one. -/
theorem head?_dropWhile {p : Char → Bool} (s : List Char) :
    ∀ c ∈ (s.dropWhile p).head?, p c = false := by
  induction s with
  | nil => simp
  | cons d s ih =>
    by_cases h : p d = true
    · rwa [List.dropWhile_cons_of_pos h]
    · rw [List.dropWhile_cons_of_neg h]
      rintro _ ⟨⟩
      exact Bool.eq_false_iff.2 h

theorem isName_iff {cs : List Char} :
    isName cs = true
      ↔ ∃ c r, cs = c :: r ∧ isNameStart c = true ∧ ∀ d ∈ r, isNameChar d = true := by
  cases cs with
  | nil => simp [isName]
  | cons c r =>
    simp only [isName, Bool.and_eq_true, List.all_eq_true]
    constructor
    · exact fun h => ⟨c, r, rfl, h⟩
    · rintro ⟨_, _, ⟨⟩, h⟩
      exact h

theorem isNameChar_of_isName {cs : List Char} (h : isName cs = true) :
    ∀ c ∈ cs, isNameChar c = true := by
  obtain ⟨c, r, rfl, start, rest⟩ := isName_iff.1 h
  intro d mem
  rcases List.mem_cons.1 mem with rfl | mem
  · exact isNameChar_of_isNameStart start
  · exact rest d mem

/-- A text has only one run of characters of names at its front. -/
theorem append_inj_of_nameEnds {a b r t : List Char} (ha : ∀ c ∈ a, isNameChar c = true)
    (hb : ∀ c ∈ b, isNameChar c = true) (hr : NameEnds r) (ht : NameEnds t)
    (h : a ++ r = b ++ t) : a = b ∧ r = t := by
  refine ⟨?_, ?_⟩
  · rw [← takeWhile_append ha hr, ← takeWhile_append hb ht, h]
  · rw [← dropWhile_append ha hr, ← dropWhile_append hb ht, h]

theorem name?_eq_some {s : List Char} {t : Taken s String} (h : name? s = some t) :
    isName t.value.toList = true ∧ s = t.value.toList ++ t.rest ∧ NameEnds t.rest := by
  cases s with
  | nil => cases h
  | cons c s =>
    rw [name?] at h
    split at h
    · rename_i start
      cases h
      have all := List.all_eq_true.1 (List.all_takeWhile (l := s) (p := isNameChar))
      refine ⟨?_, ?_, head?_dropWhile s⟩
      · rw [String.toList_ofList]
        exact isName_iff.2 ⟨c, _, rfl, start, all⟩
      · rw [String.toList_ofList, List.cons_append, List.takeWhile_append_dropWhile]
    · cases h

theorem name?_append {name : String} {rest : List Char} (h : isName name.toList = true)
    (ends : NameEnds rest) :
    ∃ suffix, name? (name.toList ++ rest) = some ⟨name, rest, suffix⟩ := by
  obtain ⟨c, r, eq, start, -⟩ := isName_iff.1 h
  have found : ∃ t, name? (name.toList ++ rest) = some t := by
    rw [eq, List.cons_append, name?, if_pos start]
    exact ⟨_, rfl⟩
  obtain ⟨t, read⟩ := found
  obtain ⟨named, split, left⟩ := name?_eq_some read
  obtain ⟨value, rests⟩ := append_inj_of_nameEnds (isNameChar_of_isName h)
    (isNameChar_of_isName named) ends left split
  exact Taken.exists_of_eq read (String.toList_inj.1 value.symm) rests.symm

theorem name?_of_eq {s rest : List Char} {name : String} (h : s = name.toList ++ rest)
    (named : isName name.toList = true) (ends : NameEnds rest) :
    ∃ suffix, name? s = some ⟨name, rest, suffix⟩ := by
  subst h
  exact name?_append named ends

theorem name?_eq_none {s : List Char} (h : ∀ c ∈ s.head?, isNameStart c = false) :
    name? s = none := by
  cases s with
  | nil => rfl
  | cons c s => rw [name?, if_neg (by simp [h c rfl])]

end ExprLang.Grammar
