import ExprLang.Text.Case

set_option autoImplicit false

/-!
Lower case of ASCII texts. It goes character by character, and the letters from `a` to `z` other
than `k` are the lower case of ASCII characters only; `k` is also that of the sign for kelvin.
-/

namespace ExprLang

/-- A fact about the ASCII characters is a fact about 128 numbers. -/
theorem forall_ascii {P : Char → Prop} (h : ∀ n < 128, P (Char.ofNat n)) {c : Char}
    (hc : c.toNat < 128) : P c := by
  have fact := h c.toNat hc
  rwa [Char.ofNat_toNat] at fact

/-- A text of ASCII characters only. -/
def Ascii (cs : List Char) : Prop := ∀ c ∈ cs, c.toNat < 128

instance (cs : List Char) : Decidable (Ascii cs) := List.decidableBAll _ cs

theorem Ascii.of_cons {c : Char} {cs : List Char} (h : Ascii (c :: cs)) :
    c.toNat < 128 ∧ Ascii cs :=
  ⟨h c List.mem_cons_self, fun d mem => h d (List.mem_cons_of_mem c mem)⟩

theorem toLower_lt {c : Char} (h : c.toNat < 128) : c.toLower.toNat < 128 :=
  forall_ascii (P := fun c => c.toLower.toNat < 128) (by decide) h

theorem toLower_toLower {c : Char} (h : c.toNat < 128) : c.toLower.toLower = c.toLower :=
  forall_ascii (P := fun c => c.toLower.toLower = c.toLower) (by decide) h

theorem utf8Size_ascii {c : Char} (h : c.toNat < 128) : c.utf8Size = 1 :=
  Char.utf8Size_eq_one_iff.2 (UInt32.le_iff_toNat_le.2 (Nat.le_of_lt_succ h))

/-! Characters that differ in letter case only -/

theorem toLower_cases (c : Char) : c.toLower = c ∨ (c.toNat < 128 ∧ c.isAlpha = true) := by
  unfold Char.toLower
  split
  · rename_i upper
    have bound : c.val.toNat ≤ 90 := UInt32.le_iff_toNat_le.1 upper.2
    have alpha : c.isUpper = true := decide_eq_true upper
    exact .inr ⟨Nat.lt_of_le_of_lt bound (by decide), Bool.or_eq_true_iff.2 (.inl alpha)⟩
  · exact .inl rfl

/-- Characters with the same lower case are the same or letters of ASCII. -/
theorem letters_of_toLower {c d : Char} (h : c.toLower = d.toLower) :
    c = d ∨ (c.toNat < 128 ∧ c.isAlpha = true ∧ d.toNat < 128 ∧ d.isAlpha = true) := by
  have kept : ∀ c : Char, c.toNat < 128 → c.isAlpha = true → c.toLower.isAlpha = true :=
    fun c ascii => forall_ascii (P := fun c => c.isAlpha = true → c.toLower.isAlpha = true)
      (by decide) ascii
  rcases toLower_cases c with same | ⟨ascii, alpha⟩
  · rcases toLower_cases d with same' | ⟨ascii', alpha'⟩
    · exact .inl (same.symm.trans (h.trans same'))
    · have lower : c = d.toLower := same.symm.trans h
      exact .inr ⟨lower ▸ toLower_lt ascii', lower ▸ kept d ascii' alpha', ascii', alpha'⟩
  · rcases toLower_cases d with same' | ⟨ascii', alpha'⟩
    · have lower : d = c.toLower := same'.symm.trans h.symm
      exact .inr ⟨ascii, alpha, lower ▸ toLower_lt ascii, lower ▸ kept c ascii alpha⟩
    · exact .inr ⟨ascii, alpha, ascii', alpha'⟩

/-- A test that no letter passes, or every one. -/
theorem congr_of_toLower {p : Char → Bool} {b : Bool} (letters : ∀ c : Char, c.isAlpha = true →
    p c = b) {c d : Char} (h : c.toLower = d.toLower) : p c = p d := by
  rcases letters_of_toLower h with rfl | ⟨-, alpha, -, alpha'⟩
  · rfl
  · rw [letters c alpha, letters d alpha']

/-- What is no letter has no other case. -/
theorem eq_iff_of_toLower {c d x : Char} (other : x.isAlpha = false) (h : c.toLower = d.toLower) :
    c = x ↔ d = x := by
  rcases letters_of_toLower h with rfl | ⟨-, alpha, -, alpha'⟩
  · rfl
  · constructor
    · rintro rfl
      rw [other] at alpha
      cases alpha
    · rintro rfl
      rw [other] at alpha'
      cases alpha'

/-- A lower-case letter that no character outside of ASCII has for its lower case. -/
def isPlain (c : Char) : Bool := 97 ≤ c.toNat && c.toNat ≤ 122 && c ≠ 'k'

theorem toNat_lt_of_isPlain {c : Char} (h : isPlain c = true) : c.toNat < 128 := by
  simp only [isPlain, Bool.and_eq_true, decide_eq_true_eq] at h
  omega

theorem toLower_of_isPlain {c : Char} (h : isPlain c = true) : c.toLower = c :=
  forall_ascii (P := fun c => isPlain c = true → c.toLower = c) (by decide)
    (toNat_lt_of_isPlain h) h

theorem isAlpha_of_toLower {c : Char} (hc : c.toNat < 128) (h : isPlain c.toLower = true) :
    c.isAlpha = true :=
  forall_ascii (P := fun c => isPlain c.toLower = true → c.isAlpha = true) (by decide) hc h

namespace Case

theorem lowerChar_ascii {c : Char} (h : c.toNat < 128) : lowerChar c = [c.toLower] := if_pos h

theorem lowerAfter_ascii {cs : List Char} (h : Ascii cs) (before : List Char) :
    lowerAfter before cs = cs.map Char.toLower := by
  induction cs generalizing before with
  | nil => rfl
  | cons c cs ih =>
    obtain ⟨hc, hcs⟩ := h.of_cons
    have noSigma : c ≠ 'Σ' := by
      rintro rfl
      exact absurd hc (by decide)
    rw [lowerAfter, if_neg noSigma, lowerChar_ascii hc, ih hcs, List.map_cons]
    rfl

/-- Where a run takes a character that is not ASCII: out of ASCII again, or from the sign for kelvin
to `k`. -/
theorem lowerRuns_kelvin : ∀ r ∈ lowerRuns, r.first < 128 ∨ 128 ≤ r.first + r.shift
    ∨ (r.first = 0x212A ∧ r.last = 0x212A ∧ r.first + r.shift = 107) := by
  decide +kernel

theorem lowerRuns_ascii : ∀ r ∈ lowerRuns, r.first < 128 → r.last < 128 := by
  decide +kernel

/-- A character beyond ASCII does not move into ASCII, but for the sign for kelvin. -/
theorem shift_lowerRuns {n : Nat} (h : 128 ≤ n) :
    128 ≤ shift lowerRuns n ∨ (n = 0x212A ∧ shift lowerRuns n = 107) := by
  rw [shift]
  split
  · rename_i r found
    have mem := List.mem_of_find?_eq_some found
    have fits := List.find?_some found
    simp only [Bool.and_eq_true, decide_eq_true_eq] at fits
    obtain ⟨⟨first, last⟩, -⟩ := fits
    rcases lowerRuns_kelvin r mem with ascii | far | ⟨single, single', kelvin⟩
    · have := lowerRuns_ascii r mem ascii
      omega
    · left
      omega
    · right
      omega
  · exact .inl h

/-- Runs end below the surrogates or begin after them. -/
theorem lowerRuns_valid : ∀ r ∈ lowerRuns, r.last + r.shift < 0xD800
    ∨ 0xE000 ≤ r.first + r.shift ∧ r.last + r.shift < 0x110000 := by
  decide +kernel

theorem isValidChar_shift {n : Nat} (h : n.isValidChar) : (shift lowerRuns n).isValidChar := by
  rw [shift]
  split
  · rename_i r found
    have mem := List.mem_of_find?_eq_some found
    have fits := List.find?_some found
    simp only [Bool.and_eq_true, decide_eq_true_eq] at fits
    obtain ⟨⟨first, last⟩, -⟩ := fits
    rw [Nat.isValidChar]
    have := lowerRuns_valid r mem
    omega
  · exact h

/-- Where a character beyond ASCII moves to an ASCII character, it is the sign for kelvin. -/
theorem kelvin_of_shift {a b : Char} (h : 128 ≤ a.toNat) (hb : b.toNat < 128)
    (moved : Char.ofNat (shift lowerRuns a.toNat) = b) : a.toNat = 0x212A ∧ b = 'k' := by
  subst moved
  rcases shift_lowerRuns h with far | ⟨kelvin, k⟩
  · have valid : (shift lowerRuns a.toNat).isValidChar := isValidChar_shift a.valid
    rw [Char.ofNat, dif_pos valid] at hb
    exact absurd hb (Nat.not_lt.2 far)
  · rw [k]
    exact ⟨kelvin, rfl⟩

theorem expansion_of_lookup {n : Nat} {ns : List Nat} (h : lowerExpansions.lookup n = some ns) :
    ns = [0x69, 0x307] := by
  simp only [lowerExpansions, List.lookup_cons, List.lookup_nil] at h
  split at h
  · exact (Option.some.inj h).symm
  · cases h

/-- Only ASCII characters have one for their lower case, and the sign for kelvin. -/
theorem ascii_of_lowerChar {a b : Char} (h : lowerChar a = [b]) (hb : b.toNat < 128) :
    a.toNat < 128 ∨ (a.toNat = 0x212A ∧ b = 'k') := by
  by_cases ascii : a.toNat < 128
  · exact .inl ascii
  · rw [lowerChar, if_neg ascii, map] at h
    split at h
    · rename_i ns expanded
      rw [expansion_of_lookup expanded] at h
      cases h
    · exact .inr (kelvin_of_shift (Nat.le_of_not_lt ascii) hb (List.singleton_inj.1 h))

/-- Only ASCII characters have a plain letter for their lower case. -/
theorem ascii_of_sameLower {a b : Char} (h : sameLower a b = true) (plain : isPlain b = true) :
    a.toNat < 128 ∧ a.toLower = b := by
  have lower : lowerChar a = [b] := by
    simp only [sameLower, decide_eq_true_eq] at h
    rw [h, lowerChar_ascii (toNat_lt_of_isPlain plain), toLower_of_isPlain plain]
  have letter : b ≠ 'k' :=
    forall_ascii (P := fun b => isPlain b = true → b ≠ 'k') (by decide)
      (toNat_lt_of_isPlain plain) plain
  rcases ascii_of_lowerChar lower (toNat_lt_of_isPlain plain) with ascii | ⟨-, k⟩
  · rw [lowerChar_ascii ascii] at lower
    exact ⟨ascii, List.singleton_inj.1 lower⟩
  · exact absurd k letter

/-- A character that has the lower case of an ASCII character is one, unless it is the sign for
kelvin. -/
theorem toLower_of_sameLower {a b : Char} (h : sameLower a b = true) (ha : a.toNat < 128)
    (kelvin : b.toNat ≠ 0x212A) : b.toNat < 128 ∧ a.toLower = b.toLower := by
  have lower : lowerChar b = [a.toLower] := by
    simp only [sameLower, decide_eq_true_eq] at h
    rw [← h, lowerChar_ascii ha]
  have ascii : b.toNat < 128 :=
    (ascii_of_lowerChar lower (toLower_lt ha)).resolve_right fun both => kelvin both.1
  rw [lowerChar_ascii ascii] at lower
  exact ⟨ascii, (List.singleton_inj.1 lower).symm⟩

end Case

theorem lowerText_ascii {s : String} (h : Ascii s.toList) :
    (lowerText s).toList = s.toList.map Char.toLower := by
  rw [lowerText, String.toList_ofList, Case.lowerAfter_ascii h]

theorem namesEqual_iff {ignoreCase : Bool} {a b : String} : namesEqual ignoreCase a b = true ↔
    a = b ∨ (ignoreCase = true ∧ lowerText a = lowerText b) := by
  simp [namesEqual]

theorem namesEqual_true_iff {a b : String} : namesEqual true a b = true
    ↔ lowerText a = lowerText b := by
  rw [namesEqual_iff]
  constructor
  · rintro (rfl | ⟨-, lower⟩)
    · rfl
    · exact lower
  · exact fun lower => .inr ⟨rfl, lower⟩

/-- Where letter case has no meaning, names with the same lower case are the same names. -/
theorem namesEqual_congr {a a' b b' : String} (left : lowerText a = lowerText a')
    (right : lowerText b = lowerText b') : namesEqual true a b = namesEqual true a' b' := by
  rw [Bool.eq_iff_iff, namesEqual_true_iff, namesEqual_true_iff, left, right]

theorem lowerText_eq_of_namesEqual {ignoreCase : Bool} {a b : String}
    (h : namesEqual ignoreCase a b = true) : lowerText a = lowerText b := by
  rcases namesEqual_iff.1 h with rfl | ⟨-, lower⟩
  · rfl
  · exact lower

theorem lowerText_lowerText {s : String} (h : Ascii s.toList) :
    lowerText (lowerText s) = lowerText s := by
  have lower : Ascii (lowerText s).toList := by
    rw [lowerText_ascii h]
    intro c mem
    obtain ⟨d, letter, rfl⟩ := List.mem_map.1 mem
    exact toLower_lt (h d letter)
  rw [← String.toList_inj, lowerText_ascii lower, lowerText_ascii h, List.map_map]
  exact List.map_congr_left fun c mem => toLower_toLower (h c mem)

/-- Where letter case has no meaning the lower case of a name is the same name. -/
theorem namesEqual_lowerText {a b : String} (h : Ascii a.toList) :
    namesEqual true (lowerText a) b = namesEqual true a b :=
  namesEqual_congr (lowerText_lowerText h) rfl

theorem namesEqual_eq_false {ignoreCase : Bool} {a b : String} (h : lowerText a ≠ lowerText b) :
    namesEqual ignoreCase a b = false :=
  Bool.eq_false_iff.2 fun same => h (lowerText_eq_of_namesEqual same)

/-- A name that is one word is not another one. -/
theorem namesEqual_eq_false_of_same {ignoreCase ignoreCase' : Bool} {a b b' : String}
    (h : namesEqual ignoreCase a b = true) (other : lowerText b ≠ lowerText b') :
    namesEqual ignoreCase' a b' = false := by
  refine namesEqual_eq_false ?_
  rwa [lowerText_eq_of_namesEqual h]

end ExprLang
