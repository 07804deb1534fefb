import ExprLang.Proofs.Grammar.Recasing

set_option autoImplicit false

/-!
Literals in texts that differ in letter case only. The letter of a numeral tells its kind in either
case, and the characters of a string literal are the same.
-/

namespace ExprLang.Grammar

variable {o : Options} {s t : List Char}

/-! Numerals -/

theorem toLower_of_isDigit {c : Char} (h : c.isDigit = true) : c.toLower = c := by
  refine (toLower_cases c).resolve_right fun both => ?_
  rw [isDigit_of_isAlpha both.2] at h
  cases h

theorem map_toLower_digits (s : List Char) :
    (s.takeWhile Char.isDigit).map Char.toLower = s.takeWhile Char.isDigit := by
  refine (List.map_congr_left fun c mem => ?_).trans (List.map_id _)
  exact toLower_of_isDigit (List.all_eq_true.1 List.all_takeWhile c mem)

theorem digits?_recased (h : Recased o .plain s t) :
    Option.Rel (Agree o Eq) (digits? s) (digits? t) := by
  have stays : ∀ c, Char.isDigit c = true → Zone.next o .plain c = .plain :=
    fun _ digit => start_of_isNameChar (isNameChar_of_isDigit digit)
  obtain ⟨taken, left⟩ := h.span (fun _ _ => isDigit_congr) stays
  rw [map_toLower_digits, map_toLower_digits] at taken
  rw [digits?, digits?, taken]
  by_cases none : t.takeWhile Char.isDigit = []
  · rw [if_pos none, if_pos none]
    exact .none
  · rw [if_neg none, if_neg none]
    exact .some ⟨rfl, left⟩

theorem digits?_recased_point (h : Recased o .point s t) :
    Option.Rel (Agree o Eq) (digits? s) (digits? t) := by
  cases h with
  | nil z => exact .none
  | @cons _ c d s t letter exact rest =>
    by_cases digit : c.isDigit = true
    · have blank : ¬ isBlank c = true := by
        rw [isBlank_of_isDigit digit]
        exact Bool.false_ne_true
      have name : ¬ isNameStart c = true := fun start => by
        rw [(not_numeral_of_isNameStart start).2.2] at digit
        cases digit
      have next : Zone.next o .point c = Zone.next o .plain c :=
        (if_neg blank).trans (if_neg name)
      rw [next] at exact rest
      exact digits?_recased (.cons letter exact rest)
    · have digit := Bool.eq_false_iff.2 digit
      have digit' : d.isDigit = false := by rw [← isDigit_congr letter, digit]
      rw [digits?_eq_none (by rintro _ ⟨⟩; exact digit),
        digits?_eq_none (by rintro _ ⟨⟩; exact digit')]
      exact .none

theorem fraction?_recased (h : Recased o .plain s t) :
    Option.Rel (Agree o Eq) (fraction? s) (fraction? t) := by
  refine rel_bind (past?_recased rfl h) fun p q rests => ?_
  have digits : Option.Rel (Agree o Eq) (digits? p.rest) (digits? q.rest) := by
    rw [Zone.next, Zone.start, if_neg (point_ne_quote o.quote)] at rests
    split at rests
    · exact digits?_recased_point rests
    · exact digits?_recased rests
  exact rel_map digits fun x y both => both.within p.suffix q.suffix

theorem sign_recased (h : Recased o .plain s t) : Agree o Eq (sign s) (sign t) := by
  obtain ⟨-, minusStays⟩ := separator_char (c := '-') (by decide)
  obtain ⟨-, plusStays⟩ := separator_char (c := '+') (by decide)
  have minus := past?_recased (c := '-') rfl h
  have plus := past?_recased (c := '+') rfl h
  rw [Zone.next, minusStays] at minus
  rw [Zone.next, plusStays] at plus
  unfold sign
  generalize past? '-' s = a at minus ⊢
  generalize past? '-' t = a' at minus ⊢
  generalize past? '+' s = b at plus ⊢
  generalize past? '+' t = b' at plus ⊢
  cases minus with
  | some rests => exact ⟨rfl, rests.skipBlanks_plain⟩
  | none =>
    cases plus with
    | some rests => exact ⟨rfl, rests.skipBlanks_plain⟩
    | none => exact ⟨rfl, h⟩

theorem integerDigits?_recased (h : Recased o .plain s t) :
    Option.Rel (Agree o Eq) (integerDigits? s) (integerDigits? t) := by
  have signs := sign_recased h
  refine rel_map (digits?_recased signs.rest) fun x y both => ?_
  exact ⟨by rw [signs.value, both.value], both.rest⟩

theorem numeralDigits?_recased (h : Recased o .plain s t) :
    Option.Rel (Agree o Eq) (numeralDigits? s) (numeralDigits? t) := by
  refine rel_map (integerDigits?_recased h) fun x y both => ?_
  have places := fraction?_recased both.rest
  generalize fraction? x.rest = a at places ⊢
  generalize fraction? y.rest = a' at places ⊢
  cases places with
  | some digits =>
    refine ⟨?_, digits.rest⟩
    simp only [both.value, digits.value]
  | none => exact both

/-- A letter has the same meaning for a numeral in either case. -/
theorem literal_congr (n : Numeral) {c d : Char} (h : c.toLower = d.toLower) :
    n.literal (some c) = n.literal (some d) := by
  have lower : ∀ {x X : Char}, (∀ c : Char, c.toNat < 128 →
      [x, X].contains c = [x, X].contains c.toLower) → [x, X].contains c = [x, X].contains d := by
    intro x X ascii
    rcases letters_of_toLower h with rfl | ⟨left, -, right, -⟩
    · rfl
    · rw [ascii c left, ascii d right, h]
  have m := lower fun _ => forall_ascii (P := fun c => ['m', 'M'].contains c
    = ['m', 'M'].contains c.toLower) (by decide)
  have f := lower fun _ => forall_ascii (P := fun c => ['f', 'F'].contains c
    = ['f', 'F'].contains c.toLower) (by decide)
  have d := lower fun _ => forall_ascii (P := fun c => ['d', 'D'].contains c
    = ['d', 'D'].contains c.toLower) (by decide)
  have i := lower fun _ => forall_ascii (P := fun c => ['i', 'I'].contains c
    = ['i', 'I'].contains c.toLower) (by decide)
  have l := lower fun _ => forall_ascii (P := fun c => ['l', 'L'].contains c
    = ['l', 'L'].contains c.toLower) (by decide)
  simp only [Numeral.literal, Option.any_some, m, f, d, i, l]

theorem numeral?_recased (h : Recased o .plain s t) :
    Option.Rel (Agree o Expr.Recased) (numeral? s) (numeral? t) := by
  rw [numeral?_eq, numeral?_eq]
  refine rel_map (numeralDigits?_recased h) fun x y both => ?_
  obtain ⟨n, r, suffix⟩ := x
  obtain ⟨n', r', suffix'⟩ := y
  obtain ⟨value, rest⟩ := both
  dsimp only at value rest ⊢
  subst value
  have letters : n.literal r.head? = n.literal r'.head? := by
    cases rest with
    | nil z => rfl
    | cons letter _ _ => exact literal_congr n letter
  simp only [Taken.numeral, ← letters]
  refine ⟨.literal (n.literal r.head?).1 _ _, ?_⟩
  dsimp only
  cases own : (n.literal r.head?).2 with
  | false =>
    simp only [Bool.false_eq_true, if_false]
    exact rest
  | true =>
    obtain ⟨c, here, kind⟩ := mem_kindLetters own
    simp only [if_true]
    cases rest with
    | nil z => exact .nil _
    | cons letter exact rest =>
      cases here
      rwa [Zone.next, start_of_isNameChar (isNameChar_of_mem_kindLetters kind).1] at rest

/-! Literals -/

theorem quote_isAlpha (q : Quote) : q.char.isAlpha = false := by
  cases q <;> decide

/-- In a string literal both texts have the same characters. -/
theorem Recased.quoted_cons {c : Char} (other : c ≠ o.quote.char)
    (h : Recased o .quoted (c :: s) t) :
    ∃ t', t = c :: t' ∧ Recased o (if c = '\\' then .escaped else .quoted) s t' := by
  have next : Zone.next o .quoted c = if c = '\\' then .escaped else .quoted := if_neg other
  cases h with
  | @cons _ _ d _ t letter exact rest =>
    rw [next] at exact rest
    have counts : (if c = '\\' then Zone.escaped else .quoted).counts = true := by split <;> rfl
    obtain rfl := exact counts
    exact ⟨t, rfl, rest⟩

theorem Recased.escaped_cons {c : Char} (h : Recased o .escaped (c :: s) t) :
    ∃ t', t = c :: t' ∧ Recased o .quoted s t' := by
  cases h with
  | @cons _ _ d _ t letter exact rest =>
    obtain rfl := exact rfl
    exact ⟨t, rfl, rest⟩

theorem body_recased (h : Recased o .quoted s t) :
    Similar o Eq (StringLiteral.body o.quote.char s) (StringLiteral.body o.quote.char t) := by
  induction s using StringLiteral.body.induct o.quote.char generalizing t with
  | case1 =>
    cases h
    exact .hard _ _
  | case2 s =>
    cases h with
    | @cons _ _ d _ t letter exact rest =>
      obtain rfl : d = o.quote.char := (eq_iff_of_toLower (quote_isAlpha _) letter).1 rfl
      rw [Zone.next, if_pos rfl] at rest
      rw [StringLiteral.body.eq_def, StringLiteral.body.eq_def]
      dsimp only
      rw [if_pos rfl, if_pos rfl]
      exact .ok ⟨rfl, rest⟩
  | case3 other =>
    obtain ⟨t, rfl, rest⟩ := h.quoted_cons other
    cases rest
    rw [StringLiteral.body, if_neg other, if_pos rfl]
    exact .hard _ _
  | case4 e s none other =>
    obtain ⟨t, rfl, rest⟩ := h.quoted_cons other
    obtain ⟨t, rfl, -⟩ := rest.escaped_cons
    rw [StringLiteral.body, StringLiteral.body, if_neg other, if_pos rfl, if_neg other, if_pos rfl]
    simp only [none]
    exact .hard _ _
  | case5 e s d escape other ih =>
    obtain ⟨t, rfl, rest⟩ := h.quoted_cons other
    obtain ⟨t, rfl, more⟩ := rest.escaped_cons
    rw [StringLiteral.body, StringLiteral.body, if_neg other, if_pos rfl, if_neg other, if_pos rfl]
    simp only [escape]
    exact ((ih more).map fun _ _ same => congrArg (d :: ·) same).within _ _
  | case6 e s other plain ih =>
    obtain ⟨t, rfl, rest⟩ := h.quoted_cons other
    rw [if_neg plain] at rest
    rw [StringLiteral.body.eq_def, StringLiteral.body.eq_def]
    dsimp only
    rw [if_neg other, if_neg plain, if_neg other, if_neg plain]
    exact ((ih rest).map fun _ _ same => congrArg (e :: ·) same).within _ _

theorem stringLiteral_recased (h : Recased o .plain s t) :
    Similar o Eq (stringLiteral o.quote.char s) (stringLiteral o.quote.char t) := by
  have opening := past?_recased (quote_isAlpha o.quote) h
  unfold stringLiteral
  generalize past? o.quote.char s = a at opening ⊢
  generalize past? o.quote.char t = b at opening ⊢
  cases opening with
  | none => exact .fault _ _
  | @some p q rests =>
    rw [Zone.next, Zone.start, if_pos rfl] at rests
    exact ((body_recased rests).map fun _ _ same => by rw [same]).within _ _

theorem wordLiteral_recased {word : String} (v : Literal) (plain : PlainWord word.toList)
    (h : Recased o .plain s t) :
    Similar o Expr.Recased (wordLiteral v word true s) (wordLiteral v word true t) :=
  (keyword_recased plain h).map fun _ _ _ => .literal v _ _

theorem quotedLiteral_recased (h : Recased o .plain s t) :
    Similar o Expr.Recased (quotedLiteral o s) (quotedLiteral o t) := by
  have string := stringLiteral_recased h
  unfold quotedLiteral
  generalize stringLiteral o.quote.char s = x at string ⊢
  generalize stringLiteral o.quote.char t = y at string ⊢
  cases string with
  | @ok x y both =>
    have same : Expr.Recased (.literal x.value (consumed s x.rest))
        (.literal y.value (consumed t y.rest)) := by
      rw [both.value]
      exact .literal y.value _ _
    exact .ok ⟨same, both.rest⟩
  | fault f g => exact .fault f g
  | hard f g => exact .hard f g

theorem literal_recased (blind : o.IgnoresCase) (h : Recased o .plain s t) :
    Similar o Expr.Recased (literal o s) (literal o t) := by
  have ignoreNull := blind.everywhere (·.ignoreNullCase) rfl
  have ignoreBoolean := blind.everywhere (·.ignoreBooleanCase) rfl
  unfold literal
  rw [ignoreNull, ignoreBoolean]
  apply (wordLiteral_recased .null (plain_null blind.words.usual) h).orElse
  apply (Similar.ofOption (numeral?_recased h)).orElse
  apply (wordLiteral_recased (.boolean true) (plain_true blind.words.usual) h).orElse
  apply (wordLiteral_recased (.boolean false) (plain_false blind.words.usual) h).orElse
  exact quotedLiteral_recased h

end ExprLang.Grammar
