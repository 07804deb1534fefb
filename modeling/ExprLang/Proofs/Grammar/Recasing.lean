import ExprLang.Proofs.Grammar.Literals
import ExprLang.Proofs.Recasing

set_option autoImplicit false

/-!
Texts that differ in the case of letters only, and not in string literals and the names of members.
The readers of blanks, names, words and operators read the same from both.
-/

namespace ExprLang.Grammar

/-! Where letter case counts -/

/-- What a character belongs to: to a string literal or after a backslash in one, to the name of a
member or to the point and blanks before it, or to anything else. -/
inductive Zone
  | plain
  | point
  | member
  | quoted
  | escaped
deriving DecidableEq

namespace Zone

/-- The zone of a character that goes on with nothing: a quote begins a string literal, and a point
a member where the language has them. -/
def start (o : Options) (c : Char) : Zone :=
  if c = o.quote.char then quoted else if c = '.' ∧ o.memberRead then point else plain

/-- The zone of a character after another zone. -/
def next (o : Options) : Zone → Char → Zone
  | plain, c => start o c
  | point, c => if isBlank c then point else if isNameStart c then member else start o c
  | member, c => if isNameChar c then member else start o c
  | quoted, c => if c = o.quote.char then plain else if c = '\\' then escaped else quoted
  | escaped, _ => quoted

/-- Whether letter case counts in a zone. -/
def counts : Zone → Bool
  | plain | point => false
  | member | quoted | escaped => true

end Zone

/-- Two texts, from a zone on, that are the same up to the case of ASCII letters outside of string
literals and names of members. -/
inductive Recased (o : Options) : Zone → List Char → List Char → Prop
  | nil (z : Zone) : Recased o z [] []
  | cons {z : Zone} {c d : Char} {s t : List Char} (letter : c.toLower = d.toLower)
      (exact : (z.next o c).counts = true → c = d) (rest : Recased o (z.next o c) s t) :
      Recased o z (c :: s) (d :: t)

variable {o : Options} {s t : List Char} {z : Zone}

theorem Recased.length_eq (h : Recased o z s t) : s.length = t.length := by
  induction h with
  | nil z => rfl
  | cons _ _ _ ih => rw [List.length_cons, List.length_cons, ih]

instance : (z : Zone) → (s t : List Char) → Decidable (Recased o z s t)
  | z, [], [] => isTrue (.nil z)
  | _, [], _ :: _ => isFalse nofun
  | _, _ :: _, [] => isFalse nofun
  | z, c :: s, d :: t =>
    have := instDecidableRecased (z.next o c) s t
    decidable_of_iff (c.toLower = d.toLower ∧ ((z.next o c).counts = true → c = d)
        ∧ Recased o (z.next o c) s t)
      ⟨fun ⟨letter, exact, rest⟩ => .cons letter exact rest,
        fun | .cons letter exact rest => ⟨letter, exact, rest⟩⟩

/-! Characters of either text -/

theorem isNameStart_congr {c d : Char} (h : c.toLower = d.toLower) :
    isNameStart c = isNameStart d :=
  congr_of_toLower (fun _ => isNameStart_of_isAlpha) h

theorem isNameChar_congr {c d : Char} (h : c.toLower = d.toLower) : isNameChar c = isNameChar d :=
  congr_of_toLower (fun _ alpha => isNameChar_of_isNameStart (isNameStart_of_isAlpha alpha)) h

theorem isBlank_of_isAlpha {c : Char} (h : c.isAlpha = true) : isBlank c = false :=
  isBlank_of_isNameChar (isNameChar_of_isNameStart (isNameStart_of_isAlpha h))

theorem isDigit_of_isAlpha {c : Char} (h : c.isAlpha = true) : c.isDigit = false :=
  (not_numeral_of_isNameStart (isNameStart_of_isAlpha h)).2.2

theorem isBlank_congr {c d : Char} (h : c.toLower = d.toLower) : isBlank c = isBlank d :=
  congr_of_toLower (fun _ => isBlank_of_isAlpha) h

theorem isDigit_congr {c d : Char} (h : c.toLower = d.toLower) : c.isDigit = d.isDigit :=
  congr_of_toLower (fun _ => isDigit_of_isAlpha) h

/-! Zones that go on -/

theorem point_ne_quote (q : Quote) : '.' ≠ q.char := by
  cases q <;> decide

theorem start_eq_plain {c : Char} (quote : c ≠ o.quote.char) (point : c ≠ '.') :
    Zone.start o c = .plain := by
  rw [Zone.start, if_neg quote, if_neg fun both => point both.1]

theorem start_of_isNameChar {c : Char} (h : isNameChar c = true) : Zone.start o c = .plain := by
  apply start_eq_plain
  · rintro rfl
    rw [(quote_char o.quote).2.1] at h
    cases h
  · rintro rfl
    cases h

theorem start_of_isBlank {c : Char} (h : isBlank c = true) : Zone.start o c = .plain := by
  apply start_eq_plain
  · rintro rfl
    rw [(quote_char o.quote).1] at h
    cases h
  · rintro rfl
    cases h

/-- A run of characters that leave the zone as it is stands in both texts. -/
theorem Recased.span {p : Char → Bool} (same : ∀ c d : Char, c.toLower = d.toLower → p c = p d)
    (stays : ∀ c, p c = true → z.next o c = z) (h : Recased o z s t) :
    (s.takeWhile p).map Char.toLower = (t.takeWhile p).map Char.toLower
      ∧ Recased o z (s.dropWhile p) (t.dropWhile p) := by
  induction h with
  | nil z => exact ⟨rfl, .nil z⟩
  | @cons z c d s t letter exact rest ih =>
    by_cases more : p c = true
    · have more' : p d = true := by rw [← same c d letter, more]
      have stay := stays c more
      rw [stay] at ih
      obtain ⟨taken, left⟩ := ih stays
      rw [List.takeWhile_cons_of_pos more, List.takeWhile_cons_of_pos more',
        List.dropWhile_cons_of_pos more, List.dropWhile_cons_of_pos more', List.map_cons,
        List.map_cons, letter, taken]
      exact ⟨rfl, left⟩
    · have more' : ¬ p d = true := by rwa [← same c d letter]
      rw [List.takeWhile_cons_of_neg more, List.takeWhile_cons_of_neg more',
        List.dropWhile_cons_of_neg more, List.dropWhile_cons_of_neg more']
      exact ⟨rfl, .cons letter exact rest⟩

/-- Where letter case counts the runs are the same. -/
theorem Recased.takeWhile_eq {p : Char → Bool} (counts : z.counts = true)
    (same : ∀ c d : Char, c.toLower = d.toLower → p c = p d)
    (stays : ∀ c, p c = true → z.next o c = z) (h : Recased o z s t) :
    s.takeWhile p = t.takeWhile p := by
  induction h with
  | nil z => rfl
  | @cons z c d s t letter exact rest ih =>
    by_cases more : p c = true
    · have stay := stays c more
      rw [stay] at ih exact
      obtain rfl := exact counts
      rw [List.takeWhile_cons_of_pos more, List.takeWhile_cons_of_pos more, ih counts stays]
    · have more' : ¬ p d = true := by rwa [← same c d letter]
      rw [List.takeWhile_cons_of_neg more, List.takeWhile_cons_of_neg more']

theorem Recased.skipBlanks (stays : ∀ c, isBlank c = true → z.next o c = z)
    (h : Recased o z s t) : Recased o z (skipBlanks s) (skipBlanks t) :=
  (h.span (fun _ _ => isBlank_congr) stays).2

theorem Recased.skipBlanks_plain (h : Recased o .plain s t) :
    Recased o .plain (Grammar.skipBlanks s) (Grammar.skipBlanks t) :=
  h.skipBlanks fun _ => start_of_isBlank

theorem Recased.skipBlanks_point (h : Recased o .point s t) :
    Recased o .point (Grammar.skipBlanks s) (Grammar.skipBlanks t) :=
  h.skipBlanks fun _ blank => if_pos blank

/-- After the name of a member the text goes on as anywhere. -/
theorem Recased.plain_of_nameEnds (h : Recased o .member s t) (ends : NameEnds s) :
    Recased o .plain s t := by
  cases h with
  | nil z => exact .nil _
  | @cons _ c d s t letter exact rest =>
    have next : Zone.next o .member c = Zone.next o .plain c := if_neg (by simp [ends c rfl])
    rw [next] at exact rest
    exact .cons letter exact rest

/-! What is read from both texts -/

/-- Parts that are related, with rests that differ in letter case only. -/
structure Agree (o : Options) {α β : Type} (r : α → β → Prop) {s t : List Char} (x : Taken s α)
    (y : Taken t β) : Prop where
  value : r x.value y.value
  rest : Recased o .plain x.rest y.rest

theorem Agree.map {α β γ δ : Type} {r : α → β → Prop} {r' : γ → δ → Prop} {f : α → γ} {g : β → δ}
    {x : Taken s α} {y : Taken t β} (h : Agree o r x y) (hf : ∀ a b, r a b → r' (f a) (g b)) :
    Agree o r' (x.map f) (y.map g) :=
  ⟨hf _ _ h.value, h.rest⟩

theorem Agree.within {α β : Type} {r : α → β → Prop} {s' t' : List Char} {x : Taken s α}
    {y : Taken t β} (h : Agree o r x y) (hs : s <:+ s') (ht : t <:+ t') :
    Agree o r (x.within hs) (y.within ht) :=
  ⟨h.value, h.rest⟩

/-- Both texts are read, with related results, or neither is, and for both another alternative may
be tried or for neither. -/
inductive Similar (o : Options) {α β : Type} (r : α → β → Prop) {s t : List Char} :
    Reading s α → Reading t β → Prop
  | ok {x : Taken s α} {y : Taken t β} (both : Agree o r x y) : Similar o r (.ok x) (.ok y)
  | fault (f g : Fault) : Similar o r (.fault f) (.fault g)
  | hard (f g : Fault) : Similar o r (.hard f) (.hard g)

section Similar

variable {α β γ δ : Type} {r : α → β → Prop} {r' : γ → δ → Prop} {x : Reading s α}
  {y : Reading t β}

theorem Similar.map {f : α → γ} {g : β → δ} (h : Similar o r x y)
    (hf : ∀ a b, r a b → r' (f a) (g b)) : Similar o r' (x.map f) (y.map g) := by
  cases h with
  | ok both => exact .ok (both.map hf)
  | fault f g => exact .fault f g
  | hard f g => exact .hard f g

theorem Similar.within {s' t' : List Char} (h : Similar o r x y) (hs : s <:+ s') (ht : t <:+ t') :
    Similar o r (x.within hs) (y.within ht) := by
  cases h with
  | ok both => exact .ok (both.within hs ht)
  | fault f g => exact .fault f g
  | hard f g => exact .hard f g

theorem Similar.orElse {x' : Unit → Reading s α} {y' : Unit → Reading t β} (h : Similar o r x y)
    (h' : Similar o r (x' ()) (y' ())) : Similar o r (x.orElse x') (y.orElse y') := by
  cases h with
  | ok both => exact .ok both
  | fault f g => exact h'
  | hard f g => exact .hard f g

theorem Similar.ofOption {x : Option (Taken s α)} {y : Option (Taken t β)}
    (h : Option.Rel (Agree o r) x y) :
    Similar o r (Reading.ofOption x) (Reading.ofOption y) := by
  cases h with
  | some both => exact .ok both
  | none => exact .fault _ _

theorem Similar.firstOf {ι : Type} {entries : List ι} {f : ι → Reading s α} {g : ι → Reading t β}
    (h : ∀ i ∈ entries, Similar o r (f i) (g i)) :
    Similar o r (Reading.firstOf f entries) (Reading.firstOf g entries) := by
  induction entries with
  | nil => exact .fault _ _
  | cons i is ih =>
    obtain ⟨first, rest⟩ := List.forall_mem_cons.1 h
    exact first.orElse (ih rest)

end Similar

theorem past?_recased {c : Char} (other : c.isAlpha = false) (h : Recased o z s t) :
    Option.Rel (fun p q => Recased o (z.next o c) p.rest q.rest) (past? c s) (past? c t) := by
  cases h with
  | nil z => exact .none
  | @cons _ d e s t letter exact rest =>
    by_cases here : d = c
    · have here' : e = c := (eq_iff_of_toLower other letter).1 here
      subst here here'
      rw [past?_cons, past?_cons]
      exact .some rest
    · have here' : ¬ e = c := fun same => here ((eq_iff_of_toLower other letter).2 same)
      rw [past?, past?, if_neg here, if_neg here']
      exact .none

/-- The characters that stand between the parts of an expression. -/
def separators : List Char := ['(', ')', ',', '-', '+', '<', '>', '=', '^', '*', '/', '&']

theorem separator_char {c : Char} (mem : c ∈ separators) :
    c.isAlpha = false ∧ Zone.start o c = .plain := by
  have apart : (separators.all fun c => c.isAlpha = false ∧ c ≠ '.'
      ∧ c ≠ Quote.double.char ∧ c ≠ Quote.single.char ∧ c ≠ Quote.backtick.char) = true := by decide
  obtain ⟨other, point, double, single, backtick⟩ :=
    of_decide_eq_true (List.all_eq_true.1 apart c mem)
  refine ⟨other, start_eq_plain ?_ point⟩
  cases o.quote with
  | double => exact double
  | single => exact single
  | backtick => exact backtick

theorem pastSpaced?_recased {c : Char} (mem : c ∈ separators) (h : Recased o .plain s t) :
    Option.Rel (fun p q => Recased o .plain p.rest q.rest) (pastSpaced? c s) (pastSpaced? c t) := by
  obtain ⟨other, stays⟩ := separator_char mem
  refine rel_map (past?_recased other h.skipBlanks_plain) fun p q rests => ?_
  rw [Zone.next, stays] at rests
  exact rests.skipBlanks_plain

/-! Names -/

/-- Names that are the same where letter case has no meaning. -/
def SameName (a b : String) : Prop := lowerText a = lowerText b

theorem name?_recased (h : Recased o .plain s t) :
    Option.Rel (Agree o SameName) (name? s) (name? t) := by
  have stays : ∀ c, isNameChar c = true → Zone.next o .plain c = .plain :=
    fun _ => start_of_isNameChar
  cases h with
  | nil z => exact .none
  | @cons _ c d s t letter exact rest =>
    by_cases start : isNameStart c = true
    · have start' : isNameStart d = true := by rw [← isNameStart_congr letter, start]
      rw [stays c (isNameChar_of_isNameStart start)] at rest
      obtain ⟨taken, left⟩ := rest.span (fun _ _ => isNameChar_congr) stays
      have ascii : ∀ {c : Char} (s : List Char), isNameStart c = true →
          Ascii (c :: s.takeWhile isNameChar) := by
        intro c s start
        refine ascii_of_isName (isName_iff.2 ⟨c, _, rfl, start, fun d mem => ?_⟩)
        exact List.all_eq_true.1 List.all_takeWhile d mem
      rw [name?, name?, if_pos start, if_pos start']
      refine .some ⟨?_, left⟩
      rw [SameName, ← String.toList_inj, lowerText_ascii, lowerText_ascii, String.toList_ofList,
        String.toList_ofList, List.map_cons, List.map_cons, letter, taken]
      · rw [String.toList_ofList]
        exact ascii t start'
      · rw [String.toList_ofList]
        exact ascii s start
    · have start' : ¬ isNameStart d = true := by rwa [← isNameStart_congr letter]
      rw [name?, name?, if_neg start, if_neg start']
      exact .none

theorem name?_recased_point (h : Recased o .point s t) :
    Option.Rel (Agree o Eq) (name? s) (name? t) := by
  have stays : ∀ c, isNameChar c = true → Zone.next o .member c = .member :=
    fun _ more => if_pos more
  cases h with
  | nil z => exact .none
  | @cons _ c d s t letter exact rest =>
    by_cases start : isNameStart c = true
    · have blank : ¬ isBlank c = true := by
        rw [isBlank_of_isNameChar (isNameChar_of_isNameStart start)]
        exact Bool.false_ne_true
      have next : Zone.next o .point c = .member := by rw [Zone.next, if_neg blank, if_pos start]
      rw [next] at exact rest
      obtain rfl := exact rfl
      have taken := rest.takeWhile_eq rfl (fun _ _ => isNameChar_congr) stays
      have left := (rest.span (fun _ _ => isNameChar_congr) stays).2
      rw [name?, name?, if_pos start, if_pos start]
      exact .some ⟨congrArg (fun r => String.ofList (c :: r)) taken,
        left.plain_of_nameEnds (head?_dropWhile s)⟩
    · have start' : ¬ isNameStart d = true := by rwa [← isNameStart_congr letter]
      rw [name?, name?, if_neg start, if_neg start']
      exact .none

/-! Words -/

/-- A word of plain letters is a name that is the word. -/
theorem keyword_eq_ok_iff {word : String} {ignoreCase : Bool} (plain : PlainWord word.toList)
    {u : Taken s String} : keyword word ignoreCase s = .ok u
      ↔ (name? s).filter (fun u => namesEqual ignoreCase u.value word) = some u := by
  rw [Option.filter_eq_some_iff]
  constructor
  · intro found
    obtain ⟨split, named, ends, same⟩ := keyword_eq_ok plain found
    obtain ⟨suffix, read⟩ := name?_of_eq split named ends
    exact ⟨read, same⟩
  · intro ⟨read, same⟩
    obtain ⟨named, split, ends⟩ := name?_eq_some read
    obtain ⟨suffix, found⟩ := keyword_append plain named ends same
    obtain ⟨v, rest, suffix'⟩ := u
    dsimp only at split found
    subst split
    exact found

theorem keyword_faults_of_filter {word : String} {ignoreCase : Bool} (plain : PlainWord word.toList)
    (h : (name? s).filter (fun u => namesEqual ignoreCase u.value word) = none) :
    (keyword word ignoreCase s).Faults := by
  apply keyword_faults_of_ne_ok (not_torn_of_plain plain)
  intro u found
  rw [keyword_eq_ok_iff plain, h] at found
  cases found

theorem keyword_recased {word : String} (plain : PlainWord word.toList)
    (h : Recased o .plain s t) :
    Similar o SameName (keyword word true s) (keyword word true t) := by
  have names : Option.Rel (Agree o SameName)
      ((name? s).filter fun u => namesEqual true u.value word)
      ((name? t).filter fun u => namesEqual true u.value word) :=
    rel_filter (name?_recased h) fun x y both => namesEqual_congr both.value rfl
  generalize left : (name? s).filter _ = a at names
  generalize right : (name? t).filter _ = b at names
  cases names with
  | none =>
    obtain ⟨f, fault⟩ := keyword_faults_of_filter plain left
    obtain ⟨g, fault'⟩ := keyword_faults_of_filter plain right
    rw [fault, fault']
    exact .fault f g
  | some both =>
    rw [(keyword_eq_ok_iff plain).2 left, (keyword_eq_ok_iff plain).2 right]
    exact .ok both

/-! Operators -/

theorem isPrefixOf_recased {word : List Char} (symbol : ∀ c ∈ word, c ∈ separators)
    (h : Recased o .plain s t) : word.isPrefixOf s = word.isPrefixOf t
      ∧ (word.isPrefixOf s = true →
        Recased o .plain (s.drop word.length) (t.drop word.length)) := by
  induction word generalizing s t with
  | nil => exact ⟨by rw [List.isPrefixOf_nil_left, List.isPrefixOf_nil_left], fun _ => h⟩
  | cons w word ih =>
    obtain ⟨other, stays⟩ := separator_char (symbol w List.mem_cons_self)
    cases h with
    | nil z => exact ⟨rfl, fun found => by cases found⟩
    | @cons _ c d s t letter exact rest =>
      rw [List.isPrefixOf_cons_cons, List.isPrefixOf_cons_cons]
      by_cases here : c = w
      · have here' : d = w := (eq_iff_of_toLower other letter).1 here
        rw [here, Zone.next, stays] at rest
        obtain ⟨prefixes, left⟩ := ih (fun c mem => symbol c (List.mem_cons_of_mem w mem)) rest
        rw [here, here', prefixes, beq_self_eq_true, Bool.true_and]
        exact ⟨rfl, fun found => left (prefixes.trans found)⟩
      · have here' : ¬ d = w := fun same => here ((eq_iff_of_toLower other letter).2 same)
        rw [beq_false_of_ne (Ne.symm here), beq_false_of_ne (Ne.symm here'), Bool.false_and,
          Bool.false_and]
        exact ⟨rfl, fun found => by cases found⟩

theorem spelling_recased {word : List Char} (symbol : ∀ c ∈ word, c ∈ separators)
    (h : Recased o .plain s t) : Similar o Eq (spelling word false s) (spelling word false t) := by
  obtain ⟨prefixes, left⟩ := isPrefixOf_recased symbol h
  rw [spelling, spelling, if_neg Bool.false_ne_true, if_neg Bool.false_ne_true, ← prefixes]
  by_cases found : word.isPrefixOf s = true
  · rw [if_pos found, if_pos found]
    exact .ok ⟨rfl, left found⟩
  · rw [if_neg found, if_neg found]
    exact .fault _ _

theorem separators_of_operatorSymbols {entry : String × Operator} (mem : entry ∈ operatorSymbols) :
    ∀ c ∈ entry.1.toList, c ∈ separators := by
  have all : ∀ entry ∈ operatorSymbols, entry.1.toList.all (separators.contains ·) = true := by
    decide
  intro c inside
  exact List.contains_iff_mem.1 (List.all_eq_true.1 (all entry mem) c inside)

theorem operator_recased (blind : o.IgnoresCase) (h : Recased o .plain s t) :
    Similar o Eq (operator o s) (operator o t) := by
  have ignore := blind.everywhere (·.ignoreOperatorCase) rfl
  apply Similar.orElse
  · apply Similar.firstOf
    intro entry mem
    exact (spelling_recased (separators_of_operatorSymbols mem) h).map fun _ _ _ => rfl
  · apply Similar.firstOf
    intro entry mem
    rw [ignore]
    exact (keyword_recased (plain_operatorWords blind.words entry mem) h).map fun _ _ _ => rfl

theorem operatorSpaced_recased (blind : o.IgnoresCase) (h : Recased o .plain s t) :
    Similar o Eq (operatorSpaced o s) (operatorSpaced o t) := by
  have found := operator_recased blind h.skipBlanks_plain
  unfold operatorSpaced
  generalize operator o (skipBlanks s) = a at found ⊢
  generalize operator o (skipBlanks t) = b at found ⊢
  cases found with
  | ok both => exact .ok ⟨both.value, both.rest.skipBlanks_plain⟩
  | fault f g => exact .fault f g
  | hard f g => exact .hard f g

end ExprLang.Grammar
