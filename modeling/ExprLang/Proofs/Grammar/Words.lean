import ExprLang.Proofs.Grammar.Reading
import ExprLang.Proofs.Text.Lower

set_option autoImplicit false

/-!
Reserved words as they are read. A word of plain letters is found exactly where a name stands that
is the word, up to letter case where that has no meaning.
-/

namespace ExprLang

/-- The words that a language starts with. -/
structure Options.DefaultWords (o : Options) : Prop where
  and : o.andWord = "and"
  or : o.orWord = "or"
  xor : o.xorWord = "xor"
  true : o.trueWord = "true"
  false : o.falseWord = "false"
  null : o.nullWord = "null"
  conditional : o.conditionalWord = "if"
  nullTest : o.nullTestWord = "isnull"

/-- Those words in a language where letter case has no meaning anywhere. -/
structure Options.IgnoresCase (o : Options) : Prop where
  words : o.DefaultWords
  letters : o.ignoringCase = o

namespace Options

variable {o : Options}

/-- Every one of the settings for letter case is on. -/
theorem IgnoresCase.everywhere (h : o.IgnoresCase) (setting : Options → Bool)
    (on : setting o.ignoringCase = true) : setting o = true := by
  rwa [h.letters] at on

/-- Where letter case has no meaning, names with the same lower case are both reserved or none
is. -/
theorem isKeyword_congr (letters : o.ignoringCase = o) {name name' : String}
    (same : lowerText name = lowerText name') : o.isKeyword name = o.isKeyword name' := by
  rw [← letters]
  simp only [isKeyword, reserved, ignoringCase, List.any_cons, List.any_nil,
    namesEqual_congr same rfl]

end Options

namespace Grammar

theorem toNat_lt_of_isNameChar {c : Char} (h : isNameChar c = true) : c.toNat < 128 := by
  have ranges : isNameChar c = (decide ('A'.val ≤ c.val ∧ c.val ≤ 'Z'.val)
      || decide ('a'.val ≤ c.val) && decide (c.val ≤ 'z'.val)
      || decide ('0'.val ≤ c.val) && decide (c.val ≤ '9'.val) || decide (c = '_')) := rfl
  simp only [ranges, Bool.or_eq_true, Bool.and_eq_true, decide_eq_true_eq,
    UInt32.le_iff_toNat_le] at h
  have bound : c.val.toNat ≤ 122 := by
    rcases h with ((⟨-, upper⟩ | ⟨-, lower⟩) | ⟨-, digit⟩) | rfl
    · exact Nat.le_trans upper (by decide)
    · exact lower
    · exact Nat.le_trans digit (by decide)
    · decide
  exact Nat.lt_of_le_of_lt bound (by decide)

theorem ascii_of_isName {cs : List Char} (h : isName cs = true) : Ascii cs :=
  fun c mem => toNat_lt_of_isNameChar (isNameChar_of_isName h c mem)

theorem isNameStart_of_isAlpha {c : Char} (h : c.isAlpha = true) : isNameStart c = true := by
  rw [isNameStart, h]
  rfl

theorem isName_of_isAlpha {cs : List Char} (ne : cs ≠ []) (h : ∀ c ∈ cs, c.isAlpha = true) :
    isName cs = true := by
  cases cs with
  | nil => exact absurd rfl ne
  | cons c r =>
    have start := isNameStart_of_isAlpha (h c List.mem_cons_self)
    refine isName_iff.2 ⟨c, r, rfl, start, fun d mem => ?_⟩
    exact isNameChar_of_isNameStart (isNameStart_of_isAlpha (h d (List.mem_cons_of_mem c mem)))

/-- A word of plain letters. -/
structure PlainWord (word : List Char) : Prop where
  nonempty : word ≠ []
  plain : ∀ c ∈ word, isPlain c = true

/-- The words that a language starts with for operators and literals. -/
def plainWords : List String := ["and", "or", "xor", "true", "false", "null"]

theorem PlainWord.of_mem {word : String} (mem : word ∈ plainWords) : PlainWord word.toList := by
  have plain : ∀ word ∈ plainWords, word.toList ≠ [] ∧ word.toList.all isPlain = true := by
    decide
  exact ⟨(plain word mem).1, List.all_eq_true.1 (plain word mem).2⟩

theorem byteLength_of_ascii {cs : List Char} (h : Ascii cs) : byteLength cs = cs.length := by
  induction cs with
  | nil => rfl
  | cons c cs ih =>
    obtain ⟨hc, hcs⟩ := h.of_cons
    rw [byteLength, ih hcs, utf8Size_ascii hc, List.length_cons, Nat.add_comm]

theorem takeBytes?_eq_some {n : Nat} {s : List Char} {t : Taken s (List Char)}
    (h : takeBytes? n s = some t) : s = t.value ++ t.rest ∧ byteLength t.value = n := by
  induction n, s using takeBytes?.induct with
  | case1 s =>
    rw [takeBytes?] at h
    cases h
    exact ⟨rfl, rfl⟩
  | case2 n =>
    rw [takeBytes?] at h
    cases h
  | case3 n c s fits ih =>
    rw [takeBytes?, if_pos fits] at h
    obtain ⟨u, taken, rfl⟩ := Option.map_eq_some_iff.1 h
    obtain ⟨split, bytes⟩ := ih taken
    refine ⟨congrArg (c :: ·) split, ?_⟩
    change c.utf8Size + byteLength u.value = n + 1
    rw [bytes]
    omega
  | case4 n c s long =>
    rw [takeBytes?, if_neg long] at h
    cases h

/-- No characters make up the bytes when they end inside of one, or when there are too few. -/
theorem takeBytes?_eq_none_iff {n : Nat} {s : List Char} :
    takeBytes? n s = none ↔ ∀ front rest, s = front ++ rest → byteLength front ≠ n := by
  induction n, s using takeBytes?.induct with
  | case1 s =>
    rw [takeBytes?]
    exact iff_of_false nofun fun h => h [] s rfl rfl
  | case2 n =>
    rw [takeBytes?]
    refine iff_of_true rfl fun front rest split => ?_
    rw [(List.append_eq_nil_iff.1 split.symm).1]
    exact nofun
  | case3 n c s fits ih =>
    rw [takeBytes?, if_pos fits, Option.map_eq_none_iff, ih]
    constructor
    · intro h front rest split
      cases front with
      | nil => exact nofun
      | cons d front =>
        cases split
        have := h front rest rfl
        rw [byteLength]
        omega
    · intro h front rest split
      have := h (c :: front) rest (by rw [split, List.cons_append])
      rw [byteLength] at this
      omega
  | case4 n c s wide =>
    rw [takeBytes?, if_neg wide]
    refine iff_of_true rfl fun front rest split => ?_
    cases front with
    | nil => exact nofun
    | cons d front =>
      cases split
      rw [byteLength]
      omega

/-- No byte of an ASCII text is inside of a character. -/
theorem takeBytes?_ne_none {n : Nat} {s : List Char} (ascii : Ascii s) (long : n ≤ byteLength s) :
    takeBytes? n s ≠ none := by
  induction n, s using takeBytes?.induct with
  | case1 s => simp [takeBytes?]
  | case2 n => exact absurd long (by simp [byteLength])
  | case3 n c s fits ih =>
    have shorter : n + 1 - c.utf8Size ≤ byteLength s := by
      rw [byteLength] at long
      omega
    rw [takeBytes?, if_pos fits]
    simpa using ih ascii.of_cons.2 shorter
  | case4 n c s wide =>
    rw [utf8Size_ascii ascii.of_cons.1] at wide
    omega

/-- As many bytes as a plain word has are as many characters, where the characters are those of the
word up to letter case. -/
theorem takeBytes?_of_sameLower {word s : List Char} (plain : ∀ c ∈ word, isPlain c = true)
    (same : (s.zip word).all (fun (a, b) => Case.sameLower a b) = true)
    (long : byteLength word ≤ byteLength s) :
    ∃ v rest suffix, takeBytes? (byteLength word) s = some ⟨v, rest, suffix⟩ ∧ s = v ++ rest
      ∧ v.map Char.toLower = word ∧ ∀ c ∈ v, c.toNat < 128 := by
  induction word generalizing s with
  | nil =>
    have none : takeBytes? (byteLength []) s = some ⟨[], s, List.suffix_refl s⟩ := by
      simp only [byteLength, takeBytes?]
    exact ⟨[], s, _, none, rfl, rfl, by simp⟩
  | cons w word ih =>
    have one : w.utf8Size = 1 := utf8Size_ascii (toNat_lt_of_isPlain (plain w List.mem_cons_self))
    cases s with
    | nil =>
      simp only [byteLength, one] at long
      omega
    | cons c s =>
      simp only [List.zip_cons_cons, List.all_cons, Bool.and_eq_true] at same
      obtain ⟨ascii, lower⟩ := Case.ascii_of_sameLower same.1 (plain w List.mem_cons_self)
      have oneByte : c.utf8Size = 1 := utf8Size_ascii ascii
      have shorter : byteLength word ≤ byteLength s := by
        simp only [byteLength, one, oneByte] at long
        omega
      obtain ⟨v, rest, suffix, taken, split, letters, all⟩ :=
        ih (fun d mem => plain d (List.mem_cons_of_mem w mem)) same.2 shorter
      have found : takeBytes? (byteLength (w :: word)) (c :: s)
          = some ⟨c :: v, rest, suffix.trans (List.suffix_cons c s)⟩ := by
        rw [byteLength, one, Nat.add_comm, takeBytes?, if_pos (by omega)]
        simp only [oneByte, Nat.add_sub_cancel, taken]
        rfl
      refine ⟨c :: v, rest, _, found, by rw [split, List.cons_append], ?_, fun d mem => ?_⟩
      · rw [List.map_cons, lower, letters]
      · rcases List.mem_cons.1 mem with rfl | mem
        · exact ascii
        · exact all d mem

/-- What is read for a word is as many bytes as it has where letter case has no meaning, and the word
itself elsewhere. -/
theorem spelling_cases {word s : List Char} {ignoreCase : Bool} {t : Taken s (List Char)}
    (h : spelling word ignoreCase s = .ok t) :
    (ignoreCase = true ∧ FitsIgnoringCase word s ∧ takeBytes? (byteLength word) s = some t)
      ∨ (ignoreCase = false ∧ t.value = word ∧ s = word ++ t.rest) := by
  cases ignoreCase with
  | true =>
    rw [spelling, if_pos rfl] at h
    by_cases fits : FitsIgnoringCase word s
    · rw [if_pos fits] at h
      cases taken : takeBytes? (byteLength word) s with
      | none => simp [taken] at h
      | some u =>
        simp only [taken, Reading.ok.injEq] at h
        rw [h]
        exact .inl ⟨rfl, fits, rfl⟩
    · rw [if_neg fits] at h
      cases h
  | false =>
    rw [spelling, if_neg Bool.false_ne_true] at h
    by_cases begins : word.isPrefixOf s = true
    · rw [if_pos begins] at h
      cases h
      obtain ⟨rest, rfl⟩ := List.isPrefixOf_iff_prefix.1 begins
      exact .inr ⟨rfl, rfl, congrArg (word ++ ·) List.drop_left.symm⟩
    · rw [if_neg begins] at h
      cases h

theorem spelling_split {word s : List Char} {ignoreCase : Bool} {t : Taken s (List Char)}
    (h : spelling word ignoreCase s = .ok t) : s = t.value ++ t.rest := by
  obtain ⟨-, -, taken⟩ | ⟨-, value, split⟩ := spelling_cases h
  · exact (takeBytes?_eq_some taken).1
  · rw [value]
    exact split

/-- The characters are those of the word, up to letter case if that has no meaning. -/
def Spells (word : List Char) (ignoreCase : Bool) (v : List Char) : Prop :=
  v = word ∨ (ignoreCase = true ∧ v.map Char.toLower = word ∧ Ascii v)

theorem spelling_eq_ok {word s : List Char} {ignoreCase : Bool} {t : Taken s (List Char)}
    (plain : ∀ c ∈ word, isPlain c = true) (h : spelling word ignoreCase s = .ok t) :
    s = t.value ++ t.rest ∧ Spells word ignoreCase t.value := by
  refine ⟨spelling_split h, ?_⟩
  obtain ⟨ignore, fits, found⟩ | ⟨-, value, -⟩ := spelling_cases h
  · obtain ⟨v, rest, suffix, taken, -, letters, ascii⟩ :=
      takeBytes?_of_sameLower plain fits.1 fits.2
    obtain rfl := Option.some.inj (found.symm.trans taken)
    exact .inr ⟨ignore, letters, ascii⟩
  · exact .inl value

theorem map_toLower_of_plain {word : List Char} (plain : ∀ c ∈ word, isPlain c = true) :
    word.map Char.toLower = word := by
  have same : word.map Char.toLower = word.map id :=
    List.map_congr_left fun c mem => toLower_of_isPlain (plain c mem)
  rw [same, List.map_id]

/-- What a plain word is read from consists of letters. -/
theorem Spells.isAlpha {word v : List Char} {ignoreCase : Bool}
    (plain : ∀ c ∈ word, isPlain c = true) (h : Spells word ignoreCase v) :
    ∀ c ∈ v, c.isAlpha = true := by
  intro c mem
  rcases h with rfl | ⟨-, rfl, ascii⟩
  · have lower := plain c mem
    refine isAlpha_of_toLower (toNat_lt_of_isPlain lower) ?_
    rwa [toLower_of_isPlain lower]
  · exact isAlpha_of_toLower (ascii c mem) (plain _ (List.mem_map_of_mem mem))

theorem Spells.length_eq {word v : List Char} {ignoreCase : Bool} (h : Spells word ignoreCase v) :
    v.length = word.length := by
  rcases h with rfl | ⟨-, rfl, -⟩
  · rfl
  · rw [List.length_map]

theorem sameLower_zip {v : List Char} (h : Ascii v) (rest : List Char) :
    ((v ++ rest).zip (v.map Char.toLower)).all (fun (a, b) => Case.sameLower a b) = true := by
  induction v with
  | nil => rw [List.map_nil, List.zip_nil_right, List.all_nil]
  | cons c v ih =>
    obtain ⟨hc, hv⟩ := h.of_cons
    have same : Case.sameLower c c.toLower = true := by
      simp only [Case.sameLower, Case.lowerChar_ascii hc, Case.lowerChar_ascii (toLower_lt hc),
        toLower_toLower hc, decide_true]
    simp only [List.cons_append, List.map_cons, List.zip_cons_cons, List.all_cons, same, ih hv,
      Bool.and_self]

theorem byteLength_append (v rest : List Char) :
    byteLength (v ++ rest) = byteLength v + byteLength rest := by
  induction v with
  | nil => simp [byteLength]
  | cons c v ih => rw [List.cons_append, byteLength, byteLength, ih, Nat.add_assoc]

/-- Whatever follows, the word is read from its own characters. -/
theorem spelling_append {word v : List Char} {ignoreCase : Bool}
    (plain : ∀ c ∈ word, isPlain c = true) (h : Spells word ignoreCase v) (rest : List Char) :
    (spelling word ignoreCase (v ++ rest)).Takes v rest := by
  have letters : v.map Char.toLower = word ∧ Ascii v := by
    rcases h with rfl | ⟨-, letters⟩
    · exact ⟨map_toLower_of_plain plain, fun c mem => toNat_lt_of_isPlain (plain c mem)⟩
    · exact letters
  have found : ∃ t, spelling word ignoreCase (v ++ rest) = .ok t := by
    by_cases ignore : ignoreCase = true
    · have same : ((v ++ rest).zip word).all (fun (a, b) => Case.sameLower a b) = true := by
        rw [← letters.1]
        exact sameLower_zip letters.2 rest
      have long : byteLength word ≤ byteLength (v ++ rest) := by
        have ascii : Ascii word := fun c mem => toNat_lt_of_isPlain (plain c mem)
        have both := byteLength_append v rest
        rw [byteLength_of_ascii letters.2, h.length_eq, ← byteLength_of_ascii ascii] at both
        omega
      obtain ⟨w, left, suffix, taken, -⟩ := takeBytes?_of_sameLower plain same long
      exact ⟨⟨w, left, suffix⟩, by rw [spelling, if_pos ignore, if_pos ⟨same, long⟩, taken]⟩
    · have exact : v = word := h.resolve_right fun both => ignore both.1
      subst exact
      have isPrefix := List.isPrefixOf_iff_prefix.2 (List.prefix_append v rest)
      rw [spelling, if_neg ignore, if_pos isPrefix]
      exact ⟨_, rfl⟩
  obtain ⟨t, found⟩ := found
  obtain ⟨split, spells⟩ := spelling_eq_ok plain found
  obtain ⟨value, left⟩ := List.append_inj split (h.length_eq.trans spells.length_eq.symm)
  exact .of_eq found value.symm left.symm

/-- A name is a word when it spells it. -/
theorem namesEqual_iff_spells {v word : String} {ignoreCase : Bool} (name : isName v.toList = true)
    (plain : ∀ c ∈ word.toList, isPlain c = true) :
    namesEqual ignoreCase v word = true ↔ Spells word.toList ignoreCase v.toList := by
  have ascii := ascii_of_isName name
  have lower : lowerText v = lowerText word ↔ v.toList.map Char.toLower = word.toList := by
    rw [← String.toList_inj, lowerText_ascii ascii,
      lowerText_ascii fun c mem => toNat_lt_of_isPlain (plain c mem), map_toLower_of_plain plain]
  rw [namesEqual_iff, Spells, lower, String.toList_inj]
  simp [ascii]

variable {word : String} {ignoreCase : Bool}

theorem keyword_cases {s : List Char} {t : Taken s String} (h : keyword word ignoreCase s = .ok t) :
    ∃ u, spelling word.toList ignoreCase s = .ok u ∧ NameEnds u.rest
      ∧ t = u.map String.ofList := by
  rw [keyword] at h
  cases found : spelling word.toList ignoreCase s with
  | fault f => simp [found] at h
  | hard f => simp [found] at h
  | ok u =>
    simp only [found] at h
    split at h
    · cases h
    · rename_i ends
      cases h
      refine ⟨u, rfl, fun c head => ?_, rfl⟩
      simpa [Option.mem_def.1 head] using ends

/-- A reserved word that is read is a whole name, and it is the word. -/
theorem keyword_eq_ok {s : List Char} {t : Taken s String} (plain : PlainWord word.toList)
    (h : keyword word ignoreCase s = .ok t) :
    s = t.value.toList ++ t.rest ∧ isName t.value.toList = true ∧ NameEnds t.rest
      ∧ namesEqual ignoreCase t.value word = true := by
  obtain ⟨u, found, ends, rfl⟩ := keyword_cases h
  obtain ⟨split, spells⟩ := spelling_eq_ok plain.plain found
  have nonempty : u.value ≠ [] := by
    intro empty
    have length := spells.length_eq
    rw [empty] at length
    exact plain.nonempty (List.eq_nil_of_length_eq_zero length.symm)
  have name := isName_of_isAlpha nonempty (spells.isAlpha plain.plain)
  simp only [Taken.map, String.toList_ofList]
  refine ⟨split, name, ends, (namesEqual_iff_spells ?_ plain.plain).2 ?_⟩
  · rwa [String.toList_ofList]
  · rwa [String.toList_ofList]

/-- The word fits the front of the text up to letter case, but no characters there make up as many
bytes as it has. -/
def Torn (word : String) (ignoreCase : Bool) (s : List Char) : Prop :=
  ignoreCase = true ∧ FitsIgnoringCase word.toList s
    ∧ ∀ front rest, s = front ++ rest → byteLength front ≠ byteLength word.toList

theorem keyword_eq_hard_iff {s : List Char} {f : Fault} :
    keyword word ignoreCase s = .hard f ↔ Torn word ignoreCase s ∧ f = ⟨.torn, s⟩ := by
  rw [keyword, spelling, Torn, ← takeBytes?_eq_none_iff]
  cases ignoreCase with
  | false =>
    by_cases begins : word.toList.isPrefixOf s = true
    · simp only [begins, Bool.false_eq_true, if_true, if_false, false_and, iff_false]
      split <;> simp
    · simp [begins]
  | true =>
    by_cases fits : FitsIgnoringCase word.toList s
    · cases taken : takeBytes? (byteLength word.toList) s with
      | some t =>
        simp only [fits, if_true, reduceCtorEq, and_false, false_and, iff_false]
        split <;> simp
      | none => simp [fits, eq_comm]
    · simp [fits]

/-- What is not read as a word is not there, unless the word is cut inside of a character. -/
theorem keyword_faults_of_ne_ok {s : List Char} (whole : ¬ Torn word ignoreCase s)
    (h : ∀ t, keyword word ignoreCase s ≠ .ok t) : (keyword word ignoreCase s).Faults := by
  cases found : keyword word ignoreCase s with
  | ok t => exact absurd found (h t)
  | fault f => exact Reading.fault_faults f
  | hard f => exact absurd (keyword_eq_hard_iff.1 found).1 whole

theorem not_torn_of_plain {s : List Char} (plain : PlainWord word.toList) :
    ¬ Torn word ignoreCase s := by
  intro ⟨_, fits, cut⟩
  obtain ⟨v, rest, suffix, taken, -⟩ := takeBytes?_of_sameLower plain.plain fits.1 fits.2
  rw [takeBytes?_eq_none_iff.2 cut] at taken
  cases taken

theorem not_torn_of_ascii {s : List Char} (ascii : Ascii s) : ¬ Torn word ignoreCase s :=
  fun ⟨_, fits, cut⟩ => takeBytes?_ne_none ascii fits.2 (takeBytes?_eq_none_iff.2 cut)

theorem not_torn_of_exact {s : List Char} : ¬ Torn word false s := fun h => Bool.false_ne_true h.1

theorem keyword_append {name : String} {rest : List Char} (plain : PlainWord word.toList)
    (named : isName name.toList = true) (ends : NameEnds rest)
    (same : namesEqual ignoreCase name word = true) :
    (keyword word ignoreCase (name.toList ++ rest)).Takes name rest := by
  have spells := (namesEqual_iff_spells named plain.plain).1 same
  obtain ⟨suffix, found⟩ := spelling_append plain.plain spells rest
  have open' : ¬ rest.head?.any isNameChar = true := by
    cases rest with
    | nil => simp
    | cons c rest => simp [ends c rfl]
  refine ⟨suffix, ?_⟩
  rw [keyword, found]
  simp only [open', Taken.map, String.ofList_toList]
  rfl

theorem keyword_faults {name : String} {rest : List Char} (plain : PlainWord word.toList)
    (named : isName name.toList = true) (ends : NameEnds rest)
    (other : namesEqual ignoreCase name word = false) :
    (keyword word ignoreCase (name.toList ++ rest)).Faults := by
  apply keyword_faults_of_ne_ok (not_torn_of_plain plain)
  intro t found
  obtain ⟨split, named', ends', same⟩ := keyword_eq_ok plain found
  obtain ⟨value, -⟩ := append_inj_of_nameEnds (isNameChar_of_isName named)
    (isNameChar_of_isName named') ends ends' split
  rw [← String.toList_inj.1 value, other] at same
  cases same

theorem keyword_faults_of_head {s : List Char} (plain : PlainWord word.toList)
    (h : ∀ c ∈ s.head?, isNameStart c = false) : (keyword word ignoreCase s).Faults := by
  apply keyword_faults_of_ne_ok (not_torn_of_plain plain)
  intro t found
  obtain ⟨split, named, -, -⟩ := keyword_eq_ok plain found
  obtain ⟨c, r, eq, start, -⟩ := isName_iff.1 named
  have none := h c (by rw [split, eq]; rfl)
  rw [start] at none
  cases none

/-! Operators -/

/-- The word is tried for an operator: no symbol is read, and none of the words before it. -/
structure TriesOperator (o : Options) (s : List Char) (word : String) : Prop where
  symbols : ∀ entry ∈ operatorSymbols, (spelling entry.1.toList false s).Faults
  words : ∃ before op after, operatorWords o = before ++ (word, op) :: after
    ∧ ∀ entry ∈ before, (keyword entry.1 o.ignoreOperatorCase s).Faults

/-- Symbols are compared and taken at once. -/
theorem spelling_exact_ne_hard {w s : List Char} {f : Fault} : spelling w false s ≠ .hard f := by
  rw [spelling, if_neg Bool.false_ne_true]
  split <;> simp

/-- A hard fault of an operator is that of a word. -/
theorem operator_eq_hard_iff {o : Options} {s : List Char} {f : Fault} : operator o s = .hard f
    ↔ ∃ word, TriesOperator o s word ∧ keyword word o.ignoreOperatorCase s = .hard f := by
  simp only [operator, Reading.orElse_eq_hard_iff, Reading.firstOf_eq_hard_iff,
    Reading.firstOf_faults_iff, Reading.map_faults_iff, Reading.map_eq_hard_iff,
    spelling_exact_ne_hard, and_false, exists_false, false_or]
  constructor
  · rintro ⟨symbols, before, ⟨word, op⟩, after, split, passed, failed⟩
    exact ⟨word, ⟨symbols, before, op, after, split, passed⟩, failed⟩
  · rintro ⟨word, ⟨symbols, before, op, after, split, passed⟩, failed⟩
    exact ⟨symbols, before, (word, op), after, split, passed, failed⟩

theorem operatorSpaced_eq_hard_iff {o : Options} {s : List Char} {f : Fault} :
    operatorSpaced o s = .hard f ↔ operator o (skipBlanks s) = .hard f := by
  rw [operatorSpaced]
  cases operator o (skipBlanks s) <;> simp

theorem operatorSpaced_faults {o : Options} {s : List Char}
    (h : (operator o (skipBlanks s)).Faults) : (operatorSpaced o s).Faults := by
  obtain ⟨f, none⟩ := h
  rw [operatorSpaced, none]
  exact ⟨f, rfl⟩

/-- A blank comes first. -/
def BlankAhead (s : List Char) : Prop := ∃ c r, s = c :: r ∧ isBlank c = true

theorem BlankAhead.of_blank {a : List Char} (ha : Blank a) (ne : a ≠ []) (s : List Char) :
    BlankAhead (a ++ s) := by
  obtain ⟨c, r, rfl⟩ := List.exists_cons_of_ne_nil ne
  exact ⟨c, r ++ s, rfl, ha c List.mem_cons_self⟩

theorem BlankAhead.nameEnds {s : List Char} (h : BlankAhead s) : NameEnds s := by
  obtain ⟨c, r, rfl, blank⟩ := h
  rintro _ ⟨⟩
  exact isNameChar_of_isBlank blank

/-- The spelling of an operator begins with what no term begins or goes on with. -/
theorem symbol_start (op : Operator) : ∃ c r, op.symbol.toList = c :: r ∧ isBlank c = false
    ∧ c ≠ '.' ∧ c ≠ '(' := by
  cases op <;> exact ⟨_, _, rfl, by decide, by decide, by decide⟩

/-- What the symbols of operators begin with. -/
def symbolHeads : List Char := ['<', '>', '=', '^', '*', '/', '+', '-', '&']

theorem not_symbolHead_of_isNameStart {c : Char} (h : isNameStart c = true) : c ∉ symbolHeads :=
  forall_ascii (P := fun c => isNameStart c = true → c ∉ symbolHeads) (by decide)
    (toNat_lt_of_isNameChar (isNameChar_of_isNameStart h)) h

theorem head_operatorSymbols : ∀ entry ∈ operatorSymbols,
    entry.1.toList.head?.any (symbolHeads.contains ·) = true := by
  decide

theorem spelling_symbol_faults {entry : String × Operator} (mem : entry ∈ operatorSymbols)
    {s : List Char} (h : ∀ c ∈ s.head?, c ∉ symbolHeads) :
    (spelling entry.1.toList false s).Faults := by
  have heads := head_operatorSymbols entry mem
  cases eq : entry.1.toList with
  | nil =>
    rw [eq] at heads
    cases heads
  | cons c word =>
    rw [eq] at heads
    have noPrefix : ¬ (c :: word).isPrefixOf s = true := by
      intro begins
      obtain ⟨rest, rfl⟩ := List.isPrefixOf_iff_prefix.1 begins
      exact h c rfl (List.contains_iff_mem.1 heads)
    rw [spelling, if_neg Bool.false_ne_true, if_neg noPrefix]
    exact Reading.fault_faults _

theorem operator_eq_word {o : Options} {s : List Char} (h : ∀ c ∈ s.head?, c ∉ symbolHeads) :
    operator o s = Reading.firstOf
      (fun (word, op) => (keyword word o.ignoreOperatorCase s).map fun _ => op)
      (operatorWords o) := by
  apply Reading.orElse_of_faults
  exact Reading.firstOf_faults_iff.2 fun entry mem =>
    Reading.map_faults_iff.2 (spelling_symbol_faults mem h)

theorem operator_symbol (o : Options) {op : Operator} (symbol : op.family ≠ .boolean)
    {rest : List Char} (ahead : BlankAhead rest) :
    (operator o (op.symbol.toList ++ rest)).Takes op rest := by
  cases op with
  | and => exact absurd rfl symbol
  | or => exact absurd rfl symbol
  | xor => exact absurd rfl symbol
  | _ =>
    obtain ⟨c, r, rfl, blank⟩ := ahead
    simp only [isBlank, Bool.or_eq_true, decide_eq_true_eq] at blank
    rcases blank with ((rfl | rfl) | rfl) | rfl <;> exact ⟨_, rfl⟩

section DefaultWords

variable {o : Options} (words : o.DefaultWords)

include words

theorem plain_operatorWords : ∀ entry ∈ operatorWords o, PlainWord entry.1.toList := by
  intro entry mem
  have listed : entry.1 ∈ plainWords := by
    simp only [operatorWords, words.and, words.or, words.xor, List.mem_cons, List.not_mem_nil,
      or_false] at mem
    rcases mem with rfl | rfl | rfl <;> decide
  exact .of_mem listed

theorem operator_faults {s : List Char}
    (h : ∀ c ∈ s.head?, c ∉ symbolHeads ∧ isNameStart c = false) : (operator o s).Faults := by
  rw [operator_eq_word fun c head => (h c head).1]
  refine Reading.firstOf_faults_iff.2 fun entry mem => Reading.map_faults_iff.2 ?_
  exact keyword_faults_of_head (plain_operatorWords words entry mem) fun c head => (h c head).2

theorem operator_append (op : Operator) {rest : List Char} (ahead : BlankAhead rest) :
    (operator o (op.symbol.toList ++ rest)).Takes op rest := by
  have noSymbol : ∀ {name : String}, isName name.toList = true →
      ∀ c ∈ (name.toList ++ rest).head?, c ∉ symbolHeads := by
    intro name named
    obtain ⟨c, r, eq, start, -⟩ := isName_iff.1 named
    rw [eq]
    rintro _ ⟨⟩
    exact not_symbolHead_of_isNameStart start
  have taken : ∀ word ∈ plainWords, isName word.toList = true →
      (keyword word o.ignoreOperatorCase (word.toList ++ rest)).Takes word rest :=
    fun word mem named =>
      keyword_append (.of_mem mem) named ahead.nameEnds (namesEqual_iff.2 (.inl rfl))
  have passed : ∀ word ∈ plainWords, ∀ name : String, isName name.toList = true →
      lowerText name ≠ lowerText word →
      (keyword word o.ignoreOperatorCase (name.toList ++ rest)).Faults :=
    fun word mem _ named other =>
      keyword_faults (.of_mem mem) named ahead.nameEnds (namesEqual_eq_false other)
  cases op with
  | and =>
    obtain ⟨suffix, found⟩ := taken "and" (by decide) rfl
    rw [Operator.symbol, operator_eq_word (noSymbol rfl)]
    simp only [operatorWords, words.and, Reading.firstOf, found]
    exact ⟨suffix, rfl⟩
  | or =>
    obtain ⟨_, noAnd⟩ := passed "and" (by decide) "or" rfl (by decide)
    obtain ⟨suffix, found⟩ := taken "or" (by decide) rfl
    rw [Operator.symbol, operator_eq_word (noSymbol rfl)]
    simp only [operatorWords, words.and, words.or, Reading.firstOf, noAnd, found]
    exact ⟨suffix, rfl⟩
  | xor =>
    obtain ⟨_, noAnd⟩ := passed "and" (by decide) "xor" rfl (by decide)
    obtain ⟨_, noOr⟩ := passed "or" (by decide) "xor" rfl (by decide)
    obtain ⟨suffix, found⟩ := taken "xor" (by decide) rfl
    rw [Operator.symbol, operator_eq_word (noSymbol rfl)]
    simp only [operatorWords, words.and, words.or, words.xor, Reading.firstOf, noAnd, noOr, found]
    exact ⟨suffix, rfl⟩
  | _ => exact operator_symbol o (by decide) ahead

end DefaultWords

end Grammar

open Grammar

/-- Operators may have other words, but no operator is read where neither a symbol nor a name
begins. All other words are those that a language starts with. -/
structure Options.UsualWords (o : Options) : Prop where
  operators : ∀ s : List Char, (∀ c ∈ s.head?, c ∉ symbolHeads ∧ isNameStart c = false) →
    (operator o s).Faults
  true : o.trueWord = "true"
  false : o.falseWord = "false"
  null : o.nullWord = "null"
  conditional : o.conditionalWord = "if"
  nullTest : o.nullTestWord = "isnull"

theorem Options.DefaultWords.usual {o : Options} (words : o.DefaultWords) : o.UsualWords where
  operators _ := operator_faults words
  true := words.true
  false := words.false
  null := words.null
  conditional := words.conditional
  nullTest := words.nullTest

namespace Options

/-- What the usual spelling of an operator is read as where a blank comes after it, if the language
has an operator of this spelling. -/
def reading? (o : Options) (op : Operator) : Option Operator :=
  if op.family = .boolean then ((operatorWords o).find? (·.1 = op.symbol)).map (·.2) else some op

/-- Operators are read from their usual spellings as `reading?` says. -/
def ReadsOperators (o : Options) : Prop := ∀ op op' rest, o.reading? op = some op' →
  BlankAhead rest → (operator o (op.symbol.toList ++ rest)).Takes op' rest

theorem ReadsOperators.of_eq {o : Options} (reads : o.ReadsOperators) {op op' : Operator}
    {s rest : List Char} (means : o.reading? op = some op') (ahead : BlankAhead rest)
    (eq : s = op.symbol.toList ++ rest) : (operator o s).Takes op' rest := by
  subst eq
  exact reads op op' rest means ahead

theorem DefaultWords.reading?_eq {o : Options} (words : o.DefaultWords) (op : Operator) :
    o.reading? op = some op := by
  simp only [reading?, operatorWords, words.and, words.or, words.xor]
  cases op <;> decide

theorem DefaultWords.readsOperators {o : Options} (words : o.DefaultWords) :
    o.ReadsOperators := by
  intro op op' rest read ahead
  rw [words.reading?_eq op] at read
  obtain rfl := Option.some.inj read
  exact operator_append words op ahead

end Options

end ExprLang
