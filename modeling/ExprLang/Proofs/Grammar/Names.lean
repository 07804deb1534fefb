import ExprLang.Proofs.Grammar.Following
import ExprLang.Proofs.Grammar.Legible

set_option autoImplicit false

/-!
Whole texts that are names. In every language a text that is read as a name has the form of one and
is not reserved. The other way round the words must be such that none of them is read from a name
that it is not: an empty operator is read everywhere, and the sign for kelvin has the lower case
of a letter but takes more bytes.
-/

namespace ExprLang

namespace Options

/-- All words of a language. -/
def words (o : Options) : List String := o.keywords ++ [o.nullTestWord]

/-- The words of literals, each with whether its letter case has no meaning. -/
def literalWords (o : Options) : List (String × Bool) :=
  [(o.nullWord, o.ignoreNullCase), (o.trueWord, o.ignoreBooleanCase),
    (o.falseWord, o.ignoreBooleanCase)]

/-- No character of the word is the sign for kelvin, where its letter case has no meaning. -/
def WithoutKelvin (w : String × Bool) : Prop := w.2 = true → ∀ c ∈ w.1.toList, c.toNat ≠ 0x212A

instance (w : String × Bool) : Decidable (WithoutKelvin w) :=
  @instDecidableForall _ _ _ (List.decidableBAll _ w.1.toList)

/-- No word is read from a name that it is not. -/
structure Discernible (o : Options) : Prop where
  operators : o.andWord ≠ "" ∧ o.orWord ≠ "" ∧ o.xorWord ≠ ""
  literals : ∀ w ∈ o.literalWords, WithoutKelvin w

/-- Words of ASCII characters can be told from names when they are not empty. -/
theorem discernible_of_ascii {o : Options} (h : ∀ w ∈ o.words, w ≠ "" ∧ Ascii w.toList) :
    o.Discernible where
  operators := by
    simp only [words, keywords, reserved, List.map_cons, List.map_nil, List.cons_append,
      List.forall_mem_cons] at h
    exact ⟨h.1.1, h.2.1.1, h.2.2.1.1⟩
  literals w mem _ c inside kelvin := by
    have listed : w.1 ∈ o.words := by
      simp only [literalWords, List.mem_cons, List.not_mem_nil, or_false] at mem
      rcases mem with rfl | rfl | rfl <;> simp [words, keywords, reserved]
    have ascii := (h w.1 listed).2 c inside
    omega

end Options

namespace Grammar

variable {o : Options} {name word : String} {ignoreCase : Bool}

/-- Characters that have the same lower case as ASCII characters one by one. -/
theorem map_toLower_of_sameLower {cs ds : List Char} (hc : Ascii cs)
    (kelvin : ∀ d ∈ ds, d.toNat ≠ 0x212A)
    (same : (cs.zip ds).all (fun (a, b) => Case.sameLower a b) = true)
    (long : byteLength cs = byteLength ds) :
    Ascii ds ∧ cs.map Char.toLower = ds.map Char.toLower := by
  induction cs generalizing ds with
  | nil =>
    cases ds with
    | nil => exact ⟨by simp [Ascii], rfl⟩
    | cons d ds =>
      have size := Char.utf8Size_pos d
      simp only [byteLength] at long
      omega
  | cons c cs ih =>
    have ascii := hc.of_cons.1
    cases ds with
    | nil =>
      have size := Char.utf8Size_pos c
      simp only [byteLength] at long
      omega
    | cons d ds =>
      simp only [List.zip_cons_cons, List.all_cons, Bool.and_eq_true] at same
      obtain ⟨ascii', lower⟩ :=
        Case.toLower_of_sameLower same.1 ascii (kelvin d List.mem_cons_self)
      have long' : byteLength cs = byteLength ds := by
        simp only [byteLength, utf8Size_ascii ascii, utf8Size_ascii ascii'] at long
        omega
      obtain ⟨rest, letters⟩ := ih hc.of_cons.2
        (fun d mem => kelvin d (List.mem_cons_of_mem _ mem)) same.2 long'
      refine ⟨fun e mem => ?_, by rw [List.map_cons, List.map_cons, lower, letters]⟩
      rcases List.mem_cons.1 mem with rfl | mem
      · exact ascii'
      · exact rest e mem

theorem namesEqual_of_keyword (named : isName name.toList = true)
    (kelvin : Options.WithoutKelvin (word, ignoreCase))
    {t : Taken name.toList String} (h : keyword word ignoreCase name.toList = .ok t) :
    namesEqual ignoreCase name word = true := by
  obtain ⟨u, found, ends, -⟩ := keyword_cases h
  -- What is left consists of characters of the name, and none of them may follow the word.
  have whole : u.rest = [] := by
    cases left : u.rest with
    | nil => rfl
    | cons c r =>
      have mem : c ∈ name.toList := u.suffix.subset (left ▸ List.mem_cons_self)
      have other := ends c (by rw [left]; rfl)
      rw [isNameChar_of_isName named c mem] at other
      cases other
  obtain ⟨ignore, fits, taken⟩ | ⟨-, -, split⟩ := spelling_cases found
  · obtain ⟨split, bytes⟩ := takeBytes?_eq_some taken
    rw [whole, List.append_nil] at split
    obtain ⟨ascii, letters⟩ := map_toLower_of_sameLower (ascii_of_isName named) (kelvin ignore)
      fits.1 (split ▸ bytes)
    refine namesEqual_iff.2 (.inr ⟨ignore, ?_⟩)
    rw [← String.toList_inj, lowerText_ascii (ascii_of_isName named), lowerText_ascii ascii,
      letters]
  · rw [whole, List.append_nil] at split
    exact namesEqual_iff.2 (.inl (String.toList_inj.1 split))

theorem literal_faults_of_isKeyword (words : ∀ w ∈ o.literalWords, Options.WithoutKelvin w)
    (named : isName name.toList = true) (free : o.isKeyword name = false) :
    (literal o name.toList).Faults := by
  have other := noLiteral_of_isKeyword free
  have noWord : ∀ w ∈ o.literalWords, namesEqual w.2 name w.1 = false → ∀ v : Literal,
      (wordLiteral v w.1 w.2 name.toList).Faults := by
    intro w mem other v
    apply Reading.map_faults_iff.2
    cases found : keyword w.1 w.2 name.toList with
    | ok t =>
      rw [namesEqual_of_keyword named (words w mem) found] at other
      cases other
    | fault f => exact Reading.fault_faults f
    | hard f =>
      exact absurd (keyword_eq_hard_iff.1 found).1 (not_torn_of_ascii (ascii_of_isName named))
  have front := numeral?_eq_none_of_isName named []
  have string := stringLiteral_faults_of_isName o.quote named []
  rw [List.append_nil] at front string
  have simple : NoSimpleLiteral o name.toList :=
    ⟨⟨noWord (o.nullWord, o.ignoreNullCase) (by simp [Options.literalWords]) other.null _, front⟩,
      noWord (o.trueWord, o.ignoreBooleanCase) (by simp [Options.literalWords]) other.isTrue _,
      noWord (o.falseWord, o.ignoreBooleanCase) (by simp [Options.literalWords]) other.isFalse _⟩
  exact simple.faults string

theorem keyword_nil (h : word ≠ "") : (keyword word ignoreCase []).Faults := by
  obtain ⟨c, r, eq⟩ := List.exists_cons_of_ne_nil fun nil => h (String.toList_eq_nil_iff.1 nil)
  have long : ¬ byteLength (c :: r) ≤ byteLength [] := by
    have size := Char.utf8Size_pos c
    simp only [byteLength]
    omega
  have none : spelling word.toList ignoreCase [] = .fault ⟨.character, []⟩ := by
    cases ignoreCase <;> simp [spelling, FitsIgnoringCase, eq, long]
  rw [keyword, none]
  exact Reading.fault_faults _

theorem operatorSpaced_nil (words : o.andWord ≠ "" ∧ o.orWord ≠ "" ∧ o.xorWord ≠ "") :
    (operatorSpaced o []).Faults := by
  obtain ⟨and, or, xor⟩ := words
  apply operatorSpaced_faults
  rw [skipBlanks, List.dropWhile_nil, operator_eq_word forall_mem_head?_nil]
  simp [operatorWords, Reading.firstOf_faults_iff, Reading.map_faults_iff, keyword_nil and,
    keyword_nil or, keyword_nil xor]

/-- What is read as the whole of a text is an expression where no operator is empty. -/
theorem expression_of_term (words : o.andWord ≠ "" ∧ o.orWord ≠ "" ∧ o.xorWord ≠ "")
    {s : List Char} {e : Expr} (read : (term o s).Takes e []) : (expression o s).Takes e [] :=
  expression_takes_iff.2 ⟨e, [], read, operands_of_none (operatorSpaced_nil words)⟩

theorem term_of_primary_nil {s : List Char} {e : Expr} (start : skipBlanks s = s)
    (read : (primary o s).Takes e []) : (term o s).Takes e [] := by
  have halts : Halts [] := .of_head (by simp [skipBlanks])
  exact term_takes_iff.2 ⟨e, [], start.symm ▸ read, followed_of_halts e halts⟩

theorem term_of_name (words : ∀ w ∈ o.literalWords, Options.WithoutKelvin w)
    (named : isName name.toList = true) (free : o.isKeyword name = false) :
    (term o name.toList).Takes (.ident name) [] := by
  have whole : ∃ suffix, name? name.toList = some ⟨name, [], suffix⟩ :=
    name?_of_eq (List.append_nil _).symm named (by simp [NameEnds])
  have called : (call o name.toList).Faults := call_faults_of_opening whole (by simp [skipBlanks])
  have read := literal_faults_of_isKeyword words named free
  have start : skipBlanks name.toList = name.toList := by
    obtain ⟨c, r, eq, blank⟩ := start_of_isName named
    rw [eq, skipBlanks_cons blank]
  exact term_of_primary_nil start (primary_of_ident read called (ident?_of_name? whole free))

/-- A name in an expression has the form of one and is not reserved. -/
def Declarable (o : Options) (e : Expr) : Prop :=
  ∀ name, e = .ident name → isName name.toList = true ∧ o.isKeyword name = false

theorem closed_declarable (o : Options) : Closed o (Declarable o) where
  literals read := by
    obtain ⟨v, source, rfl⟩ := exists_literal_of_takes read
    rintro name ⟨⟩
  idents named free := by
    rintro name ⟨⟩
    exact ⟨named, free⟩
  calls _ _ node := by
    rintro name rfl
    rw [callNode?] at node
    repeat' split at node
    all_goals cases node
  memberReads _ _ _ := by rintro name ⟨⟩
  groups _ := by rintro name ⟨⟩
  chains {chain operand} op _ _ := by
    intro name same
    cases chain with
    | operation left root right =>
      rw [Expr.append] at same
      split at same <;> cases same
    | _ => cases same

end Grammar

open Grammar

namespace Expr

variable {o : Options} {name : String}

theorem name_of_parse {text : String} (h : parse o text = .ok (.ident name)) :
    isName name.toList = true ∧ o.isKeyword name = false :=
  of_parse (closed_declarable o) h name rfl

/-- Where words can be told from names, the names that are read as themselves are those that are not
reserved. -/
theorem parse_eq_ident_iff (h : o.Discernible) : parse o name = .ok (.ident name)
    ↔ isName name.toList = true ∧ o.isKeyword name = false := by
  constructor
  · exact name_of_parse
  · intro ⟨named, free⟩
    exact parse_eq_ok_iff.2 (expression_of_term h.operators (term_of_name h.literals named free))

end Expr

end ExprLang
