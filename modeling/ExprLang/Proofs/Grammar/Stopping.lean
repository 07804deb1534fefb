import ExprLang.Proofs.Grammar.HardFaults
import ExprLang.Proofs.Grammar.LiteralSources

set_option autoImplicit false

/-!
Where reading stops the program. With words of ASCII characters this takes the sign for kelvin, which
has the lower case `k` and three bytes: a word with that letter fits the text and ends in the middle
of the sign.
-/

namespace ExprLang

/-- The words that the grammar tries, each with whether its letter case has no meaning. -/
def Options.readWords (o : Options) : List (String × Bool) :=
  o.literalWords ++ (Grammar.operatorWords o).map fun entry => (entry.1, o.ignoreOperatorCase)

/-- Words that are read without regard to letter case are ASCII. -/
def Options.AsciiWhereIgnored (o : Options) : Prop :=
  ∀ w ∈ o.readWords, w.2 = true → Ascii w.1.toList

instance (o : Options) : Decidable o.AsciiWhereIgnored := List.decidableBAll _ o.readWords

namespace Grammar

variable {o : Options} {p p' : Place} {word : String} {ignoreCase : Bool} {s : List Char}

/-! Places that the reading reaches -/

theorem Calls.suffix (calls : Calls o p p') : p'.2 <:+ p.2 := by
  cases calls with
  | first | operatorWord | literal | literalWord | string | call | group | argument =>
    exact List.suffix_refl _
  | chain first => exact first.suffix
  | @operand s chain op found => exact op.suffix
  | @operands s r chain v op found operand shorter => exact operand.suffix.trans op.suffix
  | primary s | operator s chain => exact skipBlanks_suffix s
  | arguments named opened =>
    obtain ⟨suffix, -⟩ := named
    exact opened.suffix.trans suffix
  | moreArguments first => exact first.suffix
  | next passed => exact passed.suffix
  | afterNext passed next => exact next.suffix.trans passed.suffix
  | inside opened => exact opened.suffix

theorem suffix_of_reached (reached : Relation.ReflTransGen (Calls o) p p') : p'.2 <:+ p.2 := by
  induction reached with
  | refl => exact List.suffix_refl _
  | tail _ calls ih => exact calls.suffix.trans ih

theorem TriesOperator.mem_readWords (tried : TriesOperator o s word) :
    (word, o.ignoreOperatorCase) ∈ o.readWords := by
  obtain ⟨before, op, after, split, -⟩ := tried.words
  apply List.mem_append_right
  rw [split]
  simp

theorem TriesLiteral.mem_readWords (tried : TriesLiteral o s word ignoreCase) :
    (word, ignoreCase) ∈ o.readWords := by
  apply List.mem_append_left
  cases tried <;> simp [Options.literalWords]

theorem Calls.mem_readWords (calls : Calls o p (.word word ignoreCase, s)) :
    (word, ignoreCase) ∈ o.readWords := by
  cases calls with
  | operatorWord tried => exact tried.mem_readWords
  | literalWord tried => exact tried.mem_readWords

/-- What is tried anywhere in a text is a word of the language. -/
theorem ReachesWord.mem_readWords {text : String} (h : ReachesWord o text word ignoreCase s) :
    (word, ignoreCase) ∈ o.readWords := by
  rcases Relation.ReflTransGen.cases_tail h with same | ⟨p, -, calls⟩
  · cases same
  · exact calls.mem_readWords

/-! What an ASCII word is cut in -/

/-- A character that fits an ASCII character is one itself, or it is the sign for kelvin. -/
theorem ascii_or_kelvin {a b : Char} (same : Case.sameLower a b = true) (ascii : b.toNat < 128) :
    a.toNat < 128 ∨ (a = '\u212a' ∧ (b = 'k' ∨ b = 'K')) := by
  have lower : Case.lowerChar a = [b.toLower] := by
    simp only [Case.sameLower, decide_eq_true_eq] at same
    rw [same, Case.lowerChar_ascii ascii]
  rcases Case.ascii_of_lowerChar lower (toLower_lt ascii) with own | ⟨kelvin, k⟩
  · exact .inl own
  · refine .inr ⟨Char.ext (UInt32.toNat_inj.1 kelvin), ?_⟩
    exact forall_ascii (P := fun b => b.toLower = 'k' → b = 'k' ∨ b = 'K') (by decide) ascii k

/-- As many bytes as an ASCII word has are as many characters, where those are ASCII too. -/
theorem takeBytes?_ne_none_of_fits {w s : List Char} (ascii : Ascii w)
    (own : ∀ pair ∈ s.zip w, pair.1.toNat < 128) (long : byteLength w ≤ byteLength s) :
    takeBytes? (byteLength w) s ≠ none := by
  induction w generalizing s with
  | nil =>
    rw [byteLength, takeBytes?]
    exact Option.some_ne_none _
  | cons b w ih =>
    obtain ⟨first, others⟩ := ascii.of_cons
    have one : b.utf8Size = 1 := utf8Size_ascii first
    cases s with
    | nil =>
      simp only [byteLength, one] at long
      omega
    | cons a s =>
      rw [List.zip_cons_cons, List.forall_mem_cons] at own
      have one' : a.utf8Size = 1 := utf8Size_ascii own.1
      have shorter : byteLength w ≤ byteLength s := by
        simp only [byteLength, one, one'] at long
        omega
      rw [byteLength, one, Nat.add_comm, takeBytes?, if_pos (by omega), one', Nat.add_sub_cancel]
      simpa using ih others own.2 shorter

theorem kelvin_of_torn (ascii : Ascii word.toList) (torn : Torn word ignoreCase s) :
    '\u212a' ∈ s ∧ ('k' ∈ word.toList ∨ 'K' ∈ word.toList) := by
  obtain ⟨-, ⟨same, long⟩, cut⟩ := torn
  have notOwn : ¬ ∀ pair ∈ s.zip word.toList, pair.1.toNat < 128 := fun own =>
    takeBytes?_ne_none_of_fits ascii own long (takeBytes?_eq_none_iff.2 cut)
  obtain ⟨⟨a, b⟩, foreign⟩ := Classical.not_forall.1 notOwn
  obtain ⟨mem, foreign⟩ := Classical.not_imp.1 foreign
  obtain ⟨inText, inWord⟩ := List.of_mem_zip mem
  rcases ascii_or_kelvin (List.all_eq_true.1 same _ mem) (ascii b inWord) with own | ⟨rfl, rfl | rfl⟩
  · exact absurd own foreign
  · exact ⟨inText, .inl inWord⟩
  · exact ⟨inText, .inr inWord⟩

/-- With ASCII words the program stops only where the text has the sign for kelvin and a word that is
read without regard to letter case has the letter `k`. -/
theorem kelvin_of_aborted (ascii : o.AsciiWhereIgnored) {text : String}
    (stopped : Expr.parse o text = .error .aborted) : '\u212a' ∈ text.toList
      ∧ ∃ w ∈ o.readWords, w.2 = true ∧ ('k' ∈ w.1.toList ∨ 'K' ∈ w.1.toList) := by
  obtain ⟨word, ignoreCase, r, reached, torn⟩ := parse_aborted_iff.1 stopped
  have listed := reached.mem_readWords
  obtain ⟨sign, letter⟩ := kelvin_of_torn (ascii _ listed torn.1) torn
  exact ⟨(suffix_of_reached reached).subset sign, _, listed, torn.1, letter⟩

end Grammar

end ExprLang
