import ExprLang.Proofs.Grammar.Closure
import ExprLang.Proofs.Grammar.Literals
import ExprLang.Proofs.Tree

set_option autoImplicit false

/-!
Expressions that are legible: the text that each node has of its own is read as that node. What is
read with the words that a language starts with is legible, as long as the lower case that is given
to the name of a call cannot make another word of it.
-/

namespace ExprLang

open Grammar

/-- A name that is read as the name of a node of one kind, whatever the arguments are. -/
structure CallName (o : Options) (name : String) (node : String → List Expr → Expr) : Prop where
  named : isName name.toList = true
  noLiteral : NoLiteralWord o name
  node : ∀ es, callNode? o name es = some (node name es)

namespace Expr

/-- What the node itself contributes to the text is read as this node. -/
def Legible (o : Options) : Expr → Prop
  | literal value source => LiteralText o value source
  | ident name => isName name.toList = true ∧ o.isKeyword name = false
  | call name _ => CallName o name call
  | conditional name _ => CallName o name conditional
  | nullTest name _ => CallName o name nullTest
  | member _ name => o.memberRead = true ∧ isName name.toList = true
  | group _ | operation .. => True

/-- All nodes are legible. -/
def Readable (o : Options) (e : Expr) : Prop := ∀ x : Expr, x.Within e → x.Legible o

variable {o : Options}

theorem Readable.of_mem_children {e x : Expr} (h : e.Readable o) (hx : x ∈ e.children) :
    x.Readable o :=
  forall_within_of_mem_children h hx

end Expr

namespace Grammar

variable {o : Options} {name : String}

theorem noLiteral_of_isKeyword (h : o.isKeyword name = false) : NoLiteralWord o name := by
  simp only [Options.isKeyword, Options.reserved, List.any_cons, List.any_nil, Bool.or_false,
    Bool.or_eq_false_iff] at h
  obtain ⟨-, -, -, null, isTrue, isFalse, -⟩ := h
  exact ⟨null, isTrue, isFalse⟩

theorem isName_lowerText (h : isName name.toList = true) :
    isName (lowerText name).toList = true := by
  have kept : ∀ c : Char, isNameChar c = true → isNameChar c.toLower = true
      ∧ (isNameStart c = true → isNameStart c.toLower = true) := fun c nameChar =>
    forall_ascii (P := fun c => isNameChar c = true → isNameChar c.toLower = true
      ∧ (isNameStart c = true → isNameStart c.toLower = true)) (by decide)
      (toNat_lt_of_isNameChar nameChar) nameChar
  rw [lowerText_ascii (ascii_of_isName h)]
  obtain ⟨c, r, eq, start, rest⟩ := isName_iff.1 h
  rw [eq]
  refine isName_iff.2 ⟨c.toLower, r.map Char.toLower, rfl, ?_, ?_⟩
  · exact (kept c (isNameChar_of_isNameStart start)).2 start
  · intro d mem
    obtain ⟨d, letter, rfl⟩ := List.mem_map.1 mem
    exact (kept d (rest d letter)).1

variable (words : o.UsualWords)

include words

/-- A name that is another word is not that of a literal. -/
theorem noLiteral_of_same {word : String} {ignoreCase : Bool}
    (same : namesEqual ignoreCase name word = true)
    (other : ∀ literal ∈ ["null", "true", "false"], lowerText word ≠ lowerText literal) :
    NoLiteralWord o name where
  null := namesEqual_eq_false_of_same same (words.null ▸ other "null" (by decide))
  isTrue := namesEqual_eq_false_of_same same (words.true ▸ other "true" (by decide))
  isFalse := namesEqual_eq_false_of_same same (words.false ▸ other "false" (by decide))

theorem callName_conditional (named : isName name.toList = true)
    (same : namesEqual o.ignoreConditionalCase name o.conditionalWord = true) :
    CallName o name .conditional where
  named := named
  noLiteral := noLiteral_of_same words same (by rw [words.conditional]; decide)
  node es := by rw [callNode?, if_pos same]

theorem callName_nullTest (named : isName name.toList = true)
    (other : namesEqual o.ignoreConditionalCase name o.conditionalWord = false)
    (same : namesEqual o.ignoreNullTestCase name o.nullTestWord = true) :
    CallName o name .nullTest where
  named := named
  noLiteral := noLiteral_of_same words same (by rw [words.nullTest]; decide)
  node es := by rw [callNode?, other, same]; rfl

omit words in
/-- The name of a call as it is kept. Its lower case is taken only where it is the same name. -/
theorem callName_call (letters : o.ignoreFunctionCase = false ∨ o.ignoringCase = o)
    (named : isName name.toList = true)
    (noConditional : namesEqual o.ignoreConditionalCase name o.conditionalWord = false)
    (noNullTest : namesEqual o.ignoreNullTestCase name o.nullTestWord = false)
    (notReserved : o.isKeyword name = false) :
    CallName o (if o.ignoreFunctionCase then lowerText name else name) .call := by
  by_cases lowered : o.ignoreFunctionCase = true
  · have letters := letters.resolve_left (by rw [lowered]; simp)
    have ascii := ascii_of_isName named
    have isConditional : o.ignoreConditionalCase = true := by rw [← letters]; rfl
    have isNullTest : o.ignoreNullTestCase = true := by rw [← letters]; rfl
    have notReserved' : o.isKeyword (lowerText name) = false := by
      rwa [Options.isKeyword_congr letters (lowerText_lowerText ascii)]
    rw [if_pos lowered]
    refine ⟨isName_lowerText named, noLiteral_of_isKeyword notReserved', fun es => ?_⟩
    rw [isConditional, ← namesEqual_lowerText ascii] at noConditional
    rw [isNullTest, ← namesEqual_lowerText ascii] at noNullTest
    simp [callNode?, isConditional, isNullTest, noConditional, noNullTest, notReserved', lowered,
      lowerText_lowerText ascii]
  · rw [if_neg lowered]
    refine ⟨named, noLiteral_of_isKeyword notReserved, fun es => ?_⟩
    simp [callNode?, noConditional, noNullTest, notReserved, lowered]

/-- What a name and arguments make: a conditional, a null test, or a call if the name is neither and
not reserved. -/
theorem callNode?_cases {es : List Expr} {e : Expr} (named : isName name.toList = true)
    (h : callNode? o name es = some e) :
    (e = .conditional name es ∧ CallName o name .conditional)
      ∨ (e = .nullTest name es ∧ CallName o name .nullTest)
      ∨ (e = .call (if o.ignoreFunctionCase then lowerText name else name) es
        ∧ namesEqual o.ignoreConditionalCase name o.conditionalWord = false
        ∧ namesEqual o.ignoreNullTestCase name o.nullTestWord = false
        ∧ o.isKeyword name = false) := by
  rw [callNode?] at h
  split at h
  · rename_i same
    cases h
    exact .inl ⟨rfl, callName_conditional words named same⟩
  rename_i noConditional
  have noConditional := Bool.eq_false_iff.2 noConditional
  split at h
  · rename_i same
    cases h
    exact .inr (.inl ⟨rfl, callName_nullTest words named noConditional same⟩)
  rename_i noNullTest
  split at h
  · cases h
  rename_i notReserved
  cases h
  exact .inr (.inr ⟨rfl, noConditional, Bool.eq_false_iff.2 noNullTest,
    Bool.eq_false_iff.2 notReserved⟩)

theorem legible_of_callNode? {es : List Expr} {e : Expr}
    (letters : o.ignoreFunctionCase = false ∨ o.ignoringCase = o)
    (named : isName name.toList = true) (h : callNode? o name es = some e) :
    e.Legible o ∧ e.children = es := by
  rcases callNode?_cases words named h with ⟨rfl, own⟩ | ⟨rfl, own⟩ | ⟨rfl, other, other', free⟩
  · exact ⟨own, rfl⟩
  · exact ⟨own, rfl⟩
  · exact ⟨callName_call letters named other other' free, rfl⟩

/-- A condition on nodes holds of all nodes of what the grammar reads, if it holds of legible nodes
and of what names and arguments make. -/
theorem closed_within {P : Expr → Prop}
    (legible : ∀ e : Expr, (∀ name es, e ≠ .call name es) → e.Legible o → P e)
    (calls : ∀ {name : String} {es : List Expr} {e : Expr}, isName name.toList = true →
      callNode? o name es = some e → P e ∧ e.children = es) :
    Closed o fun e => ∀ x : Expr, x.Within e → P x where
  literals read := by
    obtain ⟨v, source, rfl, -, text⟩ := literal_takes words read
    exact Expr.forall_within_of_children (legible _ (by simp) text) (by simp [Expr.children])
  idents named notReserved :=
    Expr.forall_within_of_children (legible _ (by simp) ⟨named, notReserved⟩)
      (by simp [Expr.children])
  calls named hes node := by
    obtain ⟨own, rfl⟩ := calls named node
    exact Expr.forall_within_of_children own hes
  memberReads read named ht :=
    Expr.forall_within_of_children (legible _ (by simp) ⟨read, named⟩)
      (by simpa [Expr.children] using ht)
  groups hi :=
    Expr.forall_within_of_children (legible _ (by simp) trivial) (by simpa [Expr.children] using hi)
  chains op hc ho :=
    Expr.forall_within_append op (fun _ _ _ => legible _ (by simp) trivial) hc ho

/-- Everything that the grammar reads is legible. -/
theorem closed_readable (letters : o.ignoreFunctionCase = false ∨ o.ignoringCase = o) :
    Closed o (Expr.Readable o) :=
  closed_within words (fun _ _ own => own) (legible_of_callNode? words letters)

end Grammar

end ExprLang
