import ExprLang.Proofs.Grammar.Names
import ExprLang.Proofs.Grammar.Stuck

set_option autoImplicit false

/-!
Languages in which letter case has no meaning for the names of functions. The name of a call is kept
in lower case, and only as it was written it was compared with the words of the language. So its
lower case may be one of these: the source then has another node in place of the call, or it is no
expression.
-/

namespace ExprLang

open Grammar

/-- A word that cannot be the name of anything in parentheses: one for an operator or a literal. -/
def Options.Blocks (o : Options) (name : String) : Prop :=
  name ∈ o.keywords ∧ name ≠ o.conditionalWord

/-- Any other word is that of a conditional or of a null test. -/
theorem Options.not_mem_words_iff (o : Options) {name : String} : name ∉ o.words
    ↔ ¬ o.Blocks name ∧ name ≠ o.conditionalWord ∧ name ≠ o.nullTestWord := by
  have conditional : o.conditionalWord ∈ o.keywords := by simp [keywords, reserved]
  simp only [words, Blocks, List.mem_append, List.mem_singleton]
  grind

namespace Expr

/-- The node that a name before parentheses stands for. -/
def nodeOf (o : Options) (name : String) : String → List Expr → Expr :=
  if name = o.conditionalWord then conditional
  else if name = o.nullTestWord then nullTest
  else call

mutual

/-- The expression with each call as the node that its name stands for. -/
def relabel (o : Options) : Expr → Expr
  | literal value source => literal value source
  | ident name => ident name
  | call name arguments => nodeOf o name name (relabelAll o arguments)
  | conditional name arguments => conditional name (relabelAll o arguments)
  | nullTest name arguments => nullTest name (relabelAll o arguments)
  | member target name => member (target.relabel o) name
  | group inner => group (inner.relabel o)
  | operation left op right => operation (left.relabel o) op (right.relabel o)

def relabelAll (o : Options) : List Expr → List Expr
  | [] => []
  | e :: es => e.relabel o :: relabelAll o es

end

variable {o : Options} {e : Expr} {es : List Expr} {name : String}

theorem relabelAll_eq_map (es : List Expr) : relabelAll o es = es.map (relabel o) := by
  induction es with
  | nil => rfl
  | cons e es ih => rw [relabelAll, ih, List.map_cons]

theorem nodeOf_cases (o : Options) (name : String) :
    (name = o.conditionalWord ∧ nodeOf o name = conditional)
      ∨ (name ≠ o.conditionalWord ∧ name = o.nullTestWord ∧ nodeOf o name = nullTest)
      ∨ (name ≠ o.conditionalWord ∧ name ≠ o.nullTestWord ∧ nodeOf o name = call) := by
  by_cases isConditional : name = o.conditionalWord
  · exact .inl ⟨isConditional, if_pos isConditional⟩
  · by_cases isNullTest : name = o.nullTestWord
    · refine .inr (.inl ⟨isConditional, isNullTest, ?_⟩)
      rw [nodeOf, if_neg isConditional, if_pos isNullTest]
    · refine .inr (.inr ⟨isConditional, isNullTest, ?_⟩)
      rw [nodeOf, if_neg isConditional, if_neg isNullTest]

theorem source_nodeOf (o : Options) (name : String) (es : List Expr) :
    (nodeOf o name name es).source = (call name es).source := by
  rcases nodeOf_cases o name with ⟨-, node⟩ | ⟨-, -, node⟩ | ⟨-, -, node⟩ <;> rw [node] <;> rfl

theorem children_nodeOf (o : Options) (name : String) (es : List Expr) :
    (nodeOf o name name es).children = es := by
  rcases nodeOf_cases o name with ⟨-, node⟩ | ⟨-, -, node⟩ | ⟨-, -, node⟩ <;> rw [node] <;> rfl

theorem legible_nodeOf (callName : CallName o name (nodeOf o name)) (es : List Expr) :
    (nodeOf o name name es).Legible o := by
  rcases nodeOf_cases o name with ⟨-, node⟩ | ⟨-, -, node⟩ | ⟨-, -, node⟩
  all_goals
    rw [node] at callName ⊢
    exact callName

theorem renders_nodeOf {cs : List Char} (text : Renders (nodeOf o name name es) cs) :
    RendersCall name es cs := by
  rcases nodeOf_cases o name with ⟨-, node⟩ | ⟨-, -, node⟩ | ⟨-, -, node⟩
  · exact rendersCall_of_conditional (node ▸ text)
  · exact rendersCall_of_nullTest (node ▸ text)
  · exact rendersCall_of_call (node ▸ text)

theorem source_relabel (e : Expr) : (e.relabel o).source = e.source := by
  have all : ∀ es : List Expr, (∀ e ∈ es, (e.relabel o).source = e.source) →
      sources (relabelAll o es) = sources es := by
    intro es h
    rw [relabelAll_eq_map, sources_eq_map, sources_eq_map, List.map_map]
    exact List.map_congr_left h
  induction e with
  | literal v source => rfl
  | ident name => rfl
  | call name es ih => rw [relabel, source_nodeOf, source, source, all es ih]
  | conditional name es ih => rw [relabel, source, source, all es ih]
  | nullTest name es ih => rw [relabel, source, source, all es ih]
  | member target name ih => rw [relabel, source, source, ih]
  | group inner ih => rw [relabel, source, source, ih]
  | operation left op right ihl ihr => rw [relabel, source, source, ihl, ihr]

/-! Conditions on the names of calls -/

/-- A condition on the names of all calls in an expression. -/
def Calls (P : String → Prop) (e : Expr) : Prop := ∀ name es, (call name es).Within e → P name

variable {P : String → Prop}

theorem calls_iff : e.Calls P
    ↔ (∀ name es, e = call name es → P name) ∧ ∀ x ∈ e.children, x.Calls P := by
  constructor
  · intro h
    refine ⟨fun name es same => h name es (same ▸ .refl), fun x mem name es inside => ?_⟩
    exact h name es (inside.trans (within_of_mem_children mem))
  · intro ⟨own, parts⟩ name es inside
    cases inside with
    | refl => exact own name es rfl
    | child inside mem => exact parts _ mem name es inside

theorem calls_call_iff : (call name es).Calls P ↔ P name ∧ ∀ x ∈ es, x.Calls P := by
  rw [calls_iff]
  refine and_congr_left fun _ => ⟨fun own => own name es rfl, ?_⟩
  rintro own _ _ ⟨⟩
  exact own

theorem calls_of_other (other : ∀ name es, e ≠ call name es) :
    e.Calls P ↔ ∀ x ∈ e.children, x.Calls P := by
  rw [calls_iff]
  exact and_iff_right fun name es same => absurd same (other name es)

theorem calls_and {Q : String → Prop} :
    (e.Calls fun name => P name ∧ Q name) ↔ e.Calls P ∧ e.Calls Q :=
  ⟨fun h => ⟨fun name es inside => (h name es inside).1, fun name es inside => (h name es inside).2⟩,
    fun h name es inside => ⟨h.1 name es inside, h.2 name es inside⟩⟩

theorem ungroupAll_relabelAll_iff :
    ungroupAll (relabelAll o es) = ungroupAll es
      ↔ ∀ e ∈ es, (e.relabel o).ungroup = e.ungroup := by
  rw [relabelAll_eq_map, ungroupAll_eq_map, ungroupAll_eq_map, List.map_map, List.map_inj_left]
  rfl

/-- Up to groups an expression is the same with other labels exactly when no call has the name of a
conditional or of a null test. -/
theorem ungroup_relabel_iff (e : Expr) : (e.relabel o).ungroup = e.ungroup
    ↔ e.Calls fun name => name ≠ o.conditionalWord ∧ name ≠ o.nullTestWord := by
  induction e with
  | literal v source => simp [relabel, calls_of_other, children]
  | ident name => simp [relabel, calls_of_other, children]
  | call name es ih =>
    rw [calls_call_iff, ← forall₂_congr ih, ← ungroupAll_relabelAll_iff, relabel, ungroup]
    rcases nodeOf_cases o name with ⟨same, node⟩ | ⟨-, same, node⟩ | ⟨other, other', node⟩
    · rw [node]
      simp [ungroup, same]
    · rw [node]
      simp [ungroup, same]
    · rw [node]
      simp [ungroup, other, other']
  | conditional name es ih =>
    rw [calls_of_other (by simp), children, ← forall₂_congr ih, ← ungroupAll_relabelAll_iff]
    simp [relabel, ungroup]
  | nullTest name es ih =>
    rw [calls_of_other (by simp), children, ← forall₂_congr ih, ← ungroupAll_relabelAll_iff]
    simp [relabel, ungroup]
  | member target name ih => simp [relabel, ungroup, calls_of_other, children, ih]
  | group inner ih => simp [relabel, ungroup, calls_of_other, children, ih]
  | operation left op right ihl ihr =>
    simp [relabel, ungroup, calls_of_other, children, ihl, ihr]

theorem children_relabel (e : Expr) : (e.relabel o).children = e.children.map (relabel o) := by
  cases e with
  | call name es => rw [relabel, children_nodeOf, children, relabelAll_eq_map]
  | conditional name es => exact relabelAll_eq_map es
  | nullTest name es => exact relabelAll_eq_map es
  | _ => rfl

/-! Names of calls in lower case -/

/-- A node that is legible, except that the name of a call may be any name in lower case. -/
def Lowered (o : Options) : Expr → Prop
  | call name _ => isName name.toList = true ∧ lowerText name = name
  | e => e.Legible o

end Expr

open ExprLang.Expr

section LowerCase

variable {o : Options} {e : Expr} {es : List Expr} {name : String}

theorem namesEqual_iff_eq {ignoreCase : Bool} {a b : String} (ha : lowerText a = a)
    (hb : lowerText b = b) : namesEqual ignoreCase a b = true ↔ a = b := by
  rw [namesEqual_iff, ha, hb]
  exact or_iff_left_of_imp And.right

variable (words : o.DefaultWords)

include words

theorem keywords_eq : o.keywords = ["and", "or", "xor", "null", "true", "false", "if"] := by
  simp only [Options.keywords, Options.reserved, words.and, words.or, words.xor, words.null,
    words.true, words.false, words.conditional, List.map_cons, List.map_nil]

theorem lowerText_words : ∀ word ∈ o.words, lowerText word = word := by
  rw [Options.words, keywords_eq words, words.nullTest]
  decide

theorem nullTestWord_not_mem_keywords : o.nullTestWord ∉ o.keywords := by
  rw [keywords_eq words, words.nullTest]
  decide

theorem namesEqual_word_iff {word : String} {ignoreCase : Bool} (lower : lowerText name = name)
    (mem : word ∈ o.words) : namesEqual ignoreCase name word = true ↔ name = word :=
  namesEqual_iff_eq lower (lowerText_words words word mem)

/-- For names in lower case it makes no difference whether letter case has a meaning. -/
theorem isKeyword_iff_mem (lower : lowerText name = name) :
    o.isKeyword name = true ↔ name ∈ o.keywords := by
  have each : ∀ entry ∈ o.reserved, namesEqual entry.2 name entry.1 = true ↔ name = entry.1 :=
    fun entry mem => namesEqual_word_iff words lower
      (List.mem_append_left _ (List.mem_map_of_mem mem))
  simp only [Options.isKeyword, Options.keywords, List.any_eq_true, List.mem_map]
  refine exists_congr fun entry => and_congr_right fun mem => ?_
  rw [each entry mem, eq_comm]

theorem conditional_iff (lower : lowerText name = name) :
    namesEqual o.ignoreConditionalCase name o.conditionalWord = true
      ↔ name = o.conditionalWord :=
  namesEqual_word_iff words lower (by simp [Options.words, Options.keywords, Options.reserved])

theorem nullTest_iff (lower : lowerText name = name) :
    namesEqual o.ignoreNullTestCase name o.nullTestWord = true ↔ name = o.nullTestWord :=
  namesEqual_word_iff words lower (by simp [Options.words])

/-- Everything that the grammar reads is legible up to the names of calls, which are in lower case.
-/
theorem closed_lowered (letters : o.ignoreFunctionCase = true) :
    Closed o fun e => ∀ x : Expr, x.Within e → x.Lowered o := by
  refine closed_within words.usual ?_ ?_
  · intro e other own
    cases e with
    | call name es => exact absurd rfl (other name es)
    | _ => exact own
  · intro name es e named node
    rcases callNode?_cases words.usual named node with ⟨rfl, own⟩ | ⟨rfl, own⟩ | ⟨rfl, -⟩
    · exact ⟨own, rfl⟩
    · exact ⟨own, rfl⟩
    · rw [if_pos letters]
      exact ⟨⟨isName_lowerText named, lowerText_lowerText (ascii_of_isName named)⟩, rfl⟩

/-- A name in lower case is read before parentheses as what it stands for. -/
theorem callName_nodeOf (letters : o.ignoreFunctionCase = true) (named : isName name.toList = true)
    (lower : lowerText name = name) (free : ¬ o.Blocks name) : CallName o name (nodeOf o name) := by
  rcases nodeOf_cases o name with ⟨same, node⟩ | ⟨other, same, node⟩ | ⟨other, other', node⟩
  · rw [node]
    exact callName_conditional words.usual named ((conditional_iff words lower).2 same)
  · rw [node]
    exact callName_nullTest words.usual named
      (Bool.eq_false_iff.2 (mt (conditional_iff words lower).1 other))
      ((nullTest_iff words lower).2 same)
  · have notReserved : o.isKeyword name = false :=
      Bool.eq_false_iff.2 fun reserved => free ⟨(isKeyword_iff_mem words lower).1 reserved, other⟩
    rw [node]
    refine ⟨named, noLiteral_of_isKeyword notReserved, fun es => ?_⟩
    rw [callNode?, if_neg (mt (conditional_iff words lower).1 other),
      if_neg (mt (nullTest_iff words lower).1 other'), notReserved, if_pos letters, lower]
    rfl

theorem readable_relabel (letters : o.ignoreFunctionCase = true)
    (lowered : ∀ x : Expr, x.Within e → x.Lowered o) (free : e.Calls fun name => ¬ o.Blocks name) :
    (e.relabel o).Readable o := by
  intro x inside
  obtain ⟨y, within, rfl⟩ := (within_map_iff children_relabel).1 inside
  have own := lowered y within
  cases y with
  | call name es =>
    exact legible_nodeOf (callName_nodeOf words letters own.1 own.2 (free name es within)) _
  | _ => exact own

/-! Names that block -/

theorem nodeOf_of_blocks (blocks : o.Blocks name) : nodeOf o name = .call := by
  rcases nodeOf_cases o name with ⟨same, -⟩ | ⟨-, same, -⟩ | ⟨-, -, node⟩
  · exact absurd same blocks.2
  · exact absurd (same ▸ blocks.1) (nullTestWord_not_mem_keywords words)
  · exact node

theorem callNode?_of_blocks (lower : lowerText name = name) (blocks : o.Blocks name)
    (es : List Expr) : callNode? o name es = none := by
  have other : name ≠ o.nullTestWord := by
    rintro rfl
    exact nullTestWord_not_mem_keywords words blocks.1
  rw [callNode?, if_neg (mt (conditional_iff words lower).1 blocks.2),
    if_neg (mt (nullTest_iff words lower).1 other),
    if_pos ((isKeyword_iff_mem words lower).2 blocks.1)]

/-- A call whose name is a word is not read: the word is a literal, or no name. -/
theorem stuck_of_blocks (named : isName name.toList = true) (lower : lowerText name = name)
    (blocks : o.Blocks name) (each : ∀ e ∈ es, Passes o e ∨ Stuck o e) :
    Stuck o (.call name es) := by
  by_cases null : namesEqual o.ignoreNullCase name o.nullWord = true
  · exact stuck_of_literal named (literalText_null words.usual named null)
  by_cases isTrue : namesEqual o.ignoreBooleanCase name o.trueWord = true
  · exact stuck_of_literal named (literalText_true words.usual named isTrue)
  by_cases isFalse : namesEqual o.ignoreBooleanCase name o.falseWord = true
  · exact stuck_of_literal named (literalText_false words.usual named isFalse)
  have noLiteral : NoLiteralWord o name :=
    ⟨Bool.eq_false_iff.2 null, Bool.eq_false_iff.2 isTrue, Bool.eq_false_iff.2 isFalse⟩
  exact stuck_of_call words.usual rendersCall_of_call named noLiteral each
    (.inr (callNode?_of_blocks words lower blocks))

/-- Arguments are read to their end, except those in which a name blocks. -/
theorem arguments_relabel (letters : o.ignoreFunctionCase = true)
    (lowered : ∀ e ∈ es, ∀ x : Expr, x.Within e → x.Lowered o)
    (ih : ∀ e ∈ es, (¬ e.Calls fun name => ¬ o.Blocks name) → Stuck o (e.relabel o)) :
    (∀ e ∈ relabelAll o es, Passes o e ∨ Stuck o e)
      ∧ ((¬ ∀ e ∈ es, e.Calls fun name => ¬ o.Blocks name) →
        ∃ e ∈ relabelAll o es, Stuck o e) := by
  rw [relabelAll_eq_map]
  constructor
  · refine List.forall_mem_map.2 fun e mem => ?_
    by_cases free : e.Calls fun name => ¬ o.Blocks name
    · exact .inl (passes_of_readable words (readable_relabel words letters (lowered e mem) free))
    · exact .inr (ih e mem free)
  · intro blocked
    obtain ⟨e, mem, blocked⟩ : ∃ e ∈ es, ¬ e.Calls fun name => ¬ o.Blocks name := by
      simpa only [not_forall, exists_prop] using blocked
    exact ⟨e.relabel o, List.mem_map_of_mem mem, ih e mem blocked⟩

/-- A name that blocks keeps the whole expression from being read to its end. -/
theorem stuck_relabel (letters : o.ignoreFunctionCase = true) (e : Expr)
    (lowered : ∀ x : Expr, x.Within e → x.Lowered o)
    (blocked : ¬ e.Calls fun name => ¬ o.Blocks name) : Stuck o (e.relabel o) := by
  have usual := words.usual
  induction e with
  | literal v source => exact absurd ((calls_of_other (by simp)).2 (by simp [children])) blocked
  | ident name => exact absurd ((calls_of_other (by simp)).2 (by simp [children])) blocked
  | call name es ih =>
    obtain ⟨named, lower⟩ := lowered _ .refl
    have parts := fun x mem => forall_within_of_mem_children (x := x) lowered mem
    obtain ⟨each, one⟩ :=
      arguments_relabel words letters parts fun x mem => ih x mem (parts x mem)
    rw [relabel]
    by_cases blocks : o.Blocks name
    · rw [nodeOf_of_blocks words blocks]
      exact stuck_of_blocks words named lower blocks each
    · have noLiteral := (callName_nodeOf words letters named lower blocks).noLiteral
      rw [calls_call_iff, and_iff_right blocks] at blocked
      exact stuck_of_call usual renders_nodeOf named noLiteral each (.inl (one blocked))
  | conditional name es ih =>
    have own := lowered _ .refl
    have parts := fun x mem => forall_within_of_mem_children (x := x) lowered mem
    obtain ⟨each, one⟩ :=
      arguments_relabel words letters parts fun x mem => ih x mem (parts x mem)
    rw [calls_of_other (by simp)] at blocked
    exact stuck_of_call usual rendersCall_of_conditional own.named own.noLiteral each
      (.inl (one blocked))
  | nullTest name es ih =>
    have own := lowered _ .refl
    have parts := fun x mem => forall_within_of_mem_children (x := x) lowered mem
    obtain ⟨each, one⟩ :=
      arguments_relabel words letters parts fun x mem => ih x mem (parts x mem)
    rw [calls_of_other (by simp)] at blocked
    exact stuck_of_call usual rendersCall_of_nullTest own.named own.noLiteral each
      (.inl (one blocked))
  | member target name ih =>
    have inner := forall_within_of_mem_children (x := target) lowered (by simp [children])
    rw [calls_of_other (by simp), children, List.forall_mem_singleton] at blocked
    exact stuck_member (ih inner blocked) (lowered _ .refl).2
  | group inner ih =>
    have inside := forall_within_of_mem_children (x := inner) lowered (by simp [children])
    rw [calls_of_other (by simp), children, List.forall_mem_singleton] at blocked
    exact stuck_group usual (ih inside blocked)
  | operation left op right ihl ihr =>
    have innerl := forall_within_of_mem_children (x := left) lowered (by simp [children])
    have innerr := forall_within_of_mem_children (x := right) lowered (by simp [children])
    rw [calls_of_other (by simp), children, List.forall_mem_cons, List.forall_mem_singleton]
      at blocked
    by_cases free : left.Calls fun name => ¬ o.Blocks name
    · obtain ⟨readable, left', reads⟩ :=
        passes_of_readable words (readable_relabel words letters innerl free)
      have stuck := ihr innerr fun free' => blocked ⟨free, free'⟩
      exact stuck_right usual words.readsOperators readable reads (words.reading?_eq op) stuck
    · exact stuck_left usual (ihl innerl free)

end LowerCase

namespace Expr

variable {o : Options} {e : Expr} {text : String}

/-- Where letter case has no meaning for the names of functions, the source of an expression that was
read is an expression exactly when no call has the name of an operator or of a literal. It is then
the one with other labels, and the same exactly when no call has the name of a word. -/
theorem parse_source_of_lowered (words : o.DefaultWords) (letters : o.ignoreFunctionCase = true)
    (read : parse o text = .ok e) :
    ((∃ e', parse o e.source = .ok e') ↔ e.Calls fun name => ¬ o.Blocks name)
      ∧ (∀ e', parse o e.source = .ok e' → e'.ungroup = (e.relabel o).ungroup)
      ∧ ((∃ e', parse o e.source = .ok e' ∧ e'.ungroup = e.ungroup)
        ↔ e.Calls fun name => name ∉ o.words) := by
  have lowered : ∀ x : Expr, x.Within e → x.Lowered o :=
    of_parse (closed_lowered words letters) read
  have usual : (e.relabel o).Usual o := fun _ op _ _ => words.reading?_eq op
  have again : (e.Calls fun name => ¬ o.Blocks name) →
      parse o e.source = .ok (e.relabel o).grouped := by
    intro free
    have readable := readable_relabel words letters lowered free
    rw [← source_relabel]
    exact parse_source_of_reread words.usual words.readsOperators readable
      (reread_eq_grouped usual)
  have free : ∀ e', parse o e.source = .ok e' → e.Calls fun name => ¬ o.Blocks name := by
    intro e' reread
    by_contra blocked
    rw [← source_relabel] at reread
    exact (stuck_relabel words letters e lowered blocked).not_parse words.usual e' reread
  have same : ∀ e', parse o e.source = .ok e' → e'.ungroup = (e.relabel o).ungroup := by
    intro e' reread
    obtain rfl := Except.ok.inj ((again (free e' reread)).symm.trans reread)
    exact ungroup_grouped _
  refine ⟨⟨fun ⟨e', reread⟩ => free e' reread, fun free => ⟨_, again free⟩⟩, same, ?_⟩
  have none : (e.Calls fun name => name ∉ o.words) ↔ (e.Calls fun name => ¬ o.Blocks name)
      ∧ e.Calls fun name => name ≠ o.conditionalWord ∧ name ≠ o.nullTestWord := by
    simp only [o.not_mem_words_iff, calls_and]
  rw [none, ← ungroup_relabel_iff]
  constructor
  · intro ⟨e', reread, eq⟩
    exact ⟨free e' reread, (same e' reread).symm.trans eq⟩
  · intro ⟨unblocked, eq⟩
    exact ⟨_, again unblocked, (ungroup_grouped _).trans eq⟩

/-- A call in capitals that is read again as a conditional, inside another call. -/
theorem parse_source_of_lowered_max :
    let o : Options := { ignoreFunctionCase := true, ignoreOperatorCase := true }
    let e : Expr := call "max" [call "if" [ident "a", ident "b", ident "c"], ident "d"]
    let e' : Expr := call "max" [conditional "if" [ident "a", ident "b", ident "c"], ident "d"]
    o.DefaultWords ∧ o.ignoreFunctionCase = true ∧ parse o "MAX(IF(a, b, c), d)" = .ok e
      ∧ parse o e.source = .ok e' ∧ (e.relabel o).ungroup = e'.ungroup
      ∧ (e.Calls fun name => ¬ o.Blocks name) ∧ ¬ e.Calls fun name => name ∉ o.words := by
  intro o e e'
  have words : o.DefaultWords := by constructor <;> rfl
  have read : parse o "MAX(IF(a, b, c), d)" = .ok e := toOption_eq_some_iff.1 (by decide +kernel)
  have reread : parse o e.source = .ok e' := toOption_eq_some_iff.1 (by decide +kernel)
  obtain ⟨reads, relabelled, again⟩ := parse_source_of_lowered words rfl read
  refine ⟨words, rfl, read, reread, (relabelled e' reread).symm, reads.1 ⟨e', reread⟩, fun free => ?_⟩
  obtain ⟨e'', reread', same⟩ := again.2 free
  obtain rfl := Except.ok.inj (reread.symm.trans reread')
  exact absurd same (by decide)

/-- Calls in capitals whose names are words in lower case: the source of the one is no expression,
that of the other is a conditional. -/
theorem exists_call_with_another_source :
    let o : Options := { ignoreFunctionCase := true }
    o.DefaultWords ∧ o.ignoreFunctionCase = true ∧ o.ignoreOperatorCase = false
      ∧ (∃ e, parse o "AND(a)" = .ok e ∧ ¬ ∃ e', parse o e.source = .ok e')
      ∧ ∃ e, parse o "IF(a)" = .ok e
        ∧ ¬ ∃ e', parse o e.source = .ok e' ∧ e'.ungroup = e.ungroup := by
  intro o
  have words : o.DefaultWords := by constructor <;> rfl
  have read : parse o "AND(a)" = .ok (call "and" [ident "a"]) :=
    toOption_eq_some_iff.1 (by decide +kernel)
  have unread : (parse o "and(a)").toOption = none := by decide +kernel
  have read' : parse o "IF(a)" = .ok (call "if" [ident "a"]) :=
    toOption_eq_some_iff.1 (by decide +kernel)
  have reread : parse o "if(a)" = .ok (conditional "if" [ident "a"]) :=
    toOption_eq_some_iff.1 (by decide +kernel)
  refine ⟨words, rfl, rfl, ⟨_, read, ?_⟩, _, read', ?_⟩
  · rintro ⟨e', other⟩
    have read : (parse o "and(a)").toOption = some e' := toOption_eq_some_iff.2 other
    exact absurd (unread.symm.trans read) nofun
  · rintro ⟨e', other, same⟩
    obtain rfl := Except.ok.inj (reread.symm.trans other)
    exact absurd same (by decide)

end Expr

end ExprLang
