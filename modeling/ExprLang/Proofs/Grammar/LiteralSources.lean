import ExprLang.Proofs.Grammar.Closure
import ExprLang.Proofs.Grammar.Literals
import ExprLang.Proofs.Tree

set_option autoImplicit false

/-!
The texts that the literals of an expression keep. Each is a piece of the text that was read,
whatever the words of the language are, and the pieces stand in it from left to right without
overlap: appending an operand to a chain turns the tree but not the order of its literals.
-/

namespace ExprLang

mutual

/-- The texts of the literals, left to right. -/
def Expr.literalSources : Expr → List String
  | literal _ source => [source]
  | ident _ => []
  | call _ arguments | conditional _ arguments | nullTest _ arguments =>
    literalSourcesAll arguments
  | member target _ => target.literalSources
  | group inner => inner.literalSources
  | operation left _ right => left.literalSources ++ right.literalSources

def Expr.literalSourcesAll : List Expr → List String
  | [] => []
  | e :: es => e.literalSources ++ literalSourcesAll es

end

namespace Expr

theorem literalSourcesAll_eq_flatMap (es : List Expr) :
    literalSourcesAll es = es.flatMap literalSources := by
  induction es with
  | nil => rfl
  | cons e es ih => rw [literalSourcesAll, ih, List.flatMap_cons]

theorem mem_literalSources_of_child {e x : Expr} (h : x ∈ e.children) {source : String}
    (mem : source ∈ x.literalSources) : source ∈ e.literalSources := by
  cases e with
  | literal v source => cases h
  | ident name => cases h
  | call name es | conditional name es | nullTest name es =>
    rw [literalSources, literalSourcesAll_eq_flatMap]
    exact List.mem_flatMap.2 ⟨x, h, mem⟩
  | member target name =>
    rw [List.mem_singleton.1 h] at mem
    exact mem
  | group inner =>
    rw [List.mem_singleton.1 h] at mem
    exact mem
  | operation left op right =>
    simp only [children, List.mem_cons, List.not_mem_nil, or_false] at h
    rcases h with rfl | rfl
    · exact List.mem_append_left _ mem
    · exact List.mem_append_right _ mem

/-- No literal of the tree is left out. -/
theorem mem_literalSources_of_within {e : Expr} {v : Literal} {source : String}
    (h : (literal v source).Within e) : source ∈ e.literalSources := by
  induction h with
  | refl => exact List.mem_singleton_self source
  | child _ child ih => exact mem_literalSources_of_child child ih

/-- The tree of a chain may turn, its literals stay in order. -/
theorem literalSources_append (chain : Expr) (op : Operator) (operand : Expr) :
    (chain.append op operand).literalSources = chain.literalSources ++ operand.literalSources := by
  induction chain with
  | operation left root right _ ihr =>
    unfold append
    split
    · rw [literalSources, ihr, literalSources, List.append_assoc]
    · rfl
  | _ => rfl

end Expr

namespace Grammar

/-- The pieces stand in the text in this order, and none begins before the one in front of it
ends. -/
inductive InOrder : List String → List Char → Prop
  | nil (text : List Char) : InOrder [] text
  | cons (before : List Char) (piece : String) {pieces : List String} {after : List Char}
      (more : InOrder pieces after) : InOrder (piece :: pieces) (before ++ (piece.toList ++ after))

variable {pieces pieces' : List String} {text text' : List Char}

theorem InOrder.behind (h : InOrder pieces text) (front : List Char) :
    InOrder pieces (front ++ text) := by
  cases h with
  | nil => exact .nil _
  | cons before piece more =>
    rw [← List.append_assoc]
    exact .cons (front ++ before) piece more

theorem InOrder.append (h : InOrder pieces text) (h' : InOrder pieces' text') :
    InOrder (pieces ++ pieces') (text ++ text') := by
  induction h with
  | nil text => exact h'.behind text
  | cons before piece more ih =>
    rw [List.append_assoc, List.append_assoc]
    exact .cons before piece ih

/-- The pieces stand in what was read of the text up to what is left. -/
def Shown (pieces : List String) (s left : List Char) : Prop :=
  ∃ text, s = text ++ left ∧ InOrder pieces text

theorem Shown.of_suffix {s left : List Char} (h : left <:+ s) : Shown [] s left := by
  obtain ⟨text, rfl⟩ := h
  exact ⟨text, rfl, .nil text⟩

theorem Shown.trans {s r left : List Char} (h : Shown pieces s r) (h' : Shown pieces' r left) :
    Shown (pieces ++ pieces') s left := by
  obtain ⟨text, rfl, inText⟩ := h
  obtain ⟨text', rfl, inText'⟩ := h'
  exact ⟨text ++ text', (List.append_assoc ..).symm, inText.append inText'⟩

/-- What is read before the first piece does not matter, -/
theorem Shown.after {s r left : List Char} (h : r <:+ s) (h' : Shown pieces r left) :
    Shown pieces s left :=
  (Shown.of_suffix h).trans h'

/-- nor what is read after the last one. -/
theorem Shown.before {s r left : List Char} (h : Shown pieces s r) (h' : left <:+ r) :
    Shown pieces s left := by
  have both := h.trans (.of_suffix h')
  rwa [List.append_nil] at both

theorem Shown.of_split {s left : List Char} {piece : String} (h : s = piece.toList ++ left) :
    Shown [piece] s left := by
  refine ⟨piece.toList, h, ?_⟩
  have alone := InOrder.cons [] piece (.nil [])
  rwa [List.nil_append, List.append_nil] at alone

/-! Literals keep the text that they are read from -/

theorem consumed_split {s rest : List Char} (h : rest <:+ s) :
    s = (consumed s rest).toList ++ rest := by
  obtain ⟨text, rfl⟩ := h
  rw [consumed_append, String.toList_ofList]

theorem wordLiteral_split {v : Literal} {word : String} {ignoreCase : Bool} {s : List Char}
    {t : Taken s Expr} (h : wordLiteral v word ignoreCase s = .ok t) :
    ∃ source, t.value = .literal v source ∧ s = source.toList ++ t.rest := by
  obtain ⟨u, found, rfl⟩ := Reading.map_eq_ok_iff.1 h
  obtain ⟨w, spelled, -, rfl⟩ := keyword_cases found
  refine ⟨String.ofList w.value, rfl, ?_⟩
  rw [String.toList_ofList]
  exact spelling_split spelled

theorem numeral?_split {s : List Char} {t : Taken s Expr} (h : numeral? s = some t) :
    ∃ v source, t.value = .literal v source ∧ s = source.toList ++ t.rest := by
  obtain ⟨v, source, value, split, -⟩ := numeral?_eq_some h
  exact ⟨v, source, value, split⟩

variable {o : Options}

theorem literal_split {s left : List Char} {e : Expr} (h : (literal o s).Takes e left) :
    ∃ v source, e = .literal v source ∧ s = source.toList ++ left := by
  obtain ⟨suffix, read⟩ := h
  rcases literal_ok_cases read with null | numeral | isTrue | isFalse | ⟨-, quoted⟩
  · exact ⟨_, wordLiteral_split null⟩
  · exact numeral?_split numeral
  · exact ⟨_, wordLiteral_split isTrue⟩
  · exact ⟨_, wordLiteral_split isFalse⟩
  · obtain ⟨v, -, rfl⟩ := quotedLiteral_takes_iff.1 ⟨suffix, quoted⟩
    exact ⟨v, _, rfl, consumed_split suffix⟩

/-! Expressions -/

theorem PastSpaced.suffix {c : Char} {s left : List Char} (h : PastSpaced c s left) :
    left <:+ s := by
  obtain ⟨p, -, rfl⟩ := h
  exact p.suffix

theorem Reading.Takes.suffix {s left : List Char} {α : Type} {x : Reading s α} {v : α}
    (h : x.Takes v left) : left <:+ s := by
  obtain ⟨suffix, -⟩ := h
  exact suffix

theorem literalSources_callNode? {name : String} {es : List Expr} {e : Expr}
    (h : callNode? o name es = some e) : e.literalSources = Expr.literalSourcesAll es := by
  unfold callNode? at h
  repeat' split at h
  all_goals cases h
  all_goals rfl

theorem literalSources_members (target : Expr) (s : List Char) :
    (members target s).value.literalSources = target.literalSources := by
  induction target, s using members.induct with
  | case1 target s none => rw [(members_of_none target none).1]
  | case2 target s p name found ih => rw [(members_of_some target found).1, ih, Expr.literalSources]

theorem Shown.followed {e v : Expr} {s r left : List Char} (h : Shown v.literalSources s r)
    (eq : followed o v r = (e, left)) : Shown e.literalSources s left := by
  have blanks := skipBlanks_suffix r
  rw [Grammar.followed] at eq
  split at eq
  · cases eq
    rw [literalSources_members]
    exact h.before ((members v (skipBlanks r)).suffix.trans blanks)
  · cases eq
    exact h.before blanks

mutual

theorem shown_expression (s : List Char) {e : Expr} {left : List Char}
    (read : (expression o s).Takes e left) : Shown e.literalSources s left := by
  obtain ⟨v, r, first, more⟩ := expression_takes_iff.1 read
  have := first.length_le
  obtain ⟨pieces, eq, shown⟩ := shown_operands r v more
  rw [eq]
  exact (shown_term s first).trans shown
termination_by 10 * s.length + 6

/-- The literals of the operands come after those of the chain. -/
theorem shown_operands (s : List Char) (chain : Expr) {e : Expr} {left : List Char}
    (read : (operands o chain s).Takes e left) :
    ∃ pieces, e.literalSources = chain.literalSources ++ pieces ∧ Shown pieces s left := by
  rcases operands_takes read with ⟨rfl, rfl⟩ | ⟨op, -, v, r, operand, shorter, more⟩
  · exact ⟨[], (List.append_nil _).symm, .of_suffix (List.suffix_refl _)⟩
  · have := op.length_le
    obtain ⟨pieces, eq, shown⟩ := shown_operands r _ more
    refine ⟨v.literalSources ++ pieces, ?_,
      (shown_term op.rest operand).trans shown |>.after op.suffix⟩
    rw [eq, Expr.literalSources_append, List.append_assoc]
termination_by 10 * s.length + 5

theorem shown_term (s : List Char) {e : Expr} {left : List Char}
    (read : (term o s).Takes e left) : Shown e.literalSources s left := by
  obtain ⟨v, r, head, eq⟩ := term_takes_iff.1 read
  have := length_skipBlanks_le s
  exact (shown_primary (skipBlanks s) head).after (skipBlanks_suffix s) |>.followed eq
termination_by 10 * s.length + 4

theorem shown_primary (s : List Char) {e : Expr} {left : List Char}
    (read : (primary o s).Takes e left) : Shown e.literalSources s left := by
  rcases primary_takes read with text | called | ⟨suffix, named⟩ | grouped
  · obtain ⟨v, source, rfl, split⟩ := literal_split text
    exact .of_split split
  · exact shown_call s called
  · obtain ⟨name, rfl, -⟩ := ident?_eq_some named
    exact .of_suffix suffix
  · exact shown_group s grouped
termination_by 10 * s.length + 3

theorem shown_call (s : List Char) {e : Expr} {left : List Char}
    (read : (call o s).Takes e left) : Shown e.literalSources s left := by
  obtain ⟨name, r, opening, es, t, ⟨suffix, -⟩, opened, list, closed, node⟩ := call_takes read
  have := suffix.length_le
  have := opened.length_lt
  rw [literalSources_callNode? node]
  exact (shown_arguments opening list).after (opened.suffix.trans suffix) |>.before closed.suffix
termination_by 10 * s.length + 2

theorem shown_arguments (s : List Char) {es : List Expr} {left : List Char}
    (read : (arguments o s).Takes es left) : Shown (Expr.literalSourcesAll es) s left := by
  rcases arguments_takes read with rfl | ⟨v, r, vs, first, more, rfl⟩
  · exact .of_suffix read.suffix
  · have := first.length_le
    exact (shown_expression s first).trans (shown_moreArguments r more)
termination_by 10 * s.length + 8

theorem shown_moreArguments (s : List Char) {es : List Expr} {left : List Char}
    (read : (moreArguments o s).Takes es left) : Shown (Expr.literalSourcesAll es) s left := by
  rcases moreArguments_takes read with rfl | ⟨opening, v, r, vs, passed, first, more, rfl⟩
  · exact .of_suffix read.suffix
  · have := passed.length_lt
    have := first.length_le
    exact (shown_expression opening first).trans (shown_moreArguments r more) |>.after passed.suffix
termination_by 10 * s.length + 7

theorem shown_group (s : List Char) {e : Expr} {left : List Char}
    (read : (group o s).Takes e left) : Shown e.literalSources s left := by
  obtain ⟨opening, v, r, opened, inner, closed, rfl⟩ := group_takes read
  have := opened.length_lt
  exact (shown_expression opening inner).after opened.suffix |>.before closed.suffix
termination_by 10 * s.length + 2

end

/-- The literals of a text that is read keep pieces of it, in order and without overlap. -/
theorem inOrder_of_parse {text : String} {e : Expr} (h : Expr.parse o text = .ok e) :
    InOrder e.literalSources text.toList := by
  obtain ⟨read, eq, inOrder⟩ := shown_expression text.toList (Expr.parse_eq_ok_iff.1 h)
  rwa [eq, List.append_nil]

end Grammar

end ExprLang
