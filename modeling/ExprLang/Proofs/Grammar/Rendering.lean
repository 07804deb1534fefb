import ExprLang.Proofs.Grammar.Reading
import ExprLang.Proofs.Tree

set_option autoImplicit false

/-!
Texts of an expression. Operations are written in parentheses and blanks may stand between the
parts; where two parts would otherwise run into each other there is at least one. `Expr.source` is
one of these texts.
-/

namespace ExprLang.Grammar

mutual

/-- A text of an expression, without blanks around it. -/
inductive Renders : Expr → List Char → Prop
  | literal (value : Literal) (source : String) : Renders (.literal value source) source.toList
  | ident (name : String) : Renders (.ident name) name.toList
  | call {name : String} {es : List Expr} {cs : List Char} :
    RendersCall name es cs → Renders (.call name es) cs
  | conditional {name : String} {es : List Expr} {cs : List Char} :
    RendersCall name es cs → Renders (.conditional name es) cs
  | nullTest {name : String} {es : List Expr} {cs : List Char} :
    RendersCall name es cs → Renders (.nullTest name es) cs
  | member {target : Expr} {name : String} {cs a b : List Char} : Renders target cs →
    Blank a → Blank b → Renders (.member target name) (cs ++ (a ++ '.' :: (b ++ name.toList)))
  | group {inner : Expr} {cs a b : List Char} : Renders inner cs →
    Blank a → Blank b → Renders (.group inner) ('(' :: (a ++ (cs ++ (b ++ [')']))))
  | operation {left right : Expr} {op : Operator} {cs ds a b c d : List Char} :
    Renders left cs → Renders right ds → Blank a → Blank b → b ≠ [] → Blank c → c ≠ [] → Blank d →
    Renders (.operation left op right)
      ('(' :: (a ++ (cs ++ (b ++ (op.symbol.toList ++ (c ++ (ds ++ (d ++ [')']))))))))

/-- A name with arguments in parentheses. -/
inductive RendersCall : String → List Expr → List Char → Prop
  | intro {name : String} {es : List Expr} {cs a b c : List Char} : RendersAll es cs →
    Blank a → Blank b → Blank c →
    RendersCall name es (name.toList ++ (a ++ '(' :: (b ++ (cs ++ (c ++ [')'])))))

/-- Arguments with commas between them. -/
inductive RendersAll : List Expr → List Char → Prop
  | nil : RendersAll [] []
  | cons {e : Expr} {es : List Expr} {cs ds : List Char} : Renders e cs → RendersMore es ds →
    RendersAll (e :: es) (cs ++ ds)

/-- Arguments with a comma before each. -/
inductive RendersMore : List Expr → List Char → Prop
  | nil : RendersMore [] []
  | cons {e : Expr} {es : List Expr} {cs ds a b : List Char} : Renders e cs → RendersMore es ds →
    Blank a → Blank b → RendersMore (e :: es) (a ++ ',' :: (b ++ (cs ++ ds)))

end

section

variable {name : String} {es : List Expr} {cs : List Char}

theorem rendersCall_of_call (text : Renders (.call name es) cs) : RendersCall name es cs := by
  cases text
  assumption

theorem rendersCall_of_conditional (text : Renders (.conditional name es) cs) :
    RendersCall name es cs := by
  cases text
  assumption

theorem rendersCall_of_nullTest (text : Renders (.nullTest name es) cs) :
    RendersCall name es cs := by
  cases text
  assumption

end

theorem blank_nil : Blank [] := by simp [Blank]

theorem blank_space : Blank [' '] := by simp [Blank, isBlank]

open ExprLang.Expr

theorem rendersMore_sources {e : Expr} {es : List Expr} (h : ∀ x ∈ es, Renders x x.source.toList) :
    ∃ ds, (", ".intercalate (sources (e :: es))).toList = e.source.toList ++ ds
      ∧ RendersMore es ds := by
  induction es generalizing e with
  | nil => exact ⟨[], by simp [sources], .nil⟩
  | cons x es ih =>
    obtain ⟨head, tail⟩ := List.forall_mem_cons.1 h
    obtain ⟨ds, split, more⟩ := ih (e := x) tail
    refine ⟨_, ?_, .cons head more blank_nil blank_space⟩
    rw [sources, sources, String.intercalate_cons_cons, ← sources, String.toList_append,
      String.toList_append, split]
    simp

theorem rendersAll_sources {es : List Expr} (h : ∀ x ∈ es, Renders x x.source.toList) :
    RendersAll es (", ".intercalate (sources es)).toList := by
  cases es with
  | nil => exact .nil
  | cons e es =>
    obtain ⟨head, tail⟩ := List.forall_mem_cons.1 h
    obtain ⟨ds, split, more⟩ := rendersMore_sources (e := e) tail
    rw [split]
    exact .cons head more

theorem rendersCall_sources {name : String} {es : List Expr}
    (h : ∀ x ∈ es, Renders x x.source.toList) :
    RendersCall name es (name ++ "(" ++ ", ".intercalate (sources es) ++ ")").toList := by
  have text : RendersCall name es _ :=
    .intro (rendersAll_sources h) blank_nil blank_nil blank_nil
  simpa using text

theorem renders_source (e : Expr) : Renders e e.source.toList := by
  induction e with
  | literal v source => exact .literal v source
  | ident name => exact .ident name
  | call name es ih =>
    rw [source]
    exact .call (rendersCall_sources ih)
  | conditional name es ih =>
    rw [source]
    exact .conditional (rendersCall_sources ih)
  | nullTest name es ih =>
    rw [source]
    exact .nullTest (rendersCall_sources ih)
  | member target name ih => simpa [source] using Renders.member ih blank_nil blank_nil
  | group inner ih => simpa [source] using Renders.group ih blank_nil blank_nil
  | operation left op right ihl ihr =>
    have text : Renders (operation left op right) _ :=
      .operation ihl ihr blank_nil blank_space (by simp) blank_space (by simp) blank_nil
    simpa [source] using text

end ExprLang.Grammar
