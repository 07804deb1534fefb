import ExprLang.Proofs.Grammar.Reparse

set_option autoImplicit false

/-!
Layouts of an expression: its source with other blanks in it, and with more of them around its
parts. All layouts of an expression that was read are read as one and the same expression, which
differs from the first one in groups alone.
-/

namespace ExprLang.Expr

open Grammar

/-- A text of the expression with blanks before and after it. -/
def Layouts (e : Expr) (text : String) : Prop :=
  ∃ a cs b, Blank a ∧ Renders e cs ∧ Blank b ∧ text.toList = a ++ (cs ++ b)

variable {o : Options} {e : Expr} {text : String}

/-- The source is the layout with the fewest blanks. -/
theorem layouts_source (e : Expr) : e.Layouts e.source :=
  ⟨[], e.source.toList, [], blank_nil, renders_source e, blank_nil, by simp⟩

/-- With the words that a language starts with no layout of a legible expression is read as anything
else than the expression with a group around each operation. -/
theorem Layouts.parse (layout : e.Layouts text) (words : o.DefaultWords) (readable : e.Readable o) :
    parse o text = .ok e.grouped := by
  obtain ⟨a, cs, b, ha, renders, hb, eq⟩ := layout
  have read := parse_of_renders words readable renders ha hb
  rwa [← eq, String.ofList_toList] at read

/-- Two layouts of an expression that was read are read as the same expression. -/
theorem parse_of_layouts (words : o.DefaultWords)
    (letters : o.ignoreFunctionCase = false ∨ o.ignoringCase = o)
    (read : parse o text = .ok e) {first second : String} (h : e.Layouts first)
    (h' : e.Layouts second) :
    ∃ e', parse o first = .ok e' ∧ parse o second = .ok e'
      ∧ parse o e.source = .ok e' ∧ e'.ungroup = e.ungroup := by
  have readable : e.Readable o := of_parse (closed_readable words.usual letters) read
  exact ⟨e.grouped, h.parse words readable, h'.parse words readable,
    (layouts_source e).parse words readable, ungroup_grouped e⟩

/-- A sum of a call and a member with tabs and line ends between its parts. -/
theorem parse_of_layouts_sum :
    let o : Options := { memberRead := true }
    let e : Expr := operation (call "f" [ident "a"]) .addition (member (ident "c") "d")
    let first := "\t( f\n(a\r) \t+\n c .d )  "
    o.DefaultWords ∧ o.ignoreFunctionCase = false ∧ parse o "f(a)+c.d" = .ok e
      ∧ e.Layouts first ∧ e.Layouts "(f(a) + c.d)"
      ∧ ∃ e', parse o first = .ok e' ∧ parse o "(f(a) + c.d)" = .ok e'
        ∧ parse o e.source = .ok e' ∧ e'.ungroup = e.ungroup := by
  intro o e first
  have words : o.DefaultWords := by constructor <;> rfl
  have read : parse o "f(a)+c.d" = .ok e := toOption_eq_some_iff.1 (by decide +kernel)
  have called : Renders (call "f" [ident "a"]) ['f', '\n', '(', 'a', '\r', ')'] :=
    .call (.intro (a := ['\n']) (b := []) (c := ['\r']) (.cons (.ident "a") .nil)
      (by decide) (by decide) (by decide))
  have member : Renders (member (ident "c") "d") ['c', ' ', '.', 'd'] :=
    .member (a := [' ']) (b := []) (.ident "c") (by decide) (by decide)
  have sum : Renders e _ := .operation (a := [' ']) (b := [' ', '\t']) (c := ['\n', ' '])
    (d := [' ']) called member (by decide) (by decide) (by decide) (by decide) (by decide) (by decide)
  have layout : e.Layouts first := ⟨['\t'], _, [' ', ' '], by decide, sum, by decide, by decide⟩
  have plain : e.Layouts "(f(a) + c.d)" := layouts_source e
  exact ⟨words, rfl, read, layout, plain, parse_of_layouts words (.inl rfl) read layout plain⟩

end ExprLang.Expr
