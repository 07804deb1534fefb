import ExprLang.Expr.Basic
import ExprLang.Grammar.Reading

set_option autoImplicit false

/-!
String literals. Between two quotes stand characters for themselves and escapes with a backslash.
Once the opening quote is read, an escape that is none and a missing closing quote are hard faults.
-/

namespace ExprLang.Grammar

namespace StringLiteral

/-- What a character stands for after a backslash. -/
def escape? (quote c : Char) : Option Char :=
  if c = quote then some c
  else
    match c with
    | '\\' => some '\\'
    | 'a' => some '\x07'
    | 'b' => some '\x08'
    | 'f' => some '\x0c'
    | 'n' => some '\n'
    | 'r' => some '\r'
    | 't' => some '\t'
    | 'v' => some '\x0b'
    | _ => none

/-- Reads up to the closing quote and decodes what stands before it. -/
def body (quote : Char) : (s : List Char) → Reading s (List Char)
  | [] => .hard ⟨.character, []⟩
  | c :: s =>
    if c = quote then .ok ⟨[], s, List.suffix_cons c s⟩
    else if c = '\\' then
      match s with
      | [] => .hard ⟨.escape, [c]⟩
      | e :: s =>
        match escape? quote e with
        | none => .hard ⟨.escape, c :: e :: s⟩
        | some d =>
          ((body quote s).map (d :: ·)).within
            ((List.suffix_cons e s).trans (List.suffix_cons c (e :: s)))
    else ((body quote s).map (c :: ·)).within (List.suffix_cons c s)

end StringLiteral

def stringLiteral (quote : Char) (s : List Char) : Reading s Literal :=
  match past? quote s with
  | none => .fault ⟨.character, s⟩
  | some p =>
    ((StringLiteral.body quote p.rest).map fun cs => Literal.string (String.ofList cs)).within
      p.suffix

end ExprLang.Grammar
