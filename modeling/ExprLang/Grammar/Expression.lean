import ExprLang.Grammar.Numeral
import ExprLang.Grammar.StringLiteral
import ExprLang.Grammar.Word

set_option autoImplicit false

/-!
The grammar of expressions. An expression is a chain of terms and operators; a term is a literal, a
call, a name or a group, with the members read from it. Of several alternatives the first that fits
counts, and the fault of the last one is reported. Every part is read from the end of what came
before, so reading ends.
-/

namespace ExprLang.Grammar

/-- Reads a reserved word that is a literal. -/
def wordLiteral (value : Literal) (word : String) (ignoreCase : Bool) (s : List Char) :
    Reading s Expr :=
  (keyword word ignoreCase s).map fun source => .literal value source

def quotedLiteral (o : Options) (s : List Char) : Reading s Expr :=
  match stringLiteral o.quote.char s with
  | .ok t => .ok ⟨.literal t.value (consumed s t.rest), t.rest, t.suffix⟩
  | .fault f => .fault f
  | .hard f => .hard f

/-- Reads a literal: `null`, a numeral, a boolean or a string. -/
def literal (o : Options) (s : List Char) : Reading s Expr :=
  (wordLiteral .null o.nullWord o.ignoreNullCase s).orElse fun _ =>
  (Reading.ofOption (numeral? s)).orElse fun _ =>
  (wordLiteral (.boolean true) o.trueWord o.ignoreBooleanCase s).orElse fun _ =>
  (wordLiteral (.boolean false) o.falseWord o.ignoreBooleanCase s).orElse fun _ =>
  quotedLiteral o s

/-- The node of a call: the names of the conditional and of the null test have their own, and other
reserved words cannot be called. -/
def callNode? (o : Options) (name : String) (arguments : List Expr) : Option Expr :=
  if namesEqual o.ignoreConditionalCase name o.conditionalWord then
    some (.conditional name arguments)
  else if namesEqual o.ignoreNullTestCase name o.nullTestWord then some (.nullTest name arguments)
  else if o.isKeyword name then none
  else some (.call (if o.ignoreFunctionCase then lowerText name else name) arguments)

/-- Reads a name that is not reserved. -/
def ident? (o : Options) (s : List Char) : Option (Taken s Expr) :=
  match name? s with
  | some t => if o.isKeyword t.value then none else some (t.map .ident)
  | none => none

/-- Reads a point and a name, with blanks around both. -/
def memberName? (s : List Char) : Option (Past s × String) :=
  match pastSpaced? '.' s with
  | none => none
  | some p =>
    match name? p.rest with
    | none => none
    | some t =>
      some (⟨skipBlanks t.rest, ((skipBlanks_suffix _).trans t.suffix).trans p.suffix,
        Nat.lt_of_le_of_lt (Nat.le_trans (length_skipBlanks_le _) t.length_le) p.shorter⟩, t.value)

/-- Reads the members that are read from a target, as many as follow. -/
def members (target : Expr) (s : List Char) : Taken s Expr :=
  match memberName? s with
  | none => ⟨target, s, List.suffix_refl s⟩
  | some (p, name) => (members (.member target name) p.rest).within p.suffix
termination_by s.length
decreasing_by exact p.shorter

/-- What may follow a term: blanks, and members where the language has them. -/
def Taken.finish {s : List Char} (o : Options) (t : Taken s Expr) : Taken s Expr :=
  let rest := skipBlanks t.rest
  have suffix := (skipBlanks_suffix t.rest).trans t.suffix
  if o.memberRead then (members t.value rest).within suffix else ⟨t.value, rest, suffix⟩

mutual

/-- Reads an expression: a term and a chain of operators and terms after it. -/
def expression (o : Options) (s : List Char) : Reading s Expr :=
  match term o s with
  | .ok t => (operands o t.value t.rest).within t.suffix
  | .fault f => .fault f
  | .hard f => .hard f
termination_by 10 * s.length + 6
decreasing_by
  · omega
  · have := t.length_le; omega

/-- Reads the operators and terms that follow a chain. A round that reads nothing is a fault. -/
def operands (o : Options) (chain : Expr) (s : List Char) : Reading s Expr :=
  match operatorSpaced o s with
  | .fault _ => .ok ⟨chain, s, List.suffix_refl s⟩
  | .hard f => .hard f
  | .ok op =>
    match term o op.rest with
    | .fault _ => .ok ⟨chain, s, List.suffix_refl s⟩
    | .hard f => .hard f
    | .ok t =>
      if t.rest.length < s.length then
        (operands o (chain.append op.value t.value) t.rest).within (t.suffix.trans op.suffix)
      else .fault ⟨.emptyRound, s⟩
termination_by 10 * s.length + 5
decreasing_by
  · have := op.length_le; omega
  · omega

/-- Reads a term with the blanks and members around it. -/
def term (o : Options) (s : List Char) : Reading s Expr :=
  match primary o (skipBlanks s) with
  | .ok t => .ok ((t.within (skipBlanks_suffix s)).finish o)
  | .fault f => .fault f
  | .hard f => .hard f
termination_by 10 * s.length + 4
decreasing_by
  have := length_skipBlanks_le s; omega

/-- Reads the first alternative of a term that fits. -/
def primary (o : Options) (s : List Char) : Reading s Expr :=
  match literal o s with
  | .ok t => .ok t
  | .hard f => .hard f
  | .fault _ =>
    match call o s with
    | .ok t => .ok t
    | .hard f => .hard f
    | .fault _ =>
      match ident? o s with
      | some t => .ok t
      | none => group o s
termination_by 10 * s.length + 3

/-- Reads a name with arguments in parentheses. -/
def call (o : Options) (s : List Char) : Reading s Expr :=
  match name? s with
  | none => .fault ⟨.character, s⟩
  | some name =>
    match pastSpaced? '(' name.rest with
    | none => .fault ⟨.character, s⟩
    | some opening =>
      match arguments o opening.rest with
      | .fault f => .fault f
      | .hard f => .hard f
      | .ok arguments =>
        match pastSpaced? ')' arguments.rest with
        | none => .fault ⟨.character, s⟩
        | some closing =>
          match callNode? o name.value arguments.value with
          | none => .fault ⟨.character, s⟩
          | some e =>
            .ok ⟨e, closing.rest,
              ((closing.suffix.trans arguments.suffix).trans opening.suffix).trans name.suffix⟩
termination_by 10 * s.length + 2
decreasing_by
  have := name.length_le; have := opening.shorter; omega

/-- Reads expressions with commas between them, possibly none. -/
def arguments (o : Options) (s : List Char) : Reading s (List Expr) :=
  match expression o s with
  | .fault _ => .ok ⟨[], s, List.suffix_refl s⟩
  | .hard f => .hard f
  | .ok t => ((moreArguments o t.rest).map (t.value :: ·)).within t.suffix
termination_by 10 * s.length + 8
decreasing_by
  · omega
  · have := t.length_le; omega

/-- Reads the arguments after the first, each with a comma before it. -/
def moreArguments (o : Options) (s : List Char) : Reading s (List Expr) :=
  match pastSpaced? ',' s with
  | none => .ok ⟨[], s, List.suffix_refl s⟩
  | some comma =>
    match expression o comma.rest with
    | .fault _ => .ok ⟨[], s, List.suffix_refl s⟩
    | .hard f => .hard f
    | .ok t =>
      ((moreArguments o t.rest).map (t.value :: ·)).within (t.suffix.trans comma.suffix)
termination_by 10 * s.length + 7
decreasing_by
  · have := comma.shorter; omega
  · have := comma.shorter; have := t.length_le; omega

def group (o : Options) (s : List Char) : Reading s Expr :=
  match pastSpaced? '(' s with
  | none => .fault ⟨.character, skipBlanks s⟩
  | some opening =>
    match expression o opening.rest with
    | .fault f => .fault f
    | .hard f => .hard f
    | .ok t =>
      match pastSpaced? ')' t.rest with
      | none => .fault ⟨.character, skipBlanks t.rest⟩
      | some closing =>
        .ok ⟨.group t.value, closing.rest, (closing.suffix.trans t.suffix).trans opening.suffix⟩
termination_by 10 * s.length + 2
decreasing_by
  have := opening.shorter; omega

end

end ExprLang.Grammar

namespace ExprLang

/-- Reads a text that is an expression as a whole. -/
def Expr.parse (o : Options) (text : String) : Except Error Expr :=
  match Grammar.expression o text.toList with
  | .ok t =>
    if t.rest = [] then .ok t.value else .error (.malformed text (.remainder t.rest))
  | .fault f => .error (.malformed text (.unreadable f))
  | .hard f => .error (.ofHard text f)

end ExprLang
