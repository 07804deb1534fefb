import ExprLang.Grammar.Reading
import ExprLang.Options.Basic

set_option autoImplicit false

/-!
Names and reserved words. A reserved word ends where no character of a name follows. Where letter
case has no meaning, a word is compared character by character and takes as many bytes of the text
as it has itself. These need not be the bytes of whole characters: the Kelvin sign has the lower
case `k` and three bytes.
-/

namespace ExprLang.Grammar

def isNameStart (c : Char) : Bool := c.isAlpha || c = '_'

def isNameChar (c : Char) : Bool := c.isAlphanum || c = '_'

/-- A text of the form of a name. -/
def isName : List Char → Bool
  | [] => false
  | c :: cs => isNameStart c && cs.all isNameChar

def name? : (s : List Char) → Option (Taken s String)
  | [] => none
  | c :: s =>
    if isNameStart c then
      some ⟨String.ofList (c :: s.takeWhile isNameChar), s.dropWhile isNameChar,
        (List.dropWhile_suffix _).trans (List.suffix_cons c s)⟩
    else none

def byteLength : List Char → Nat
  | [] => 0
  | c :: cs => c.utf8Size + byteLength cs

/-- Takes characters that make up exactly `n` bytes. There are none where a character begins before
the `n`-th byte and ends after it. -/
def takeBytes? : (n : Nat) → (s : List Char) → Option (Taken s (List Char))
  | 0, s => some ⟨[], s, List.suffix_refl s⟩
  | _ + 1, [] => none
  | n + 1, c :: s =>
    if c.utf8Size ≤ n + 1 then
      (takeBytes? (n + 1 - c.utf8Size) s).map fun t =>
        (t.map (c :: ·)).within (List.suffix_cons c s)
    else none

/-- The characters of the text are those of the word up to letter case, as far as both go, and the
text is not shorter. -/
def FitsIgnoringCase (word s : List Char) : Prop :=
  (s.zip word).all (fun (a, b) => Case.sameLower a b) = true ∧ byteLength word ≤ byteLength s

instance (word s : List Char) : Decidable (FitsIgnoringCase word s) :=
  inferInstanceAs (Decidable (_ ∧ _))

/-- Reads `word`, whatever follows it. Where letter case has no meaning the characters are compared
first and the bytes are cut off after that; a cut inside of a character stops the program. -/
def spelling (word : List Char) (ignoreCase : Bool) (s : List Char) : Reading s (List Char) :=
  if ignoreCase then
    if FitsIgnoringCase word s then
      match takeBytes? (byteLength word) s with
      | some t => .ok t
      | none => .hard ⟨.torn, s⟩
    else .fault ⟨.character, s⟩
  else if word.isPrefixOf s then .ok ⟨word, s.drop word.length, List.drop_suffix _ s⟩
  else .fault ⟨.character, s⟩

/-- Reads a reserved word as it is written. -/
def keyword (word : String) (ignoreCase : Bool) (s : List Char) : Reading s String :=
  match spelling word.toList ignoreCase s with
  | .ok t =>
    if t.rest.head?.any isNameChar then .fault ⟨.character, t.rest⟩ else .ok (t.map String.ofList)
  | .fault f => .fault f
  | .hard f => .hard f

/-- The operators in the order in which they are tried: a symbol before those it begins with. -/
def operatorSymbols : List (String × Operator) :=
  [("<=", .lessOrEqual), ("<>", .unequal), ("<", .less), (">=", .greaterOrEqual), (">", .greater),
    ("=", .equal), ("^", .power), ("*", .multiplication), ("/", .division), ("+", .addition),
    ("-", .subtraction), ("&", .concatenation)]

def operatorWords (o : Options) : List (String × Operator) :=
  [(o.andWord, .and), (o.orWord, .or), (o.xorWord, .xor)]

def operator (o : Options) (s : List Char) : Reading s Operator :=
  (Reading.firstOf (fun (symbol, op) => (spelling symbol.toList false s).map fun _ => op)
    operatorSymbols).orElse fun _ =>
  Reading.firstOf (fun (word, op) => (keyword word o.ignoreOperatorCase s).map fun _ => op)
    (operatorWords o)

def operatorSpaced (o : Options) (s : List Char) : Reading s Operator :=
  match operator o (skipBlanks s) with
  | .ok t =>
    .ok ⟨t.value, skipBlanks t.rest,
      ((skipBlanks_suffix _).trans t.suffix).trans (skipBlanks_suffix s)⟩
  | .fault f => .fault f
  | .hard f => .hard f

end ExprLang.Grammar
