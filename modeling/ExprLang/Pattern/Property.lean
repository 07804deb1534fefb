import ExprLang.Text.Age
import ExprLang.Text.CharSet
import ExprLang.Text.Property
import ExprLang.Text.Property.GraphemeBreak
import ExprLang.Text.Property.SentenceBreak
import ExprLang.Text.Property.WordBreak
import ExprLang.Text.Script

set_option autoImplicit false

/-!
The classes of characters that patterns call by name. The names of properties are compared without
letter case, spaces, hyphens and underscores.
-/

namespace ExprLang.Pattern

/-! Classes of a single letter -/

def digits : CharSet := categorySet [.nd]

def asciiDigits : CharSet := CharSet.range 0x30 0x39

def whiteSpace : CharSet := Property.whiteSpace.chars

def asciiSpace : CharSet := CharSet.ofRanges [(9, 13), (0x20, 0x20)]

def alphabetic : CharSet := Property.alphabetic.chars

def wordChars : CharSet :=
  (alphabetic.union (categorySet [.mn, .mc, .me, .nd, .pc])).union Property.joinControl.chars

def asciiLetters : CharSet := CharSet.ofRanges [(0x41, 0x5A), (0x61, 0x7A)]

def asciiWord : CharSet := (asciiLetters.union asciiDigits).union (CharSet.single '_')

/-! Classes of ASCII characters -/

/-- The ASCII class of a name in brackets with colons. -/
def asciiClass? : String → Option CharSet
  | "alnum" => some (asciiLetters.union asciiDigits)
  | "alpha" => some asciiLetters
  | "ascii" => some (CharSet.range 0 0x7F)
  | "blank" => some (CharSet.ofRanges [(9, 9), (0x20, 0x20)])
  | "cntrl" => some (CharSet.ofRanges [(0, 0x1F), (0x7F, 0x7F)])
  | "digit" => some asciiDigits
  | "graph" => some (CharSet.range 0x21 0x7E)
  | "lower" => some (CharSet.range 0x61 0x7A)
  | "print" => some (CharSet.range 0x20 0x7E)
  | "punct" => some (CharSet.ofRanges [(0x21, 0x2F), (0x3A, 0x40), (0x5B, 0x60), (0x7B, 0x7E)])
  | "space" => some asciiSpace
  | "upper" => some (CharSet.range 0x41 0x5A)
  | "word" => some asciiWord
  | "xdigit" => some (CharSet.ofRanges [(0x30, 0x39), (0x41, 0x46), (0x61, 0x66)])
  | _ => none

/-! Properties -/

/-- The code points that belong to no character. -/
def unassigned : CharSet :=
  ((categorySet Category.assigned).union (CharSet.range 0xD800 0xDFFF)).complement

/-- The set of a general category or of a group of them. -/
def category? : String → Option CharSet
  | "any" => some CharSet.all
  | "assigned" => some unassigned.complement
  | "ascii" => some (CharSet.range 0 0x7F)
  | "l" | "letter" => some (categorySet [.lu, .ll, .lt, .lm, .lo])
  | "lc" | "casedletter" => some (categorySet [.lu, .ll, .lt])
  | "lu" | "uppercaseletter" => some (categorySet [.lu])
  | "ll" | "lowercaseletter" => some (categorySet [.ll])
  | "lt" | "titlecaseletter" => some (categorySet [.lt])
  | "lm" | "modifierletter" => some (categorySet [.lm])
  | "lo" | "otherletter" => some (categorySet [.lo])
  | "m" | "mark" | "combiningmark" => some (categorySet [.mn, .mc, .me])
  | "mn" | "nonspacingmark" => some (categorySet [.mn])
  | "mc" | "spacingmark" => some (categorySet [.mc])
  | "me" | "enclosingmark" => some (categorySet [.me])
  | "n" | "number" => some (categorySet [.nd, .nl, .no])
  | "nd" | "decimalnumber" | "digit" => some (categorySet [.nd])
  | "nl" | "letternumber" => some (categorySet [.nl])
  | "no" | "othernumber" => some (categorySet [.no])
  | "p" | "punctuation" | "punct" => some (categorySet [.pc, .pd, .ps, .pe, .pi, .pf, .po])
  | "pc" | "connectorpunctuation" => some (categorySet [.pc])
  | "pd" | "dashpunctuation" => some (categorySet [.pd])
  | "ps" | "openpunctuation" => some (categorySet [.ps])
  | "pe" | "closepunctuation" => some (categorySet [.pe])
  | "pi" | "initialpunctuation" => some (categorySet [.pi])
  | "pf" | "finalpunctuation" => some (categorySet [.pf])
  | "po" | "otherpunctuation" => some (categorySet [.po])
  | "s" | "symbol" => some (categorySet [.sm, .sc, .sk, .so])
  | "sm" | "mathsymbol" => some (categorySet [.sm])
  | "sc" | "currencysymbol" => some (categorySet [.sc])
  | "sk" | "modifiersymbol" => some (categorySet [.sk])
  | "so" | "othersymbol" => some (categorySet [.so])
  | "z" | "separator" => some (categorySet [.zs, .zl, .zp])
  | "zs" | "spaceseparator" => some (categorySet [.zs])
  | "zl" | "lineseparator" => some (categorySet [.zl])
  | "zp" | "paragraphseparator" => some (categorySet [.zp])
  | "c" | "other" => some ((categorySet [.cc, .cf, .co]).union unassigned)
  | "cc" | "control" | "cntrl" => some (categorySet [.cc])
  | "cf" | "format" => some (categorySet [.cf])
  | "co" | "privateuse" => some (categorySet [.co])
  | "cn" | "unassigned" => some unassigned
  | _ => none

/-- A name as it is compared. -/
def plainName (cs : List Char) : String :=
  let named : List Char :=
    match cs with
    | 'i' :: 's' :: rest | 'i' :: 'S' :: rest | 'I' :: 's' :: rest | 'I' :: 'S' :: rest => rest
    | cs => cs
  let kept := named.filter fun c => c.toNat < 128 && c ≠ ' ' && c ≠ '_' && c ≠ '-'
  let plain := kept.map Char.toLower
  if plain = ['c'] ∧ named.length < cs.length then "isc" else String.ofList plain

/-- The set of a name that stands alone: a property, a category or a script, in this order. -/
def property? (name : String) : Option CharSet :=
  ((Property.named? Property.all name).map Property.chars).or <|
    (category? name).or <| (Script.named? name).map Script.chars

/-- The set of the characters that have a value of a property. -/
def propertyValue? (name value : String) : Option CharSet :=
  let among := fun ps => (Property.named? ps value).map Property.chars
  match name with
  | "generalcategory" | "gc" => category? value
  | "script" | "sc" => (Script.named? value).map Script.chars
  | "scriptextensions" | "scx" => (Script.named? value).map Script.extendedChars
  | "age" => (Age.upTo? value).map CharSet.ofRanges
  | "graphemeclusterbreak" | "gcb" => among Property.GraphemeBreak.all
  | "sentencebreak" | "sb" => among Property.SentenceBreak.all
  | "wordbreak" | "wb" => among Property.WordBreak.all
  | _ => none

/-- The class of a name in braces, which may be a property with a value after a colon, an equals
sign or a sign of inequality. -/
def namedClass? (cs : List Char) : Option CharSet :=
  let before := cs.takeWhile fun c => c ≠ ':' && c ≠ '='
  let after := (cs.drop before.length).drop 1
  let unequal := before.getLast? = some '!' && (cs.drop before.length).head? = some '='
  let value? := fun (name : List Char) (value : List Char) =>
    propertyValue? (plainName name) (plainName value)
  if unequal then (value? before.dropLast after).map CharSet.complement
  else if before.length < cs.length then value? before after
  else property? (plainName cs)

end ExprLang.Pattern
