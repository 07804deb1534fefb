import ExprLang.Text.Case
import ExprLang.Text.Category.Recent
import ExprLang.Text.CharSet

set_option autoImplicit false

/-!
Characters that are the same but for letter case. Two characters are variants of each other when
case mappings to single characters lead from one to the other, in whatever direction they are
followed; the dotless small i stays by itself.
-/

namespace ExprLang

namespace Case

/-- The characters of a run with those that they move to. -/
def Run.pairs (r : Run) : List (Nat × Nat) :=
  (List.range ((r.last - r.first) / r.step + 1)).map fun i =>
    let n := r.first + i * r.step
    (n, (n + r.shift).toNat)

/-- Variants whose mapping to upper case has more than one character. -/
def otherVariants : List (Nat × Nat) :=
  [(0xDF, 0x1E9E), (0x1FD3, 0x390), (0x1FE3, 0x3B0), (0xFB05, 0xFB06)]

/-- The pairs of variants. A pair with a recent letter is left out, as patterns do not know it. -/
def variants : List (Nat × Nat) :=
  let pairs := lowerRuns.flatMap Run.pairs
    ++ (upperRuns.flatMap Run.pairs).filter (fun (n, _) => n ≠ 0x131)
    ++ otherVariants
  pairs.filter fun (a, b) => (Category.ofRecent? a).isNone && (Category.ofRecent? b).isNone

/-- How many steps lead from any variant of a character to any other. -/
def variantSteps : Nat := 4

end Case

namespace CharSet

/-- The variants of members of the set that are no members themselves. -/
def missingVariants (s : CharSet) : List (Nat × Nat) :=
  Case.variants.filterMap fun (a, b) =>
    match s.containsCode a, s.containsCode b with
    | true, false => some (b, b)
    | false, true => some (a, a)
    | _, _ => none

/-- Adds variants until there are no more, or `fuel` times. -/
def foldSteps : (fuel : Nat) → CharSet → CharSet
  | 0, s => s
  | fuel + 1, s =>
    match s.missingVariants with
    | [] => s
    | rs => foldSteps fuel (s.union (ofRanges rs))

/-- The set with all variants of its members. -/
def fold (s : CharSet) : CharSet := foldSteps Case.variantSteps s

/-- The set with the other letter case of its ASCII letters. -/
def foldAscii (s : CharSet) : CharSet :=
  let upper := (s.inter (range 0x61 0x7A)).ranges.map fun (a, b) => (a - 32, b - 32)
  let lower := (s.inter (range 0x41 0x5A)).ranges.map fun (a, b) => (a + 32, b + 32)
  ofRanges (s.ranges ++ upper ++ lower)

end CharSet

end ExprLang
