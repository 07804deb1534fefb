set_option autoImplicit false

/-!
Rounding of an exact quotient to a natural number. The two rules differ only in where a quotient
that lies halfway between two numbers goes.
-/

namespace ExprLang

/-- Where a quotient goes that is exactly halfway between its neighbours. -/
inductive Tie
  | toEven
  | up
deriving DecidableEq, Repr

namespace Tie

/-- Whether a quotient with whole part `q` and remainder `r` of `den` goes to `q + 1`. -/
def roundsUp (tie : Tie) (q r den : Nat) : Bool :=
  den < 2 * r || (2 * r = den && (tie = up || q % 2 = 1))

def roundDiv (tie : Tie) (num den : Nat) : Nat :=
  if tie.roundsUp (num / den) (num % den) den then num / den + 1 else num / den

theorem roundDiv_le (tie : Tie) (num den : Nat) : tie.roundDiv num den ≤ num / den + 1 := by
  unfold roundDiv
  split <;> omega

theorem roundDiv_one (tie : Tie) (num : Nat) : tie.roundDiv num 1 = num := by
  simp [roundDiv, roundsUp, Nat.mod_one]

end Tie

end ExprLang
