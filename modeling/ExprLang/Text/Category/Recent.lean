import ExprLang.Text.Category.Basic

set_option autoImplicit false

/-!
The characters in which texts and patterns differ. Texts follow a version of the character standard
that is one ahead of the version that patterns follow: it adds characters, and a letter loses its
case.
-/

namespace ExprLang.Category

/-- What the later version adds, by category. -/
def recent : List (Category × List (Nat × Nat)) := [
  (.lu, [(0xA7CE, 0xA7CE), (0xA7D2, 0xA7D2), (0xA7D4, 0xA7D4), (0x16EA0, 0x16EB8)]),
  (.ll, [(0xA7CF, 0xA7CF), (0x16EBB, 0x16ED3)]),
  (.lm, [
    (0xA7F1, 0xA7F1), (0x10EC5, 0x10EC5), (0x11DD9, 0x11DD9), (0x16FF2, 0x16FF3),
    (0x1E6FF, 0x1E6FF)]),
  (.lo, [
    (0x295, 0x295), (0x88F, 0x88F), (0xC5C, 0xC5C), (0xCDC, 0xCDC), (0x10940, 0x10959),
    (0x10EC6, 0x10EC7), (0x11DB0, 0x11DD8), (0x11DDA, 0x11DDB), (0x187F8, 0x187FF),
    (0x18D09, 0x18D1E), (0x18D80, 0x18DF2), (0x1E6C0, 0x1E6DE), (0x1E6E0, 0x1E6E2),
    (0x1E6E4, 0x1E6E5), (0x1E6E7, 0x1E6ED), (0x1E6F0, 0x1E6F4), (0x1E6FE, 0x1E6FE),
    (0x2B73A, 0x2B73F), (0x2CEA2, 0x2CEAD), (0x323B0, 0x33479)]),
  (.mn, [
    (0x1ACF, 0x1ADD), (0x1AE0, 0x1AEB), (0x10EFA, 0x10EFB), (0x11B60, 0x11B60),
    (0x11B62, 0x11B64), (0x11B66, 0x11B66), (0x1E6E3, 0x1E6E3), (0x1E6E6, 0x1E6E6),
    (0x1E6EE, 0x1E6EF), (0x1E6F5, 0x1E6F5)]),
  (.mc, [(0x11B61, 0x11B61), (0x11B65, 0x11B65), (0x11B67, 0x11B67)]),
  (.nd, [(0x11DE0, 0x11DE9)]),
  (.nl, [(0x16FF4, 0x16FF6)]),
  (.po, [(0x10ED0, 0x10ED0)]),
  (.sm, [(0x1CEF0, 0x1CEF0), (0x1F8D0, 0x1F8D8)]),
  (.sc, [(0x20C1, 0x20C1)]),
  (.so, [
    (0x2B96, 0x2B96), (0xFBC3, 0xFBD2), (0xFD90, 0xFD91), (0xFDC8, 0xFDCE), (0x10ED1, 0x10ED8),
    (0x1CCFA, 0x1CCFC), (0x1CEBA, 0x1CED0), (0x1CEE0, 0x1CEEF), (0x1F6D8, 0x1F6D8),
    (0x1F777, 0x1F77A), (0x1FA54, 0x1FA57), (0x1FA8A, 0x1FA8A), (0x1FA8E, 0x1FA8E),
    (0x1FAC8, 0x1FAC8), (0x1FACD, 0x1FACD), (0x1FAEA, 0x1FAEA), (0x1FAEF, 0x1FAEF),
    (0x1FBFA, 0x1FBFA)])]

/-- Recent marks that count as letters. -/
def recentAlphabeticMarks : List (Nat × Nat) := [
  (0x10EFA, 0x10EFB), (0x11B60, 0x11B67), (0x1E6E3, 0x1E6E3), (0x1E6E6, 0x1E6E6),
  (0x1E6EE, 0x1E6EF), (0x1E6F5, 0x1E6F5)]

/-- The category that the later version gives to a code point, where it differs. -/
def ofRecent? (n : Nat) : Option Category :=
  (recent.find? fun (_, rs) => inRanges rs n).map Prod.fst

/-- Whether a code point is a letter of the later version only. -/
def isRecentAlphabetic (n : Nat) : Bool :=
  inRanges recentAlphabeticMarks n || (ofRecent? n).any (· ∈ [lu, ll, lt, lm, lo, nl])

end ExprLang.Category
