import ExprLang.Text.Property.Basic

set_option autoImplicit false

/-!
The classes of characters by which text is divided into what readers take for one character.
-/

namespace ExprLang.Property.GraphemeBreak

/-- The carriage return. -/
def cr : Property where
  names := ["cr"]
  more := [(0xD, 0xD)]

/-- The line feed. -/
def lf : Property where
  names := ["lf"]
  more := [(0xA, 0xA)]

/-- Controls and other characters that stand apart. -/
def control : Property where
  names := ["control", "cn"]
  categories := [.zl, .zp, .cc, .cf]
  more := [
    (0x2065, 0x2065), (0xFFF0, 0xFFF8), (0xE0000, 0xE0000), (0xE0002, 0xE001F),
    (0xE0080, 0xE00FF), (0xE01F0, 0xE0FFF)]
  less := [
    (0xA, 0xA), (0xD, 0xD), (0x600, 0x605), (0x6DD, 0x6DD), (0x70F, 0x70F), (0x890, 0x891),
    (0x8E2, 0x8E2), (0x200C, 0x200D), (0x110BD, 0x110BD), (0x110CD, 0x110CD), (0xE0020, 0xE007F)]

/-- Characters that attach to the one before them. -/
def extend : Property where
  names := ["extend", "ex"]
  categories := [.mn, .me]
  more := [
    (0x9BE, 0x9BE), (0x9D7, 0x9D7), (0xB3E, 0xB3E), (0xB57, 0xB57), (0xBBE, 0xBBE),
    (0xBD7, 0xBD7), (0xCC0, 0xCC0), (0xCC2, 0xCC2), (0xCC7, 0xCC8), (0xCCA, 0xCCB),
    (0xCD5, 0xCD6), (0xD3E, 0xD3E), (0xD57, 0xD57), (0xDCF, 0xDCF), (0xDDF, 0xDDF),
    (0x1715, 0x1715), (0x1734, 0x1734), (0x1B35, 0x1B35), (0x1B3B, 0x1B3B), (0x1B3D, 0x1B3D),
    (0x1B43, 0x1B44), (0x1BAA, 0x1BAA), (0x1BF2, 0x1BF3), (0x200C, 0x200C), (0x302E, 0x302F),
    (0xA953, 0xA953), (0xA9C0, 0xA9C0), (0xFF9E, 0xFF9F), (0x111C0, 0x111C0), (0x11235, 0x11235),
    (0x1133E, 0x1133E), (0x1134D, 0x1134D), (0x11357, 0x11357), (0x113B8, 0x113B8),
    (0x113C2, 0x113C2), (0x113C5, 0x113C5), (0x113C7, 0x113C9), (0x113CF, 0x113CF),
    (0x114B0, 0x114B0), (0x114BD, 0x114BD), (0x115AF, 0x115AF), (0x116B6, 0x116B6),
    (0x11930, 0x11930), (0x1193D, 0x1193D), (0x11F41, 0x11F41), (0x16FF0, 0x16FF1),
    (0x1D165, 0x1D166), (0x1D16D, 0x1D172), (0x1F3FB, 0x1F3FF), (0xE0020, 0xE007F)]

/-- The joiner without width. -/
def zwj : Property where
  names := ["zwj"]
  more := [(0x200D, 0x200D)]

/-- Letters that make flags in pairs. -/
def regionalIndicator : Property where
  names := ["regionalindicator", "ri"]
  more := [(0x1F1E6, 0x1F1FF)]

/-- Signs that attach to the character after them. -/
def prepend : Property where
  names := ["prepend", "pp"]
  more := [
    (0x600, 0x605), (0x6DD, 0x6DD), (0x70F, 0x70F), (0x890, 0x891), (0x8E2, 0x8E2),
    (0xD4E, 0xD4E), (0x110BD, 0x110BD), (0x110CD, 0x110CD), (0x111C2, 0x111C3),
    (0x113D1, 0x113D1), (0x1193F, 0x1193F), (0x11941, 0x11941), (0x11A3A, 0x11A3A),
    (0x11A84, 0x11A89), (0x11D46, 0x11D46), (0x11F02, 0x11F02)]

/-- Marks with room of their own that attach to the character before them. -/
def spacingMark : Property where
  names := ["spacingmark", "sm"]
  categories := [.mc]
  more := [(0xE33, 0xE33), (0xEB3, 0xEB3)]
  less := [
    (0x9BE, 0x9BE), (0x9D7, 0x9D7), (0xB3E, 0xB3E), (0xB57, 0xB57), (0xBBE, 0xBBE),
    (0xBD7, 0xBD7), (0xCC0, 0xCC0), (0xCC2, 0xCC2), (0xCC7, 0xCC8), (0xCCA, 0xCCB),
    (0xCD5, 0xCD6), (0xD3E, 0xD3E), (0xD57, 0xD57), (0xDCF, 0xDCF), (0xDDF, 0xDDF),
    (0x102B, 0x102C), (0x1038, 0x1038), (0x1062, 0x1064), (0x1067, 0x106D), (0x1083, 0x1083),
    (0x1087, 0x108C), (0x108F, 0x108F), (0x109A, 0x109C), (0x1715, 0x1715), (0x1734, 0x1734),
    (0x1A61, 0x1A61), (0x1A63, 0x1A64), (0x1B35, 0x1B35), (0x1B3B, 0x1B3B), (0x1B3D, 0x1B3D),
    (0x1B43, 0x1B44), (0x1BAA, 0x1BAA), (0x1BF2, 0x1BF3), (0x302E, 0x302F), (0xA953, 0xA953),
    (0xA9C0, 0xA9C0), (0xAA7B, 0xAA7B), (0xAA7D, 0xAA7D), (0x111C0, 0x111C0), (0x11235, 0x11235),
    (0x1133E, 0x1133E), (0x1134D, 0x1134D), (0x11357, 0x11357), (0x113B8, 0x113B8),
    (0x113C2, 0x113C2), (0x113C5, 0x113C5), (0x113C7, 0x113C9), (0x113CF, 0x113CF),
    (0x114B0, 0x114B0), (0x114BD, 0x114BD), (0x115AF, 0x115AF), (0x116B6, 0x116B6),
    (0x11720, 0x11721), (0x11930, 0x11930), (0x1193D, 0x1193D), (0x11F41, 0x11F41),
    (0x16FF0, 0x16FF1), (0x1D165, 0x1D166), (0x1D16D, 0x1D172)]

/-- Leading consonants of Hangul. -/
def l : Property where
  names := ["l"]
  more := [(0x1100, 0x115F), (0xA960, 0xA97C)]

/-- Vowels of Hangul and of scripts with vowels like them. -/
def v : Property where
  names := ["v"]
  more := [(0x1160, 0x11A7), (0xD7B0, 0xD7C6), (0x16D63, 0x16D63), (0x16D67, 0x16D6A)]

/-- Trailing consonants of Hangul. -/
def t : Property where
  names := ["t"]
  more := [(0x11A8, 0x11FF), (0xD7CB, 0xD7FB)]

/-- Syllables of a consonant and a vowel. -/
def lv : Property where
  names := ["lv"]
  more := (List.range 399).map fun i => (0xAC00 + 28 * i, 0xAC00 + 28 * i)

/-- Syllables of a consonant, a vowel and another consonant. -/
def lvt : Property where
  names := ["lvt"]
  more := (List.range 399).map fun i => (0xAC01 + 28 * i, 0xAC1B + 28 * i)

def all : List Property := [
  cr, lf, control, extend, zwj, regionalIndicator, prepend, spacingMark, l, v, t, lv, lvt]

end ExprLang.Property.GraphemeBreak
