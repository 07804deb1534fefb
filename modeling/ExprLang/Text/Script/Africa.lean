set_option autoImplicit false

/-! The ranges of scripts of Africa. -/

namespace ExprLang.Script

def adlam : List (Nat × Nat) := [
  (0x1E900, 0x1E94B), (0x1E950, 0x1E959), (0x1E95E, 0x1E95F)]

def bamum : List (Nat × Nat) := [
  (0xA6A0, 0xA6F7), (0x16800, 0x16A38)]

def bassaVah : List (Nat × Nat) := [
  (0x16AD0, 0x16AED), (0x16AF0, 0x16AF5)]

def egyptianHieroglyphs : List (Nat × Nat) := [
  (0x13000, 0x13455), (0x13460, 0x143FA)]

def ethiopic : List (Nat × Nat) := [
  (0x1200, 0x1248), (0x124A, 0x124D), (0x1250, 0x1256), (0x1258, 0x1258), (0x125A, 0x125D),
  (0x1260, 0x1288), (0x128A, 0x128D), (0x1290, 0x12B0), (0x12B2, 0x12B5), (0x12B8, 0x12BE),
  (0x12C0, 0x12C0), (0x12C2, 0x12C5), (0x12C8, 0x12D6), (0x12D8, 0x1310), (0x1312, 0x1315),
  (0x1318, 0x135A), (0x135D, 0x137C), (0x1380, 0x1399), (0x2D80, 0x2D96), (0x2DA0, 0x2DA6),
  (0x2DA8, 0x2DAE), (0x2DB0, 0x2DB6), (0x2DB8, 0x2DBE), (0x2DC0, 0x2DC6), (0x2DC8, 0x2DCE),
  (0x2DD0, 0x2DD6), (0x2DD8, 0x2DDE), (0xAB01, 0xAB06), (0xAB09, 0xAB0E), (0xAB11, 0xAB16),
  (0xAB20, 0xAB26), (0xAB28, 0xAB2E), (0x1E7E0, 0x1E7E6), (0x1E7E8, 0x1E7EB), (0x1E7ED, 0x1E7EE),
  (0x1E7F0, 0x1E7FE)]

def garay : List (Nat × Nat) := [
  (0x10D40, 0x10D65), (0x10D69, 0x10D85), (0x10D8E, 0x10D8F)]

def medefaidrin : List (Nat × Nat) := [
  (0x16E40, 0x16E9A)]

def mendeKikakui : List (Nat × Nat) := [
  (0x1E800, 0x1E8C4), (0x1E8C7, 0x1E8D6)]

def meroiticCursive : List (Nat × Nat) := [
  (0x109A0, 0x109B7), (0x109BC, 0x109CF), (0x109D2, 0x109FF)]

def meroiticHieroglyphs : List (Nat × Nat) := [
  (0x10980, 0x1099F)]

def nko : List (Nat × Nat) := [
  (0x7C0, 0x7FA), (0x7FD, 0x7FF)]

def osmanya : List (Nat × Nat) := [
  (0x10480, 0x1049D), (0x104A0, 0x104A9)]

def tifinagh : List (Nat × Nat) := [
  (0x2D30, 0x2D67), (0x2D6F, 0x2D70), (0x2D7F, 0x2D7F)]

def vai : List (Nat × Nat) := [
  (0xA500, 0xA62B)]

end ExprLang.Script
