set_option autoImplicit false

/-! The ranges of scripts of America. -/

namespace ExprLang.Script

def canadianAboriginal : List (Nat × Nat) := [
  (0x1400, 0x167F), (0x18B0, 0x18F5), (0x11AB0, 0x11ABF)]

def cherokee : List (Nat × Nat) := [
  (0x13A0, 0x13F5), (0x13F8, 0x13FD), (0xAB70, 0xABBF)]

def deseret : List (Nat × Nat) := [
  (0x10400, 0x1044F)]

def osage : List (Nat × Nat) := [
  (0x104B0, 0x104D3), (0x104D8, 0x104FB)]

end ExprLang.Script
