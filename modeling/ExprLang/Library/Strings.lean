import ExprLang.Library.Package
import ExprLang.Operator.Apply
import ExprLang.Text.Blank
import ExprLang.Text.Search

set_option autoImplicit false

/-!
The package of string functions. Positions and lengths count characters; what lies outside a string
is an error, and a search that finds nothing yields -1.
-/

namespace ExprLang.Library.Strings

/-- A length as the language sees it. -/
def count (function : String) (n : Nat) : Except Error (Integer .int32) :=
  match Integer.ofInt? .int32 n with
  | some n => .ok n
  | none => .error (.overflow function)

/-- The error of a window outside a string of `len` characters. -/
def outOfRange (function : String) (len : Nat) (start length : Option (Integer .int32)) :
    WindowFault → Error :=
  let complain := fun what (n : Option (Integer .int32)) =>
    Error.function function ("The " ++ what ++ " " ++ (n.map Integer.text).getD ""
      ++ " is out of range for a string of length " ++ String.ofList (Digits.ofNat len) ++ ".")
  fun
  | .start => complain "start index" start
  | .length => complain "length" length

/-- A window as a function finds it in a string. -/
def windowOf (function : String) (len : Nat) (start length : Option (Integer .int32))
    (w : Except WindowFault Window) : Except Error Window :=
  w.mapError (outOfRange function len start length)

def substr (s : String) (start : Integer .int32) (length : Option (Integer .int32)) :
    Except Error String := do
  let w ← windowOf "substr" s.length (some start) length
    (Window.forward s.length start.val (length.map (·.val)))
  return String.ofList (w.inside s.toList)

def remove (s : String) (start : Integer .int32) (length : Option (Integer .int32)) :
    Except Error String := do
  let w ← windowOf "remove" s.length (some start) length
    (Window.forward s.length start.val (length.map (·.val)))
  return String.ofList (w.outside s.toList)

def replace (s old new : String) : Except Error String :=
  match old.toList with
  | [] => .error (.function "replace" "The string to replace must not be empty.")
  | p :: ps => .ok (String.ofList (replaceAll p ps new.toList s.toList))

structure Search where
  name : String
  backward : Bool
  ignoreCase : Bool

/-- The place of the pattern, or -1. The empty pattern stands at the start of the window, and for a
backward search at its end. Of a place that is no `int32` the low bits are left. -/
def Search.run (f : Search) (s pattern : String) (start length : Option (Integer .int32)) :
    Except Error (Integer .int32) := do
  let hay := s.toList
  let found : Option Nat ←
    if f.backward then
      if hay.isEmpty then pure (if pattern.isEmpty then some 0 else none)
      else do
        let w ← windowOf f.name hay.length start length
          (Window.backward hay.length (start.map (·.val)) (length.map (·.val)))
        pure (findLast? f.ignoreCase w pattern.toList hay)
    else do
      let w ← windowOf f.name hay.length start length
        (Window.forward hay.length ((start.map (·.val)).getD 0) (length.map (·.val)))
      pure (findFirst? f.ignoreCase w pattern.toList hay)
  match found with
  | some p => return .lowBits p
  | none => return .minusOne

/-- A search function with and without a start and a length. -/
def Search.functions (f : Search) : List (String × Handle) :=
  [(f.name, .of fun (s t : String) => f.run s t none none),
    (f.name, .of fun (s t : String) (start : Integer .int32) => f.run s t (some start) none),
    (f.name, .of fun (s t : String) (start length : Integer .int32) =>
      f.run s t (some start) (some length))]

def lesser (key : String → String) (a b : String) : String :=
  if Operator.compareText (key a) (key b) = .gt then b else a

def greater (key : String → String) (a b : String) : String :=
  if Operator.compareText (key a) (key b) = .lt then b else a

def onChars (f : List Char → List Char) (s : String) : String := String.ofList (f s.toList)

end Strings

open Strings in
def strings : Package where
  functions :=
    [("len", .of fun (s : String) => count "len" s.length),
      ("to_lower", .ofUnary lowerText), ("to_upper", .ofUnary upperText),
      ("trim", .ofUnary (onChars trim)), ("trim_start", .ofUnary (onChars trimStart)),
      ("trim_end", .ofUnary (onChars trimEnd)),
      ("substr", .of fun (s : String) (start : Integer .int32) => substr s start none),
      ("substr", .of fun (s : String) (start n : Integer .int32) => substr s start (some n)),
      ("remove", .of fun (s : String) (start : Integer .int32) => remove s start none),
      ("remove", .of fun (s : String) (start n : Integer .int32) => remove s start (some n)),
      ("replace", .of replace)]
    ++ Search.functions ⟨"find", false, false⟩ ++ Search.functions ⟨"find_i", false, true⟩
    ++ Search.functions ⟨"find_last", true, false⟩ ++ Search.functions ⟨"find_last_i", true, true⟩
    ++ [("contains", .ofBinary fun (s t : String) => occursIn t.toList s.toList),
      ("starts_with", .ofBinary fun (s t : String) => t.toList.isPrefixOf s.toList),
      ("ends_with", .ofBinary fun (s t : String) => t.toList.isSuffixOf s.toList),
      ("min", .ofBinary (lesser id)), ("max", .ofBinary (greater id)),
      ("min_i", .ofBinary (lesser lowerText)), ("max_i", .ofBinary (greater lowerText))]

end ExprLang.Library
