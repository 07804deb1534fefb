import ExprLang.Error

set_option autoImplicit false

/-!
Members that can be read from values, found by the static type of the target and the member's name.
-/

namespace ExprLang

/-- A member with its type and how it is read. -/
structure Member where
  ty : Ty
  read : Value → Except Error Value

inductive MemberLookup
  | found (member : Member)
  | notFound
  | ambiguous

/-- How a language finds members. -/
abbrev MemberResolver := Ty → String → MemberLookup

/-- The fault of reading a member from a value that has none. -/
def memberFault (target : Value) (member : String) : Error :=
  if target.isNull then .evaluation (.nullTarget member)
  else .evaluation (.memberTarget member target.typeName)

/-- Members in the order in which they were entered. -/
abbrev MemberTable := List (Ty × String × Member)

namespace MemberTable

def enter (table : MemberTable) (target : Ty) (name : String) (m : Member) : MemberTable :=
  table ++ [(target, name, m)]

/-- A member that was entered twice under one name is ambiguous. -/
def resolver (table : MemberTable) : MemberResolver := fun target name =>
  match table.filter fun (t, n, _) => t = target && n = name with
  | [(_, _, m)] => .found m
  | [] => .notFound
  | _ => .ambiguous

def stringLength : Member where
  ty := .int .int32
  read
    | .string s =>
      match Integer.ofInt? .int32 s.length with
      | some n => .ok (.int32 n)
      | none => .error (.overflow "Length")
    | v => .error (memberFault v "Length")

/-- The table that a language starts with. -/
def standard : MemberTable := [(.string, "Length", stringLength)]

end MemberTable

end ExprLang
