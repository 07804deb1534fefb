set_option autoImplicit false

/-! Why a value cannot be taken as another type. -/

namespace ExprLang

/-- A failed conversion, with the names of the types as the message shows them. -/
inductive ValueError
  | invalidCast (source target : String)
  | overflow (target : String)
  | nullValue (expected : String)
deriving DecidableEq, Repr

def ValueError.message : ValueError → String
  | invalidCast source target => "Cannot cast " ++ source ++ " to " ++ target
  | overflow target => "Arithmetic overflow: value does not fit into " ++ target
  | nullValue expected => "Null value where " ++ expected ++ " was required"

end ExprLang
