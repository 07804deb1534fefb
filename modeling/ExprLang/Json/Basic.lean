set_option autoImplicit false

/-! Values of the JSON format. -/

namespace ExprLang

/-- A JSON value. Members keep their order and may repeat. A string and the name of a member are
missing when an escape in them names half of a pair. A number is kept as it is written. -/
inductive Json
  | null
  | bool (b : Bool)
  | number (text : String)
  | string (s : Option String)
  | array (elements : List Json)
  | object (members : List (Option String × Json))

namespace Json

def bool? : Json → Option Bool
  | bool b => some b
  | _ => none

def string? : Json → Option String
  | string s => s
  | _ => none

end Json

end ExprLang
