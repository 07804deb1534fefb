import ExprLang.Json.Text
import ExprLang.Options.Basic

set_option autoImplicit false

/-!
The JSON form of options: an object with any of the fields, or an array of the first of them in
order. What is missing keeps its default, and members that are no fields are passed over.
-/

namespace ExprLang

/-- Reads a quote: its name, or an object with the name as its only member and `null` under it. -/
def Quote.ofJson? (j : Json) : Option Quote :=
  let name :=
    match j with
    | .object [(name, .null)] => name
    | j => j.string?
  match name with
  | some "double" => some .double
  | some "single" => some .single
  | some "backtick" => some .backtick
  | _ => none

def Quote.name : Quote → String
  | double => "double"
  | single => "single"
  | backtick => "backtick"

namespace Options

def fieldNames : List String :=
  ["member_read", "ignore_operator_case", "ignore_boolean_literal_case",
    "ignore_null_literal_case", "ignore_null_test_case", "ignore_conditional_case",
    "ignore_variable_name_case", "ignore_parameter_name_case", "ignore_function_name_case",
    "quote_style", "operator_and_name", "operator_or_name", "operator_xor_name",
    "literal_true_name", "literal_false_name", "literal_null_name", "conditional_name",
    "null_test_name"]

/-- Replaces one field by a value of its type. -/
def setField? (o : Options) (name : String) (j : Json) : Option Options :=
  match name with
  | "member_read" => j.bool?.map fun b => { o with memberRead := b }
  | "ignore_operator_case" => j.bool?.map fun b => { o with ignoreOperatorCase := b }
  | "ignore_boolean_literal_case" => j.bool?.map fun b => { o with ignoreBooleanCase := b }
  | "ignore_null_literal_case" => j.bool?.map fun b => { o with ignoreNullCase := b }
  | "ignore_null_test_case" => j.bool?.map fun b => { o with ignoreNullTestCase := b }
  | "ignore_conditional_case" => j.bool?.map fun b => { o with ignoreConditionalCase := b }
  | "ignore_variable_name_case" => j.bool?.map fun b => { o with ignoreVariableCase := b }
  | "ignore_parameter_name_case" => j.bool?.map fun b => { o with ignoreParameterCase := b }
  | "ignore_function_name_case" => j.bool?.map fun b => { o with ignoreFunctionCase := b }
  | "quote_style" => (Quote.ofJson? j).map fun q => { o with quote := q }
  | "operator_and_name" => j.string?.map fun s => { o with andWord := s }
  | "operator_or_name" => j.string?.map fun s => { o with orWord := s }
  | "operator_xor_name" => j.string?.map fun s => { o with xorWord := s }
  | "literal_true_name" => j.string?.map fun s => { o with trueWord := s }
  | "literal_false_name" => j.string?.map fun s => { o with falseWord := s }
  | "literal_null_name" => j.string?.map fun s => { o with nullWord := s }
  | "conditional_name" => j.string?.map fun s => { o with conditionalWord := s }
  | "null_test_name" => j.string?.map fun s => { o with nullTestWord := s }
  | _ => none

/-- Replaces the fields that `members` names, none of which may be named twice. -/
def ofMembers? (seen : List String) (o : Options) : List (Option String × Json) → Option Options
  | [] => some o
  | (none, _) :: _ => none
  | (some name, j) :: members =>
    if name ∈ fieldNames then
      if name ∈ seen then none
      else (o.setField? name j).bind fun o => ofMembers? (name :: seen) o members
    else ofMembers? seen o members

/-- Replaces as many of the fields `names` as there are elements, which must not be more. -/
def ofElements? (o : Options) : List String → List Json → Option Options
  | _, [] => some o
  | [], _ :: _ => none
  | name :: names, j :: js => (o.setField? name j).bind fun o => ofElements? o names js

def ofJson? : Json → Option Options
  | .object members => ofMembers? [] {} members
  | .array elements => ofElements? {} fieldNames elements
  | _ => none

def fields (o : Options) : List (String × Json) :=
  let text := fun s => Json.string (some s)
  [("member_read", .bool o.memberRead), ("ignore_operator_case", .bool o.ignoreOperatorCase),
    ("ignore_boolean_literal_case", .bool o.ignoreBooleanCase),
    ("ignore_null_literal_case", .bool o.ignoreNullCase),
    ("ignore_null_test_case", .bool o.ignoreNullTestCase),
    ("ignore_conditional_case", .bool o.ignoreConditionalCase),
    ("ignore_variable_name_case", .bool o.ignoreVariableCase),
    ("ignore_parameter_name_case", .bool o.ignoreParameterCase),
    ("ignore_function_name_case", .bool o.ignoreFunctionCase),
    ("quote_style", text o.quote.name), ("operator_and_name", text o.andWord),
    ("operator_or_name", text o.orWord), ("operator_xor_name", text o.xorWord),
    ("literal_true_name", text o.trueWord), ("literal_false_name", text o.falseWord),
    ("literal_null_name", text o.nullWord), ("conditional_name", text o.conditionalWord),
    ("null_test_name", text o.nullTestWord)]

def toJson (o : Options) : Json := .object (o.fields.map fun (name, j) => (some name, j))

def read? (text : String) : Option Options := (Json.parse? text.toList).bind ofJson?

end Options

end ExprLang
