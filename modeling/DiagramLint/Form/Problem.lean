/-
  What can be wrong with a form.

  A form is an object whose members fill in the fields of a record.

  * `FieldProblem`: what is wrong with one field, with a tag and a text for the user;
  * `FieldError`: a problem with the path to the field and the value at fault.
-/
import DiagramLint.Diagnostic
import DiagramLint.Json.Basic

namespace DiagramLint

/-- What is wrong with a field of a form, or with a form as a whole. -/
inductive FieldProblem where
  /-- The field is required and not given. -/
  | missing
  | notBool
  | notText
  | notNumber
  /-- The value is no number and stands for none. -/
  | notInteger
  /-- The text does not write an integer. -/
  | unreadableInteger
  /-- The text or number has more digits than are read. -/
  | overlongInteger
  | fractional
  | notFinite
  /-- The number is less than the least one allowed. -/
  | belowLeast (least : Int)
  | notAKind
  | notAChange
  | notAList
  /-- The form is no object. -/
  | notAnObject
  /-- The form is no JSON. -/
  | malformed
  /-- The record is of a valid diagram and yet names an error. -/
  | validWithError
  /-- The record is of an invalid diagram and names no error. -/
  | invalidWithoutError
  deriving Repr, DecidableEq

namespace FieldProblem

/-- The tag of a problem. -/
def tag : FieldProblem → String
  | missing => "missing"
  | notBool => "bool_type"
  | notText => "string_type"
  | notNumber => "float_type"
  | notInteger => "int_type"
  | unreadableInteger => "int_parsing"
  | overlongInteger => "int_parsing_size"
  | fractional => "int_from_float"
  | notFinite => "finite_number"
  | belowLeast _ => "greater_than_equal"
  | notAKind => "enum"
  | notAChange => "literal_error"
  | notAList => "list_type"
  | notAnObject => "model_attributes_type"
  | malformed => "json_invalid"
  | validWithError | invalidWithoutError => "value_error"

/-- Words in single quotes, the last one behind `or`. -/
def orList : List String → String
  | [] => ""
  | [w] => "'" ++ w ++ "'"
  | [w, v] => "'" ++ w ++ "' or '" ++ v ++ "'"
  | w :: ws => "'" ++ w ++ "', " ++ orList ws

/-- The text for the user. -/
def message : FieldProblem → String
  | missing => "Field required"
  | notBool => "Input should be a valid boolean"
  | notText => "Input should be a valid string"
  | notNumber => "Input should be a valid number"
  | notInteger => "Input should be a valid integer"
  | unreadableInteger => "Input should be a valid integer, unable to parse string as an integer"
  | overlongInteger => "Unable to parse input string as an integer, exceeded maximum size"
  | fractional => "Input should be a valid integer, got a number with a fractional part"
  | notFinite => "Input should be a finite number"
  | belowLeast least => "Input should be greater than or equal to " ++ toString least
  | notAKind => "Input should be " ++ orList (ErrorKind.all.map (·.name))
  | notAChange => "Input should be " ++ orList (ChangeType.all.map (·.name))
  | notAList => "Input should be a valid list"
  | notAnObject => "Input should be a valid dictionary or object to extract fields from"
  | malformed => "JSON decode error"
  | validWithError => "Value error, a valid diagnostic cannot carry error fields"
  | invalidWithoutError => "Value error, an invalid diagnostic needs an error message"

end FieldProblem

/-- A problem and where it is. -/
structure FieldError where
  /-- The names that lead to the field. -/
  path : List String
  problem : FieldProblem
  /-- The value at fault, which a report shows. -/
  value : Json := .null
  deriving Repr, DecidableEq

/-- The same problem further down. -/
def FieldError.under (name : String) (e : FieldError) : FieldError := { e with path := name :: e.path }

end DiagramLint
