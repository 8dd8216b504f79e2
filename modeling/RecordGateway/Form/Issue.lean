import RecordGateway.Json.Reader

/-!
# Issues with a Form

A form is a JSON object that a client fills in: a request, a document, the
settings. What is wrong with it is reported as a list of issues, each of which
says what is wrong, where, and what was found there.

## Main definitions

* `Complaint`: what is wrong.
* `Complaint.type`, `Complaint.message`: how it is reported.
* `Step`: a step into a form.
* `Issue`: a complaint, the path to where it arose and the input there.
-/

namespace RecordGateway

/-- What is wrong with a part of a form. -/
inductive Complaint where
  /-- A field that has to be there is missing. -/
  | missing
  /-- The input is no string. -/
  | notAString
  /-- The string is shorter than it may be. -/
  | tooShort (least : Nat)
  /-- The input is no integer and cannot be read as one. -/
  | notAnInteger
  /-- The number has a fractional part. -/
  | fractional
  /-- The string holds halves of surrogate pairs. -/
  | notUnicode
  /-- The string does not spell an integer. -/
  | misspeltInteger
  /-- The integer is larger than any that is taken in its notation. -/
  | oversized
  /-- The number is infinite or not a number. -/
  | notFinite
  /-- The number is below its bound. -/
  | below (bound : Int)
  /-- The number is above its bound. -/
  | above (bound : Int)
  /-- The input is no number and cannot be read as one. -/
  | notANumber
  /-- The string does not spell a number. -/
  | misspeltNumber
  /-- The input is no mapping. -/
  | notAMapping
  /-- The input is no set. -/
  | notASet
  /-- The input is no list. -/
  | notAList
  /-- The input names no field of a record. -/
  | notAFieldName
  /-- The input is no object. -/
  | notAnObject
  /-- The text is no JSON. -/
  | notJson (expectation : Json.Expectation)
  /-- The text is JSON, but nested too deeply to be read. -/
  | tooDeep (container : Json.Container)
  deriving DecidableEq, Repr

namespace Complaint

/-- The identifier of a complaint. -/
def type : Complaint → String
  | .missing => "missing"
  | .notAString => "string_type"
  | .tooShort _ => "string_too_short"
  | .notAnInteger => "int_type"
  | .fractional => "int_from_float"
  | .notUnicode => "string_unicode"
  | .misspeltInteger => "int_parsing"
  | .oversized => "int_parsing_size"
  | .notFinite => "finite_number"
  | .below _ => "greater_than_equal"
  | .above _ => "less_than_equal"
  | .notANumber => "float_type"
  | .misspeltNumber => "float_parsing"
  | .notAMapping => "dict_type"
  | .notASet => "set_type"
  | .notAList => "list_type"
  | .notAFieldName => "enum"
  | .notAnObject => "model_attributes_type"
  | .notJson _ => "json_invalid"
  | .tooDeep _ => "too_deep"

/-- The wording of a complaint. -/
def message : Complaint → String
  | .missing => "Field required"
  | .notAString => "Input should be a valid string"
  | .tooShort least =>
    "String should have at least " ++ toString least ++
      (if least = 1 then " character" else " characters")
  | .notAnInteger => "Input should be a valid integer"
  | .fractional => "Input should be a valid integer, got a number with a fractional part"
  | .notUnicode => "Input should be a valid string, unable to parse raw data as a unicode string"
  | .misspeltInteger => "Input should be a valid integer, unable to parse string as an integer"
  | .oversized => "Unable to parse input string as an integer, exceeded maximum size"
  | .notFinite => "Input should be a finite number"
  | .below bound => "Input should be greater than or equal to " ++ toString bound
  | .above bound => "Input should be less than or equal to " ++ toString bound
  | .notANumber => "Input should be a valid number"
  | .misspeltNumber => "Input should be a valid number, unable to parse string as a number"
  | .notAMapping => "Input should be a valid dictionary"
  | .notASet => "Input should be a valid set"
  | .notAList => "Input should be a valid list"
  | .notAFieldName =>
    "Input should be 'partition', 'offset', 'timestamp', 'timestampType', 'key', 'value' or " ++
      "'headers'"
  | .notAnObject => "Input should be a valid dictionary or object to extract fields from"
  | .notJson _ => "JSON decode error"
  | .tooDeep container => container.tooDeepMessage

/-- What a complaint adds about the rule that was broken. -/
def context : Complaint → Json.Members
  | .below bound => [("ge", .int bound)]
  | .above bound => [("le", .int bound)]
  | .notJson expectation => [("error", .text expectation.message)]
  | _ => []

end Complaint

/-- A step into a form: to a member of an object or an item of an array. -/
inductive Step where
  /-- To the member with a name. -/
  | key (name : String)
  /-- To the item at an index. -/
  | index (n : Nat)
  deriving DecidableEq, Repr

/-- The JSON form of a step. -/
def Step.toJson : Step → Json
  | .key name => .text name
  | .index n => .int n

/-- A complaint, the path to where it arose and the input there. -/
structure Issue where
  /-- What is wrong. -/
  complaint : Complaint
  /-- Where, from the outside in. -/
  path : List Step
  /-- What was found there; for a missing field, what surrounds it. -/
  input : Json
  deriving Repr

/-- An issue seen from one step further out. -/
def Issue.under (step : Step) (i : Issue) : Issue :=
  { i with path := step :: i.path }

end RecordGateway
