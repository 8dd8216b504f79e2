import RecordGateway.Failure

/-!
# Names of Record Fields

A record has seven fields, and a reader may ask for some of them by name. The
order below is that in which the fields of a record are shown.

## Main definitions

* `FieldName`: the seven fields.
* `FieldName.name`: how a field is written.
* `FieldName.parse`: the field that a name writes.

## Theorems

* `FieldName.ofName?_name`: reading the name of a field gives the field.
-/

namespace RecordGateway

/-- A field of a record. -/
inductive FieldName where
  /-- The id of the partition. -/
  | partition
  /-- The place in the partition's log. -/
  | offset
  /-- When the record was made or stored. -/
  | timestamp
  /-- Which of the two the timestamp is. -/
  | timestampType
  /-- The key. -/
  | key
  /-- The value. -/
  | value
  /-- The headers. -/
  | headers
  deriving DecidableEq, Repr

namespace FieldName

/-- How a field is written. -/
def name : FieldName → String
  | .partition => "partition"
  | .offset => "offset"
  | .timestamp => "timestamp"
  | .timestampType => "timestampType"
  | .key => "key"
  | .value => "value"
  | .headers => "headers"

/-- The fields in the order in which they are shown. -/
def all : List FieldName :=
  [.partition, .offset, .timestamp, .timestampType, .key, .value, .headers]

/-- The field with a name. -/
def ofName? (name : String) : Option FieldName :=
  all.find? (·.name = name)

/-- The field that a name writes; names are compared exactly. -/
def parse (name : String) : Except Failure FieldName :=
  match ofName? name with
  | some f => .ok f
  | none => .error (.unknownField name)

/-- Reading the name of a field gives the field. -/
theorem ofName?_name (f : FieldName) : ofName? f.name = some f := by
  cases f <;> decide

end FieldName

end RecordGateway
