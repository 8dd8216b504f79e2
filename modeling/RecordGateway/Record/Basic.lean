import RecordGateway.Entries
import RecordGateway.Json.Basic
import RecordGateway.Text.Utf8

/-!
# Records as Clients See Them

A record that is shown has only some of its fields. A field that was not asked
for, or that the broker did not report, is left out; a field that is there may
still hold null, as the key of a record without one does. The two are different
and stay different, so a field is a slot with three states.

Headers are a mapping from names to texts whose order shows. Keys, values and
headers that come from a client may be any text; those that come from the broker
are bytes first and so are always strings.

## Main definitions

* `Slot`: left out, null, or a value.
* `Headers`: the headers of a record.
* `Headers.encode`: headers as they are sent.
* `Headers.decode`: headers as they are shown.
* `Record`: a record as it is shown.
* `Record.members`: its fields that are there, in order.
-/

namespace RecordGateway

/-- A field that may be left out and may be null. -/
inductive Slot (α : Type) where
  /-- The field is not there. -/
  | unset
  /-- The field is there and holds null. -/
  | null
  /-- The field is there and holds a value. -/
  | value (a : α)
  deriving DecidableEq, Repr

namespace Slot

/-- The slot of a field that is there and may hold null. -/
def ofOption {α : Type} : Option α → Slot α
  | some a => .value a
  | none => .null

/-- The value of a slot, null and left out alike being none. -/
def toOption {α : Type} : Slot α → Option α
  | .value a => some a
  | _ => none

/-- The member of an object that a slot makes: none when it is left out. -/
def member {α : Type} (key : String) (encode : α → Json) : Slot α → Json.Members
  | .unset => []
  | .null => [(key, .null)]
  | .value a => [(key, encode a)]

end Slot

/-- The headers of a record: names, each once, and their texts. -/
abbrev Headers := List (LooseText × LooseText)

namespace Headers

/-- Headers as they are sent, in their order. A text without a UTF-8 form cannot
    be sent; the first one is refused. -/
def encode (headers : Headers) : Except LooseText.Unencodable (List (LooseText × Bytes)) :=
  headers.mapM fun (name, text) => text.encode.map fun bytes => (name, bytes)

/-- The text of a header value: damaged bytes replaced, nothing for null. -/
def valueText : Option Bytes → String
  | some bytes => Text.decode bytes
  | none => ""

/-- Headers as they are shown: a repeated name keeps its first place and its
    last value. -/
def decode (pairs : List (LooseText × Option Bytes)) : Headers :=
  Entries.ofPairs (pairs.map fun (name, bytes) => (name, LooseText.ofString (valueText bytes)))

/-- The JSON form of headers. -/
def toJson (headers : Headers) : Json :=
  .obj (headers.map fun (name, text) => (name, .str text))

end Headers

/-- A record as it is shown. -/
structure Record where
  /-- The id of the partition. -/
  partition : Slot Int := .unset
  /-- The place in the partition's log. -/
  offset : Slot Int := .unset
  /-- When the record was made or stored, as text. -/
  timestamp : Slot String := .unset
  /-- Which of the two the timestamp is. -/
  timestampType : Slot String := .unset
  /-- The key. -/
  key : Slot LooseText := .unset
  /-- The value. -/
  value : Slot LooseText := .unset
  /-- The headers. -/
  headers : Slot Headers := .unset
  deriving DecidableEq, Repr

namespace Record

/-- The fields of a record that are there, in order. -/
def members (r : Record) : Json.Members :=
  r.partition.member "partition" .int ++ r.offset.member "offset" .int ++
    r.timestamp.member "timestamp" .text ++ r.timestampType.member "timestampType" .text ++
    r.key.member "key" .str ++ r.value.member "value" .str ++
    r.headers.member "headers" Headers.toJson

/-- The JSON form of a record. -/
def toJson (r : Record) : Json :=
  .obj r.members

end Record

end RecordGateway
