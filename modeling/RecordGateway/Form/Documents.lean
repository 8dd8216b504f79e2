import RecordGateway.Form.Scalar

/-!
# Documents as Forms

Records, pages and problem documents are written by this library, and can be
taken back as forms. Taking a document back gives its fields again. What a
client gives may hold any texts, where the library itself writes strings only.

## Main definitions

* `RecordForm`, `RecordForm.check`, `RecordForm.members`: a record with any texts.
* `PageForm`, `PageForm.check`, `PageForm.members`: a page of any items.
* `ProblemForm`, `ProblemForm.check`, `ProblemForm.members`: a problem document.
-/

namespace RecordGateway

/-- A record with the fields that were given. -/
structure RecordForm where
  /-- The id of the partition. -/
  partition : Slot Int
  /-- The place in the partition's log. -/
  offset : Slot Int
  /-- When the record was made or stored, as text. -/
  timestamp : Slot LooseText
  /-- Which of the two the timestamp is. -/
  timestampType : Slot LooseText
  /-- The key. -/
  key : Slot LooseText
  /-- The value. -/
  value : Slot LooseText
  /-- The headers. -/
  headers : Slot Headers
  deriving DecidableEq, Repr

namespace RecordForm

/-- A record from the members of an object; other members are ignored. -/
def check (members : Json.Members) : Checked RecordForm :=
  RecordForm.mk <$> nullable "partition" Field.integer members
    <*> nullable "offset" Field.integer members
    <*> nullable "timestamp" Field.looseText members
    <*> nullable "timestampType" Field.looseText members
    <*> nullable "key" Field.looseText members
    <*> nullable "value" Field.looseText members
    <*> nullable "headers" Field.headers members

/-- The fields that were given, in order. -/
def members (r : RecordForm) : Json.Members :=
  r.partition.member "partition" .int ++ r.offset.member "offset" .int ++
    r.timestamp.member "timestamp" .str ++ r.timestampType.member "timestampType" .str ++
    r.key.member "key" .str ++ r.value.member "value" .str ++
    r.headers.member "headers" Headers.toJson

end RecordForm

/-- A page of items of any kind. -/
structure PageForm where
  /-- The items. -/
  items : List Json
  /-- The number of items there are. -/
  total : Int
  /-- The number of items on the page. -/
  size : Int
  /-- The number of the page, if one was given. -/
  page : Option Int

namespace PageForm

/-- A page from the members of an object; other members are ignored. -/
def check (members : Json.Members) : Checked PageForm :=
  PageForm.mk <$> required "items" Field.anyList members
    <*> required "total" Field.integer members
    <*> required "size" Field.integer members
    <*> optional "page" Field.integer members

/-- The fields that were given, in order. -/
def members (p : PageForm) : Json.Members :=
  ([("items", .arr p.items), ("total", .int p.total), ("size", .int p.size)] : Json.Members) ++
    Json.given "page" .int p.page

end PageForm

/-- A problem document with all its fields. -/
structure ProblemForm where
  /-- What kind of problem it is. -/
  type : LooseText
  /-- A short summary. -/
  title : LooseText
  /-- The HTTP status, from 400 to 599. -/
  status : Int
  /-- What happened this time. -/
  detail : Slot LooseText
  /-- The identifier of this occurrence, if one was given. -/
  occurrence : Option LooseText
  deriving DecidableEq, Repr

namespace ProblemForm

/-- A problem document from the members of an object; other members are
    ignored. -/
def check (members : Json.Members) : Checked ProblemForm :=
  ProblemForm.mk <$> required "type" Field.looseText members
    <*> required "title" Field.looseText members
    <*> required "status" (Field.atMost 599 (Field.atLeast 400 Field.integer)) members
    <*> nullable "detail" Field.looseText members
    <*> optional "instance" Field.looseText members

/-- The fields that were given, in order. -/
def members (p : ProblemForm) : Json.Members :=
  ([("type", .str p.type), ("title", .str p.title), ("status", .int p.status)] :
    Json.Members) ++
    p.detail.member "detail" .str ++
    Json.given "instance" .str p.occurrence

end ProblemForm

end RecordGateway
