import RecordGateway.Http.Message
import RecordGateway.Json.Encoding
import RecordGateway.Request.Write
import RecordGateway.Text.Blank
import RecordGateway.Text.Split

/-!
# Bodies of a Write

A write request comes as the body of an HTTP request. A body is read as JSON if
its type says so: `application/json`, or `application/` and a name that ends in
`+json`, in any case, whatever parameters follow. Any other body is taken as
plain text, which is no request.

A body that is no text in its encoding, or that holds an integer too long or
nesting too deep to be read, cannot be read at all. A body that is text but no
JSON is an issue like any other.

## Main definitions

* `Payload.isJson`: whether a type says JSON.
* `Payload.value`: the value of a body.
* `Payload.writeRequest`: the write request in a body.
-/

namespace RecordGateway

namespace Http

namespace Payload

/-- ASCII letters in lower case. -/
def lower (s : String) : String :=
  s.map Char.toLower

/-- The type that a header names, in lower case and without parameters. -/
def mediaType (header : String) : String :=
  let bare := match Text.splitFirst ';' header.toList with
    | some (type, _) => String.ofList type
    | none => header
  lower (Text.trim bare)

/-- Whether a type says JSON. -/
def isJson (header : String) : Bool :=
  match Text.pieces '/' (mediaType header) with
  | ["application", name] => name = "json" || "+json".toList.isSuffixOf name.toList
  | _ => false

/-- Why a body has no value. -/
inductive Unreadable where
  /-- The body cannot be read as JSON text. -/
  | undecodable
  /-- The body cannot be read as plain text. -/
  | illFormed (error : Text.IllFormed)
  /-- The body is no JSON. -/
  | notJson (error : Json.ReadError)

/-- The value of a body that is not empty: JSON, or a plain text as a string. -/
def value (header : Option String) (body : Bytes) : Except Unreadable Json :=
  if header.any isJson then
    match Json.decodeBytes? body with
    | none => .error .undecodable
    | some text =>
      match Json.readUnmarked text with
      | .ok v => .ok v
      | .error e =>
        match e.expectation with
        | .shorterInteger _ | .lessNesting _ => .error .undecodable
        | _ => .error (.notJson e)
  else
    match Text.decodeStrict body with
    | .ok s => .ok (.text s)
    | .error e => .error (.illFormed e)

/-- The write request that a value is. -/
def ofValue : Json → Checked WriteRequest
  | .obj members => WriteRequest.check members
  | v => Checked.complain .notAnObject v

/-- The issue of a body that is no JSON. -/
def brokenJson (e : Json.ReadError) : Issue :=
  ⟨.notJson e.expectation, [.key "body", .index e.position], .obj []⟩

/-- The problem of a body that is no text. -/
def illFormedProblem (e : Text.IllFormed) : Problem :=
  { title := Failure.titleOf 400, status := 400, detail := some e.message }

/-- The write request in the body of a request, or the response that refuses
    it. -/
def writeRequest (r : Request) : Except Response WriteRequest :=
  let refused := fun (c : Checked WriteRequest) =>
    (c.under (.key "body")).toExcept.mapError Response.issues
  if r.body.isEmpty then refused (Checked.complain .missing .null)
  else
    match value (r.header? "content-type") r.body with
    | .ok v => refused (ofValue v)
    | .error .undecodable => .error (Response.refusal 400 "There was an error parsing the body")
    | .error (.illFormed e) => .error (Response.ofProblem (illFormedProblem e))
    | .error (.notJson e) => .error (Response.issues [brokenJson e])

end Payload

end Http

end RecordGateway
