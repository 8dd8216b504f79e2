import RecordGateway.Entries
import RecordGateway.Form.Issue
import RecordGateway.Json.Writer
import RecordGateway.Problem
import RecordGateway.Text.Utf8

/-!
# Requests and Responses

What the service takes and what it answers. A response has a status, some
headers, and a body that is JSON or text. An unexpected failure is answered too,
but the response remembers it, because whoever runs the service is told of it
after the caller was.

## Main definitions

* `Http.Request`: a request.
* `Http.Request.header?`: the value of a header.
* `Http.Response`: a response.
* `Http.Response.json`, `Http.Response.problem`, `Http.Response.issues`: the
  kinds of response with a JSON body.
-/

namespace RecordGateway

namespace Http

/-- A request. -/
structure Request where
  /-- The method, compared exactly. -/
  method : String
  /-- The host that the caller named. -/
  host : String
  /-- The path, escapes already read. -/
  path : String
  /-- What follows the question mark, as it came. -/
  query : String
  /-- The headers, in order. -/
  headers : List (String × String)
  /-- The body, empty when there is none. -/
  body : Bytes
  deriving DecidableEq, Repr

/-- The value of a header; the first one counts. Names are compared exactly, and
    a name with capitals is not one that the service knows. -/
def Request.header? (r : Request) (name : String) : Option String :=
  Entries.get? name r.headers

/-- What a response carries. -/
inductive Content where
  /-- JSON. -/
  | json (value : Json)
  /-- Text. -/
  | text (s : String)

/-- A response. -/
structure Response where
  /-- The status. -/
  status : Nat
  /-- The headers. -/
  headers : List (String × String)
  /-- The body. -/
  content : Content
  /-- The failure behind the response, if nobody expected it. -/
  unexpected : Option Failure := none

namespace Response

/-- A response with a problem document. -/
def ofProblem (p : Problem) : Response :=
  ⟨p.status, [("content-type", "application/problem+json")], .json p.toJson, none⟩

/-- The response to a failure. One that nobody expected is remembered. -/
def problem (f : Failure) : Response :=
  { ofProblem (Problem.of f) with
    unexpected := if f.standing = .unexpected then some f else none }

/-- Why a value cannot be sent: it holds a number that JSON cannot write, or its
    text has no UTF-8 form. -/
def unsendable? (value : Json) : Option String :=
  if value.hasNonFinite then some "Out of range float values are not JSON compliant"
  else value.write.unencodable?.map LooseText.Unencodable.message

/-- The problem of a response that cannot be sent. -/
def unsendableProblem (reason : String) : Problem :=
  { title := Failure.titleOf 400, status := 400, detail := some reason }

/-- A response with a JSON body and no header but its type; a problem if the
    body cannot be sent. -/
def json (status : Nat) (value : Json) : Response :=
  match unsendable? value with
  | some reason => ofProblem (unsendableProblem reason)
  | none => ⟨status, [("content-type", "application/json")], .json value, none⟩

/-- A response with text. -/
def text (status : Nat) (s : String) : Response :=
  ⟨status, [("content-type", "text/plain; charset=utf-8")], .text s, none⟩

/-- A response that says why a request is not served at all. -/
def refusal (status : Nat) (detail : String) : Response :=
  json status (.obj [("detail", .text detail)])

/-- The response with more headers after its own. -/
def withHeaders (r : Response) (headers : List (String × String)) : Response :=
  { r with headers := r.headers ++ headers }

/-- Whether a member of an input is kept from callers: its name begins as the
    names of internal state do. -/
def isInternal (name : LooseText) : Bool :=
  (LooseText.ofString "_sa").letters.isPrefixOf name.letters

/-- What an issue adds about the rule that was broken, as a member. -/
def contextMember (c : Complaint) : Json.Members :=
  match c.context with
  | [] => []
  | members => [("ctx", .obj members)]

/-- An issue as a caller is told of it. -/
def issue (i : Issue) : Json :=
  let shown : Json.Members :=
    [("type", .text i.complaint.type), ("loc", .arr (i.path.map Step.toJson)),
     ("msg", .text i.complaint.message), ("input", i.input.prune isInternal)]
  .obj (shown ++ contextMember i.complaint)

/-- The response to a request whose form has issues. -/
def issues (is : List Issue) : Response :=
  json 422 (.obj [("detail", .arr (is.map issue))])

end Response

end Http

end RecordGateway
